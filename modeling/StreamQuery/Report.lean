import StreamQuery.Failure

/-!
# Reports

A result together with the notices that were given on the way to it. Notices given before a failure
are kept.
-/

namespace StreamQuery

inductive Notice where
  | advanceAboveSize
  | longSessionGap (gap : Duration)
  | sessionOptionsIgnored
  | orderNotGuaranteed
  | outsideScope (operation : String)
deriving DecidableEq

namespace Notice

/-- The wording of a notice, after its level. -/
def text : Notice → String
  | .advanceAboveSize => "WARN AdvanceBy greater than Size may cause gaps in data coverage"
  | .longSessionGap gap =>
    "WARN Session gap of " ++ gap.text ++
      " exceeds 24 hours; sessions may stay open for a long time"
  | .sessionOptionsIgnored =>
    "WARN SESSION windows do not support RETENTION, GRACE PERIOD, or EMIT FINAL options"
  | .orderNotGuaranteed =>
    "INFO ORDER BY in KSQL is limited to Pull Queries and specific scenarios. " ++
      "Push Queries (streaming) do not guarantee order due to distributed processing."
  | .outsideScope operation =>
    "WARN '" ++ operation ++ "' invoked outside a model creation scope"

end Notice

structure Report (α : Type) where
  notices : List Notice
  result : Except Failure α

namespace Report

variable {α β : Type}

def ofExcept (result : Except Failure α) : Report α :=
  ⟨[], result⟩

def notify (notice : Notice) : Report Unit :=
  ⟨[notice], .ok ()⟩

def bind (report : Report α) (next : α → Report β) : Report β :=
  match report.result with
  | .ok value => ⟨report.notices ++ (next value).notices, (next value).result⟩
  | .error failure => ⟨report.notices, .error failure⟩

instance : Monad Report where
  pure value := ofExcept (.ok value)
  bind := bind

instance : MonadExceptOf Failure Report where
  throw failure := ofExcept (.error failure)
  tryCatch report handler :=
    match report.result with
    | .ok value => ⟨report.notices, .ok value⟩
    | .error failure =>
      ⟨report.notices ++ (handler failure).notices, (handler failure).result⟩

instance : MonadLift (Except Failure) Report where
  monadLift := ofExcept

/-- The report with its failure, if any, changed by `f`. -/
def mapFailure (f : Failure → Failure) (report : Report α) : Report α :=
  ⟨report.notices, report.result.mapError f⟩

@[simp]
theorem result_pure (value : α) : (pure value : Report α).result = .ok value := rfl

@[simp]
theorem result_bind (report : Report α) (next : α → Report β) :
    (report >>= next).result = report.result >>= fun value => (next value).result := by
  show (bind report next).result = _
  unfold bind
  cases report.result <;> rfl

@[simp]
theorem result_ofExcept (result : Except Failure α) : (ofExcept result).result = result := rfl

@[simp]
theorem result_mapFailure (f : Failure → Failure) (report : Report α) :
    (report.mapFailure f).result = report.result.mapError f := rfl

end Report

end StreamQuery
