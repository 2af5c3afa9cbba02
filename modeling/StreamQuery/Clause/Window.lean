import StreamQuery.Report

/-!
# The window of a query

Lengths of a window lie between a second and thirty days. A session has a gap and nothing else.
-/

namespace StreamQuery

namespace WindowSpec

def tumblingOf (size : Duration) : WindowSpec :=
  { kind := some .tumbling, size := some size }

end WindowSpec

namespace WindowClause

/-- The window that an argument of a window stage describes: a list of settings, or the size of a
tumbling window. -/
def spec : Expr → Except Failure WindowSpec
  | .lambda _ body => spec body
  | .constant (.window window) => .ok (.ofWindow window)
  | .constant (.duration size) => .ok (.tumblingOf size)
  | .staticCall name [receiver, argument] _ =>
    if name = "Window" then
      if receiver.any (·.methodName? = some "Window") then .error (.violation .nestedWindow)
      else spec argument
    else .error (.unsupported (.node "WINDOW" .methodCall))
  | other => .error (.unsupported (.node "WINDOW" other.kind))

def checkSpan (span : WindowSpan) (value : Duration) : Except Failure Unit :=
  if value ≤ .zero then .error (.violation (.spanNotPositive span))
  else if Duration.ofDays 30 < value then .error (.violation (.spanTooLong span))
  else if value < Duration.ofSeconds 1 then .error (.violation (.spanTooShort span))
  else .ok ()

def checkAllowance (allowance : WindowAllowance) (value : Option Duration) : Except Failure Unit :=
  if value.any (· < .zero) then .error (.violation (.negativeAllowance allowance)) else .ok ()

/-- Checks the size and the advance of a tumbling or hopping window. -/
def checkSized (kind : WindowKind) (spec : WindowSpec) : Report Unit :=
  match spec.size with
  | none => throw (.violation (.windowWithoutSize kind))
  | some size => do
    checkSpan .size size
    match spec.advanceBy with
    | none => pure ()
    | some advance => do
      checkSpan .advance advance
      if kind = .hopping ∧ size < advance then Report.notify .advanceAboveSize

/-- Checks the gap of a session. -/
def checkSession (spec : WindowSpec) : Report Unit :=
  match spec.gap with
  | none => throw (.violation .sessionWithoutGap)
  | some gap => do
    checkSpan .gap gap
    if Duration.ofSeconds 86400 < gap then Report.notify (.longSessionGap gap)
    if spec.retention.isSome || spec.gracePeriod.isSome || spec.emitFinal then
      Report.notify .sessionOptionsIgnored

def validate (spec : WindowSpec) : Report WindowKind :=
  match spec.kind with
  | none => throw (.violation .windowWithoutKind)
  | some kind => do
    match kind with
    | .session => checkSession spec
    | sized => checkSized sized spec
    checkAllowance .retention spec.retention
    checkAllowance .gracePeriod spec.gracePeriod
    return kind

def optionText (keyword : String) (value : Option Duration) : List String :=
  value.toList.map fun value => keyword ++ " " ++ value.text

def emitFinalSuffix : String := " EMIT FINAL"

def sizedText (kind : WindowKind) (spec : WindowSpec) : String :=
  let options :=
    optionText "SIZE" spec.size ++
      (if kind = .hopping then optionText "ADVANCE BY" spec.advanceBy else []) ++
      optionText "RETENTION" spec.retention ++ optionText "GRACE PERIOD" spec.gracePeriod
  kind.keyword ++ " (" ++ String.intercalate ", " options ++ ")" ++
    (if spec.emitFinal then emitFinalSuffix else "")

def render (kind : WindowKind) (spec : WindowSpec) : String :=
  match kind with
  | .session => "SESSION (GAP " ++ (spec.gap.map (·.text)).getD "" ++ ")"
  | sized => sizedText sized spec

def build (argument : Expr) : Report String := do
  let spec ← spec argument
  let kind ← validate spec
  return render kind spec

end WindowClause

end StreamQuery
