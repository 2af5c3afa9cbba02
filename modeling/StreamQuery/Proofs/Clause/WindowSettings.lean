import StreamQuery.Clause.Window
import StreamQuery.Proofs.Expr.MapLeaves

/-!
# The settings of a window

A setting writes one slot of a window and leaves the others as they are, so that each slot holds what
was last written to it. Windows with the same last settings give the same clause. In particular
settings of different slots can change places, and a setting can be left out if a later one writes
the same slot.
-/

namespace StreamQuery

inductive WindowSlot where
  | kind
  | size
  | advanceBy
  | gap
  | retention
  | gracePeriod
  | emitFinal
deriving DecidableEq

/-- The slot that a setting writes. -/
def WindowSetting.slot : WindowSetting → WindowSlot
  | .kind _ => .kind
  | .size _ => .size
  | .advanceBy _ => .advanceBy
  | .gap _ => .gap
  | .retention _ => .retention
  | .gracePeriod _ => .gracePeriod
  | .emitFinal => .emitFinal

namespace Window

/-- The last setting that writes a slot. -/
def lastWrite (window : Window) (slot : WindowSlot) : Option WindowSetting :=
  (window.filter (·.slot = slot)).getLast?

theorem lastWrite_cons (setting : WindowSetting) (window : Window) (slot : WindowSlot) :
    lastWrite (setting :: window) slot =
      (window.lastWrite slot).or (if setting.slot = slot then some setting else none) := by
  unfold lastWrite
  by_cases hslot : setting.slot = slot
  · rw [List.filter_cons_of_pos (by simpa using hslot), if_pos hslot, List.getLast?_cons]
    cases (window.filter (·.slot = slot)).getLast? <;> rfl
  · rw [List.filter_cons_of_neg (by simpa using hslot), if_neg hslot, Option.or_none]

theorem lastWrite_append (before after : Window) (slot : WindowSlot) :
    lastWrite (before ++ after) slot = (after.lastWrite slot).or (before.lastWrite slot) := by
  rw [lastWrite, List.filter_append, List.getLast?_append]
  rfl

theorem isSome_lastWrite_iff {window : Window} {slot : WindowSlot} :
    (window.lastWrite slot).isSome ↔ ∃ setting ∈ window, setting.slot = slot := by
  rw [lastWrite, Option.isSome_iff_ne_none, Ne, List.getLast?_eq_none_iff, List.filter_eq_nil_iff]
  simp

/-- Settings of different slots can change places. -/
theorem lastWrite_swap {first second : WindowSetting} (hslots : first.slot ≠ second.slot)
    (before after : Window) (slot : WindowSlot) :
    lastWrite (before ++ first :: second :: after) slot =
      lastWrite (before ++ second :: first :: after) slot := by
  rw [lastWrite_append, lastWrite_append]
  congr 1
  by_cases hfirst : first.slot = slot
  · have hsecond : second.slot ≠ slot := fun h => hslots (hfirst.trans h.symm)
    simp [lastWrite_cons, hfirst, hsecond]
  · simp [lastWrite_cons, hfirst]

/-- What is written again later does not count. -/
theorem lastWrite_erase {overwritten later : WindowSetting} (hslots : later.slot = overwritten.slot)
    {after : Window} (hlater : later ∈ after) (before : Window) (slot : WindowSlot) :
    lastWrite (before ++ overwritten :: after) slot = lastWrite (before ++ after) slot := by
  rw [lastWrite_append, lastWrite_append, lastWrite_cons]
  congr 1
  by_cases hslot : overwritten.slot = slot
  · obtain ⟨last, hlast⟩ := Option.isSome_iff_exists.mp
      (isSome_lastWrite_iff.mpr ⟨later, hlater, hslots.trans hslot⟩)
    rw [hlast, Option.some_or]
  · rw [if_neg hslot, Option.or_none]

end Window

namespace WindowSpec

/-- The setting that a slot holds, if it is set. -/
def setting? (spec : WindowSpec) : WindowSlot → Option WindowSetting
  | .kind => spec.kind.map .kind
  | .size => spec.size.map .size
  | .advanceBy => spec.advanceBy.map .advanceBy
  | .gap => spec.gap.map .gap
  | .retention => spec.retention.map .retention
  | .gracePeriod => spec.gracePeriod.map .gracePeriod
  | .emitFinal => if spec.emitFinal then some .emitFinal else none

/-- A setting writes its slot and no other. -/
theorem setting?_apply (spec : WindowSpec) (setting : WindowSetting) (slot : WindowSlot) :
    (spec.apply setting).setting? slot =
      if setting.slot = slot then some setting else spec.setting? slot := by
  cases setting <;> cases slot <;> rfl

theorem setting?_foldl_apply (spec : WindowSpec) (window : Window) (slot : WindowSlot) :
    (window.foldl apply spec).setting? slot = (window.lastWrite slot).or (spec.setting? slot) := by
  induction window generalizing spec with
  | nil => rfl
  | cons setting rest ih =>
      rw [List.foldl_cons, ih, setting?_apply, Window.lastWrite_cons, Option.or_assoc]
      congr 1
      split <;> rfl

theorem setting?_ofWindow (window : Window) (slot : WindowSlot) :
    (ofWindow window).setting? slot = window.lastWrite slot := by
  have hempty : setting? {} slot = none := by cases slot <;> rfl
  rw [ofWindow, setting?_foldl_apply, hempty, Option.or_none]

theorem isSome_setting?_emitFinal (spec : WindowSpec) :
    (spec.setting? .emitFinal).isSome = spec.emitFinal := by
  unfold setting?
  cases spec.emitFinal <;> rfl

/-- A window is what its slots hold. -/
theorem eq_of_setting?_eq {spec spec' : WindowSpec}
    (h : ∀ slot, spec.setting? slot = spec'.setting? slot) : spec = spec' := by
  have hkind : spec.kind = spec'.kind :=
    Option.map_injective (fun _ _ => WindowSetting.kind.inj) (h .kind)
  have hsize : spec.size = spec'.size :=
    Option.map_injective (fun _ _ => WindowSetting.size.inj) (h .size)
  have hadvance : spec.advanceBy = spec'.advanceBy :=
    Option.map_injective (fun _ _ => WindowSetting.advanceBy.inj) (h .advanceBy)
  have hgap : spec.gap = spec'.gap :=
    Option.map_injective (fun _ _ => WindowSetting.gap.inj) (h .gap)
  have hretention : spec.retention = spec'.retention :=
    Option.map_injective (fun _ _ => WindowSetting.retention.inj) (h .retention)
  have hgrace : spec.gracePeriod = spec'.gracePeriod :=
    Option.map_injective (fun _ _ => WindowSetting.gracePeriod.inj) (h .gracePeriod)
  have hfinal : spec.emitFinal = spec'.emitFinal := by
    rw [← isSome_setting?_emitFinal, h, isSome_setting?_emitFinal]
  cases spec
  cases spec'
  rw [WindowSpec.mk.injEq]
  exact ⟨hkind, hsize, hadvance, hgap, hretention, hgrace, hfinal⟩

theorem emitFinal_ofWindow_iff {window : Window} :
    (ofWindow window).emitFinal ↔ .emitFinal ∈ window := by
  rw [← isSome_setting?_emitFinal, setting?_ofWindow, Window.isSome_lastWrite_iff]
  constructor
  · rintro ⟨setting, hmem, hslot⟩
    cases setting with
    | emitFinal => exact hmem
    | _ => cases hslot
  · exact fun hmem => ⟨.emitFinal, hmem, rfl⟩

theorem ofWindow_eq_of_lastWrite_eq {window window' : Window}
    (h : ∀ slot, window.lastWrite slot = window'.lastWrite slot) :
    ofWindow window = ofWindow window' := by
  apply eq_of_setting?_eq
  intro slot
  rw [setting?_ofWindow, setting?_ofWindow, h]

end WindowSpec

/-- The expression with one window in place of another. -/
def Expr.replaceWindow (old new : Window) (e : Expr) : Expr :=
  e.mapLeaves (fun value => if value = .window old then .window new else value) id

namespace WindowClause

open StreamQuery.Expr

/-- A window is described by its constant, whatever else is changed at the leaves. -/
theorem spec_mapLeaves {constant : Constant → Constant} (parameter : String → String)
    (hconstant : ∀ value, spec (.constant (constant value)) = spec (.constant value)) (e : Expr) :
    spec (e.mapLeaves constant parameter) = spec e := by
  induction e with
  | lambda params body ih => exact ih
  | constant value => exact hconstant value
  | staticCall name args type ih =>
      rcases args with _ | ⟨receiver, _ | ⟨argument, _ | ⟨_, _⟩⟩⟩
      · rfl
      · rfl
      · have hnested : (receiver.mapLeaves constant parameter).any
            (·.methodName? = some "Window") = receiver.any (·.methodName? = some "Window") := by
          refine any_mapLeaves constant parameter ?_ receiver
          intro node
          rw [methodName?_mapLeaves]
        rw [mapLeaves, mapArgs, mapArgs, mapArgs, spec, spec, hnested,
          ih argument (List.mem_cons_of_mem _ List.mem_cons_self)]
      · rfl
  | _ => rfl

/-- Windows with the same last settings give the same clause, wherever they stand. -/
theorem build_replaceWindow {old new : Window}
    (h : ∀ slot, old.lastWrite slot = new.lastWrite slot) (argument : Expr) :
    build (argument.replaceWindow old new) = build argument := by
  have hspec : spec (argument.replaceWindow old new) = spec argument := by
    refine spec_mapLeaves id (fun value => ?_) argument
    split
    · next hvalue =>
        rw [hvalue, spec, spec, WindowSpec.ofWindow_eq_of_lastWrite_eq h]
    · rfl
  rw [build, build, hspec]

/-- Windows are last-write-wins, slot by slot. Each slot of a window holds the last setting that
writes it, and final results only are wished for exactly if some setting says so. A window can be
replaced by any other with the same last settings, with no change to the clause or to what the clause
fails with, wherever the window stands. So settings of different slots can change places, and a
setting can be left out before a later one of the same slot. -/
theorem build_by_last_writes (window : Window) :
    (∀ slot, (WindowSpec.ofWindow window).setting? slot = window.lastWrite slot) ∧
    ((WindowSpec.ofWindow window).emitFinal ↔ .emitFinal ∈ window) ∧
    (∀ other : Window, (∀ slot, window.lastWrite slot = other.lastWrite slot) →
      ∀ argument, build (argument.replaceWindow window other) = build argument) ∧
    (∀ before first second after, window = before ++ first :: second :: after →
      first.slot ≠ second.slot → ∀ argument,
      build (argument.replaceWindow window (before ++ second :: first :: after)) =
        build argument) ∧
    ∀ before overwritten after, window = before ++ overwritten :: after →
      (∃ later ∈ after, later.slot = overwritten.slot) → ∀ argument,
      build (argument.replaceWindow window (before ++ after)) = build argument := by
  refine ⟨WindowSpec.setting?_ofWindow window, WindowSpec.emitFinal_ofWindow_iff, ?_, ?_, ?_⟩
  · exact fun other => build_replaceWindow
  · rintro before first second after rfl hslots
    exact build_replaceWindow (Window.lastWrite_swap hslots before after)
  · rintro before overwritten after rfl ⟨later, hlater, hslots⟩
    exact build_replaceWindow (Window.lastWrite_erase hslots hlater before)

/-- Hops of a minute over an hour, after second thoughts about the kind and the size. -/
def hourlyHops : Window :=
  [.kind .tumbling, .size (.ofSeconds 300), .advanceBy (.ofSeconds 60), .kind .hopping, .emitFinal,
    .size (.ofSeconds 3600)]

theorem build_by_last_writes_hourlyHops :
    (build (.constant (.window hourlyHops))).result =
      .ok "HOPPING (SIZE 1 HOURS, ADVANCE BY 1 MINUTES) EMIT FINAL" ∧
    build (.lambda ["o"] (.constant (.window [.emitFinal, .advanceBy (.ofSeconds 60),
      .size (.ofSeconds 3600), .kind .hopping]))) =
        build (.lambda ["o"] (.constant (.window hourlyHops))) ∧
    build (.constant (.window [.kind .tumbling, .advanceBy (.ofSeconds 60), .size (.ofSeconds 300),
      .kind .hopping, .emitFinal, .size (.ofSeconds 3600)])) =
        build (.constant (.window hourlyHops)) ∧
    build (.constant (.window [.size (.ofSeconds 300), .advanceBy (.ofSeconds 60), .kind .hopping,
      .emitFinal, .size (.ofSeconds 3600)])) = build (.constant (.window hourlyHops)) := by
  obtain ⟨-, -, hsame, hswap, herase⟩ := build_by_last_writes hourlyHops
  refine ⟨rfl, ?_, ?_, ?_⟩
  · refine hsame _ ?_ (.lambda ["o"] (.constant (.window hourlyHops)))
    intro slot
    cases slot <;> rfl
  · exact hswap [.kind .tumbling] _ _ _ rfl (by decide) (.constant (.window hourlyHops))
  · exact herase [] _ _ rfl ⟨.kind .hopping, by decide, rfl⟩ (.constant (.window hourlyHops))

end WindowClause

end StreamQuery
