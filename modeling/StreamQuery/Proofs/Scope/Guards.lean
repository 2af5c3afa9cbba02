import StreamQuery.Proofs.Report
import StreamQuery.Scope.Program

/-!
# Guards of a thread

The depth of a thread is a bare number. The guards that it stands for are values in the code that
runs on the thread: it takes them, drops them in any order, and every `within` that is running has
one of its own. Whatever such code does, and wherever it stops, the depth is the number of guards
that are live, so a definition is refused exactly if there is none.
-/

namespace StreamQuery

/-- A stream or table that is to be defined by a query. -/
structure Definition where
  builders : Builders
  kind : ObjectKind
  name : String
  base : String
  query : Expr

namespace Definition

def operation (definition : Definition) : String :=
  match definition.kind with
  | .stream => "CREATE STREAM AS"
  | .table => "CREATE TABLE AS"

def statement (definition : Definition) (scope : Scope) : Report String :=
  ScopeStep.createStatement definition.builders definition.kind scope definition.name
    definition.base definition.query

/-- All failures behind the gate name the task, so none of them is taken for a closed gate. -/
theorem result_statement_eq_iff (definition : Definition) (scope : Scope) :
    (definition.statement scope).result = .error (.outsideScope definition.operation) ↔
      scope.isActive = false := by
  have hgate : ∀ (operation : String) (task : Task) (report : Report String),
      (do scope.ensureActive operation; report.mapFailure (.inTask task) : Report String).result =
        .error (.outsideScope operation) ↔ scope.isActive = false := by
    intro operation task report
    rw [Report.result_bind, Scope.ensureActive]
    cases scope.isActive with
    | false => exact iff_of_true rfl rfl
    | true =>
        refine iff_of_false ?_ (by simp)
        intro h
        change (report.mapFailure (.inTask task)).result = _ at h
        rw [Report.result_mapFailure, mapError_eq_error_iff] at h
        obtain ⟨cause, -, hcause⟩ := h
        cases hcause
  obtain ⟨builders, kind, name, base, query⟩ := definition
  cases kind with
  | stream => exact hgate "CREATE STREAM AS" (.createStreamAs name base) _
  | table => exact hgate "CREATE TABLE AS" (.createTableAs name base) _

end Definition

/-- What code that runs on a thread does with guards. A step that fails may stop the code around it,
up to the nearest `within` that does not pass the failure on. -/
inductive GuardStep where
  | take
  /-- Drops the guard with this number, if it is held. -/
  | drop (guard : Nat)
  | define (definition : Definition) (stop : Bool)
  | fail
  /-- Steps whose guards are dropped at their end, also if they stop. -/
  | block (body : List GuardStep)
  | within (body : List GuardStep) (stop : Bool)

namespace GuardStep

structure Thread where
  scope : Scope := {}
  /-- The guards that the code holds, numbered as they were taken. -/
  held : List Nat := []
  taken : Nat := 0
  /-- How many `within` are running. -/
  running : Nat := 0

def Thread.live (thread : Thread) : Nat :=
  thread.held.length + thread.running

inductive Event where
  | taken
  | dropped
  | defined (definition : Definition) (report : Report String)
  /-- A whole `within`, with its body. -/
  | within

structure Moment where
  before : Thread
  event : Event
  after : Thread

structure Run where
  thread : Thread
  moments : List Moment
  stopped : Bool

/-- The run of two pieces of code, one after the other. -/
def Run.append (first others : Run) : Run :=
  ⟨others.thread, first.moments ++ others.moments, others.stopped⟩

def dropGuard (guard : Nat) (thread : Thread) : Run :=
  if guard ∈ thread.held then
    let after := { thread with scope := thread.scope.leave, held := thread.held.erase guard }
    ⟨after, [⟨thread, .dropped, after⟩], false⟩
  else ⟨thread, [], false⟩

def dropGuards : List Nat → Thread → Run
  | [], thread => ⟨thread, [], false⟩
  | guard :: rest, thread =>
    let first := dropGuard guard thread
    first.append (dropGuards rest first.thread)

mutual

def perform : GuardStep → Thread → Run
  | .take, thread =>
    let after := { thread with
      scope := thread.scope.enter
      held := thread.taken :: thread.held
      taken := thread.taken + 1 }
    ⟨after, [⟨thread, .taken, after⟩], false⟩
  | .drop guard, thread => dropGuard guard thread
  | .define definition stop, thread =>
    let report := definition.statement thread.scope
    ⟨thread, [⟨thread, .defined definition report, thread⟩], stop && !report.result.isOk⟩
  | .fail, thread => ⟨thread, [], true⟩
  | .block body, thread =>
    let run := performAll body thread
    let locals := run.thread.held.filter (thread.taken ≤ ·)
    { run.append (dropGuards locals run.thread) with stopped := run.stopped }
  | .within body stop, thread =>
    let inside scope := { thread with scope, running := thread.running + 1 }
    let result := thread.scope.within fun scope =>
      let run := performAll body (inside scope)
      (run, run.thread.scope)
    let run := result.1
    let after := { run.thread with scope := result.2, running := run.thread.running - 1 }
    let first : Moment := ⟨thread, .taken, inside thread.scope.enter⟩
    let last : List Moment := [⟨run.thread, .dropped, after⟩, ⟨thread, .within, after⟩]
    ⟨after, first :: (run.moments ++ last), stop && run.stopped⟩

def performAll : List GuardStep → Thread → Run
  | [], thread => ⟨thread, [], false⟩
  | step :: rest, thread =>
    let first := step.perform thread
    if first.stopped then first else first.append (performAll rest first.thread)

end

/-- The thread is in no task, and its depth is the number of live guards. -/
def Thread.Counted (thread : Thread) : Prop :=
  thread.scope = { depth := thread.live, inTask := false }

/-- What an event does. A `within` changes the depth only by the guards that its body takes and
keeps, or drops of those from outside. -/
def Event.Exact (before after : Thread) : Event → Prop
  | .taken => after.live = before.live + 1
  | .dropped => 0 < before.scope.depth ∧ after.live + 1 = before.live
  | .defined definition report =>
    after = before ∧ report = definition.statement before.scope ∧
      (report.result = .error (.outsideScope definition.operation) ↔ before.live = 0)
  | .within =>
    after.running = before.running ∧
      after.scope.depth + before.held.length = before.scope.depth + after.held.length

structure Moment.Exact (moment : Moment) : Prop where
  before : moment.before.Counted
  after : moment.after.Counted
  event : moment.event.Exact moment.before moment.after

structure Run.Exact (start : Thread) (run : Run) : Prop where
  counted : run.thread.Counted
  running : run.thread.running = start.running
  moments : ∀ moment ∈ run.moments, moment.Exact

theorem Run.Exact.append {start : Thread} {first others : Run} (hfirst : first.Exact start)
    (hothers : others.Exact first.thread) : (first.append others).Exact start := by
  refine ⟨hothers.counted, hothers.running.trans hfirst.running, ?_⟩
  intro moment hmoment
  rcases List.mem_append.mp hmoment with h | h
  · exact hfirst.moments moment h
  · exact hothers.moments moment h

/-- A run that nothing happens in. -/
theorem Run.Exact.idle {thread : Thread} (h : thread.Counted) (stopped : Bool) :
    Run.Exact thread ⟨thread, [], stopped⟩ :=
  ⟨h, rfl, fun _ hmoment => absurd hmoment List.not_mem_nil⟩

section

variable {thread : Thread} (h : thread.Counted)

include h

theorem exact_take : (perform .take thread).Exact thread := by
  have hlive : (perform .take thread).thread.live = thread.live + 1 := by
    change thread.held.length + 1 + thread.running = thread.held.length + thread.running + 1
    omega
  have hafter : (perform .take thread).thread.Counted := by
    change thread.scope.enter = _
    rw [h, hlive]
    rfl
  refine ⟨hafter, rfl, ?_⟩
  intro moment hmoment
  obtain rfl := List.mem_singleton.mp hmoment
  exact ⟨h, hafter, hlive⟩

/-- A guard that is held is counted, so there is something to count down from. -/
theorem exact_dropGuard (guard : Nat) : (dropGuard guard thread).Exact thread := by
  unfold dropGuard
  split
  · next hheld =>
      have hlength : (thread.held.erase guard).length + 1 = thread.held.length := by
        have hpos := List.length_pos_of_mem hheld
        rw [List.length_erase_of_mem hheld]
        omega
      have hlive : (thread.held.erase guard).length + thread.running + 1 = thread.live := by
        unfold Thread.live
        omega
      have hafter : Thread.Counted
          { thread with scope := thread.scope.leave, held := thread.held.erase guard } := by
        unfold Thread.Counted
        rw [h, Scope.leave, ← hlive]
        rfl
      refine ⟨hafter, rfl, ?_⟩
      intro moment hmoment
      obtain rfl := List.mem_singleton.mp hmoment
      have hdepth : thread.scope.depth = thread.live := by rw [h]
      refine ⟨h, hafter, ?_, hlive⟩
      change 0 < thread.scope.depth
      omega
  · exact .idle h false

theorem exact_dropGuards (guards : List Nat) : (dropGuards guards thread).Exact thread := by
  induction guards generalizing thread with
  | nil => exact .idle h false
  | cons guard rest ih =>
      have hfirst := exact_dropGuard h guard
      exact hfirst.append (ih hfirst.counted)

theorem exact_define (definition : Definition) (stop : Bool) :
    (perform (.define definition stop) thread).Exact thread := by
  refine ⟨h, rfl, ?_⟩
  intro moment hmoment
  obtain rfl := List.mem_singleton.mp hmoment
  refine ⟨h, h, rfl, rfl, ?_⟩
  rw [Definition.result_statement_eq_iff, h]
  simp [Scope.isActive]

omit h in
theorem exact_block {body : List GuardStep} (hbody : (performAll body thread).Exact thread) :
    (perform (.block body) thread).Exact thread := by
  have happend := hbody.append (exact_dropGuards hbody.counted
    ((performAll body thread).thread.held.filter (thread.taken ≤ ·)))
  exact ⟨happend.counted, happend.running, happend.moments⟩

theorem exact_within {body : List GuardStep} (stop : Bool)
    (hbody : ∀ inside : Thread, inside.Counted → (performAll body inside).Exact inside) :
    (perform (.within body stop) thread).Exact thread := by
  rw [perform]
  dsimp only [Scope.within]
  have hinside : Thread.Counted
      { thread with scope := thread.scope.enter, running := thread.running + 1 } := by
    unfold Thread.Counted
    rw [h]
    rfl
  have hrun := hbody _ hinside
  generalize performAll body
    { thread with scope := thread.scope.enter, running := thread.running + 1 } = run at hrun ⊢
  -- The guard of the `within` itself is live to the end of the body.
  have hrunning : run.thread.running = thread.running + 1 := hrun.running
  have hlive : run.thread.held.length + (run.thread.running - 1) + 1 = run.thread.live := by
    unfold Thread.live
    omega
  have hdepth : thread.scope.depth = thread.live := by rw [h]
  have hdepth' : run.thread.scope.depth = run.thread.live := by rw [hrun.counted]
  have hafter : Thread.Counted { run.thread with
      scope := run.thread.scope.leave, running := run.thread.running - 1 } := by
    unfold Thread.Counted
    rw [hrun.counted, Scope.leave, ← hlive]
    rfl
  have hback : run.thread.running - 1 = thread.running := by omega
  refine ⟨hafter, hback, ?_⟩
  intro moment hmoment
  simp only [List.mem_cons, List.mem_append, List.not_mem_nil, or_false] at hmoment
  rcases hmoment with rfl | hmoment | rfl | rfl
  · exact ⟨h, hinside, rfl⟩
  · exact hrun.moments moment hmoment
  · refine ⟨hrun.counted, hafter, ?_, hlive⟩
    change 0 < run.thread.scope.depth
    omega
  · refine ⟨h, hafter, hback, ?_⟩
    change run.thread.scope.depth - 1 + thread.held.length =
      thread.scope.depth + run.thread.held.length
    unfold Thread.live at hdepth hdepth'
    omega

end

mutual

theorem exact_perform (step : GuardStep) {thread : Thread} (h : thread.Counted) :
    (step.perform thread).Exact thread := by
  cases step with
  | take => exact exact_take h
  | drop guard => exact exact_dropGuard h guard
  | define definition stop => exact exact_define h definition stop
  | fail => exact .idle h true
  | block body => exact exact_block (exact_performAll body h)
  | within body stop => exact exact_within h stop fun inside hinside => exact_performAll body hinside

theorem exact_performAll (steps : List GuardStep) {thread : Thread} (h : thread.Counted) :
    (performAll steps thread).Exact thread := by
  cases steps with
  | nil => exact .idle h false
  | cons step rest =>
      have hfirst := exact_perform step h
      rw [performAll]
      split
      · exact hfirst
      · exact hfirst.append (exact_performAll rest hfirst.counted)

end

end GuardStep

namespace ScopeStep

/-- An action takes and gives back only guards of its own list, above those of others. -/
def Balanced (action : Action) : Prop :=
  ∀ base own inTask, ∃ own', (action ⟨⟨base + own, inTask⟩, own⟩).holding =
    ⟨⟨base + own', inTask⟩, own'⟩

theorem balanced_nested {run : Scope → (List Notice × List Answer) × Scope}
    (h : ∀ scope, (run scope).2 = scope) : Balanced (nested run) := by
  intro base own inTask
  refine ⟨own, ?_⟩
  rw [nested, h]

theorem holding_performAll {actions : List Action} (h : ∀ action ∈ actions, Balanced action)
    (base own : Nat) (inTask : Bool) :
    ∃ own', (performAll actions ⟨⟨base + own, inTask⟩, own⟩).holding =
      ⟨⟨base + own', inTask⟩, own'⟩ := by
  induction actions generalizing own with
  | nil => exact ⟨own, rfl⟩
  | cons action rest ih =>
      rw [List.forall_mem_cons] at h
      obtain ⟨between, hbetween⟩ := h.1 base own inTask
      obtain ⟨own', hrest⟩ := ih h.2 between
      refine ⟨own', ?_⟩
      rw [performAll, perform]
      dsimp only
      rw [hbetween, hrest]

theorem release_mk (base own : Nat) (inTask : Bool) :
    Holding.release ⟨⟨base + own, inTask⟩, own⟩ = ⟨base, inTask⟩ := by
  rw [Holding.release, Nat.add_sub_cancel]

theorem scope_runList {actions : List Action} (h : ∀ action ∈ actions, Balanced action)
    (scope : Scope) : (runList actions scope).2 = scope := by
  obtain ⟨base, inTask⟩ := scope
  obtain ⟨own', hholding⟩ := holding_performAll h base 0 inTask
  rw [Nat.add_zero] at hholding
  rw [runList]
  dsimp only
  rw [hholding, release_mk]

/-- Two lists that take turns give back the guards of both, in whatever order these were taken. -/
theorem depth_performTurns {inside outside : List Action}
    (hinside : ∀ action ∈ inside, Balanced action) (houtside : ∀ action ∈ outside, Balanced action)
    (base own own' depth : Nat) (inTask inTask' : Bool) :
    (performTurns inside outside ⟨⟨base + own' + own, inTask⟩, own⟩
      ⟨⟨depth, inTask'⟩, own'⟩).holding.scope.depth = base := by
  induction inside generalizing outside own own' depth with
  | nil =>
      obtain ⟨final, hfinal⟩ := holding_performAll houtside base own' inTask'
      rw [performTurns, release_mk]
      dsimp only
      rw [hfinal, release_mk]
  | cons action rest ih =>
      rw [List.forall_mem_cons] at hinside
      obtain ⟨next, hnext⟩ := hinside.1 (base + own') own inTask
      cases outside with
      | nil =>
          have hdepth : base + own' + next - own' = base + next := by omega
          obtain ⟨final, hfinal⟩ := holding_performAll hinside.2 base next inTask
          rw [performTurns, perform]
          dsimp only [Holding.release]
          rw [hnext]
          dsimp only
          rw [hdepth, hfinal]
          exact Nat.add_sub_cancel base final
      | cons other outside =>
          rw [List.forall_mem_cons] at houtside
          have hdepth : base + own' + next = base + next + own' := by omega
          obtain ⟨next', hnext'⟩ := houtside.1 (base + next) own' inTask'
          have hrest := ih hinside.2 houtside.2 next next' (base + next + next')
          rw [performTurns, perform, perform]
          dsimp only
          rw [hnext]
          dsimp only
          rw [hdepth, hnext']
          dsimp only
          rw [Nat.add_right_comm base next next'] at hrest ⊢
          exact hrest

mutual

theorem balanced_action (step : ScopeStep) : Balanced step.action := by
  cases step with
  | check => exact fun _ own _ => ⟨own, rfl⟩
  | enter => exact fun _ own _ => ⟨own + 1, rfl⟩
  | leave =>
      intro base own inTask
      rw [action]
      dsimp only
      split
      · exact ⟨own, rfl⟩
      · next hown =>
          refine ⟨own - 1, ?_⟩
          have hdepth : base + own - 1 = base + (own - 1) := by omega
          rw [Scope.leave, hdepth]
  | ensure operation => exact fun _ own _ => ⟨own, rfl⟩
  | createAs kind name base query => exact fun _ own _ => ⟨own, rfl⟩
  | within steps =>
      refine balanced_nested fun scope => ?_
      rw [Scope.within, scope_runList (balanced_actions steps)]
      rfl
  | run steps =>
      refine balanced_nested fun scope => ?_
      dsimp only
      rw [scope_runList (balanced_actions steps)]
  | task steps => exact balanced_nested (scope_runList (balanced_actions steps))
  | thread steps => exact balanced_nested fun _ => rfl
  | interleave inside outside =>
      intro base own inTask
      have hdepth := depth_performTurns (balanced_actions inside) (balanced_actions outside)
        (base + own) 0 0 (base + own) true inTask
      refine ⟨own, ?_⟩
      rw [action]
      exact congrArg (fun depth => Holding.mk ⟨depth, inTask⟩ own) hdepth

theorem balanced_actions (steps : List ScopeStep) : ∀ action ∈ actions steps, Balanced action := by
  cases steps with
  | nil => exact fun _ hmem => absurd hmem List.not_mem_nil
  | cons step rest =>
      rw [actions, List.forall_mem_cons]
      exact ⟨balanced_action step, balanced_actions rest⟩

end

end ScopeStep

namespace Scope

/-- Along every run of code that takes and drops guards and defines streams and tables, the depth is
the number of live guards, it is never counted down from zero, a `within` gives back its own guard
however its body ends, and a definition is refused exactly if no guard is live. Lists of scope steps,
also those with tasks and threads of their own, leave the scope as they found it. -/
theorem depth_eq_live_guards (steps : List GuardStep) :
    let run := GuardStep.performAll steps {}
    run.thread.scope = { depth := run.thread.held.length, inTask := false } ∧
      (∀ moment ∈ run.moments,
        moment.before.scope.depth = moment.before.live ∧
        moment.after.scope.depth = moment.after.live ∧
        moment.event.Exact moment.before moment.after) ∧
      ∀ program scope, (ScopeStep.runList (ScopeStep.actions program) scope).2 = scope := by
  intro run
  have hstart : GuardStep.Thread.Counted {} := rfl
  have hrun : run.Exact {} := GuardStep.exact_performAll steps hstart
  refine ⟨?_, ?_, fun program => ScopeStep.scope_runList (ScopeStep.balanced_actions program)⟩
  · have hlive : run.thread.live = run.thread.held.length := by
      rw [GuardStep.Thread.live, hrun.running, Nat.add_zero]
    rw [← hlive]
    exact hrun.counted
  · intro moment hmoment
    obtain ⟨hbefore, hafter, hevent⟩ := hrun.moments moment hmoment
    refine ⟨?_, ?_, hevent⟩
    · rw [hbefore]
    · rw [hafter]

/-- A copy of the orders. -/
def copiedOrders : Definition :=
  ⟨.standard, .stream, "copies", "orders", .source "orders"⟩

/-- Two guards that are dropped in the order in which they were taken, and between them a `within`
whose body takes a guard and fails. -/
def outOfOrder : List GuardStep :=
  [.take, .take, .drop 0, .within [.block [.take, .fail]] false, .drop 1, .define copiedOrders true]

theorem depth_eq_live_guards_outOfOrder :
    let run := GuardStep.performAll outOfOrder {}
    run.thread.scope = {} ∧
      (∃ moment ∈ run.moments, moment.event = .within ∧ moment.before.held = [1] ∧
        moment.after.held = [1] ∧ moment.after.scope.depth = moment.before.scope.depth) ∧
      ∃ moment ∈ run.moments, ∃ report, moment.event = .defined copiedOrders report ∧
        moment.before.live = 0 ∧ report.result = .error (.outsideScope "CREATE STREAM AS") := by
  intro run
  obtain ⟨hscope, hmoments, -⟩ := depth_eq_live_guards outOfOrder
  refine ⟨hscope, ?_, ?_⟩
  · obtain ⟨moment, hmoment⟩ : ∃ moment, run.moments[7]? = some moment := ⟨_, rfl⟩
    have hmem := List.mem_of_getElem? hmoment
    obtain ⟨-, -, hwithin⟩ := hmoments moment hmem
    obtain rfl := Option.some.inj hmoment
    exact ⟨_, hmem, rfl, rfl, rfl, Nat.add_right_cancel hwithin.2⟩
  · obtain ⟨moment, hmoment⟩ : ∃ moment, run.moments[9]? = some moment := ⟨_, rfl⟩
    have hmem := List.mem_of_getElem? hmoment
    obtain ⟨-, -, hdefined⟩ := hmoments moment hmem
    obtain rfl := Option.some.inj hmoment
    exact ⟨_, hmem, _, rfl, rfl, hdefined.2.2.mpr rfl⟩

end Scope

end StreamQuery
