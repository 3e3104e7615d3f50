import Darling.Lifecycle.Explorer

/-! What the explorer can report. An accepted event never leaves evidence against the reducer's safety, the seed
moves nothing but virtual time, and a minimized draft still shows what the draft was made for. -/
namespace Darling.Lifecycle.Explorer

section Flags

theorem settle_flags (action : RecoveryAction) (r : Reducer) :
    (settle action r).signalWithoutIdentity = r.signalWithoutIdentity ∧
      (settle action r).membershipSeenAfterGone = r.membershipSeenAfterGone := by
  unfold settle
  split_ifs
  all_goals exact ⟨rfl, rfl⟩

/-- An accepted event adds no evidence of a signal without identity or of a member after the end. -/
theorem step_flags {r after : Reducer} {event : Event} (step : Step r event after) :
    after.signalWithoutIdentity = r.signalWithoutIdentity ∧
      after.membershipSeenAfterGone = r.membershipSeenAfterGone := by
  cases step with
  | @signal id entry result => cases result <;> exact ⟨rfl, rfl⟩
  | @recovery action =>
    exact settle_flags action { r with
      snapshot := actionTarget action r.snapshot
      observations := r.observations ++ [⟨r.snapshot.stable, r.snapshot.journal, action⟩] }
  | _ => exact ⟨rfl, rfl⟩

theorem Event.isTerminal_outcome (event : Event) : Event.isTerminal event = event.outcome?.isSome := by
  cases event <;> rfl

/-- No evidence of unsafety is in the reducer. -/
structure Clear (r : Reducer) : Prop where
  signalled : r.signalWithoutIdentity = false
  seen : r.membershipSeenAfterGone = false

theorem Clear.step {r after : Reducer} {event : Event} (clear : Clear r) (step : Step r event after) : Clear after :=
  ⟨(step_flags step).1.trans clear.signalled, (step_flags step).2.trans clear.seen⟩

theorem applied_ok {r after : Reducer} {event : Event} :
    applied r event = .ok after ↔ apply r event = .ok () after := by
  unfold applied
  split <;> simp_all

theorem applied_error {r : Reducer} {event : Event} {error : ExplorerError} (failed : applied r event = .error error) :
    ∃ refusal, error = .refused refusal := by
  unfold applied at failed
  split at failed
  · cases failed
  · cases failed
    exact ⟨_, rfl⟩

end Flags

section Verification

variable {r : Reducer} {count time : Nat} {budget : ExplorerBudget}

/-- What is left of the step invariants where nothing speaks against the reducer. -/
theorem stepInvariants_missing (clear : Clear r) (events : count ≤ budget.maxEvents)
    (times : time ≤ budget.maxVirtualTimeNs)
    (live : r.live.keys.card ≤ budget.maxLiveCapabilities) (steps : r.observations.length ≤ budget.maxRecoverySteps) :
    (stepInvariants.find? fun name => name ∉ invariantNames r count time budget.limits) =
      if r.terminal = some .success ∧ sharedLeaseHeld r = true then some "shared-lease-bound" else none := by
  have bounded : ¬(budget.limits.maxEvents < count ∨ budget.limits.maxVirtualTimeNs < time ∨
      budget.limits.maxLiveCapabilities < r.live.keys.card ∨
        budget.limits.maxRecoverySteps < r.observations.length) := by
    simp only [ExplorerBudget.limits]
    omega
  unfold invariantNames
  rw [if_neg (by simp [clear.signalled]), if_neg (by simp [clear.seen]), if_neg bounded]
  by_cases held : r.terminal = some .success ∧ sharedLeaseHeld r = true
  · rw [if_pos held, if_pos held]
    cases lateForkOk r <;> decide +kernel
  · rw [if_neg held, if_neg held]
    cases lateForkOk r <;> decide +kernel

end Verification

section Execution

variable {budget : ExplorerBudget} {p p' : Progress} {event : DraftEvent} {events : List DraftEvent}

theorem advance_ok {maxNs nowNs deltaNs next : Nat} :
    advance maxNs nowNs deltaNs = .ok next ↔
      nowNs + deltaNs < UInt64.size ∧ nowNs + deltaNs ≤ maxNs ∧ nowNs + deltaNs = next := by
  simp only [advance, bind_ok, require_ok, exists_const, pure_ok]

theorem advance_error {maxNs nowNs deltaNs : Nat} {error : ExplorerError}
    (failed : advance maxNs nowNs deltaNs = .error error) : error = .budget "virtual time overflow" ∨
    error = .budget "virtual time" := by
  unfold advance require at failed
  by_cases small : nowNs + deltaNs < UInt64.size
  · rw [if_pos small] at failed
    by_cases bounded : nowNs + deltaNs ≤ maxNs
    · rw [if_pos bounded] at failed
      cases failed
    · rw [if_neg bounded] at failed
      cases failed
      exact .inr rfl
  · rw [if_neg small] at failed
    cases failed
    exact .inl rfl

/-- An accepted round of the event loop. -/
structure Round (budget : ExplorerBudget) (p : Progress) (event : DraftEvent) (p' : Progress) : Prop where
  applied : apply p.reducer event.event = .ok () p'.reducer
  now : p'.nowNs = p.nowNs + p.delay event
  small : p'.nowNs < UInt64.size
  bounded : p'.nowNs ≤ budget.maxVirtualTimeNs
  live : p'.reducer.live.keys.card ≤ budget.maxLiveCapabilities
  steps : p'.reducer.observations.length ≤ budget.maxRecoverySteps
  snapshots : p'.snapshots = p.snapshots ++ [p'.reducer.snapshot]
  times : p'.times = p.times ++ [p'.nowNs]

theorem Round.running (round : Round budget p event p') : p.reducer.terminal = none := (apply_ok_step round.applied).1

theorem Round.step (round : Round budget p event p') : Step p.reducer event.event p'.reducer :=
  (apply_ok_step round.applied).2

theorem executeEvent_round (ran : executeEvent budget p event = .ok p') : Round budget p event p' := by
  simp only [executeEvent, executeRound, bind_ok, advance_ok, applied_ok, require_ok, exists_const, pure_ok, not_or,
    Nat.not_lt] at ran
  obtain ⟨_, ⟨small, bounded, rfl⟩, reducer, applied, ⟨live, steps⟩, _, verified, rfl⟩ := ran
  exact ⟨applied, rfl, small, bounded, live, steps, rfl, rfl⟩

/-- A round whose event is accepted and whose bounds hold verifies, unless a lease is held at a success. -/
theorem verifyStepInvariants_eq {r : Reducer} {count time : Nat} (clear : Clear r) (events : count ≤ budget.maxEvents)
    (times : time ≤ budget.maxVirtualTimeNs) (live : r.live.keys.card ≤ budget.maxLiveCapabilities)
    (steps : r.observations.length ≤ budget.maxRecoverySteps) :
    verifyStepInvariants r count time budget =
      if r.terminal = some .success ∧ sharedLeaseHeld r = true then
        .error (.invariant (missingText count "shared-lease-bound"))
      else .ok () := by
  unfold verifyStepInvariants
  rw [stepInvariants_missing clear events times live steps]
  by_cases held : r.terminal = some .success ∧ sharedLeaseHeld r = true
  · simp only [if_pos held]
  · simp only [if_neg held]

/-- An invariant that fails in a round is the lease, at a success. -/
theorem executeEvent_invariant {text : String} (clear : Clear p.reducer)
    (count : p.snapshots.length + 1 ≤ budget.maxEvents)
    (failed : executeEvent budget p event = .error (.invariant text)) :
    event.event = .terminal .success ∧ text = missingText (p.snapshots.length + 1) "shared-lease-bound" := by
  simp only [executeEvent, executeRound, bind_error, advance_ok, applied_ok, require_error, require_ok,
    exists_const, reduceCtorEq,
    and_false, false_or, not_or, Nat.not_lt, pure, Except.pure, or_false] at failed
  rcases failed with late | ⟨now, ⟨_, bounded, rfl⟩, refused | ⟨reducer, accepted, ⟨live, steps⟩, failed⟩⟩
  · rcases advance_error late with same | same
    · cases same
    · cases same
  · obtain ⟨refusal, same⟩ := applied_error refused
    cases same
  · obtain ⟨running, step⟩ := apply_ok_step accepted
    rw [verifyStepInvariants_eq (clear.step step) count bounded live steps] at failed
    split at failed
    next lease =>
      cases failed
      refine ⟨?_, rfl⟩
      have set := step_terminal step
      rw [running, Option.or_none, lease.1] at set
      exact Event.outcome?_eq_some.mp set.symm
    next => cases failed

theorem executeEvents_invariant {text : String} (clear : Clear p.reducer)
    (count : p.snapshots.length + events.length ≤ budget.maxEvents)
    (failed : executeEvents budget p events = .error (.invariant text)) :
    ∃ before event after, events = before ++ event :: after ∧ event.event = .terminal .success ∧
      text = missingText (p.snapshots.length + before.length + 1) "shared-lease-bound" := by
  induction events generalizing p with
  | nil => cases failed
  | cons event rest ih =>
    rw [List.length_cons] at count
    simp only [executeEvents, bind_error] at failed
    rcases failed with failed | ⟨p', ran, failed⟩
    · obtain ⟨success, same⟩ := executeEvent_invariant clear (by omega) failed
      exact ⟨[], event, rest, rfl, success, same⟩
    · have round := executeEvent_round ran
      have length : p'.snapshots.length = p.snapshots.length + 1 := by simp [round.snapshots]
      obtain ⟨before, last, after, rfl, success, same⟩ := ih (clear.step round.step) (by omega) failed
      refine ⟨event :: before, last, after, rfl, success, ?_⟩
      rw [same, length, List.length_cons]
      congr 1
      omega

theorem registerSpec_ok {r r' : Reducer} {capability : CatalogSpec} (ok : registerSpec r capability = .ok r') :
    registerCapability r capability.id capability.kind 1 = .ok r' := by
  unfold registerSpec at ok
  split at ok
  next registered =>
    cases ok
    exact registered
  next => cases ok

/-- Registration leaves a new reducer as it is, apart from the catalog. -/
theorem registered_seeded {catalog : List CatalogSpec} {stable : StableState} {r : Reducer}
    (registered : catalog.foldlM registerSpec (Reducer.new stable) = .ok r) :
    Seeded r ∧ r = { Reducer.new stable with catalog := r.catalog } := by
  refine foldlM_invariant (P := fun r => Seeded r ∧ r = { Reducer.new stable with catalog := r.catalog }) ?_
    ⟨.new stable, rfl⟩ registered
  intro r capability r' _ ⟨seeded, same⟩ ok
  have registered := registerSpec_ok ok
  refine ⟨.register seeded registered, ?_⟩
  obtain ⟨_, rfl⟩ := register_ok registered
  rw [same]

theorem registered_error {catalog : List CatalogSpec} {r : Reducer} {error : ExplorerError}
    (failed : catalog.foldlM registerSpec r = .error error) : ∃ refusal, error = .refused refusal := by
  induction catalog generalizing r with
  | nil => cases failed
  | cons capability rest ih =>
    rw [List.foldlM_cons, bind_error] at failed
    rcases failed with failed | ⟨after, _, failed⟩
    · unfold registerSpec at failed
      split at failed
      · cases failed
      · cases failed
        exact ⟨_, rfl⟩
    · exact ih failed

theorem terminalLast_split {before after : List DraftEvent} (last : terminalLast (before ++ event :: after) = true)
    (terminal : Event.isTerminal event.event = true) : after = [] := by
  cases after with
  | nil => rfl
  | cons next later =>
    have inside : event ∈ (before ++ event :: next :: later).dropLast := by
      rw [List.dropLast_append_of_ne_nil (by simp), List.dropLast_cons_of_ne_nil (by simp)]
      simp
    simp only [terminalLast, Bool.and_eq_true, Bool.not_eq_true'] at last
    have none := List.any_eq_false.mp last.2 event inside
    exact absurd terminal none

/-- The check after every event never speaks against a step that the reducer accepted: where it fails, the last
event is a success while a shared lease is still held. -/
theorem execute_invariant (draft : Draft) (seed : UInt64) (budget : ExplorerBudget) (text : String)
    (failed : execute draft seed budget = .error (.invariant text)) :
    (∃ event, draft.events.getLast? = some event ∧ event.event = .terminal .success) ∧
      text = missingText draft.events.length "shared-lease-bound" := by
  simp only [execute, bind_error, require_error, require_ok, exists_const, reduceCtorEq, and_false,
    false_or, exists_false,
    or_false, pure, Except.pure, not_or, Nat.not_lt] at failed
  obtain ⟨⟨_, count⟩, _, last, refused | ⟨reducer, registered, _, failed⟩⟩ := failed
  · obtain ⟨refusal, same⟩ := registered_error refused
    cases same
  · have clear : Clear reducer := by
      rw [(registered_seeded registered).2]
      exact ⟨rfl, rfl⟩
    have fits : ([] : List StateSnapshot).length + draft.events.length ≤ budget.maxEvents := by simpa using count
    obtain ⟨before, event, after, split, success, same⟩ := executeEvents_invariant clear fits failed
    rw [split] at last
    have none := terminalLast_split last (by rw [success]; rfl)
    rw [split, none]
    refine ⟨⟨event, by simp, success⟩, ?_⟩
    rw [same, List.length_append]
    congr 1
    simp

/-- A success with a lease that was not given back. -/
theorem execute_invariant_heldLease :
    ∃ draft text, execute draft 7 {} = .error (.invariant text) ∧ text = missingText 2 "shared-lease-bound" := by
  let draft : Draft := {
    scenario := "held-lease", initialStable := .running, catalog := [sharedLease], scheduleSteps := 0
    realProbe := reducerOnlyProbe .beforePrepare
    events := [
      ⟨.controller, .acquire sharedLease.id .sharedSessionLease 1 "controller",
        .capabilityAcquired sharedLease.id "controller", 1⟩,
      ⟨.recovery, .terminal .success, .terminal .success, 1⟩] }
  have failed : execute draft 7 {} = .error (.invariant (missingText 2 "shared-lease-bound")) := by decide +kernel
  exact ⟨draft, _, failed, (execute_invariant draft 7 {} _ failed).2⟩

end Execution

section Seeds

variable {budget : ExplorerBudget}

/-- The clock ran past its budget. -/
def Late {α : Type} (result : ExplorerM α) : Prop :=
  result = .error (.budget "virtual time overflow") ∨ result = .error (.budget "virtual time")

theorem Late.bind {α β : Type} {result : ExplorerM α} (late : Late result) (next : α → ExplorerM β) :
    Late (result >>= next) := by
  rcases late with rfl | rfl
  · exact .inl rfl
  · exact .inr rfl

theorem advance_late (maxNs nowNs deltaNs : Nat) :
    Late (advance maxNs nowNs deltaNs) ∨ advance maxNs nowNs deltaNs = .ok (nowNs + deltaNs) ∧
      nowNs + deltaNs ≤ maxNs := by
  cases advanced : advance maxNs nowNs deltaNs with
  | error error =>
    left
    rcases advance_error advanced with rfl | rfl
    · exact .inl rfl
    · exact .inr rfl
  | ok next =>
    obtain ⟨_, bounded, rfl⟩ := advance_ok.mp advanced
    exact .inr ⟨rfl, bounded⟩

/-- Two computations of which one runs late, or that are equal as far as `view` sees. -/
def Alike {α β : Type} (view : α → β) (first second : ExplorerM α) : Prop :=
  Late first ∨ Late second ∨ first.map view = second.map view

theorem Alike.after {α β γ : Type} {view : β → γ} (shared : ExplorerM α) {first second : α → ExplorerM β}
    (each : ∀ value, Alike view (first value) (second value)) : Alike view (shared >>= first) (shared >>= second) := by
  cases shared with
  | error error => exact .inr (.inr rfl)
  | ok value => exact each value

/-- Within its budget the time makes no difference to the verdict. -/
theorem verifyStepInvariants_time (r : Reducer) (count : Nat) {time other : Nat}
    (first : time ≤ budget.maxVirtualTimeNs)
    (second : other ≤ budget.maxVirtualTimeNs) :
    verifyStepInvariants r count time budget = verifyStepInvariants r count other budget := by
  have same : invariantNames r count time budget.limits = invariantNames r count other budget.limits := by
    have first : ¬budget.limits.maxVirtualTimeNs < time := Nat.not_lt.mpr first
    have second : ¬budget.limits.maxVirtualTimeNs < other := Nat.not_lt.mpr second
    simp only [invariantNames, first, second]
  unfold verifyStepInvariants
  rw [same]

/-- What a run leaves, apart from its times. -/
def Progress.course (p : Progress) : Reducer × List StateSnapshot × Nat := (p.reducer, p.snapshots, p.times.length)

theorem executeRound_time (budget : ExplorerBudget) {p q : Progress} (event : DraftEvent) (same : p.course = q.course)
    (deltaP deltaQ : Nat)
    (seedP seedQ : UInt64) :
    Alike Progress.course (executeRound budget p event deltaP seedP) (executeRound budget q event deltaQ seedQ) := by
  obtain ⟨reducer, snapshots, length⟩ : p.reducer = q.reducer ∧ p.snapshots = q.snapshots ∧
      p.times.length = q.times.length := by
    simpa [Progress.course] using same
  unfold executeRound
  rcases advance_late budget.maxVirtualTimeNs p.nowNs deltaP with late | ⟨first, boundedP⟩
  · exact .inl (late.bind _)
  rcases advance_late budget.maxVirtualTimeNs q.nowNs deltaQ with late | ⟨second, boundedQ⟩
  · exact .inr (.inl (late.bind _))
  right
  right
  rw [first, second, reducer, snapshots]
  cases applied q.reducer event.event with
  | error error => rfl
  | ok after =>
    have times := verifyStepInvariants_time after (q.snapshots.length + 1) boundedP boundedQ
    simp only [bind, Except.bind]
    rw [times]
    cases verifyStepInvariants after (q.snapshots.length + 1) (q.nowNs + deltaQ) budget with
    | error error => split <;> rfl
    | ok done => split <;> simp [Except.map, Progress.course, pure, Except.pure, length]

theorem executeEvents_seed (budget : ExplorerBudget) {p q : Progress} (events : List DraftEvent)
    (same : p.course = q.course) :
    Alike Progress.course (executeEvents budget p events) (executeEvents budget q events) := by
  induction events generalizing p q with
  | nil => exact .inr (.inr (congrArg Except.ok same))
  | cons event rest ih =>
    rcases executeRound_time budget event same (p.delay event) (q.delay event) p.nextSeed q.nextSeed with
      late | late | equal
    · exact .inl (late.bind _)
    · exact .inr (.inl (late.bind _))
    unfold executeEvents
    change (executeEvent budget p event).map Progress.course =
      (executeEvent budget q event).map Progress.course at equal
    cases first : executeEvent budget p event with
    | error error =>
      cases second : executeEvent budget q event with
      | error other =>
        rw [first, second] at equal
        cases equal
        exact .inr (.inr rfl)
      | ok q' =>
        rw [first, second] at equal
        cases equal
    | ok p' =>
      cases second : executeEvent budget q event with
      | error other =>
        rw [first, second] at equal
        cases equal
      | ok q' =>
        rw [first, second] at equal
        exact ih (Except.ok.inj equal)

/-- Under two seeds a draft leaves the same reducer and the same snapshots, or fails with the same error, unless the
clock runs past its budget under one of them. -/
theorem execute_seed (draft : Draft) (budget : ExplorerBudget) (seed other : UInt64) :
    Alike (fun run => (run.reducer, run.snapshots)) (execute draft seed budget) (execute draft other budget) := by
  unfold execute
  refine Alike.after _ fun _ => Alike.after _ fun _ => Alike.after _ fun _ => Alike.after _ fun reducer =>
    Alike.after _ fun _ => ?_
  have course := executeEvents_seed budget (p := ⟨reducer, 0, [], [], seed⟩) (q :=
    ⟨reducer, 0, [], [], other⟩) draft.events rfl
  rcases course with late | late | equal
  · exact .inl (late.bind _)
  · exact .inr (.inl (late.bind _))
  have related := congrArg (Except.map fun course : Reducer × List StateSnapshot × Nat => (course.1, course.2.1)) equal
  right
  right
  revert related
  cases executeEvents budget ⟨reducer, 0, [], [], seed⟩ draft.events with
  | error error =>
    cases executeEvents budget ⟨reducer, 0, [], [], other⟩ draft.events with
    | error error => exact id
    | ok q => exact id
  | ok p =>
    cases executeEvents budget ⟨reducer, 0, [], [], other⟩ draft.events with
    | error error => exact id
    | ok q => exact id

theorem executeEvents_time {p p' : Progress} {events : List DraftEvent}
    (start : p.times.getLast?.getD 0 ≤ budget.maxVirtualTimeNs)
    (ran : executeEvents budget p events = .ok p') : p'.times.getLast?.getD 0 ≤ budget.maxVirtualTimeNs := by
  induction events generalizing p with
  | nil =>
    cases ran
    exact start
  | cons event rest ih =>
    simp only [executeEvents, bind_ok] at ran
    obtain ⟨middle, first, later⟩ := ran
    have round := executeEvent_round first
    exact ih (by simpa [round.times] using round.bounded) later

/-- What a successful execution has gone through. -/
theorem execute_ok {draft : Draft} {seed : UInt64} {run : Run} (ran : execute draft seed budget = .ok run) :
    (2 ≤ draft.events.length ∧ draft.events.length ≤ budget.maxEvents) ∧ terminalLast draft.events = true ∧
      ∃ reducer p, draft.catalog.foldlM registerSpec (Reducer.new draft.initialStable) = .ok reducer ∧
        executeEvents budget ⟨reducer, 0, [], [], seed⟩ draft.events = .ok p ∧
          run = ⟨p.reducer, p.snapshots, p.times⟩ := by
  simp only [execute, bind_ok, require_ok, exists_const, pure_ok, not_or, Nat.not_lt] at ran
  obtain ⟨length, _, last, reducer, registered, _, p, executed, rfl⟩ := ran
  exact ⟨length, last, reducer, p, registered, executed, rfl⟩

theorem completeInvariants_time {run other : Run} (reducer : run.reducer = other.reducer)
    (snapshots : run.snapshots = other.snapshots)
    (first : run.times.getLast?.getD 0 ≤ budget.maxVirtualTimeNs)
    (second : other.times.getLast?.getD 0 ≤ budget.maxVirtualTimeNs) :
    completeInvariants run budget = completeInvariants other budget := by
  have first : ¬budget.limits.maxVirtualTimeNs < run.times.getLast?.getD 0 := Nat.not_lt.mpr first
  have second : ¬budget.limits.maxVirtualTimeNs < other.times.getLast?.getD 0 := Nat.not_lt.mpr second
  simp only [completeInvariants, invariantNames, first, second, reducer, snapshots]

end Seeds

section Minimization

variable {boundary : FailureBoundary} {interleaving : Interleaving} {budget : ExplorerBudget} {draft : Draft}

/-- Under a seed, the draft runs to its recovery with every invariant and the events it was drafted for. -/
def Detects (boundary : FailureBoundary) (interleaving : Interleaving) (budget : ExplorerBudget) (draft : Draft)
    (seed : UInt64) :
    Prop :=
  ∃ run, execute draft seed budget = .ok run ∧ completeInvariants run budget = true ∧
    run.reducer.terminal = some .recovered ∧ requiredEventsPresent draft boundary interleaving = true

theorem keepsDetection_iff :
    keepsDetection boundary interleaving budget draft = true ↔
      Detects boundary interleaving budget draft minimizeSeed := by
  unfold keepsDetection Detects
  cases execute draft minimizeSeed budget with
  | error error => simp
  | ok run => simp [and_assoc]

/-- What is detected under one seed is detected under every other that keeps within the time. -/
theorem Detects.seed {seed : UInt64} (detects : Detects boundary interleaving budget draft seed) (other : UInt64) :
    Late (execute draft other budget) ∨ Detects boundary interleaving budget draft other := by
  obtain ⟨run, ran, complete, terminal, required⟩ := detects
  have timed : ∀ {seed run}, execute draft seed budget = .ok run →
      run.times.getLast?.getD 0 ≤ budget.maxVirtualTimeNs := by
    intro seed run ran
    obtain ⟨_, _, reducer, p, _, executed, rfl⟩ := execute_ok ran
    exact executeEvents_time (Nat.zero_le _) executed
  rcases execute_seed draft budget seed other with late | late | equal
  · rw [ran] at late
    rcases late with same | same
    · cases same
    · cases same
  · exact .inl late
  right
  rw [ran] at equal
  cases again : execute draft other budget with
  | error error =>
    rw [again] at equal
    cases equal
  | ok run' =>
    rw [again] at equal
    obtain ⟨reducer, snapshots⟩ : run.reducer = run'.reducer ∧ run.snapshots = run'.snapshots := by
      simpa [Except.map] using equal
    refine ⟨run', again, ?_, reducer ▸ terminal, required⟩
    rw [← completeInvariants_time reducer snapshots (timed ran) (timed again)]
    exact complete

def DraftEvent.isTerminal (event : DraftEvent) : Bool := Event.isTerminal event.event

theorem filter_eraseIdx {events : List DraftEvent} {index : Nat}
    (other : (events[index]?.any fun event => Event.isTerminal event.event) = false) :
    (events.eraseIdx index).filter DraftEvent.isTerminal = events.filter DraftEvent.isTerminal := by
  induction events generalizing index with
  | nil => rfl
  | cons event rest ih =>
    cases index with
    | zero =>
      have none : event.isTerminal = false := by simpa [DraftEvent.isTerminal] using other
      simp [none]
    | succ index => simp only [List.eraseIdx_cons_succ, List.filter_cons, ih (by simpa using other)]

/-- A draft with some of the events of another in their order, its first event and its terminal events among them. -/
structure Reduced (draft reduced : Draft) : Prop where
  rest : reduced = { draft with events := reduced.events }
  events : reduced.events.Sublist draft.events
  head : reduced.events.head? = draft.events.head?
  terminals : reduced.events.filter DraftEvent.isTerminal = draft.events.filter DraftEvent.isTerminal

theorem Reduced.without {reduced : Draft} (kept : Reduced draft reduced) (index : Nat)
    (other : (reduced.events[index + 1]?.any fun event => Event.isTerminal event.event) = false) :
    Reduced draft (reduced.without (index + 1)) := by
  refine ⟨?_, (List.eraseIdx_sublist _ _).trans kept.events, ?_, (filter_eraseIdx other).trans kept.terminals⟩
  · rw [Draft.without, kept.rest]
  · rw [← kept.head, Draft.without]
    cases reduced.events <;> rfl

theorem minimizeFrom_reduced (index : Nat) {reduced : Draft} (kept : Reduced draft reduced)
    (detects : reduced = draft ∨ keepsDetection boundary interleaving budget reduced = true) :
    Reduced draft (minimizeFrom boundary interleaving budget reduced index) ∧
      (minimizeFrom boundary interleaving budget reduced index = draft ∨
        keepsDetection boundary interleaving budget (minimizeFrom boundary interleaving budget reduced index) =
          true) := by
  induction index generalizing reduced with
  | zero => exact ⟨kept, detects⟩
  | succ index ih =>
    unfold minimizeFrom
    split
    · exact ih kept detects
    next other =>
      split
      next keeps => exact ih (kept.without index (by simpa using other)) (.inr keeps)
      next => exact ih kept detects

theorem minimizeDraft_reduced (boundary : FailureBoundary) (interleaving : Interleaving) (budget : ExplorerBudget)
    (draft : Draft) :
    Reduced draft (minimizeDraft boundary interleaving budget draft) ∧
      (minimizeDraft boundary interleaving budget draft = draft ∨
        keepsDetection boundary interleaving budget (minimizeDraft boundary interleaving budget draft) = true) :=
  minimizeFrom_reduced _ ⟨rfl, List.Sublist.refl _, rfl, rfl⟩ (.inl rfl)

/-- A draft that shows its fault is minimized to some of its own events, with the first and the terminal ones, and
these show the fault under every seed that keeps within the time. -/
theorem minimized_detects (boundary : FailureBoundary) (interleaving : Interleaving) (budget : ExplorerBudget)
    (draft : Draft)
    (detects : Detects boundary interleaving budget draft minimizeSeed) (seed : UInt64) :
    let minimized := minimizeDraft boundary interleaving budget draft
    Reduced draft minimized ∧
      (Late (execute minimized seed budget) ∨ Detects boundary interleaving budget minimized seed) := by
  intro minimized
  obtain ⟨reduced, whole | keeps⟩ := minimizeDraft_reduced boundary interleaving budget draft
  · refine ⟨reduced, ?_⟩
    have same : minimized = draft := whole
    rw [same]
    exact detects.seed seed
  · exact ⟨reduced, (keepsDetection_iff.mp keeps).seed seed⟩

/-- An interrupted creation of the prefix, drafted under one seed and run under another. -/
theorem minimized_detects_publication :
    let draft := draftFor .afterPrepare .partialPublication 7 (reducerOnlyProbe .afterPrepare)
    Detects .afterPrepare .partialPublication {} draft minimizeSeed ∧
      (Late (execute (minimizeDraft .afterPrepare .partialPublication {} draft) 11 {}) ∨
        Detects .afterPrepare .partialPublication {}
          (minimizeDraft .afterPrepare .partialPublication {} draft) 11) := by
  intro draft
  have detects : Detects .afterPrepare .partialPublication {} draft minimizeSeed :=
    keepsDetection_iff.mp (by decide +kernel)
  exact ⟨detects, (minimized_detects .afterPrepare .partialPublication {} draft detects 11).2⟩

end Minimization


end Darling.Lifecycle.Explorer
