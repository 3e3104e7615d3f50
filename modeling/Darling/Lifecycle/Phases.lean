import Darling.Lifecycle.Ledger

/-! The transaction field against the journal phase, and what recovery does to ownership
when no transaction is open. The two are set by different branches of the reducer; their
agreement comes from the reachable pairs of stable state and phase. -/
namespace Darling.Lifecycle

structure PhaseAgrees (r : Reducer) : Prop where
  opened : r.transaction.isSome = true ↔
    r.snapshot.journal = .prepare ∨ r.snapshot.journal = .cleanup
  unpublished : r.snapshot.journal ≠ .publish
  committed : r.snapshot.journal = .commit →
    r.snapshot.stable = .ready ∨ r.snapshot.stable = .stopped

theorem settle_transaction (action : RecoveryAction) (r : Reducer) :
    (settle action r).transaction =
      if action.isRollback ∨ action.isCompletion then none else r.transaction := by
  unfold settle
  split_ifs <;> simp_all [rollback, continueDrain]

theorem recovery_agrees {r : Reducer} (agrees : PhaseAgrees r)
    (observations : List RecoveryObservation) :
    PhaseAgrees (settle (recoveryAction r.snapshot.stable r.snapshot.journal) { r with
      snapshot := actionTarget (recoveryAction r.snapshot.stable r.snapshot.journal) r.snapshot
      observations := observations }) := by
  obtain ⟨opened, unpublished, committed⟩ := agrees
  constructor <;> simp only [settle_transaction, settle_snapshot]
  all_goals
    cases stable : r.snapshot.stable <;> cases journal : r.snapshot.journal <;>
      simp_all [recoveryAction, actionTarget, RecoveryAction.isRollback, RecoveryAction.isCompletion]

theorem step_agrees {r after : Reducer} {event : Event} (agrees : PhaseAgrees r)
    (step : Step r event after) : PhaseAgrees after := by
  have same : ∀ after : Reducer, after.transaction = r.transaction →
      after.snapshot = r.snapshot → PhaseAgrees after := by
    intro after transaction snapshot
    obtain ⟨opened, unpublished, committed⟩ := agrees
    constructor <;> simp_all
  cases step with
  | intent => exact ⟨by simp, by simp, by simp⟩
  | barrier allowed =>
    obtain ⟨opened, unpublished, committed⟩ := agrees
    refine ⟨opened, unpublished, fun commit => ?_⟩
    rcases committed commit with stable | stable <;>
      simp [stable, stableTransitionAllowed] at allowed
  | @signal id entry result known kind live matching allowed =>
    have transaction : (signalEffect r id result).transaction = r.transaction := by
      cases result <;> rfl
    refine ⟨?_, by simp, by simp⟩
    simp only [transaction, agrees.opened]
    cases journal : r.snapshot.journal <;> simp_all [journalTransitionAllowed]
  | recovery prescribed =>
    subst prescribed
    exact recovery_agrees agrees _
  | _ => exact same _ rfl rfl

theorem next_agrees (r : Reducer) (event : Event) (agrees : PhaseAgrees r) :
    PhaseAgrees (machine.next r event) := by
  rcases next_cases r event with ⟨_, _, step⟩ | ⟨_, signalled, seen, same⟩
  · exact step_agrees agrees step
  · rw [same]
    exact ⟨agrees.opened, agrees.unpublished, agrees.committed⟩

theorem seeded_idle {r : Reducer} (seeded : Seeded r) :
    r.transaction = none ∧ r.snapshot.journal = .none ∧ r.terminal = none := by
  induction seeded with
  | new => exact ⟨rfl, rfl, rfl⟩
  | register base ok ih => obtain ⟨_, rfl⟩ := register_ok ok; exact ih
  | seed base ok ih => obtain ⟨_, _, _, rfl⟩ := seed_ok ok; exact ih

theorem run_agrees {r : Reducer} (seeded : Seeded r) (events : List Event) :
    PhaseAgrees (machine.run r events) := by
  refine Machine.run_invariant next_agrees ?_ events
  obtain ⟨transaction, journal, _⟩ := seeded_idle seeded
  constructor <;> simp [transaction, journal]

/-- A transaction is open exactly in the phases PREPARE and CLEANUP and nothing is ever in
PUBLISH, so signals happen inside a transaction and intents outside. -/
theorem transaction_phase {r : Reducer} (seeded : Seeded r) (events : List Event) :
    ((machine.run r events).transaction.isSome = true ↔
      (machine.run r events).snapshot.journal = .prepare ∨
      (machine.run r events).snapshot.journal = .cleanup) ∧
    (machine.run r events).snapshot.journal ≠ .publish ∧
    (∀ id result, machine.AcceptedAt r events (.signal id result) →
      (machine.run r events).transaction.isSome = true) ∧
    (∀ intent transaction, machine.AcceptedAt r events (.intent intent transaction) →
      (machine.run r events).transaction = none) := by
  have agrees := run_agrees seeded events
  refine ⟨agrees.opened, agrees.unpublished, ?_, ?_⟩
  · intro id result accepted
    have allowed := (signal_guards accepted).2.2.2
    rw [agrees.opened]
    cases journal : (machine.run r events).snapshot.journal <;>
      simp_all [journalTransitionAllowed]
  · intro intent transaction accepted
    have step := (accepts_step accepted).2
    generalize machine.next (machine.run r events) (.intent intent transaction) = after at step
    cases step with
    | intent closed allowed => exact closed

theorem transaction_phase_signalAfterRollback :
    (machine.run rootReducer signalAfterRollback).transaction.isSome = true := by
  have accepted : machine.AcceptedAt rootReducer signalAfterRollback (.signal "cap.root" .sent) := by
    unfold Machine.AcceptedAt
    decide
  exact (transaction_phase rootReducer_seeded signalAfterRollback).2.2.1 _ _ accepted

/-- States without a transaction in which the prescribed recovery still restores the
ownership checkpoint. -/
def Exposed (r : Reducer) : Prop :=
  r.transaction = none ∧ (r.snapshot.journal = .abort ∨ r.snapshot.stable = .corrupt)

/-- Events that change owners without recording an identity as gone. -/
def EditsOwnership : Event → Prop
  | .acquire .. | .move .. | .release .. => True
  | _ => False

/-- Recovery outside a transaction leaves the live map alone. -/
def RecoveryKeepsLive (r : Reducer) : Prop :=
  r.terminal = none → r.transaction = none → ∀ action,
    machine.accepts r (.recovery action) → (machine.next r (.recovery action)).live = r.live

/-- The checkpoint still describes ownership wherever recovery would restore it. -/
def Synced (r : Reducer) : Prop := Exposed r → r.live = r.checkpointLive.eraseAll r.gone

/-- Ownership was edited in an exposed state: seeded there, or changed by an accepted event. -/
def EditedExposed (r : Reducer) (events : List Event) : Prop :=
  (Exposed r ∧ r.live ≠ ∅) ∨ ∃ first event rest, events = first ++ event :: rest ∧
    machine.AcceptedAt r first event ∧ EditsOwnership event ∧ Exposed (machine.run r first)

theorem settle_live (action : RecoveryAction) (r : Reducer) :
    (settle action r).live = if action.isRollback then r.checkpointLive.eraseAll r.gone
      else r.live := by
  unfold settle
  split_ifs <;> rfl

/-- Outside a transaction the rollback class is prescribed only in exposed states. -/
theorem rollback_exposed {r : Reducer} (agrees : PhaseAgrees r) (closed : r.transaction = none)
    (rolled : (recoveryAction r.snapshot.stable r.snapshot.journal).isRollback = true) :
    Exposed r := by
  obtain ⟨opened, unpublished, committed⟩ := agrees
  refine ⟨closed, ?_⟩
  cases stable : r.snapshot.stable <;> cases journal : r.snapshot.journal <;>
    simp_all [recoveryAction, RecoveryAction.isRollback]

theorem synced_keeps {r : Reducer} (agrees : PhaseAgrees r) (synced : Synced r) :
    RecoveryKeepsLive r := by
  intro _ closed action accepted
  have step := (accepts_step accepted).2
  generalize machine.next r (.recovery action) = after at step ⊢
  cases step with
  | recovery prescribed =>
    subst prescribed
    rw [settle_live]
    split
    · exact (synced (rollback_exposed agrees closed ‹_›)).symm
    · rfl

theorem erase_eraseAll (m : Owners) (keys : Finset String) (key : String) :
    (m.eraseAll keys).erase key = m.eraseAll (insert key keys) := by
  apply Finmap.ext_lookup
  intro other
  by_cases same : other = key
  · subst other; simp
  · simp [Finmap.lookup_erase_ne same, same]

/-- Every recovery leads to a synced state: a rollback by restoring the checkpoint, the
others because they never lead to an exposed one. -/
theorem recovery_synced {r : Reducer} (agrees : PhaseAgrees r) (ledger : Ledger r)
    (observations : List RecoveryObservation) :
    Synced (settle (recoveryAction r.snapshot.stable r.snapshot.journal) { r with
      snapshot := actionTarget (recoveryAction r.snapshot.stable r.snapshot.journal) r.snapshot
      observations := observations }) := by
  by_cases rolled : (recoveryAction r.snapshot.stable r.snapshot.journal).isRollback = true
  · intro _
    simp only [settle, rolled, if_true, rollback]
    rw [Finset.union_eq_right.mpr ledger.checkpointGone]
  · rintro ⟨closed, place⟩
    exfalso
    rw [settle_transaction] at closed
    rw [settle_snapshot] at place
    have opened := agrees.opened
    cases stable : r.snapshot.stable <;> cases journal : r.snapshot.journal <;>
      simp_all [recoveryAction, actionTarget, RecoveryAction.isRollback,
        RecoveryAction.isCompletion]

theorem step_synced {r after : Reducer} {event : Event} (agrees : PhaseAgrees r)
    (ledger : Ledger r) (synced : Synced r) (step : Step r event after)
    (apart : EditsOwnership event → ¬Exposed r) : Synced after := by
  cases step with
  | acquire | move | release => exact fun exposed => absurd exposed (apart trivial)
  | intent => exact fun exposed => absurd exposed.1 (by simp)
  | barrier =>
    rintro ⟨closed, place⟩
    exact synced ⟨closed, Or.inl (place.resolve_right (by simp))⟩
  | @identityFailure id =>
    intro exposed
    rw [← erase_eraseAll, ← synced exposed]
  | @signal id entry result known kind live matching allowed =>
    have opened : r.transaction.isSome = true := by
      rw [agrees.opened]
      cases journal : r.snapshot.journal <;> simp_all [journalTransitionAllowed]
    rintro ⟨closed, _⟩
    have same : (signalEffect r id result).transaction = r.transaction := by cases result <;> rfl
    rw [same] at closed
    simp [closed] at opened
  | recovery prescribed =>
    subst prescribed
    exact recovery_synced agrees ledger _
  | _ => exact synced

theorem run_synced {r : Reducer} (seeded : Seeded r) (events : List Event)
    (apart : ¬EditedExposed r events) : Synced (machine.run r events) := by
  refine Machine.run_history (P := fun events s => ¬EditedExposed r events → Synced s) ?_ ?_ events
    apart
  · intro clean exposed
    have empty : r.live = ∅ := by
      by_contra seeds
      exact clean (Or.inl ⟨exposed, seeds⟩)
    obtain ⟨_, gone, _, clive, _, _⟩ := seeded_ledger seeded
    simp [empty, gone, clive]
  · intro before event known clean
    have earlier : ¬EditedExposed r before := by
      rintro (start | ⟨first, seen, rest, rfl, edited⟩)
      · exact clean (Or.inl start)
      · exact clean (Or.inr ⟨first, seen, rest ++ [event], by simp, edited⟩)
    rcases next_cases (machine.run r before) event with ⟨accepted, _, step⟩ | ⟨_, signalled, seen, same⟩
    · refine step_synced (run_agrees seeded before) (seeded_run_ledger seeded before)
        (known earlier) step fun edits exposed => ?_
      exact clean (Or.inr ⟨before, event, [], rfl, accepted, edits, exposed⟩)
    · rw [same]
      exact known earlier

/-- In every run whose ownership edits all avoid exposed states, recovery outside a
transaction changes no ownership. -/
theorem recovery_keeps_live {r : Reducer} (seeded : Seeded r) (events : List Event)
    (apart : ¬EditedExposed r events) : RecoveryKeepsLive (machine.run r events) :=
  synced_keeps (run_agrees seeded events) (run_synced seeded events apart)

/-- A rollback in ABORT repeated without an edit in between. -/
def rolledBackTwice : List Event := [
  .acquire "cap.root" .sessionRootPidfd 1 "controller", .intent .requestShutdown "txn.first",
  .recovery .rollbackRunning, .recovery .rollbackRunning]

theorem recovery_keeps_live_rolledBackTwice :
    Exposed (machine.run rootReducer rolledBackTwice) ∧
      RecoveryKeepsLive (machine.run rootReducer rolledBackTwice) := by
  refine ⟨by unfold Exposed; decide, recovery_keeps_live rootReducer_seeded rolledBackTwice ?_⟩
  rintro (⟨exposed, _⟩ | ⟨first, event, rest, split, _, edits, exposed⟩)
  · revert exposed
    unfold Exposed
    decide
  · rcases first with _ | ⟨head, first⟩
    · revert exposed
      unfold Exposed
      decide
    · have later : event ∈ rolledBackTwice.tail := by rw [split]; simp
      simp only [rolledBackTwice, List.tail_cons, List.mem_cons, List.not_mem_nil, or_false] at later
      rcases later with rfl | rfl | rfl <;> exact edits

/-- The capability is released after its transaction was rolled back. -/
def releasedAfterRollback : List Event := [
  .acquire "cap.root" .sessionRootPidfd 1 "controller", .intent .requestShutdown "txn.first",
  .recovery .rollbackRunning, .release "cap.root" "controller"]

/-- The second rollback resurrects the released capability. -/
theorem recovery_resurrects_released :
    Seeded rootReducer ∧ ¬RecoveryKeepsLive (machine.run rootReducer releasedAfterRollback) := by
  refine ⟨rootReducer_seeded, fun keeps => ?_⟩
  have restored := keeps (by decide) (by decide) .rollbackRunning (by decide)
  revert restored
  decide

end Darling.Lifecycle
