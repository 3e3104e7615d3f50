import Darling.Lifecycle.Phases

/-! What a recovery restores, and that a second recovery finds nothing more to do. -/
namespace Darling.Lifecycle

/-- A recovery that ends the transaction. -/
def Closes (event : Event) : Prop :=
  ∃ action : RecoveryAction, event = .recovery action ∧ (action.isRollback = true ∨ action.isCompletion = true)

/-- The transaction that began in the state is still open, with the checkpoint it took. -/
structure Pending (s r : Reducer) : Prop where
  opened : r.transaction ≠ none
  live : r.checkpointLive = s.live
  matched : r.checkpointMatched = s.matched

theorem Pending.congr {s r after : Reducer} (pending : Pending s r) (transaction : after.transaction = r.transaction)
    (live : after.checkpointLive = r.checkpointLive) (matched : after.checkpointMatched = r.checkpointMatched) :
    Pending s after :=
  ⟨transaction ▸ pending.opened, live.trans pending.live, matched.trans pending.matched⟩

@[simp] theorem settle_checkpointMatched (action : RecoveryAction) (r : Reducer) :
    (settle action r).checkpointMatched = r.checkpointMatched := by
  unfold settle
  split_ifs <;> rfl

theorem signalEffect_pending {s r : Reducer} (pending : Pending s r) (id : String) (result : SignalResult) :
    Pending s (signalEffect r id result) := by
  cases result with
  | sent => exact pending
  | gone => exact pending.congr rfl rfl rfl
  | rejected => exact pending.congr rfl rfl rfl
  | deadline => exact pending.congr rfl rfl rfl

/-- A second intent is refused, and only a recovery of the closing kind ends the transaction. -/
theorem step_pending {s r after : Reducer} {event : Event} (pending : Pending s r) (step : Step r event after) :
    Pending s after ∨ Closes event := by
  cases step with
  | intent closed allowed => exact absurd closed pending.opened
  | @signal id entry result known kind live matching allowed =>
    exact .inl ((signalEffect_pending pending id result).congr rfl rfl rfl)
  | @recovery action prescribed =>
    by_cases closes : action.isRollback = true ∨ action.isCompletion = true
    · exact .inr ⟨action, rfl, closes⟩
    · refine .inl (pending.congr ?_ (settle_checkpointLive _ _) (settle_checkpointMatched _ _))
      rw [settle_transaction, if_neg closes]
  | endpoint other => exact .inl pending
  | checkpointCompleted valid completed => exact .inl pending
  | memberObserved known kind other => exact .inl pending
  | _ => exact .inl (pending.congr rfl rfl rfl)

theorem next_pending {s : Reducer} (r : Reducer) (event : Event) (pending : Pending s r) :
    Pending s (machine.next r event) ∨ (machine.accepts r event ∧ Closes event) := by
  rcases next_cases r event with ⟨accepted, -, step⟩ | ⟨-, signalled, seen, same⟩
  · rcases step_pending pending step with still | closed
    · exact .inl still
    · exact .inr ⟨accepted, closed⟩
  · rw [same]
    exact .inl (pending.congr rfl rfl rfl)

theorem intent_pending {s : Reducer} {kind : IntentKind} {transaction : String}
    (accepted : machine.accepts s (.intent kind transaction)) :
    Pending s (machine.next s (.intent kind transaction)) := by
  have step := (accepts_step accepted).2
  generalize machine.next s (.intent kind transaction) = after at step
  cases step with
  | intent closed allowed => exact ⟨nofun, rfl, rfl⟩

/-- Ownership as it was when the transaction began, less what is gone by now. -/
def Restored (s last after : Reducer) : Prop :=
  after.live = s.live.eraseAll last.gone ∧ after.matched = s.matched \ last.gone ∧ after.gone = last.gone ∧
    after.consumed = last.consumed ∧ after.transaction = none

theorem rollback_restored {s last after : Reducer} {action : RecoveryAction} (pending : Pending s last)
    (ledger : Ledger last)
    (rolls : action.isRollback = true) (step : Step last (.recovery action) after) : Restored s last after := by
  cases step with
  | recovery prescribed =>
    unfold settle
    rw [if_pos rolls]
    refine ⟨?_, ?_, Finset.union_eq_right.mpr ledger.checkpointGone, rfl, rfl⟩
    · exact congrArg (Finmap.eraseAll last.gone) pending.live
    · exact congrArg (· \ last.gone) pending.matched

/-- A rollback gives back the ownership from before the intent, whatever happened in the transaction. -/
theorem rollback_restores (r : Reducer) (before events : List Event) (kind : IntentKind) (transaction : String)
    (action : RecoveryAction) (seeded : Seeded r) (opened : machine.AcceptedAt r before (.intent kind transaction))
    (unclosed : ¬machine.Earlier (machine.run r (before ++ [.intent kind transaction])) events Closes)
    (rolls : action.isRollback = true)
    (accepted : machine.AcceptedAt r (before ++ .intent kind transaction :: events) (.recovery action)) :
    Restored (machine.run r before) (machine.run r (before ++ .intent kind transaction :: events))
      (machine.run r (before ++ .intent kind transaction :: events ++ [.recovery action])) := by
  have start : Pending (machine.run r before) (machine.run r (before ++ [.intent kind transaction])) := by
    rw [Machine.run_concat]
    exact intent_pending opened
  have later : machine.run r (before ++ .intent kind transaction :: events) =
      machine.run (machine.run r (before ++ [.intent kind transaction])) events := by
    rw [← Machine.run_append, List.append_assoc]
    rfl
  rcases Machine.pending next_pending start events with pending | closed
  · rw [Machine.run_concat]
    refine rollback_restored ?_ (seeded_run_ledger seeded _) rolls (accepts_step accepted).2
    rw [later]
    exact pending
  · exact absurd closed unclosed

/-- A capability is lost in a transaction that moved another one, and a drain was continued. -/
def lostInTransaction : List Event := [
  .move "cap.lease" "controller" "worker", .identity "cap.root" false, .intent .startSession "txn.other",
  .barrierEntered]

def beforeTransaction : List Event := [
  .acquire "cap.root" .sessionRootPidfd 1 "controller", .acquire "cap.lease" .sharedSessionLease 1 "controller"]

theorem rollback_restores_lostInTransaction :
    Restored (machine.run rootReducer beforeTransaction)
      (machine.run rootReducer (beforeTransaction ++ .intent .requestShutdown "txn" :: lostInTransaction))
      (machine.run rootReducer (beforeTransaction ++ .intent .requestShutdown "txn" :: lostInTransaction ++
        [.recovery .rollbackRunning])) := by
  refine rollback_restores rootReducer beforeTransaction lostInTransaction .requestShutdown "txn" .rollbackRunning
    rootReducer_seeded ?_ ?_ rfl ?_
  · unfold Machine.AcceptedAt
    decide
  · rintro ⟨first, event, rest, split, -, action, rfl, -⟩
    have member : Event.recovery action ∈ lostInTransaction := by
      rw [split]
      exact List.mem_append_right _ List.mem_cons_self
    simp [lostInTransaction] at member
  · unfold Machine.AcceptedAt
    decide

section Idempotence

/-- The state that the prescribed recovery leaves. -/
def recovered (r : Reducer) : Reducer :=
  machine.next r (.recovery (recoveryAction r.snapshot.stable r.snapshot.journal))

theorem recovery_accepted {r : Reducer} (running : r.terminal = none) :
    machine.accepts r (.recovery (recoveryAction r.snapshot.stable r.snapshot.journal)) ∧
    recovered r = settle (recoveryAction r.snapshot.stable r.snapshot.journal) { r with
      snapshot := actionTarget (recoveryAction r.snapshot.stable r.snapshot.journal) r.snapshot
      observations := r.observations ++
        [⟨r.snapshot.stable, r.snapshot.journal, recoveryAction r.snapshot.stable r.snapshot.journal⟩] } := by
  have applied := step_apply running (.recovery rfl)
  unfold recovered
  simp only [machine, applied]
  exact ⟨rfl, rfl⟩

/-- How the action prescribed after a recovery relates to the one before it. -/
def Repeats (first second : RecoveryAction) : Prop :=
  (first.isRollback = true ∧ second.isRollback = true) ∨ (first.isCompletion = true ∧ second = .noop) ∨
    (first = .noop ∧ second = .noop) ∨ (first = .continueDrain ∧ second = .continueDrain)

/-- The target of a recovery is a fixed point of the matrix. -/
theorem recoveryAction_repeats (s : StateSnapshot) :
    let target := actionTarget (recoveryAction s.stable s.journal) s
    Repeats (recoveryAction s.stable s.journal) (recoveryAction target.stable target.journal) ∧
      actionTarget (recoveryAction target.stable target.journal) target = target := by
  obtain ⟨stable, journal, intent⟩ := s
  cases stable <;> cases journal <;>
    simp [Repeats, recoveryAction, actionTarget, RecoveryAction.isRollback, RecoveryAction.isCompletion]

theorem settle_outside (action : RecoveryAction) (r : Reducer) (snapshot : StateSnapshot)
    (observations : List RecoveryObservation) :
    settle action { r with snapshot, observations } = { settle action r with snapshot, observations } := by
  unfold settle
  split_ifs <;> rfl

theorem rollback_rollback {r : Reducer} (within : r.checkpointGone ⊆ r.gone) : rollback (rollback r) = rollback r := by
  have gone : r.checkpointGone ∪ r.gone = r.gone := Finset.union_eq_right.mpr within
  have discharged : Obligation.operationFailure ∉ r.obligations.filter fun item => !item.isRolledBack := by
    simp [Obligation.isRolledBack]
  unfold rollback
  simp only [gone, discharged, decide_false, Bool.or_false, Finset.filter_filter, and_self]

theorem continueDrain_continueDrain (r : Reducer) : continueDrain (continueDrain r) = continueDrain r := by
  have discharged : Obligation.operationFailure ∉ r.obligations.filter fun item => !item.isDrained := by
    simp [Obligation.isDrained]
  unfold continueDrain
  simp only [discharged, decide_false, Bool.or_false, Finset.filter_filter, and_self]

/-- The second recovery settles what the first one settled. -/
theorem settle_repeats {first second : RecoveryAction} {r : Reducer} (repeats : Repeats first second)
    (within : r.checkpointGone ⊆ r.gone) : settle second (settle first r) = settle first r := by
  rcases repeats with ⟨one, two⟩ | ⟨one, rfl⟩ | ⟨rfl, rfl⟩ | ⟨rfl, rfl⟩
  · unfold settle
    rw [if_pos one, if_pos two]
    exact rollback_rollback within
  · rfl
  · rfl
  · exact continueDrain_continueDrain r

theorem recovered_terminal {r : Reducer} (running : r.terminal = none) : (recovered r).terminal = none := by
  rw [(recovery_accepted running).2]
  unfold settle
  split_ifs <;> exact running

theorem recovered_recovered {r : Reducer} (running : r.terminal = none) (within : r.checkpointGone ⊆ r.gone) :
    { recovered (recovered r) with observations := (recovered r).observations } = recovered r := by
  have once := (recovery_accepted running).2
  have twice := (recovery_accepted (recovered_terminal running)).2
  have snapshot : (recovered r).snapshot = actionTarget (recoveryAction r.snapshot.stable r.snapshot.journal)
      r.snapshot := by
    rw [once, settle_snapshot]
  obtain ⟨repeats, fixed⟩ := recoveryAction_repeats r.snapshot
  rw [snapshot, fixed, ← snapshot, settle_outside] at twice
  rw [twice, snapshot]
  have settled := settle_repeats (r := { r with
    snapshot := actionTarget (recoveryAction r.snapshot.stable r.snapshot.journal) r.snapshot
    observations := r.observations ++
      [⟨r.snapshot.stable, r.snapshot.journal, recoveryAction r.snapshot.stable r.snapshot.journal⟩] }) repeats within
  rw [← once] at settled
  rw [settled, ← snapshot]

/-- The two recoveries as a caller applies them. -/
def RecoversTwice (r : Reducer) : Prop :=
  machine.accepts r (.recovery (recoveryAction r.snapshot.stable r.snapshot.journal)) ∧
    machine.accepts (recovered r)
      (.recovery (recoveryAction (recovered r).snapshot.stable (recovered r).snapshot.journal)) ∧
    { recovered (recovered r) with observations := (recovered r).observations } = recovered r

/-- A prescribed recovery always succeeds, and where the checkpoint lists no identity as gone that is not
gone, which every run guarantees, a second one changes nothing but the log. -/
theorem recovery_idempotent (r : Reducer) (running : r.terminal = none) :
    machine.accepts r (.recovery (recoveryAction r.snapshot.stable r.snapshot.journal)) ∧
      (r.checkpointGone ⊆ r.gone → RecoversTwice r) ∧
      ∀ start events, Seeded start → machine.run start events = r → r.checkpointGone ⊆ r.gone := by
  refine ⟨(recovery_accepted running).1, fun within => ?_, ?_⟩
  · exact ⟨(recovery_accepted running).1, (recovery_accepted (recovered_terminal running)).1,
      recovered_recovered running within⟩
  · rintro start events seeded rfl
    exact (seeded_run_ledger seeded events).checkpointGone

theorem recovery_idempotent_lostInTransaction :
    RecoversTwice (machine.run rootReducer (beforeTransaction ++ .intent .requestShutdown
      "txn" :: lostInTransaction)) := by
  have idempotent := recovery_idempotent
    (machine.run rootReducer (beforeTransaction ++ .intent .requestShutdown "txn" :: lostInTransaction)) (by decide)
  exact idempotent.2.1 (idempotent.2.2 rootReducer _ rootReducer_seeded rfl)

/-- A state whose checkpoint has a capability both live and gone, which is not gone itself. -/
def staleCheckpoint : Reducer :=
  { Reducer.new .corrupt with
    checkpointLive := (∅ : Owners).insert "cap.root" "controller"
    checkpointGone := {"cap.root"} }

/-- The first recovery makes the capability live and gone, the second one drops it. -/
theorem staleCheckpoint_recovers_further : staleCheckpoint.terminal = none ∧ ¬RecoversTwice staleCheckpoint := by
  refine ⟨rfl, fun twice => ?_⟩
  have same := congrArg (fun r : Reducer => decide ("cap.root" ∈ r.live)) twice.2.2
  revert same
  decide

end Idempotence

end Darling.Lifecycle
