import Darling.Lifecycle.Ledger

/-! Obligations against the history of a run. An obligation stays until a recovery of the
class that discharges it, so a successful terminal proves those recoveries happened. -/
namespace Darling.Lifecycle

/-- Obligations an accepted event creates. -/
def Event.creates : Event → Finset Obligation
  | .membership _ completeness =>
    {if completeness = "TIMEOUT" ∨ completeness = "OVERFLOW" then .membershipIncomplete
      else .membershipClosed}
  | .identity _ false => {.identityFailure}
  | .signal _ .rejected => {.signalFailure}
  | .signal _ .deadline => {.fault "TIMEOUT"}
  | .endpoint _ _ result => if result = "REJECTED" then {.endpointFailure} else ∅
  | .operationCheckpoint operation checkpoint _ result =>
    if result ∈ ["INJECTED", "ERROR"] then insert .operationFailure (companion operation checkpoint)
    else ∅
  | .memberObserved _ origin => if origin = "LATE_FORK" then {.lateForkRecovery} else ∅
  | .fault name => {.fault name}
  | _ => ∅

/-- The two recovery classes that discharge obligations. -/
def Discharges (item : Obligation) (event : Event) : Prop :=
  ∃ action, event = .recovery action ∧
    ((action.isRollback = true ∧ item.isRolledBack = true) ∨
      (action = .continueDrain ∧ item.isDrained = true))

theorem settle_obligations (action : RecoveryAction) (r : Reducer) (item : Obligation)
    (present : item ∈ r.obligations) :
    item ∈ (settle action r).obligations ∨ Discharges item (.recovery action) := by
  unfold settle
  split_ifs with rolled completed drained
  · by_cases kept : item.isRolledBack = true
    · exact Or.inr ⟨action, rfl, Or.inl ⟨rolled, kept⟩⟩
    · exact Or.inl (by simp [rollback, present, kept])
  · exact Or.inl present
  · by_cases kept : item.isDrained = true
    · exact Or.inr ⟨action, rfl, Or.inr ⟨drained, kept⟩⟩
    · exact Or.inl (by simp [continueDrain, present, kept])
  · exact Or.inl present

/-- Every accepted event records what it creates and keeps the rest, unless it is a
recovery of the discharging class. -/
theorem step_obligations {r after : Reducer} {event : Event} (step : Step r event after) :
    event.creates ⊆ after.obligations ∧
    ∀ item ∈ r.obligations, item ∈ after.obligations ∨ Discharges item event := by
  cases step with
  | membership | identityFailure | lateFork | fault | endpointRejected =>
    refine ⟨by simp [Event.creates], fun item present => Or.inl ?_⟩
    exact Finset.mem_insert_of_mem present
  | @signal id entry result =>
    cases result
    case rejected | deadline =>
      refine ⟨by simp [Event.creates, signalEffect], fun item present => Or.inl ?_⟩
      exact Finset.mem_insert_of_mem present
    all_goals exact ⟨by simp [Event.creates], fun item present => Or.inl present⟩
  | checkpointRejected valid failed =>
    refine ⟨?_, fun item present => Or.inl (by simp [present])⟩
    simp only [Event.creates, failed, if_true]
    intro item made
    rcases Finset.mem_insert.mp made with rfl | made
    · simp
    · simp [made]
  | checkpointCompleted valid completed =>
    exact ⟨by simp [Event.creates, completed], fun item present => Or.inl present⟩
  | endpoint other =>
    exact ⟨by simp [Event.creates, other], fun item present => Or.inl present⟩
  | memberObserved known kind other =>
    exact ⟨by simp [Event.creates, other], fun item present => Or.inl present⟩
  | @recovery action prescribed =>
    exact ⟨by simp [Event.creates], fun item present => settle_obligations action _ item present⟩
  | _ => exact ⟨by simp [Event.creates], fun item present => Or.inl present⟩

theorem next_obligations (item : Obligation) (r : Reducer) (event : Event)
    (present : item ∈ r.obligations) :
    item ∈ (machine.next r event).obligations ∨
      (machine.accepts r event ∧ Discharges item event) := by
  rcases next_cases r event with ⟨accepted, _, step⟩ | ⟨_, signalled, seen, same⟩
  · exact ((step_obligations step).2 item present).imp_right fun ended => ⟨accepted, ended⟩
  · exact Or.inl (same ▸ present)

/-- An obligation created by an accepted event is still there or was discharged since. -/
theorem created_or_discharged {r : Reducer} {event : Event} (accepted : machine.accepts r event)
    {item : Obligation} (made : item ∈ event.creates) (rest : List Event) :
    item ∈ (machine.run (machine.next r event) rest).obligations ∨
      machine.Earlier (machine.next r event) rest (Discharges item) :=
  Machine.pending (next_obligations item) ((step_obligations (accepts_step accepted).2).1 made) rest

theorem success_resolved {r : Reducer} (accepted : machine.accepts r (.terminal .success)) :
    ∀ item ∈ r.obligations, item.isUnresolved = false := by
  have step := (accepts_step accepted).2
  generalize machine.next r (.terminal .success) = after at step
  cases step with
  | terminal sound =>
    have none_left := sound rfl
    simpa [unresolved] using none_left

/-- Events whose obligation only a rollback-class recovery discharges. -/
inductive NeedsRollback : Event → Prop where
  | fault (name : String) : NeedsRollback (.fault name)
  | identity (id : String) : NeedsRollback (.identity id false)
  | lateFork (id : String) : NeedsRollback (.memberObserved id "LATE_FORK")
  | endpoint (endpoint operation : String) : NeedsRollback (.endpoint endpoint operation "REJECTED")
  | deadline (id : String) : NeedsRollback (.signal id .deadline)

/-- Events whose obligations a continued drain discharges as well. -/
inductive NeedsRecovery : Event → Prop where
  | checkpoint (operation checkpoint placement result : String)
      (failed : result ∈ ["INJECTED", "ERROR"]) :
      NeedsRecovery (.operationCheckpoint operation checkpoint placement result)
  | rejected (id : String) : NeedsRecovery (.signal id .rejected)

def IsRollback (event : Event) : Prop :=
  ∃ action, event = .recovery action ∧ action.isRollback = true

theorem needsRollback_creates {event : Event} (needs : NeedsRollback event) :
    ∃ item ∈ event.creates, item.isUnresolved = true ∧ item.isDrained = false := by
  cases needs <;> simp [Event.creates, Obligation.isUnresolved, Obligation.isDrained]

theorem needsRecovery_creates {event : Event} (needs : NeedsRecovery event) :
    ∃ item ∈ event.creates, item.isUnresolved = true := by
  cases needs with
  | checkpoint operation checkpoint placement result failed =>
    exact ⟨.operationFailure, by simp [Event.creates, failed], rfl⟩
  | rejected id => exact ⟨.signalFailure, by simp [Event.creates], rfl⟩

/-- Any unresolved obligation of an earlier event was discharged before a success. -/
theorem discharged_before_success {r : Reducer} {first rest : List Event} {event : Event}
    (success : machine.AcceptedAt r (first ++ event :: rest) (.terminal .success))
    (accepted : machine.AcceptedAt r first event) {item : Obligation}
    (made : item ∈ event.creates) (open_ : item.isUnresolved = true) :
    machine.Earlier (machine.run r (first ++ [event])) rest (Discharges item) := by
  have resolved := success_resolved success
  rw [Machine.run_append, Machine.run_cons] at resolved
  rw [Machine.run_concat]
  rcases created_or_discharged accepted made rest with present | ended
  · have closed := resolved item present
    rw [open_] at closed
    contradiction
  · exact ended

/-- Success is sound: whatever an accepted event left unresolved was discharged by a later
accepted recovery of the right class, and no incomplete membership was ever accepted. -/
theorem success_sound (r : Reducer) (events : List Event)
    (success : machine.AcceptedAt r events (.terminal .success)) :
    (∀ first event rest, events = first ++ event :: rest → machine.AcceptedAt r first event →
      (NeedsRollback event →
        machine.Earlier (machine.run r (first ++ [event])) rest IsRollback) ∧
      (NeedsRecovery event →
        machine.Earlier (machine.run r (first ++ [event])) rest fun later =>
          IsRollback later ∨ later = .recovery .continueDrain)) ∧
    ¬machine.Earlier r events fun event => ∃ members completeness,
      event = .membership members completeness ∧
        (completeness = "TIMEOUT" ∨ completeness = "OVERFLOW") := by
  constructor
  · rintro first event rest rfl accepted
    constructor
    · intro needs
      obtain ⟨item, made, open_, undrained⟩ := needsRollback_creates needs
      refine (discharged_before_success success accepted made open_).mono ?_
      rintro later ⟨action, rfl, ⟨rolled, _⟩ | ⟨_, drained⟩⟩
      · exact ⟨action, rfl, rolled⟩
      · rw [undrained] at drained
        contradiction
    · intro needs
      obtain ⟨item, made, open_⟩ := needsRecovery_creates needs
      refine (discharged_before_success success accepted made open_).mono ?_
      rintro later ⟨action, rfl, ⟨rolled, _⟩ | ⟨rfl, _⟩⟩
      · exact Or.inl ⟨action, rfl, rolled⟩
      · exact Or.inr rfl
  · rintro ⟨first, event, rest, rfl, accepted, members, completeness, rfl, incomplete⟩
    have made : Obligation.membershipIncomplete ∈
        (Event.membership members completeness).creates := by
      simp [Event.creates, incomplete]
    obtain ⟨_, _, _, _, _, action, _, ⟨_, impossible⟩ | ⟨_, impossible⟩⟩ :=
      discharged_before_success success accepted made rfl
    all_goals contradiction

/-- A rejected signal, a refused nested intent, a failed checkpoint and an injected fault;
the last rollback clears what is left. -/
def rolledBackDrain : List Event := [
  .acquire "cap.root" .sessionRootPidfd 1 "controller", .identity "cap.root" true,
  .intent .requestShutdown "txn.drain", .signal "cap.root" .rejected,
  .intent .requestShutdown "txn.nested", .recovery .drainToReady,
  .operationCheckpoint "RENAME_EXACT" "after-move-before-verify" "AFTER" "ERROR",
  .intent .requestShutdown "txn.second", .fault "SIGINT", .recovery .rollbackReady]

theorem success_sound_rolledBackDrain :
    machine.Earlier (machine.run rootReducer (rolledBackDrain.take 9))
      (rolledBackDrain.drop 9) IsRollback := by
  have success : machine.AcceptedAt rootReducer rolledBackDrain (.terminal .success) := by
    unfold Machine.AcceptedAt
    decide
  have injected : machine.AcceptedAt rootReducer (rolledBackDrain.take 8) (.fault "SIGINT") := by
    unfold Machine.AcceptedAt
    decide
  exact ((success_sound rootReducer rolledBackDrain success).1 (rolledBackDrain.take 8)
    (.fault "SIGINT") (rolledBackDrain.drop 9) rfl injected).1 (.fault "SIGINT")

end Darling.Lifecycle
