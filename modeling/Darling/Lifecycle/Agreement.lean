import Darling.Lifecycle.Replay
import Darling.Lifecycle.OracleSteps

/-! The reducer and the oracle step together. `Sim` relates their states; the two ownership
checkpoints are related separately, because the oracle's starts at the seeded ownership and
the reducer's starts empty. -/
namespace Darling.Lifecycle

open Oracle (Runtime isClosed isProcess hasIdentity kindOf consumedOf)

/-- Obligations only the reducer records. -/
def Obligation.isCompanion : Obligation → Bool
  | .quarantineFailure | .inodeAbaFailure => true
  | _ => false

def EventData.isIntent : EventData → Bool
  | .intentDeclared .. => true
  | _ => false

/-- The event observes the capability in a way other than a late fork. -/
def EventData.observes (capability : String) : EventData → Bool
  | .memberObserved id origin => id == capability && origin != .lateFork
  | _ => false

/-- The catalog knows the capability, and as which kind. -/
def Oracle.AnchoredCapability.entry (item : Oracle.AnchoredCapability) : CatalogEntry :=
  ⟨item.kind, item.generation⟩

structure Sim (r : Reducer) (p : Runtime) : Prop where
  snapshot : p.snapshot = r.snapshot
  catalog : ∀ id, r.catalog.lookup id = (p.catalog.lookup id).map Oracle.AnchoredCapability.entry
  live : p.live = r.live
  matched : p.matched = r.matched
  gone : p.gone = r.gone
  obligations : p.obligations = r.obligations.filter fun item => !item.isCompanion
  companions : ∀ item ∈ r.obligations, item.isCompanion = true → .operationFailure ∈ r.obligations
  steps : p.recoveryActions.length = r.observations.length
  observations : p.recoveryObservations = r.observations
  consumed : ∀ id generation, generation ∈ consumedOf p id ↔ (id, generation) ∈ r.consumed
  checkpointMatched : p.checkpointMatched = r.checkpointMatched
  checkpointGone : p.checkpointGone = r.checkpointGone
  transaction : isClosed r.snapshot.journal = false → p.transactionId = r.transaction
  lateForkSeen : p.lateForkSeen = r.lateForkSeen
  lateForkFaultSeen : p.lateForkFaultSeen = r.lateForkFaultSeen
  membershipClosed : p.membershipClosed = r.membershipClosed
  lateForkAfterClosed : p.lateForkAfterClosed = r.lateForkAfterClosed
  terminal : p.terminalOutcome = r.terminal
  quiet : p.membershipSeenAfterGone = false ∧ r.membershipSeenAfterGone = false
  identified : p.signalWithoutIdentity = false ∧ r.signalWithoutIdentity = false

/-- The event is mapped and applied. -/
def ReducerStep (r : Reducer) (data : EventData) (after : Reducer) : Prop :=
  ∃ mapped, mapEvent data r.catalog = .ok mapped ∧ applyMapped r mapped = .ok after

theorem applyMapped_some {r after : Reducer} {event : Event} :
    applyMapped r (some event) = .ok after ↔ apply r event = .ok () after := by
  simp only [applyMapped]
  split <;> simp_all

theorem apply_ok_step {r after : Reducer} {event : Event} (ok : apply r event = .ok () after) :
    r.terminal = none ∧ Step r event after := by
  have accepted : machine.accepts r event := by simp [machine, ok, Reply.accepted]
  have next : machine.next r event = after := by simp [machine, ok, Reply.after]
  exact next ▸ accepts_step accepted

theorem ReducerStep.of_step {r after : Reducer} {data : EventData} {event : Event}
    (mapped : mapEvent data r.catalog = .ok (some event)) (running : r.terminal = none)
    (step : Step r event after) : ReducerStep r data after :=
  ⟨some event, mapped, applyMapped_some.mpr (step_apply running step)⟩

theorem ReducerStep.step {r after : Reducer} {data : EventData} {event : Event}
    (step : ReducerStep r data after) (mapped : mapEvent data r.catalog = .ok (some event)) :
    Step r event after := by
  obtain ⟨other, map, applied⟩ := step
  rw [mapped] at map
  cases map
  exact (apply_ok_step (applyMapped_some.mp applied)).2

theorem ReducerStep.running {r after : Reducer} {data : EventData} {event : Event}
    (step : ReducerStep r data after) (mapped : mapEvent data r.catalog = .ok (some event)) :
    r.terminal = none := by
  obtain ⟨other, map, applied⟩ := step
  rw [mapped] at map
  cases map
  exact (apply_ok_step (applyMapped_some.mp applied)).1

/-- A barrier that was not entered does not reach the reducer. -/
theorem reducerStep_missed {r after : Reducer} {kind : BarrierKind} {result : BarrierResult}
    (missed : result ≠ .entered) :
    ReducerStep r (.barrierEntered kind result) after ↔ after = r := by
  simp [ReducerStep, mapEvent, missed, applyMapped, eq_comm]

theorem acquire_step {r after : Reducer} {capability owner : String}
    (step : ReducerStep r (.capabilityAcquired capability owner) after) :
    ∃ entry, r.catalog.lookup capability = some entry ∧ capability ∉ r.live ∧
      (capability, entry.generation) ∉ r.consumed ∧ after = { r with
        consumed := insert (capability, entry.generation) r.consumed
        live := r.live.insert capability owner } := by
  cases known : r.catalog.lookup capability with
  | none =>
    obtain ⟨mapped, map, _⟩ := step
    simp [mapEvent, known] at map
  | some entry =>
    have mapped : mapEvent (.capabilityAcquired capability owner) r.catalog =
        .ok (some (.acquire capability entry.kind entry.generation owner)) := by
      simp [mapEvent, known]
    cases step.step mapped with
    | acquire _ idle fresh => exact ⟨entry, rfl, idle, fresh, rfl⟩

theorem endpoint_step {r after : Reducer} {endpoint operation result : String}
    (step : Step r (.endpoint endpoint operation result) after) :
    after = if result = "REJECTED" then
      { r with obligations := insert .endpointFailure r.obligations } else r := by
  cases step with
  | endpointRejected => simp
  | endpoint other => simp [other]

theorem checkpoint_step {r after : Reducer} {operation checkpoint placement result : String}
    (step : Step r (.operationCheckpoint operation checkpoint placement result) after) :
    after = if result ∈ ["INJECTED", "ERROR"] then { r with
      operationRejectionSeen := true
      obligations := companion operation checkpoint ∪ insert .operationFailure r.obligations }
    else r := by
  cases step with
  | checkpointRejected _ failed => exact (if_pos failed).symm
  | checkpointCompleted _ completed => exact (if_neg completed).symm

theorem observed_step {r after : Reducer} {id origin : String}
    (step : Step r (.memberObserved id origin) after) :
    (∃ entry, r.catalog.lookup id = some entry ∧ entry.kind.isPidfd = true) ∧
      after = if origin = "LATE_FORK" then { r with
        lateForkSeen := true
        lateForkAfterClosed := r.membershipClosed
        obligations := insert .lateForkRecovery r.obligations } else r := by
  cases step with
  | lateFork known kind => exact ⟨⟨_, known, kind⟩, by simp⟩
  | memberObserved known kind other => exact ⟨⟨_, known, kind⟩, by simp [other]⟩

theorem validCheckpoint_texts (operation : BoundaryOperation) (checkpoint : Boundary.Checkpoint)
    (placement : Placement) (result : CheckpointResult) :
    ValidCheckpoint operation.text (checkpointText checkpoint) placement.text result.text := by
  refine ⟨?_, ?_, ?_, ?_⟩
  · cases operation <;> decide
  · cases checkpoint <;> decide
  · cases placement <;> decide
  · cases result <;> decide

theorem failed_text (result : CheckpointResult) :
    result.text ∈ ["INJECTED", "ERROR"] ↔ result ≠ .completed := by
  cases result <;> decide

theorem rejected_text (result : EndpointResult) : result.text = "REJECTED" ↔ result = .rejected := by
  cases result <;> decide

theorem lateFork_text (origin : MemberOrigin) : origin.text = "LATE_FORK" ↔ origin = .lateFork := by
  cases origin <;> decide

theorem closed_text (completeness : Completeness) :
    completeness.text = "CLOSED" ↔ completeness = .closed := by
  cases completeness <;> decide

theorem incomplete_text (completeness : Completeness) :
    (completeness.text = "TIMEOUT" ∨ completeness.text = "OVERFLOW") ↔
      completeness ∈ [Completeness.timeout, .overflow] := by
  cases completeness <;> decide

theorem lateForkFault_text (fault : FaultName) : fault.text = "LATE_FORK" ↔ fault = .lateFork := by
  cases fault <;> decide

section Guards

variable {r : Reducer} {p : Runtime} (sim : Sim r p)
include sim

theorem Sim.mem_catalog {id : String} : id ∈ p.catalog ↔ id ∈ r.catalog := by
  rw [← Finmap.lookup_isSome, ← Finmap.lookup_isSome, sim.catalog id, Option.isSome_map]

theorem Sim.isProcess_iff {id : String} :
    isProcess p id = true ↔ ∃ entry, r.catalog.lookup id = some entry ∧ entry.kind.isPidfd = true := by
  rw [sim.catalog id]
  unfold isProcess kindOf
  cases p.catalog.lookup id with
  | none => simp
  | some item =>
    obtain ⟨_, kind, _, _⟩ := item
    cases kind <;> simp [Oracle.AnchoredCapability.entry, CapabilityKind.isPidfd]

theorem Sim.hasIdentity_iff {id : String} :
    hasIdentity p id = true ↔
      ∃ entry, r.catalog.lookup id = some entry ∧ entry.kind.isIdentity = true := by
  rw [sim.catalog id]
  unfold hasIdentity isProcess kindOf
  cases p.catalog.lookup id with
  | none => simp
  | some item =>
    obtain ⟨_, kind, _, _⟩ := item
    cases kind <;>
      simp [Oracle.AnchoredCapability.entry, CapabilityKind.isIdentity, CapabilityKind.isPidfd]

theorem Sim.lookup_some {id : String} {entry : CatalogEntry} (known : r.catalog.lookup id = some entry) :
    ∃ item, p.catalog.lookup id = some item ∧ item.entry = entry := by
  rw [sim.catalog id, Option.map_eq_some_iff] at known
  exact known

/-- Where the reducer accepts an event, the oracle does, unless the event reopens a closed
journal. -/
theorem Sim.oracle_accepts {after : Reducer} {data : EventData} (ledger : Ledger r)
    (reopens : data.isIntent = true → isClosed r.snapshot.journal = false)
    (step : ReducerStep r data after) : ∃ p', Oracle.Step p data p' := by
  have known : ∀ id ∈ r.live, id ∈ p.catalog := by
    intro id live
    obtain ⟨entry, known, _⟩ := ledger.live id live
    exact sim.mem_catalog.mpr (Finmap.mem_of_lookup_eq_some known)
  cases data with
  | capabilityAcquired capability owner =>
    obtain ⟨entry, known, idle, fresh, _⟩ := acquire_step step
    obtain ⟨item, listed, rfl⟩ := sim.lookup_some known
    refine ⟨_, .acquired listed (sim.live ▸ idle) ?_⟩
    rw [sim.consumed]
    exact fresh
  | capabilityMoved capability source target =>
    cases step.step rfl with
    | move owned =>
      exact ⟨_, .moved (known _ (Finmap.mem_of_lookup_eq_some owned)) (sim.live ▸ owned)⟩
  | capabilityReleased capability owner reason =>
    cases step.step rfl with
    | release owned =>
      exact ⟨_, .released (known _ (Finmap.mem_of_lookup_eq_some owned)) (sim.live ▸ owned)⟩
  | intentDeclared intent transaction =>
    cases step.step rfl with
    | intent closed allowed =>
      have stillOpen := reopens rfl
      refine ⟨_, .intent ((sim.transaction stillOpen).trans closed) ?_⟩
      rw [Oracle.mem_journalTransitions, sim.snapshot]
      exact ⟨allowed, by simp [stillOpen]⟩
  | barrierEntered kind result =>
    by_cases entered : result = .entered
    · subst entered
      cases step.step rfl with
      | barrier allowed =>
        refine ⟨_, .barrier ?_⟩
        rw [Oracle.mem_stableTransitions, sim.snapshot]
        exact allowed
    · exact ⟨_, .barrierMissed entered⟩
  | membershipSnapshot authority members completeness =>
    cases step.step rfl with
    | membership _ members_live =>
      refine ⟨_, .membership ?_ ?_ ?_⟩
      · intro member listed
        obtain ⟨entry, _, _, live⟩ := members_live member listed
        exact known member live
      · intro member listed
        obtain ⟨entry, _, _, live⟩ := members_live member listed
        exact sim.live ▸ live
      · intro member listed
        obtain ⟨entry, lookup, kind, _⟩ := members_live member listed
        exact sim.isProcess_iff.mpr ⟨entry, lookup, kind⟩
  | identityRevalidated capability result =>
    by_cases same : result = .same
    · subst same
      cases step.step rfl with
      | identityMatch lookup kind live =>
        exact ⟨_, .identitySame (known _ live) (sim.live ▸ live)
          (sim.hasIdentity_iff.mpr ⟨_, lookup, kind⟩)⟩
    · have mapped : mapEvent (.identityRevalidated capability result) r.catalog =
          .ok (some (.identity capability false)) := by simp [mapEvent, same]
      cases step.step mapped with
      | identityFailure lookup kind live =>
        exact ⟨_, .identityFailure (known _ live) (sim.live ▸ live)
          (sim.hasIdentity_iff.mpr ⟨_, lookup, kind⟩) same⟩
  | signalSent capability name result =>
    cases step.step rfl with
    | signal lookup kind live matching allowed =>
      refine ⟨_, .signal (known _ live) (sim.live ▸ live) (sim.matched ▸ matching)
        (sim.isProcess_iff.mpr ⟨_, lookup, kind⟩) ?_⟩
      rw [Oracle.mem_journalTransitions, sim.snapshot]
      exact ⟨allowed, by simp⟩
  | endpointTransition endpoint operation result =>
    by_cases rejected : result = .rejected
    · subst rejected
      exact ⟨_, .endpointRejected⟩
    · exact ⟨_, .endpoint rejected⟩
  | operationCheckpoint operation checkpoint placement result =>
    by_cases completed : result = .completed
    · subst completed
      exact ⟨_, .checkpointCompleted⟩
    · exact ⟨_, .checkpointRejected completed⟩
  | memberObserved capability origin =>
    obtain ⟨⟨entry, lookup, kind⟩, _⟩ := observed_step (step.step rfl)
    have listed := sim.mem_catalog.mpr (Finmap.mem_of_lookup_eq_some lookup)
    by_cases late : origin = .lateFork
    · subst late
      exact ⟨_, .lateFork listed (sim.isProcess_iff.mpr ⟨entry, lookup, kind⟩)⟩
    · exact ⟨_, .memberObserved listed late⟩
  | faultInjected phase fault => exact ⟨_, .fault⟩
  | recovery action reason =>
    cases step.step rfl with
    | recovery prescribed => exact ⟨_, .recovery (sim.snapshot ▸ prescribed)⟩
  | terminal outcome => exact ⟨_, .terminal (sim.terminal.trans (step.running rfl))⟩

/-- Where the oracle accepts an event and can still finish, the reducer accepts it, unless
the event observes a capability that is not a process. -/
theorem Sim.reducer_accepts {p' : Runtime} {data : EventData} (running : r.terminal = none)
    (processes : ∀ id entry, data.observes id = true → r.catalog.lookup id = some entry →
      entry.kind.isPidfd = true)
    (sound : data = .terminal .success → unresolved r = false)
    (quiet : p'.membershipSeenAfterGone = false) (step : Oracle.Step p data p') :
    ∃ after, ReducerStep r data after := by
  cases step with
  | acquired known idle fresh =>
    rename_i capability owner item
    have lookup : r.catalog.lookup capability = some item.entry := by simp [sim.catalog, known]
    have idle : capability ∉ r.live := sim.live ▸ idle
    have fresh : (capability, item.entry.generation) ∉ r.consumed := by
      rw [← sim.consumed]; exact fresh
    have mapped : mapEvent (.capabilityAcquired capability owner) r.catalog =
        .ok (some (.acquire capability item.entry.kind item.entry.generation owner)) := by
      simp [mapEvent, lookup]
    exact ⟨_, .of_step mapped running (.acquire lookup idle fresh)⟩
  | moved known owned => exact ⟨_, .of_step rfl running (.move (sim.live ▸ owned))⟩
  | released known owned => exact ⟨_, .of_step rfl running (.release (sim.live ▸ owned))⟩
  | intent closed allowed =>
    rw [Oracle.mem_journalTransitions, sim.snapshot] at allowed
    have stillOpen : isClosed r.snapshot.journal = false := by simpa using allowed.2
    exact ⟨_, .of_step rfl running
      (.intent ((sim.transaction stillOpen).symm.trans closed) allowed.1)⟩
  | barrier allowed =>
    rw [Oracle.mem_stableTransitions, sim.snapshot] at allowed
    exact ⟨_, .of_step rfl running (.barrier allowed)⟩
  | barrierMissed missed => exact ⟨r, (reducerStep_missed missed).mpr rfl⟩
  | membership known live process =>
    have nobody : r.gone = ∅ := by
      simp only [Bool.or_eq_false_iff, decide_eq_false_iff_not, Finset.not_nonempty_iff_eq_empty] at quiet
      exact sim.gone ▸ quiet.2
    refine ⟨_, .of_step rfl running (.membership nobody ?_)⟩
    intro member listed
    obtain ⟨entry, lookup, kind⟩ := sim.isProcess_iff.mp (process member listed)
    exact ⟨entry, lookup, kind, sim.live ▸ live member listed⟩
  | identitySame known live kind =>
    obtain ⟨entry, lookup, kind⟩ := sim.hasIdentity_iff.mp kind
    exact ⟨_, .of_step rfl running (.identityMatch lookup kind (sim.live ▸ live))⟩
  | identityFailure known live kind failed =>
    obtain ⟨entry, lookup, kind⟩ := sim.hasIdentity_iff.mp kind
    exact ⟨_, .of_step (by simp [mapEvent, failed]) running
      (.identityFailure lookup kind (sim.live ▸ live))⟩
  | signal known live matching process allowed =>
    obtain ⟨entry, lookup, kind⟩ := sim.isProcess_iff.mp process
    rw [Oracle.mem_journalTransitions, sim.snapshot] at allowed
    exact ⟨_, .of_step rfl running
      (.signal lookup kind (sim.live ▸ live) (sim.matched ▸ matching) allowed.1)⟩
  | endpointRejected => exact ⟨_, .of_step rfl running .endpointRejected⟩
  | endpoint other =>
    exact ⟨_, .of_step rfl running (.endpoint fun text => other ((rejected_text _).mp text))⟩
  | checkpointRejected failed =>
    exact ⟨_, .of_step rfl running
      (.checkpointRejected (validCheckpoint_texts _ _ _ _) ((failed_text _).mpr failed))⟩
  | checkpointCompleted =>
    exact ⟨_, .of_step rfl running (.checkpointCompleted (validCheckpoint_texts _ _ _ _) (by decide))⟩
  | lateFork known process =>
    obtain ⟨entry, lookup, kind⟩ := sim.isProcess_iff.mp process
    exact ⟨_, .of_step rfl running (.lateFork lookup kind)⟩
  | memberObserved known other =>
    rename_i capability origin
    obtain ⟨entry, lookup⟩ := Finmap.mem_iff.mp (sim.mem_catalog.mp known)
    have kind := processes capability entry (by simp [EventData.observes, other]) lookup
    exact ⟨_, .of_step rfl running
      (.memberObserved lookup kind fun text => other ((lateFork_text _).mp text))⟩
  | fault => exact ⟨_, .of_step rfl running .fault⟩
  | recovery prescribed =>
    exact ⟨_, .of_step rfl running (.recovery (sim.snapshot ▸ prescribed))⟩
  | terminal _ =>
    exact ⟨_, .of_step rfl running (.terminal fun success => sound (by rw [success]))⟩

end Guards

/-- A recovery leaves the snapshot as it is or closes the journal. -/
theorem actionTarget_closed (action : RecoveryAction) (origin : StateSnapshot) :
    isClosed (actionTarget action origin).journal = true ∨
      (actionTarget action origin = origin ∧ (action = .noop ∨ action = .continueDrain)) := by
  cases action <;> simp [actionTarget, isClosed]

theorem companion_isCompanion (operation checkpoint : String) :
    ∀ item ∈ companion operation checkpoint, item.isCompanion = true := by
  intro item member
  unfold companion at member
  split_ifs at member <;> simp_all [Obligation.isCompanion]

section Effects

variable {r : Reducer} {p : Runtime} (sim : Sim r p)
include sim

theorem Sim.insert_obligation {item : Obligation} (shared : item.isCompanion = false) :
    insert item p.obligations =
      (insert item r.obligations).filter fun item => !item.isCompanion := by
  rw [Finset.filter_insert, sim.obligations]
  simp [shared]

theorem Sim.insert_companions {item : Obligation} (shared : item.isCompanion = false) :
    ∀ other ∈ insert item r.obligations, other.isCompanion = true →
      .operationFailure ∈ insert item r.obligations := by
  intro other member isCompanion
  rcases Finset.mem_insert.mp member with rfl | member
  · simp [shared] at isCompanion
  · exact Finset.mem_insert_of_mem (sim.companions other member isCompanion)

theorem Sim.rolledBack_obligations :
    p.obligations.filter (fun item => !Oracle.rolledBack item) =
      (r.obligations.filter fun item => !item.isRolledBack).filter fun item => !item.isCompanion := by
  rw [sim.obligations]
  ext item
  cases item <;>
    simp [Obligation.isRolledBack, Obligation.isCompanion, Oracle.rolledBack]

theorem Sim.drained_obligations :
    (p.obligations.erase .operationFailure).erase .signalFailure =
      (r.obligations.filter fun item => !item.isDrained).filter fun item => !item.isCompanion := by
  rw [sim.obligations]
  ext item
  cases item <;> simp [Obligation.isDrained, Obligation.isCompanion]

/-- The two recoveries agree once the restored ownership does. -/
theorem Sim.recovery {action : RecoveryAction}
    (restored : action.isRollback = true →
      p.checkpointLive.eraseAll p.gone = r.checkpointLive.eraseAll r.gone) :
    Sim (settle action { r with
        snapshot := actionTarget action r.snapshot
        observations := r.observations ++ [⟨r.snapshot.stable, r.snapshot.journal, action⟩] })
      (Oracle.settle action { p with
        recoveryObservations :=
          p.recoveryObservations ++ [⟨p.snapshot.stable, p.snapshot.journal, action⟩]
        snapshot := actionTarget action p.snapshot
        recoveryActions := p.recoveryActions ++ [action] }) := by
  have steps : (p.recoveryActions ++ [action]).length =
      (r.observations ++
        [(⟨r.snapshot.stable, r.snapshot.journal, action⟩ : RecoveryObservation)]).length := by
    simp [sim.steps]
  have observations : p.recoveryObservations ++ [⟨p.snapshot.stable, p.snapshot.journal, action⟩] =
      r.observations ++ [⟨r.snapshot.stable, r.snapshot.journal, action⟩] := by
    rw [sim.observations, sim.snapshot]
  have snapshot : actionTarget action p.snapshot = actionTarget action r.snapshot := by
    rw [sim.snapshot]
  by_cases rolls : action.isRollback = true
  · simp only [settle, Oracle.settle, Oracle.isRollback_eq, rolls, if_true]
    exact { sim with
      snapshot := snapshot
      live := restored rolls
      matched := by simp only [rollback, Oracle.rollback, sim.checkpointMatched, sim.gone]
      gone := by simp only [rollback, Oracle.rollback, sim.checkpointGone, sim.gone]
      obligations := sim.rolledBack_obligations
      companions := by
        intro item member isCompanion
        simp only [rollback, Finset.mem_filter] at member
        cases item <;> simp_all [Obligation.isCompanion, Obligation.isRolledBack]
      steps := steps
      observations := observations
      transaction := fun _ => rfl }
  · have transaction : isClosed (actionTarget action r.snapshot).journal = false →
        action.isCompletion = false ∧ p.transactionId = r.transaction := by
      intro stillOpen
      rcases actionTarget_closed action r.snapshot with closed | ⟨same, dynamic⟩
      · simp [closed] at stillOpen
      · rw [same] at stillOpen
        exact ⟨by rcases dynamic with rfl | rfl <;> rfl, sim.transaction stillOpen⟩
    by_cases drains : action = .continueDrain
    · subst drains
      exact { sim with
        snapshot := snapshot
        obligations := sim.drained_obligations
        companions := by
          intro item member isCompanion
          simp only [settle, continueDrain, RecoveryAction.isRollback,
            RecoveryAction.isCompletion, Bool.false_eq_true, if_false, if_true, Finset.mem_filter] at member
          cases item <;> simp_all [Obligation.isCompanion, Obligation.isDrained]
        steps := steps
        observations := observations
        transaction := fun stillOpen => (transaction stillOpen).2 }
    · by_cases completes : action.isCompletion = true
      · simp only [settle, Oracle.settle, Oracle.isRollback_eq, rolls, drains, completes, if_true,
          if_false]
        exact { sim with
          snapshot := snapshot
          steps := steps
          observations := observations
          transaction := fun stillOpen => by simp [completes] at transaction; simp_all }
      · simp only [settle, Oracle.settle, Oracle.isRollback_eq, rolls, drains, completes, if_false]
        exact { sim with
          snapshot := snapshot
          steps := steps
          observations := observations
          transaction := fun stillOpen => (transaction stillOpen).2 }

theorem Sim.signalEffect_agrees (capability : String) (result : SignalResult)
    (open_ : isClosed r.snapshot.journal = false) :
    Sim { signalEffect r capability result with
        snapshot := { r.snapshot with journal := .cleanup } }
      { Oracle.signalEffect p capability result with
        snapshot := { p.snapshot with journal := .cleanup } } := by
  have snapshot : ({ p.snapshot with journal := .cleanup } : StateSnapshot) =
      { r.snapshot with journal := .cleanup } := by rw [sim.snapshot]
  have transaction : isClosed .cleanup = false → p.transactionId = r.transaction :=
    fun _ => sim.transaction open_
  cases result with
  | sent => exact { sim with snapshot := snapshot, transaction := transaction }
  | gone => exact { sim with
      snapshot := snapshot
      transaction := transaction
      live := congrArg (Finmap.erase capability) sim.live
      matched := congrArg (fun ids => ids.erase capability) sim.matched
      gone := congrArg (insert capability) sim.gone }
  | rejected => exact { sim with
      snapshot := snapshot
      transaction := transaction
      obligations := sim.insert_obligation rfl
      companions := sim.insert_companions rfl }
  | deadline => exact { sim with
      snapshot := snapshot
      transaction := transaction
      obligations := sim.insert_obligation rfl
      companions := sim.insert_companions rfl }

theorem Sim.rejected_checkpoint (operation checkpoint : String) :
    insert .operationFailure p.obligations =
      (companion operation checkpoint ∪ insert .operationFailure r.obligations).filter
        fun item => !item.isCompanion := by
  have none : (companion operation checkpoint).filter (fun item => !item.isCompanion) = ∅ := by
    apply Finset.filter_eq_empty_iff.mpr
    intro item member
    simp [companion_isCompanion operation checkpoint item member]
  rw [Finset.filter_union, none, Finset.empty_union]
  exact sim.insert_obligation rfl

/-- Both accept the event: the states stay related. -/
theorem Sim.after {r' : Reducer} {p' : Runtime} {data : EventData}
    (restored : ∀ action reason, data = .recovery action reason → action.isRollback = true →
      action = recoveryAction r.snapshot.stable r.snapshot.journal →
      p.checkpointLive.eraseAll p.gone = r.checkpointLive.eraseAll r.gone)
    (quiet : p'.membershipSeenAfterGone = false)
    (step : ReducerStep r data r') (oracle : Oracle.Step p data p') : Sim r' p' := by
  cases oracle with
  | acquired known idle fresh =>
    rename_i capability owner item
    obtain ⟨entry, lookup, _, _, rfl⟩ := acquire_step step
    have same : entry = item.entry := by
      have := sim.catalog capability
      rw [known, lookup] at this
      simpa using this
    subst same
    exact { sim with
      live := congrArg (Finmap.insert capability owner) sim.live
      consumed := by
        intro id generation
        by_cases same : id = capability
        · subst same
          simp [consumedOf, Oracle.AnchoredCapability.entry, ← sim.consumed]
        · have apart : ∀ generation', (id, generation') ≠ (capability, item.entry.generation) := by
            intro generation' equal
            exact same (Prod.ext_iff.mp equal).1
          simpa [consumedOf, Finmap.lookup_insert_of_ne _ same, apart] using sim.consumed id generation }
  | moved known owned =>
    cases step.step rfl with
    | move _ => exact { sim with live := congrArg (Finmap.insert _ _) sim.live }
  | released known owned =>
    cases step.step rfl with
    | release _ => exact { sim with
        live := congrArg (Finmap.erase _) sim.live
        matched := congrArg (fun ids => Finset.erase ids _) sim.matched }
  | intent closed allowed =>
    cases step.step rfl with
    | intent _ _ => exact { sim with
        snapshot := by simp only [sim.snapshot]
        checkpointMatched := sim.matched
        checkpointGone := sim.gone
        transaction := fun _ => rfl }
  | barrier allowed =>
    cases step.step rfl with
    | barrier _ => exact { sim with snapshot := by simp only [sim.snapshot] }
  | barrierMissed missed =>
    rw [(reducerStep_missed missed).mp step]
    exact sim
  | membership known live process =>
    cases step.step rfl with
    | membership nobody members_live => exact { sim with
        membershipClosed := by
          simp only [sim.membershipClosed, beq_eq_decide, closed_text]
        obligations := by
          simp only [incomplete_text]
          split_ifs <;> exact sim.insert_obligation rfl
        companions := by
          simp only [incomplete_text]
          split_ifs <;> exact sim.insert_companions rfl
        quiet := ⟨quiet, sim.quiet.2⟩ }
  | identitySame known live kind =>
    cases step.step rfl with
    | identityMatch _ _ _ => exact { sim with matched := congrArg (insert _) sim.matched }
  | identityFailure known live kind failed =>
    rename_i capability result
    have mapped : mapEvent (.identityRevalidated capability result) r.catalog =
        .ok (some (.identity capability false)) := by simp [mapEvent, failed]
    cases step.step mapped with
    | identityFailure _ _ _ => exact { sim with
        live := congrArg (Finmap.erase _) sim.live
        matched := congrArg (fun ids => Finset.erase ids _) sim.matched
        gone := congrArg (insert _) sim.gone
        obligations := sim.insert_obligation rfl
        companions := sim.insert_companions rfl }
  | signal known live matching process allowed =>
    cases step.step rfl with
    | signal _ _ _ _ allowed =>
      refine sim.signalEffect_agrees _ _ ?_
      cases journal : r.snapshot.journal <;> simp_all [journalTransitionAllowed, isClosed]
  | endpointRejected =>
    rw [endpoint_step (step.step rfl), if_pos (by decide)]
    exact { sim with
      obligations := sim.insert_obligation rfl
      companions := sim.insert_companions rfl }
  | endpoint other =>
    rw [endpoint_step (step.step rfl), if_neg fun text => other ((rejected_text _).mp text)]
    exact sim
  | checkpointRejected failed =>
    rw [checkpoint_step (step.step rfl), if_pos ((failed_text _).mpr failed)]
    exact { sim with
      obligations := sim.rejected_checkpoint _ _
      companions := by
        intro item member isCompanion
        simp }
  | checkpointCompleted =>
    rw [checkpoint_step (step.step rfl), if_neg (by decide)]
    exact sim
  | lateFork known process =>
    rw [(observed_step (step.step rfl)).2, if_pos (by decide)]
    exact { sim with
      lateForkSeen := rfl
      lateForkAfterClosed := sim.membershipClosed
      obligations := sim.insert_obligation rfl
      companions := sim.insert_companions rfl }
  | memberObserved known other =>
    rw [(observed_step (step.step rfl)).2, if_neg fun text => other ((lateFork_text _).mp text)]
    exact sim
  | fault =>
    cases step.step rfl with
    | fault => exact { sim with
        obligations := sim.insert_obligation rfl
        companions := sim.insert_companions rfl
        lateForkFaultSeen := by
          simp only [sim.lateForkFaultSeen, beq_eq_decide, lateForkFault_text] }
  | recovery prescribed =>
    cases step.step rfl with
    | recovery prescribed =>
      exact sim.recovery fun rolls => restored _ _ rfl rolls prescribed.symm
  | terminal _ =>
    cases step.step rfl with
    | terminal _ => exact { sim with terminal := rfl }

end Effects

end Darling.Lifecycle
