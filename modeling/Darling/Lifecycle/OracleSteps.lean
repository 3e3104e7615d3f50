import Darling.Lifecycle.Oracle

/-! What one event can do to the oracle's runtime: the guards it checks and the runtime it
leaves, after the event data was validated and both transition tables consulted. -/
namespace Darling.Lifecycle.Oracle

theorem recoveryMatrix_eq (stable : StableState) (journal : JournalPhase) :
    recoveryMatrix stable journal = recoveryAction stable journal := by
  cases stable <;> cases journal <;> rfl

theorem mem_stableTransitions (before after : StableState) :
    after ∈ stableTransitions before ↔ stableTransitionAllowed before after = true := by
  cases before <;> cases after <;> decide

/-- The journal phases that end a transaction. -/
def isClosed (journal : JournalPhase) : Bool := journal = .commit || journal = .abort

/-- The tables differ in one place: the oracle never prepares after a commit or an abort. -/
theorem mem_journalTransitions (before after : JournalPhase) :
    after ∈ journalTransitions before ↔
      journalTransitionAllowed before after = true ∧ ¬(isClosed before = true ∧ after = .prepare) := by
  cases before <;> cases after <;> decide

theorem isRollback_eq (action : RecoveryAction) : isRollback action = action.isRollback := by
  cases action <;> rfl

/-- The prescribed action always reaches its target. -/
theorem applyRecoveryAction_prescribed (s : StateSnapshot) :
    applyRecoveryAction s (recoveryAction s.stable s.journal) =
      .ok (actionTarget (recoveryAction s.stable s.journal) s) := by
  obtain ⟨stable, journal, intent⟩ := s
  cases stable <;> cases journal <;> rfl

theorem actionTarget_transitions (s : StateSnapshot) :
    (actionTarget (recoveryAction s.stable s.journal) s).stable ∈ stableTransitions s.stable ∧
      (actionTarget (recoveryAction s.stable s.journal) s).journal ∈ journalTransitions s.journal := by
  obtain ⟨stable, journal, intent⟩ := s
  cases stable <;> cases journal <;>
    simp [recoveryAction, actionTarget, stableTransitions, journalTransitions]

@[simp] theorem mem_stableTransitions_self (stable : StableState) :
    stable ∈ stableTransitions stable := by cases stable <;> decide

@[simp] theorem mem_journalTransitions_self (journal : JournalPhase) :
    journal ∈ journalTransitions journal := by cases journal <;> decide

/-- The ledger and obligation effect of a recovery action. -/
def settle (action : RecoveryAction) (p : Runtime) : Runtime :=
  if isRollback action then rollback p
  else if action = .continueDrain then continueDrain p
  else p

@[simp] theorem settle_snapshot (action : RecoveryAction) (p : Runtime) :
    (settle action p).snapshot = p.snapshot := by
  unfold settle; split_ifs <;> rfl

inductive Step (p : Runtime) : EventData → Runtime → Prop where
  | acquired {capability owner : String} {entry : AnchoredCapability}
      (known : p.catalog.lookup capability = some entry) (idle : capability ∉ p.live)
      (fresh : entry.generation ∉ consumedOf p capability) :
      Step p (.capabilityAcquired capability owner) { p with
        consumedGenerations := p.consumedGenerations.insert capability
          (insert entry.generation (consumedOf p capability))
        live := p.live.insert capability owner }
  | moved {capability source target : String} (known : capability ∈ p.catalog)
      (owned : p.live.lookup capability = some source) :
      Step p (.capabilityMoved capability source target)
        { p with live := p.live.insert capability target }
  | released {capability owner reason : String} (known : capability ∈ p.catalog)
      (owned : p.live.lookup capability = some owner) :
      Step p (.capabilityReleased capability owner reason)
        { p with live := p.live.erase capability, matched := p.matched.erase capability }
  | intent {kind : IntentKind} {transaction : String} (closed : p.transactionId = none)
      (allowed : .prepare ∈ journalTransitions p.snapshot.journal) :
      Step p (.intentDeclared kind transaction) { p with
        transactionId := some transaction
        checkpointLive := p.live
        checkpointMatched := p.matched
        checkpointGone := p.gone
        snapshot := ⟨p.snapshot.stable, .prepare, kind⟩ }
  | barrier {kind : BarrierKind} (allowed : .draining ∈ stableTransitions p.snapshot.stable) :
      Step p (.barrierEntered kind .entered)
        { p with snapshot := { p.snapshot with stable := .draining } }
  | barrierMissed {kind : BarrierKind} {result : BarrierResult} (missed : result ≠ .entered) :
      Step p (.barrierEntered kind result) p
  | membership {authority : Authority} {members : List String} {completeness : Completeness}
      (known : ∀ member ∈ members, member ∈ p.catalog)
      (live : ∀ member ∈ members, member ∈ p.live)
      (process : ∀ member ∈ members, isProcess p member = true) :
      Step p (.membershipSnapshot authority members completeness) { p with
        membershipSeenAfterGone := p.membershipSeenAfterGone || decide p.gone.Nonempty
        membershipClosed := p.membershipClosed || decide (completeness = .closed)
        obligations := insert
          (if completeness ∈ [.timeout, .overflow] then .membershipIncomplete
            else .membershipClosed) p.obligations }
  | identitySame {capability : String} (known : capability ∈ p.catalog)
      (live : capability ∈ p.live) (kind : hasIdentity p capability = true) :
      Step p (.identityRevalidated capability .same)
        { p with matched := insert capability p.matched }
  | identityFailure {capability : String} {result : IdentityResult}
      (known : capability ∈ p.catalog) (live : capability ∈ p.live)
      (kind : hasIdentity p capability = true) (failed : result ≠ .same) :
      Step p (.identityRevalidated capability result) { p with
        gone := insert capability p.gone
        live := p.live.erase capability
        matched := p.matched.erase capability
        obligations := insert .identityFailure p.obligations }
  | signal {capability : String} {name : SignalName} {result : SignalResult}
      (known : capability ∈ p.catalog) (live : capability ∈ p.live)
      (matching : capability ∈ p.matched) (process : isProcess p capability = true)
      (allowed : .cleanup ∈ journalTransitions p.snapshot.journal) :
      Step p (.signalSent capability name result) { signalEffect p capability result with
        snapshot := { p.snapshot with journal := .cleanup } }
  | endpointRejected {endpoint : String} {operation : EndpointOperation} :
      Step p (.endpointTransition endpoint operation .rejected)
        { p with obligations := insert .endpointFailure p.obligations }
  | endpoint {endpoint : String} {operation : EndpointOperation} {result : EndpointResult}
      (other : result ≠ .rejected) : Step p (.endpointTransition endpoint operation result) p
  | checkpointRejected {operation : BoundaryOperation} {checkpoint : Boundary.Checkpoint}
      {placement : Placement} {result : CheckpointResult} (failed : result ≠ .completed) :
      Step p (.operationCheckpoint operation checkpoint placement result) { p with
        operationRejectionSeen := true
        obligations := insert .operationFailure p.obligations }
  | checkpointCompleted {operation : BoundaryOperation} {checkpoint : Boundary.Checkpoint}
      {placement : Placement} :
      Step p (.operationCheckpoint operation checkpoint placement .completed) p
  | lateFork {capability : String} (known : capability ∈ p.catalog)
      (process : isProcess p capability = true) :
      Step p (.memberObserved capability .lateFork) { p with
        lateForkSeen := true
        lateForkAfterClosed := p.membershipClosed
        obligations := insert .lateForkRecovery p.obligations }
  | memberObserved {capability : String} {origin : MemberOrigin} (known : capability ∈ p.catalog)
      (other : origin ≠ .lateFork) : Step p (.memberObserved capability origin) p
  | fault {phase : FaultPhase} {name : FaultName} : Step p (.faultInjected phase name) { p with
      obligations := insert (.fault name.text) p.obligations
      lateForkFaultSeen := p.lateForkFaultSeen || decide (name = .lateFork) }
  | recovery {action : RecoveryAction} {reason : String}
      (prescribed : recoveryAction p.snapshot.stable p.snapshot.journal = action) :
      Step p (.recovery action reason) (settle action { p with
        recoveryObservations :=
          p.recoveryObservations ++ [⟨p.snapshot.stable, p.snapshot.journal, action⟩]
        snapshot := actionTarget action p.snapshot
        recoveryActions := p.recoveryActions ++ [action] })
  | terminal {outcome : Outcome} (running : p.terminalOutcome = none) :
      Step p (.terminal outcome) { p with terminalOutcome := some outcome }

/-- The event data is valid, its effect defined and both tables allow it. -/
structure Allowed (p : Runtime) (data : EventData) (after : Runtime) : Prop where
  valid : validateEventData p.catalog data = .ok ()
  effect : effect p data = .ok after
  stable : after.snapshot.stable ∈ stableTransitions p.snapshot.stable
  journal : after.snapshot.journal ∈ journalTransitions p.snapshot.journal

theorem recovery_ok {p after : Runtime} {action : RecoveryAction} :
    recovery p action = .ok after ↔ recoveryAction p.snapshot.stable p.snapshot.journal = action ∧
      after = settle action { p with
        recoveryObservations :=
          p.recoveryObservations ++ [⟨p.snapshot.stable, p.snapshot.journal, action⟩]
        snapshot := actionTarget action p.snapshot
        recoveryActions := p.recoveryActions ++ [action] } := by
  simp only [recovery, recoveryMatrix_eq, bind_ok, require_ok, exists_const, pure_ok]
  constructor
  · rintro ⟨rfl, snapshot, target, rfl⟩
    rw [applyRecoveryAction_prescribed] at target
    cases target
    exact ⟨rfl, rfl⟩
  · rintro ⟨rfl, rfl⟩
    exact ⟨rfl, _, applyRecoveryAction_prescribed _, rfl⟩

theorem Allowed.step {p after : Runtime} {data : EventData} (allowed : Allowed p data after) :
    Step p data after := by
  obtain ⟨valid, effect, stable, journal⟩ := allowed
  cases data with
  | capabilityAcquired capability owner =>
    simp only [Oracle.effect, acquired, require_bind_ok] at effect
    obtain ⟨idle, effect⟩ := effect
    cases known : p.catalog.lookup capability with
    | none => simp [known] at effect
    | some entry =>
      simp only [known, require_bind_ok, pure_ok] at effect
      obtain ⟨fresh, rfl⟩ := effect
      exact .acquired known idle fresh
  | capabilityMoved capability source target =>
    simp only [validateEventData, require_bind_ok] at valid
    simp only [Oracle.effect, require_bind_ok, pure_ok] at effect
    obtain ⟨_, owned, rfl⟩ := effect
    exact .moved valid.1 owned
  | capabilityReleased capability owner reason =>
    simp only [validateEventData, require_bind_ok] at valid
    simp only [Oracle.effect, require_bind_ok, pure_ok] at effect
    obtain ⟨_, owned, rfl⟩ := effect
    exact .released valid.1 owned
  | intentDeclared intent transaction =>
    simp only [Oracle.effect, require_bind_ok, pure_ok] at effect
    obtain ⟨closed, rfl⟩ := effect
    exact .intent closed journal
  | barrierEntered kind result =>
    simp only [Oracle.effect, Except.ok.injEq] at effect
    subst effect
    by_cases entered : result = .entered
    · subst entered
      exact .barrier stable
    · simpa only [entered, if_false] using .barrierMissed entered
  | membershipSnapshot authority members completeness =>
    simp only [validateEventData, require_ok] at valid
    simp only [Oracle.effect, membershipSnapshot, require_bind_ok, pure_ok] at effect
    obtain ⟨live, process, rfl⟩ := effect
    exact .membership valid live process
  | identityRevalidated capability result =>
    simp only [validateEventData, require_ok] at valid
    simp only [Oracle.effect, identityRevalidated, require_bind_ok, pure_ok] at effect
    obtain ⟨live, kind, rfl⟩ := effect
    by_cases same : result = .same
    · subst same
      exact .identitySame valid live kind
    · simpa only [same, if_false] using .identityFailure valid live kind same
  | signalSent capability name result =>
    simp only [validateEventData, require_ok] at valid
    simp only [Oracle.effect, signalSent, require_bind_ok, pure_ok] at effect
    obtain ⟨⟨live, matching⟩, process, rfl⟩ := effect
    exact .signal valid live matching process journal
  | endpointTransition endpoint operation result =>
    simp only [Oracle.effect, Except.ok.injEq] at effect
    subst effect
    by_cases rejected : result = .rejected
    · subst rejected
      exact .endpointRejected
    · simpa only [rejected, if_false] using .endpoint rejected
  | operationCheckpoint operation checkpoint placement result =>
    simp only [Oracle.effect, Except.ok.injEq] at effect
    subst effect
    cases result with
    | completed => exact .checkpointCompleted
    | injected => exact .checkpointRejected (by decide)
    | error => exact .checkpointRejected (by decide)
  | memberObserved capability origin =>
    simp only [validateEventData, require_ok] at valid
    simp only [Oracle.effect] at effect
    by_cases late : origin = .lateFork
    · subst late
      simp only [if_true, require_bind_ok, pure_ok] at effect
      obtain ⟨process, rfl⟩ := effect
      exact .lateFork valid process
    · simp only [late, if_false, Except.ok.injEq] at effect
      subst effect
      exact .memberObserved valid late
  | faultInjected phase fault =>
    simp only [Oracle.effect, Except.ok.injEq] at effect
    subst effect
    exact .fault
  | recovery action reason =>
    obtain ⟨prescribed, rfl⟩ := recovery_ok.mp effect
    exact .recovery prescribed
  | terminal outcome =>
    simp only [Oracle.effect, require_bind_ok, pure_ok] at effect
    obtain ⟨running, rfl⟩ := effect
    exact .terminal running

theorem isTagged_starts {lead text : String} (tagged : isTagged lead text = true) :
    lead.toList.isPrefixOf text.toList = true := by
  simp only [isTagged, Bool.and_eq_true] at tagged
  exact tagged.1

/-- Every step of a document that satisfies the schema is allowed. -/
theorem Step.allowed {p after : Runtime} {data : EventData} (patterns : data.patterns = true)
    (step : Step p data after) : Allowed p data after := by
  cases step with
  | acquired known idle fresh =>
    simp only [EventData.patterns, Bool.and_eq_true] at patterns
    refine ⟨?_, ?_, by simp, by simp⟩
    · have member : _ ∈ p.catalog := Finmap.mem_of_lookup_eq_some known
      simpa [validateEventData, require_bind_ok, member] using patterns.2
    · simp only [effect, Oracle.acquired, known, require_bind_ok, pure_ok]
      exact ⟨idle, fresh, trivial⟩
  | moved known owned =>
    simp only [EventData.patterns, Bool.and_eq_true] at patterns
    have live : _ ∈ p.live := Finmap.mem_of_lookup_eq_some owned
    refine ⟨?_, ?_, by simp, by simp⟩
    · simp [validateEventData, require_bind_ok, known, patterns]
    · simp only [effect, require_bind_ok, pure_ok]
      exact ⟨live, owned, trivial⟩
  | released known owned =>
    simp only [EventData.patterns, Bool.and_eq_true] at patterns
    have live : _ ∈ p.live := Finmap.mem_of_lookup_eq_some owned
    refine ⟨?_, ?_, by simp, by simp⟩
    · simp [validateEventData, require_bind_ok, known, patterns]
    · simp only [effect, require_bind_ok, pure_ok]
      exact ⟨live, owned, trivial⟩
  | intent closed allowed =>
    simp only [EventData.patterns, Bool.and_eq_true, bne_iff_ne] at patterns
    refine ⟨?_, ?_, by simp, allowed⟩
    · simpa [validateEventData, patterns.1] using isTagged_starts patterns.2
    · simp only [effect, require_bind_ok, pure_ok]
      exact ⟨closed, trivial⟩
  | barrier allowed => exact ⟨rfl, rfl, allowed, by simp⟩
  | barrierMissed missed => exact ⟨rfl, by simp [effect, missed], by simp, by simp⟩
  | membership known live process =>
    refine ⟨by simpa [validateEventData] using known, ?_, by simp, by simp⟩
    simp only [effect, Oracle.membershipSnapshot, require_bind_ok, pure_ok]
    exact ⟨live, process, trivial⟩
  | identitySame known live kind =>
    refine ⟨by simpa [validateEventData] using known, ?_, by simp, by simp⟩
    simp only [effect, Oracle.identityRevalidated, require_bind_ok, pure_ok]
    exact ⟨live, kind, rfl⟩
  | identityFailure known live kind failed =>
    refine ⟨by simpa [validateEventData] using known, ?_, by simp, by simp⟩
    simp only [effect, Oracle.identityRevalidated, require_bind_ok, pure_ok, failed, if_false]
    exact ⟨live, kind, trivial⟩
  | signal known live matching process allowed =>
    refine ⟨by simpa [validateEventData] using known, ?_, by simp, allowed⟩
    simp only [effect, Oracle.signalSent, require_bind_ok, pure_ok]
    exact ⟨⟨live, matching⟩, process, trivial⟩
  | endpointRejected =>
    simp only [EventData.patterns] at patterns
    exact ⟨by simpa [validateEventData] using isTagged_starts patterns, rfl, by simp, by simp⟩
  | endpoint other =>
    simp only [EventData.patterns] at patterns
    refine ⟨by simpa [validateEventData] using isTagged_starts patterns, ?_, by simp, by simp⟩
    simp [effect, other]
  | @checkpointRejected _ _ _ result failed =>
    refine ⟨rfl, ?_, by simp, by simp⟩
    cases result <;> simp_all [effect]
  | checkpointCompleted => exact ⟨rfl, rfl, by simp, by simp⟩
  | lateFork known process =>
    refine ⟨by simpa [validateEventData] using known, ?_, by simp, by simp⟩
    simp only [effect, if_true, require_bind_ok, pure_ok]
    exact ⟨process, trivial⟩
  | memberObserved known other =>
    refine ⟨by simpa [validateEventData] using known, ?_, by simp, by simp⟩
    simp [effect, other]
  | fault => exact ⟨rfl, rfl, by simp, by simp⟩
  | recovery prescribed =>
    subst prescribed
    have transitions := actionTarget_transitions p.snapshot
    exact ⟨rfl, recovery_ok.mpr ⟨rfl, rfl⟩, by simpa using transitions.1, by simpa using transitions.2⟩
  | terminal running =>
    refine ⟨rfl, ?_, by simp, by simp⟩
    simp only [effect, require_bind_ok, pure_ok]
    exact ⟨running, trivial⟩

end Darling.Lifecycle.Oracle
