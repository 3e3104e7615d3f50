import Darling.Library.Checks
import Darling.Lifecycle.Documents

/-! The independent replay oracle. It has its own transition tables, recovery matrix,
capability ledger and obligation rules, and stops at the first violation. -/
namespace Darling.Lifecycle.Oracle

structure AnchoredCapability where
  capabilityId : String
  kind : CapabilityKind
  token : String
  generation : Nat
  deriving DecidableEq, Repr

/-- `_ReplayRuntime`. -/
structure Runtime where
  snapshot : StateSnapshot
  catalog : Finmap (fun _ : String => AnchoredCapability)
  live : Owners
  matched : Finset String
  gone : Finset String
  obligations : Finset Obligation
  recoveryActions : List RecoveryAction
  recoveryObservations : List RecoveryObservation
  consumedGenerations : Finmap (fun _ : String => Finset Nat)
  checkpointLive : Owners
  checkpointMatched : Finset String
  checkpointGone : Finset String
  transactionId : Option String
  membershipSeenAfterGone : Bool
  signalWithoutIdentity : Bool
  lateForkSeen : Bool
  lateForkFaultSeen : Bool
  membershipClosed : Bool
  lateForkAfterClosed : Bool
  terminalOutcome : Option Outcome
  operationRejectionSeen : Bool
  operationRecoverySeen : Bool
  deriving DecidableEq

structure ReplayResult where
  traceId : String
  outcome : Outcome
  finalSnapshot : StateSnapshot
  recoveryActions : List RecoveryAction
  recoveryObservations : List RecoveryObservation
  liveCapabilities : Owners
  obligations : Finset Obligation
  satisfiedInvariants : Finset String
  operationRejectionSeen : Bool
  operationRecoverySeen : Bool
  deriving DecidableEq

/-- The part of the result that the reducer's replay also reports. -/
def ReplayResult.shared (result : ReplayResult) : Replay where
  traceId := result.traceId
  outcome := result.outcome
  finalSnapshot := result.finalSnapshot
  recoveryObservations := result.recoveryObservations
  liveCapabilities := result.liveCapabilities
  obligations := result.obligations
  satisfied := result.satisfiedInvariants

/-- A matrix row lists its actions in the order of the journal phases. -/
def row (none prepare publish cleanup commit abort : RecoveryAction) :
    JournalPhase → RecoveryAction
  | .none => none
  | .prepare => prepare
  | .publish => publish
  | .cleanup => cleanup
  | .commit => commit
  | .abort => abort

def recoveryMatrix : StableState → JournalPhase → RecoveryAction
  | .uninitialized => row .initializeReady .rollbackUninitialized .rollbackUninitialized
      .rollbackUninitialized .failClosed .rollbackUninitialized
  | .ready => row .noop .rollbackReady .completePublish .completeCleanup .noop .rollbackReady
  | .running => row .noop .rollbackRunning .completePublish .drainToReady .noop .rollbackRunning
  | .draining => row .continueDrain .rollbackRunning .completePublish .continueDrain .drainToReady
      .rollbackRunning
  | .stopped => row .noop .rollbackStopped .completePublish .completeCleanup .noop .rollbackStopped
  | .corrupt => row .failClosed .failClosed .failClosed .failClosed .failClosed .quarantine

def stableTransitions : StableState → List StableState
  | .uninitialized => [.uninitialized, .ready, .corrupt]
  | .ready => [.ready, .running, .stopped, .corrupt]
  | .running => [.running, .draining, .ready, .stopped, .corrupt]
  | .draining => [.draining, .running, .ready, .stopped, .corrupt]
  | .stopped => [.stopped, .ready, .corrupt]
  | .corrupt => [.corrupt]

def journalTransitions : JournalPhase → List JournalPhase
  | .none => [.none, .prepare, .commit, .abort]
  | .prepare => [.prepare, .publish, .cleanup, .abort]
  | .publish => [.publish, .commit, .abort]
  | .cleanup => [.cleanup, .commit, .abort]
  | .commit => [.commit, .none, .abort]
  | .abort => [.abort, .none]

/-- The fixed target of an action; the two dynamic actions have none. -/
def recoveryTargets : RecoveryAction → Option StateSnapshot
  | .noop | .continueDrain => none
  | .initializeReady => some ⟨.ready, .commit, .createPrefix⟩
  | .rollbackUninitialized => some ⟨.uninitialized, .abort, .recover⟩
  | .rollbackReady => some ⟨.ready, .abort, .recover⟩
  | .rollbackRunning => some ⟨.running, .abort, .recover⟩
  | .rollbackStopped => some ⟨.stopped, .abort, .recover⟩
  | .completePublish => some ⟨.ready, .commit, .createPrefix⟩
  | .completeCleanup => some ⟨.stopped, .commit, .releaseSession⟩
  | .drainToReady => some ⟨.ready, .commit, .releaseSession⟩
  | .failClosed => some ⟨.corrupt, .abort, .recover⟩
  | .quarantine => some ⟨.corrupt, .abort, .recover⟩

abbrev OracleM := Except String

def applyRecoveryAction (snapshot : StateSnapshot) (action : RecoveryAction) :
    OracleM StateSnapshot :=
  match recoveryTargets action with
  | none => .ok snapshot
  | some target => do
    require (target.stable ∈ stableTransitions snapshot.stable) "recovery action is not reachable"
    require (target.journal ∈ journalTransitions snapshot.journal)
      "recovery journal target is not reachable"
    return target

def isRollback (action : RecoveryAction) : Bool :=
  action ∈ [.rollbackUninitialized, .rollbackReady, .rollbackRunning, .rollbackStopped,
    .failClosed, .quarantine]

/-- The obligations a rollback removes. -/
def rolledBack : Obligation → Bool
  | .fault _ => true
  | item => item ∈ [.lateForkRecovery, .identityFailure, .endpointFailure, .operationFailure,
      .signalFailure]

/-- The obligations that forbid a successful terminal. -/
def unresolved : Obligation → Bool
  | .fault _ => true
  | item => item ∈ [.identityFailure, .lateForkRecovery, .membershipIncomplete, .endpointFailure,
      .operationFailure, .signalFailure]

def rollback (p : Runtime) : Runtime :=
  { p with
    live := p.checkpointLive.eraseAll p.gone
    matched := p.checkpointMatched \ p.gone
    gone := p.checkpointGone ∪ p.gone
    transactionId := none
    operationRecoverySeen := p.operationRecoverySeen || decide (.operationFailure ∈ p.obligations)
    obligations := p.obligations.filter fun item => !rolledBack item }

def continueDrain (p : Runtime) : Runtime :=
  { p with
    operationRecoverySeen := p.operationRecoverySeen || decide (.operationFailure ∈ p.obligations)
    obligations := (p.obligations.erase .operationFailure).erase .signalFailure }

def recovery (p : Runtime) (action : RecoveryAction) : OracleM Runtime := do
  require (action = recoveryMatrix p.snapshot.stable p.snapshot.journal)
    "recovery action does not cover the state"
  let snapshot ← applyRecoveryAction p.snapshot action
  let p := { p with
    recoveryObservations :=
      p.recoveryObservations ++ [⟨p.snapshot.stable, p.snapshot.journal, action⟩]
    snapshot := snapshot
    recoveryActions := p.recoveryActions ++ [action] }
  return if isRollback action then rollback p
    else if action = .continueDrain then continueDrain p
    else p

def kindOf (p : Runtime) (capability : String) : Option CapabilityKind :=
  (p.catalog.lookup capability).map AnchoredCapability.kind

def isProcess (p : Runtime) (capability : String) : Bool :=
  kindOf p capability ∈ [some .sessionRootPidfd, some .sessionMemberPidfd]

def hasIdentity (p : Runtime) (capability : String) : Bool :=
  isProcess p capability || kindOf p capability == some .sharedSessionLease

/-- `consumed_generations.get(capability, set())`. -/
def consumedOf (p : Runtime) (capability : String) : Finset Nat :=
  (p.consumedGenerations.lookup capability).getD ∅

def acquired (p : Runtime) (capability owner : String) : OracleM Runtime := do
  require (capability ∉ p.live) ("double-acquire of live capability " ++ capability)
  match p.catalog.lookup capability with
  | none => .error capability
  | some entry =>
    require (entry.generation ∉ consumedOf p capability) "capability generation was already consumed"
    return { p with
      consumedGenerations := p.consumedGenerations.insert capability
        (insert entry.generation (consumedOf p capability))
      live := p.live.insert capability owner }

/-- The ledger effect of a signal, before the journal moves to cleanup. -/
def signalEffect (p : Runtime) (capability : String) : SignalResult → Runtime
  | .gone => { p with
      live := p.live.erase capability
      matched := p.matched.erase capability
      gone := insert capability p.gone }
  | .rejected => { p with obligations := insert .signalFailure p.obligations }
  | .deadline => { p with obligations := insert (.fault "TIMEOUT") p.obligations }
  | .sent => p

def signalSent (p : Runtime) (capability : String) (result : SignalResult) : OracleM Runtime := do
  require (capability ∈ p.live ∧ capability ∈ p.matched)
    ("signal without live matching identity: " ++ capability)
  require (isProcess p capability = true) "signal requires a process pidfd capability"
  return { signalEffect p capability result with
    snapshot := { p.snapshot with journal := .cleanup } }

def membershipSnapshot (p : Runtime) (members : List String) (completeness : Completeness) :
    OracleM Runtime := do
  let p := { p with
    membershipSeenAfterGone := p.membershipSeenAfterGone || decide p.gone.Nonempty }
  require (∀ member ∈ members, member ∈ p.live)
    "membership snapshot references a capability that was not acquired"
  require (∀ member ∈ members, isProcess p member = true)
    "membership snapshot contains a non-process capability"
  return { p with
    membershipClosed := p.membershipClosed || decide (completeness = .closed)
    obligations := insert
      (if completeness ∈ [.timeout, .overflow] then .membershipIncomplete else .membershipClosed)
      p.obligations }

def identityRevalidated (p : Runtime) (capability : String) (result : IdentityResult) :
    OracleM Runtime := do
  require (capability ∈ p.live) ("identity revalidation after release: " ++ capability)
  require (hasIdentity p capability = true)
    "identity revalidation is not defined for capability kind"
  return if result = .same then { p with matched := insert capability p.matched }
    else { p with
      gone := insert capability p.gone
      live := p.live.erase capability
      matched := p.matched.erase capability
      obligations := insert .identityFailure p.obligations }

/-- The event match of `apply_event`. -/
def effect (p : Runtime) : EventData → OracleM Runtime
  | .capabilityAcquired capability owner => acquired p capability owner
  | .capabilityMoved capability source target => do
    require (capability ∈ p.live) ("move of non-live capability " ++ capability)
    require (p.live.lookup capability = some source)
      ("capability move owner mismatch for " ++ capability)
    return { p with live := p.live.insert capability target }
  | .capabilityReleased capability owner _ => do
    require (capability ∈ p.live) ("release of non-live capability " ++ capability)
    require (p.live.lookup capability = some owner)
      ("capability release owner mismatch for " ++ capability)
    return { p with live := p.live.erase capability, matched := p.matched.erase capability }
  | .intentDeclared intent transactionId => do
    require (p.transactionId = none) "nested lifecycle transaction"
    return { p with
      transactionId := some transactionId
      checkpointLive := p.live
      checkpointMatched := p.matched
      checkpointGone := p.gone
      snapshot := ⟨p.snapshot.stable, .prepare, intent⟩ }
  | .barrierEntered _ result => .ok <|
    if result = .entered then { p with snapshot := { p.snapshot with stable := .draining } } else p
  | .membershipSnapshot _ members completeness => membershipSnapshot p members completeness
  | .identityRevalidated capability result => identityRevalidated p capability result
  | .signalSent capability _ result => signalSent p capability result
  | .endpointTransition _ _ result => .ok <|
    if result = .rejected then { p with obligations := insert .endpointFailure p.obligations } else p
  | .operationCheckpoint _ _ _ result => .ok <|
    if result ∈ [.injected, .error] then { p with
      operationRejectionSeen := true
      obligations := insert .operationFailure p.obligations }
    else p
  | .memberObserved capability origin =>
    if origin = .lateFork then do
      require (isProcess p capability = true)
        "member observation requires a process pidfd capability"
      return { p with
        lateForkSeen := true
        lateForkAfterClosed := p.membershipClosed
        obligations := insert .lateForkRecovery p.obligations }
    else .ok p
  | .faultInjected _ fault => .ok { p with
      obligations := insert (.fault fault.text) p.obligations
      lateForkFaultSeen := p.lateForkFaultSeen || decide (fault = .lateFork) }
  | .recovery action _ => recovery p action
  | .terminal outcome => do
    require (p.terminalOutcome = none) "trace contains more than one terminal event"
    return { p with terminalOutcome := some outcome }

def applyEvent (p : Runtime) (event : TraceEvent) : OracleM Runtime := do
  let after ← effect p event.data
  require (after.snapshot.stable ∈ stableTransitions p.snapshot.stable) "illegal stable transition"
  require (after.snapshot.journal ∈ journalTransitions p.snapshot.journal)
    "illegal journal transition"
  require (event.stateAfter = after.snapshot) "state_after differs from computed reducer state"
  return after

/-- `_validate_event_data`, less the keys and enumerations that every document has. -/
def validateEventData (catalog : Finmap (fun _ : String => AnchoredCapability)) :
    EventData → OracleM Unit
  | .capabilityAcquired capability owner => do
    require (capability ∈ catalog) ("capability_acquired references unknown catalog capability " ++ capability)
    require (isOwner owner = true) "invalid capability owner"
  | .capabilityMoved capability source target => do
    require (capability ∈ catalog) ("capability_moved references unknown catalog capability " ++ capability)
    require (isOwner source = true ∧ isOwner target = true) "invalid capability owner"
  | .capabilityReleased capability owner reason => do
    require (capability ∈ catalog) ("capability_released references unknown catalog capability " ++ capability)
    require (isOwner owner = true) "invalid capability owner"
    require (isWord isNameChar reason.toList = true) "invalid capability release reason"
  | .intentDeclared intent transactionId =>
    require (intent ≠ .none ∧ "txn.".toList.isPrefixOf transactionId.toList = true)
      "invalid declared intent"
  | .membershipSnapshot _ members _ =>
    require (∀ member ∈ members, member ∈ catalog) "membership snapshot references unknown capability"
  | .identityRevalidated capability _ => require (capability ∈ catalog) "invalid identity revalidation"
  | .signalSent capability _ _ => require (capability ∈ catalog) "invalid signal event"
  | .endpointTransition endpoint _ _ =>
    require ("endpoint.".toList.isPrefixOf endpoint.toList = true) "invalid endpoint transition"
  | .memberObserved capability _ => require (capability ∈ catalog) "invalid member observation"
  | .barrierEntered .. | .operationCheckpoint .. | .faultInjected .. | .recovery .. | .terminal _ =>
    .ok ()

def validateBudget (budget : Budget) : OracleM Unit := do
  require (∀ n ∈ [budget.maxEvents, budget.maxVirtualTimeNs, budget.maxLiveCapabilities,
      budget.maxRecoverySteps], n.isInt = true ∧ 1 ≤ n.value)
    "replay budget must contain positive integers"
  require (budget.maxEvents.value ≤ modelMaxEvents ∧
      budget.maxVirtualTimeNs.value ≤ modelMaxVirtualTimeNs ∧
      budget.maxLiveCapabilities.value ≤ modelMaxLiveCapabilities ∧
      budget.maxRecoverySteps.value ≤ modelMaxRecoverySteps)
    "trace budget exceeds authoritative model maxima"

def addCapability (catalog : Finmap (fun _ : String => AnchoredCapability)) (item : CatalogItem) :
    OracleM (Finmap (fun _ : String => AnchoredCapability)) := do
  require (isCapabilityName item.capabilityId = true) "invalid capability id"
  require (item.token ≠ "") "capability identity token must be non-empty"
  require (item.generation.isInt = true ∧ 1 ≤ item.generation.value)
    "capability identity generation must be a positive integer"
  require (item.capabilityId ∉ catalog)
    ("duplicate capability catalog entry: " ++ item.capabilityId)
  return catalog.insert item.capabilityId
    ⟨item.capabilityId, item.kind, item.token, item.generation.value⟩

/-- The checks of `_ownership`. -/
def validOwnership (item : Ownership) : Bool :=
  isCapabilityName item.capability && isOwner item.owner

def addOwnership (catalog : Finmap (fun _ : String => AnchoredCapability)) (live : Owners)
    (item : Ownership) : OracleM Owners := do
  require (validOwnership item = true) "invalid ownership"
  require (item.capability ∈ catalog ∧ item.capability ∉ live) "invalid initial live ownership"
  return live.insert item.capability item.owner

/-- Generations of the capabilities that are live at the start. -/
def initialGenerations (catalog : Finmap (fun _ : String => AnchoredCapability)) (items : List Ownership) :
    Finmap (fun _ : String => Finset Nat) :=
  items.foldl (fun consumed item => match catalog.lookup item.capability with
    | some entry => consumed.insert item.capability {entry.generation}
    | none => consumed) ∅

def initialRuntime (snapshot : StateSnapshot) (catalog : Finmap (fun _ : String => AnchoredCapability))
    (live : Owners) (items : List Ownership) : Runtime where
  snapshot := snapshot
  catalog := catalog
  live := live
  matched := ∅
  gone := ∅
  obligations := ∅
  recoveryActions := []
  recoveryObservations := []
  consumedGenerations := initialGenerations catalog items
  checkpointLive := live
  checkpointMatched := ∅
  checkpointGone := ∅
  transactionId := none
  membershipSeenAfterGone := false
  signalWithoutIdentity := false
  lateForkSeen := false
  lateForkFaultSeen := false
  membershipClosed := false
  lateForkAfterClosed := false
  terminalOutcome := none
  operationRejectionSeen := false
  operationRecoverySeen := false

/-- One round of the event loop, with the time of the event before it. -/
def replayEvent (budget : Budget) (index : Nat) (state : Runtime × Int) (event : TraceEvent) :
    OracleM (Runtime × Int) := do
  require (state.1.terminalOutcome = none) "terminal event must be unique and strictly last"
  require (event.seq.value = index ∧ event.timeNs.isInt = true ∧
      state.2 ≤ event.timeNs.value ∧ event.timeNs.value ≤ budget.maxVirtualTimeNs.value)
    "event sequence/time violates replay budget"
  validateEventData state.1.catalog event.data
  let after ← applyEvent state.1 event
  require (after.live.keys.card ≤ budget.maxLiveCapabilities.value ∧
      after.recoveryActions.length ≤ budget.maxRecoverySteps.value)
    "live capability or recovery-step budget exceeded"
  return (after, event.timeNs.value)

def replayEvents (budget : Budget) (index : Nat) (state : Runtime × Int) :
    List TraceEvent → OracleM (Runtime × Int)
  | [] => .ok state
  | event :: rest => do
    let state ← replayEvent budget index state event
    replayEvents budget (index + 1) state rest

def sharedLeaseHeld (p : Runtime) : Bool :=
  decide (∃ id ∈ p.live.keys, kindOf p id = some .sharedSessionLease)

def lateForkOk (p : Runtime) : Bool :=
  !p.lateForkSeen || (p.lateForkAfterClosed && p.lateForkFaultSeen &&
    decide (.lateForkRecovery ∉ p.obligations) && !p.recoveryActions.isEmpty)

/-- Whether each declared invariant holds of the finished replay. -/
def invariantTable (p : Runtime) (doc : Document) : List (String × Bool) :=
  let last := doc.events.getLast?
  [("no-raw-path-authority", true),
    ("no-unvalidated-fd", !p.signalWithoutIdentity),
    ("stable-journal-independent", true),
    ("total-recovery-matrix", true),
    ("identity-before-signal", !p.signalWithoutIdentity),
    ("no-children-after-gone", !p.membershipSeenAfterGone),
    ("shared-lease-bound", !(decide (p.terminalOutcome = some .success) && sharedLeaseHeld p)),
    ("pidfd-identity-before-signal", !p.signalWithoutIdentity),
    ("late-fork-closes-snapshot", lateForkOk p),
    ("bounded-replay", decide (doc.events.length ≤ doc.budget.maxEvents.value ∧
      (∀ event ∈ last, event.timeNs.value ≤ doc.budget.maxVirtualTimeNs.value) ∧
      p.live.keys.card ≤ doc.budget.maxLiveCapabilities.value ∧
      p.recoveryActions.length ≤ doc.budget.maxRecoverySteps.value)),
    ("terminal-trace", last.any (fun event => event.data.isTerminal) && p.terminalOutcome.isSome)]

def invariants (p : Runtime) (doc : Document) : Finset String :=
  (((invariantTable p doc).filter Prod.snd).map Prod.fst).toFinset

def validateProvenance (provenance : Provenance) : OracleM Unit := do
  require (provenance.artifactSha256.isSome = true ↔ provenance.kind = .historicalObservation)
    "trace provenance keys differ"
  require (∀ sha ∈ provenance.artifactSha256, isHex 64 sha = true)
    "historical observation requires immutable artifact_sha256"
  let identity := provenance.sourceIdentity
  require (identity.repository ≠ "" ∧ identity.profile ≠ "" ∧ identity.module ≠ "" ∧
      isHex 40 identity.commit = true ∧ isHex 40 identity.tree = true)
    "source identity is not immutable"

/-- The checks after the event loop, and the result. -/
def conclude (doc : Document) (p : Runtime) : OracleM ReplayResult := do
  require (doc.events.getLast?.any (fun event => event.data.isTerminal) = true) "terminal event must be last"
  require (¬(p.terminalOutcome = some .success ∧ ∃ item ∈ p.obligations, unresolved item = true))
    "successful terminal has unresolved obligations"
  require (p.terminalOutcome = some doc.expected.outcome)
    "expected terminal result differs from computed terminal"
  require (doc.expected.state = p.snapshot)
    "expected terminal state differs from computed reducer state"
  require (doc.expected.invariants.toFinset = invariantRegistry)
    "trace must declare the complete executable invariant registry"
  require (doc.expected.invariants.toFinset ⊆ invariants p doc) "unsatisfied invariants"
  require (∀ item ∈ doc.expected.liveCapabilities, validOwnership item = true) "invalid ownership"
  require (Multiset.ofList (doc.expected.liveCapabilities.map
      fun item => (⟨item.capability, item.owner⟩ : Sigma fun _ : String => String)) = p.live.entries)
    "expected live capabilities differ from computed ownership"
  require (doc.recoveryObservations = p.recoveryObservations)
    "recovery observations differ from computed replay"
  return ⟨doc.traceId, doc.expected.outcome, p.snapshot, p.recoveryActions, p.recoveryObservations,
    p.live, p.obligations, invariants p doc, p.operationRejectionSeen, p.operationRecoverySeen⟩

def replayTrace (doc : Document) : OracleM ReplayResult := do
  require (SatisfiesSchema doc) "schema validation failed"
  require (doc.schemaVersion.value = 1 ∧ doc.modelVersion.value = 1)
    "unsupported replay trace version"
  require (doc.traceId ≠ "") "trace id must be non-empty"
  require (isOwner doc.scenario = true) "scenario is not an extensible lifecycle identifier"
  validateProvenance doc.provenance
  validateBudget doc.budget
  let catalog ← doc.capabilityCatalog.foldlM addCapability ∅
  let live ← doc.liveCapabilities.foldlM (addOwnership catalog) ∅
  require (doc.events ≠ [] ∧ doc.events.length ≤ doc.budget.maxEvents.value)
    "event count exceeds replay budget"
  let (final, _) ← replayEvents doc.budget 0
    (initialRuntime doc.initial catalog live doc.liveCapabilities, -1) doc.events
  conclude doc final

end Darling.Lifecycle.Oracle
