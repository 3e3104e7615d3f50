import Darling.Library.Checks
import Darling.Lifecycle.Documents
import Darling.Lifecycle.Ledger

/-! The reducer's replay of a trace document. Recorded states and the expected result are
only compared with what the reducer computes. -/
namespace Darling.Lifecycle

open Darling.Boundary (BoundaryError)

/-- The replay reports texts; a reducer error is kept whole, its text is its display. -/
inductive ReplayError where
  | refused (error : BoundaryError)
  | message (text : String)
  deriving DecidableEq, Repr

abbrev ReplayM := Except ReplayError

def check (condition : Prop) [Decidable condition] (text : String) : ReplayM Unit :=
  require condition (.message text)

/-- `Value::as_u64`, with the text reported when the value is absent. -/
def readU64 (n : JsonInteger) (text : String) : ReplayM Nat :=
  match n.asU64 with
  | some value => .ok value
  | none => .error (.message text)

def capabilityId (value label : String) : ReplayM Unit :=
  check (isTagged "cap." value = true) (label ++ " is not a capability id")

/-- The capability texts `validate_trace_shape` checks in an event, with their labels. -/
def EventData.capabilityIds : EventData → List (String × String)
  | .capabilityAcquired capability _ | .capabilityMoved capability _ _
  | .capabilityReleased capability _ _ => [(capability, "event capability")]
  | .membershipSnapshot _ members _ => members.map fun member => (member, "membership capability")
  | .identityRevalidated capability _ => [(capability, "identity capability")]
  | .signalSent capability _ _ => [(capability, "signal capability")]
  | .memberObserved capability _ => [(capability, "observed member")]
  | _ => []

def supportedIntent : EventData → Bool
  | .intentDeclared intent _ => intent != .none
  | _ => true

def validateTraceShape (doc : Document) : ReplayM Unit := do
  check (doc.schemaVersion.asU64 = some 1 ∧ doc.modelVersion.asU64 = some 1)
    "unsupported replay trace schema"
  check (doc.traceId ≠ "" ∧ doc.scenario ≠ "") "trace identifiers must be non-empty"
  check (doc.provenance.artifactSha256.isSome = true ↔ doc.provenance.kind = .historicalObservation)
    "trace.provenance keys differ"
  doc.capabilityCatalog.forM fun item => capabilityId item.capabilityId "capability catalog id"
  doc.liveCapabilities.forM fun item => capabilityId item.capability "initial ownership capability"
  doc.events.forM fun event => do
    check (supportedIntent event.data = true) "intent has unsupported value NONE"
    event.data.capabilityIds.forM fun (capability, label) => capabilityId capability label

/-- The event the reducer sees; a barrier that was not entered is not one. -/
def mapEvent (data : EventData) (catalog : Catalog) : ReplayM (Option Event) :=
  match data with
  | .capabilityAcquired capability owner =>
    match catalog.lookup capability with
    | none => .error (.message "acquire references unknown capability")
    | some entry => .ok (some (.acquire capability entry.kind entry.generation owner))
  | .capabilityMoved capability source target => .ok (some (.move capability source target))
  | .capabilityReleased capability owner _ => .ok (some (.release capability owner))
  | .intentDeclared intent transactionId => .ok (some (.intent intent transactionId))
  | .barrierEntered _ result => .ok (if result = .entered then some .barrierEntered else none)
  | .membershipSnapshot _ members completeness =>
    .ok (some (.membership members completeness.text))
  | .identityRevalidated capability result =>
    .ok (some (.identity capability (decide (result = .same))))
  | .signalSent capability _ result => .ok (some (.signal capability result))
  | .endpointTransition endpoint operation result =>
    .ok (some (.endpoint endpoint operation.text result.text))
  | .operationCheckpoint operation checkpoint placement result =>
    .ok (some (.operationCheckpoint operation.text (checkpointText checkpoint) placement.text
      result.text))
  | .memberObserved capability origin => .ok (some (.memberObserved capability origin.text))
  | .faultInjected _ fault => .ok (some (.fault fault.text))
  | .recovery action _ => .ok (some (.recovery action))
  | .terminal outcome => .ok (some (.terminal outcome))

structure Limits where
  maxEvents : Nat
  maxVirtualTimeNs : Nat
  maxLiveCapabilities : Nat
  maxRecoverySteps : Nat
  deriving DecidableEq, Repr

def readBudget (budget : Budget) : ReplayM Limits := do
  let maxEvents ← readU64 budget.maxEvents "max_events must be an integer"
  let maxVirtualTimeNs ← readU64 budget.maxVirtualTimeNs "max_virtual_time_ns must be an integer"
  let maxLiveCapabilities ←
    readU64 budget.maxLiveCapabilities "max_live_capabilities must be an integer"
  let maxRecoverySteps ← readU64 budget.maxRecoverySteps "max_recovery_steps must be an integer"
  check (maxEvents ≤ modelMaxEvents ∧ maxVirtualTimeNs ≤ modelMaxVirtualTimeNs ∧
      maxLiveCapabilities ≤ modelMaxLiveCapabilities ∧ maxRecoverySteps ≤ modelMaxRecoverySteps)
    "trace budget exceeds authoritative lifecycle model maxima"
  return ⟨maxEvents, maxVirtualTimeNs, maxLiveCapabilities, maxRecoverySteps⟩

def ReplayError.lift {α : Type} : Except BoundaryError α → ReplayM α
  | .ok value => .ok value
  | .error error => .error (.refused error)

/-- Registration fills the reducer's catalog and the replay's own copy of it. -/
def registerItem (state : Reducer × Catalog) (item : CatalogItem) : ReplayM (Reducer × Catalog) := do
  let generation ← readU64 item.generation "capability generation must be an integer"
  let reducer ← ReplayError.lift (registerCapability state.1 item.capabilityId item.kind generation)
  return (reducer, state.2.insert item.capabilityId ⟨item.kind, generation⟩)

def seedItem (r : Reducer) (item : Ownership) : ReplayM Reducer :=
  ReplayError.lift (seedOwnership r item.capability item.owner)

structure ReplayState where
  reducer : Reducer
  previousTime : Nat
  terminalSeen : Bool

def applyMapped (r : Reducer) : Option Event → ReplayM Reducer
  | none => .ok r
  | some event =>
    match apply r event with
    | .ok _ after => .ok after
    | .error error _ => .error (.refused error)

/-- One round of the event loop. -/
def replayEvent (catalog : Catalog) (limits : Limits) (index : Nat) (state : ReplayState)
    (event : TraceEvent) : ReplayM ReplayState := do
  check (state.terminalSeen = false) "terminal event must be unique and strictly last"
  check (event.seq.asU64 = some index) "event sequence is not contiguous"
  let timeNs ← readU64 event.timeNs "event time must be an integer"
  check (state.previousTime ≤ timeNs ∧ timeNs ≤ limits.maxVirtualTimeNs)
    "event time violates replay budget"
  let mapped ← mapEvent event.data catalog
  let reducer ← applyMapped state.reducer mapped
  check (event.stateAfter = reducer.snapshot) "event state_after differs"
  check (reducer.live.keys.card ≤ limits.maxLiveCapabilities ∧
      reducer.observations.length ≤ limits.maxRecoverySteps)
    "live capability or recovery budget exceeded"
  return ⟨reducer, timeNs, event.data.isTerminal⟩

def replayEvents (catalog : Catalog) (limits : Limits) (index : Nat) (state : ReplayState) :
    List TraceEvent → ReplayM ReplayState
  | [] => .ok state
  | event :: rest => do
    let state ← replayEvent catalog limits index state event
    replayEvents catalog limits (index + 1) state rest

def sharedLeaseHeld (r : Reducer) : Bool :=
  decide (∃ id ∈ r.live.keys, ∃ entry ∈ r.catalog.lookup id, entry.kind = .sharedSessionLease)

def lateForkOk (r : Reducer) : Bool :=
  !r.lateForkSeen || (r.lateForkAfterClosed && r.lateForkFaultSeen &&
    decide (.lateForkRecovery ∉ r.obligations) && !r.observations.isEmpty)

/-- The invariants the finished reducer satisfies. -/
def invariantNames (r : Reducer) (eventCount finalTimeNs : Nat) (limits : Limits) : Finset String :=
  invariantRegistry \
    ((if r.signalWithoutIdentity then
        {"no-unvalidated-fd", "identity-before-signal", "pidfd-identity-before-signal"} else ∅) ∪
      (if r.membershipSeenAfterGone then {"no-children-after-gone"} else ∅) ∪
      (if r.terminal = some .success ∧ sharedLeaseHeld r then {"shared-lease-bound"} else ∅) ∪
      (if !lateForkOk r then {"late-fork-closes-snapshot"} else ∅) ∪
      (if limits.maxEvents < eventCount ∨ limits.maxVirtualTimeNs < finalTimeNs ∨
          limits.maxLiveCapabilities < r.live.keys.card ∨
          limits.maxRecoverySteps < r.observations.length then {"bounded-replay"} else ∅))

/-- Later entries for the same capability replace earlier ones. -/
def ownershipMap (items : List Ownership) : Owners :=
  items.foldl (fun owners item => owners.insert item.capability item.owner) ∅

def readTerminal (r : Reducer) : ReplayM Outcome :=
  match r.terminal with
  | some outcome => .ok outcome
  | none => .error (.message "trace has no terminal")

/-- The checks after the event loop, and the result. -/
def conclude (doc : Document) (limits : Limits) (final : ReplayState) : ReplayM Replay := do
  check (final.terminalSeen = true) "terminal event must be last"
  let outcome ← readTerminal final.reducer
  check (doc.expected.outcome = outcome ∧ doc.expected.state = final.reducer.snapshot)
    "expected terminal result differs from Rust replay"
  check (final.reducer.live = ownershipMap doc.expected.liveCapabilities)
    "expected live capabilities differ from Rust replay"
  let satisfied := invariantNames final.reducer doc.events.length final.previousTime limits
  check (doc.expected.invariants.toFinset = invariantRegistry)
    "trace invariant registry is incomplete or unexpected"
  check (doc.expected.invariants.toFinset ⊆ satisfied) "Rust replay did not satisfy invariants"
  check (doc.recoveryObservations = final.reducer.observations)
    "recorded recovery observations differ from Rust replay"
  return ⟨doc.traceId, outcome, final.reducer.snapshot, final.reducer.observations,
    final.reducer.live, final.reducer.obligations, satisfied⟩

def replayTrace (doc : Document) : ReplayM Replay := do
  validateTraceShape doc
  check (doc.initial.journal = .none ∧ doc.initial.intent = .none)
    "Rust replay requires an idle initial journal/intent"
  let registered ← doc.capabilityCatalog.foldlM registerItem (Reducer.new doc.initial.stable, ∅)
  let seeded ← doc.liveCapabilities.foldlM seedItem registered.1
  let limits ← readBudget doc.budget
  check (2 ≤ doc.events.length ∧ doc.events.length ≤ limits.maxEvents)
    "event count exceeds replay budget"
  let final ← replayEvents registered.2 limits 0 ⟨seeded, 0, false⟩ doc.events
  conclude doc limits final

end Darling.Lifecycle
