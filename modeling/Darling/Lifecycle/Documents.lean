import Mathlib.Tactic.MkIffOfInductiveProp
import Darling.Lifecycle.State

/-! Replay-trace documents. A value here is a document whose objects have the keys and whose
enumerated fields have the values that the trace schema allows; `SatisfiesSchema` states the
rest of the schema. Numbers keep how they are written, because the two readers differ there. -/
namespace Darling.Lifecycle

/-- How an integral JSON number is written: plain digits, `-0`, or with a fraction or an
exponent such as `1.0`. The schema type `integer` admits all three. -/
inductive Spelling where
  | digits | negativeZero | decimal
  deriving DecidableEq, Repr

structure JsonInteger where
  value : Nat
  spelling : Spelling
  deriving DecidableEq, Repr

/-- `serde_json` keeps `-0`, fractions and integers past 64 bits as floats. -/
def JsonInteger.asU64 (n : JsonInteger) : Option Nat :=
  if n.spelling = .digits ∧ n.value < 2 ^ 64 then some n.value else none

/-- Python's `json` yields a float exactly for a fraction or an exponent. -/
def JsonInteger.isInt (n : JsonInteger) : Bool := n.spelling != .decimal

def plain (value : Nat) : JsonInteger := ⟨value, .digits⟩

inductive Actor where
  | launcher | controller | launchd | member | observer | recovery
  deriving DecidableEq, Repr

inductive BarrierKind where
  | threadsStopped | sessionQuiesced | membershipSnapshot
  deriving DecidableEq, Repr

inductive BarrierResult where
  | entered | gone | timeout | rejected
  deriving DecidableEq, Repr

inductive Authority where
  | sessionLedger | delegatedCgroup | procTaskChildren
  deriving DecidableEq, Repr

inductive Completeness where
  | complete | closed | abortedGone | overflow | timeout
  deriving DecidableEq, Repr

def Completeness.text : Completeness → String
  | .complete => "COMPLETE"
  | .closed => "CLOSED"
  | .abortedGone => "ABORTED_GONE"
  | .overflow => "OVERFLOW"
  | .timeout => "TIMEOUT"

inductive IdentityResult where
  | same | mismatch | gone
  deriving DecidableEq, Repr

inductive SignalName where
  | term | kill | stop | cont
  deriving DecidableEq, Repr

inductive EndpointOperation where
  | close | unlink | revalidate
  deriving DecidableEq, Repr

def EndpointOperation.text : EndpointOperation → String
  | .close => "CLOSE"
  | .unlink => "UNLINK"
  | .revalidate => "REVALIDATE"

inductive EndpointResult where
  | removed | alreadyGone | mismatch | rejected
  deriving DecidableEq, Repr

def EndpointResult.text : EndpointResult → String
  | .removed => "REMOVED"
  | .alreadyGone => "ALREADY_GONE"
  | .mismatch => "MISMATCH"
  | .rejected => "REJECTED"

inductive BoundaryOperation where
  | mkdirChild | unlinkExact | renameExact
  deriving DecidableEq, Repr

def BoundaryOperation.text : BoundaryOperation → String
  | .mkdirChild => "MKDIR_CHILD"
  | .unlinkExact => "UNLINK_EXACT"
  | .renameExact => "RENAME_EXACT"

def checkpointText : Boundary.Checkpoint → String
  | .afterMkdirBeforeBind => "after-mkdir-before-bind"
  | .afterBindBeforePublish => "after-bind-before-publish"
  | .afterStageMkdirBeforeBind => "after-stage-mkdir-before-bind"
  | .afterStageBindBeforeMove => "after-stage-bind-before-move"
  | .afterMoveBeforeVerify => "after-move-before-verify"
  | .afterQuarantineMoveBeforeVerify => "after-quarantine-move-before-verify"
  | .afterQuarantineVerifyBeforeGc => "after-quarantine-verify-before-gc"
  | .beforeExactMutation => "before-exact-mutation"
  | .afterExactMutation => "after-exact-mutation"

inductive Placement where
  | before | after
  deriving DecidableEq, Repr

def Placement.text : Placement → String
  | .before => "BEFORE"
  | .after => "AFTER"

inductive CheckpointResult where
  | injected | completed | error
  deriving DecidableEq, Repr

def CheckpointResult.text : CheckpointResult → String
  | .injected => "INJECTED"
  | .completed => "COMPLETED"
  | .error => "ERROR"

inductive MemberOrigin where
  | startupLedger | snapshot | lateFork | replacement
  deriving DecidableEq, Repr

def MemberOrigin.text : MemberOrigin → String
  | .startupLedger => "STARTUP_LEDGER"
  | .snapshot => "SNAPSHOT"
  | .lateFork => "LATE_FORK"
  | .replacement => "REPLACEMENT"

inductive FaultPhase where
  | prepare | publish | cleanup | commit | barrier | signal
  deriving DecidableEq, Repr

inductive FaultName where
  | sigint | timeout | rootExit | pidReuse | lateFork | leaseHolder | closeRange
  deriving DecidableEq, Repr

def FaultName.text : FaultName → String
  | .sigint => "SIGINT"
  | .timeout => "TIMEOUT"
  | .rootExit => "ROOT_EXIT"
  | .pidReuse => "PID_REUSE"
  | .lateFork => "LATE_FORK"
  | .leaseHolder => "LEASE_HOLDER"
  | .closeRange => "CLOSE_RANGE"

/-- The event kind together with its `data` object. -/
inductive EventData where
  | capabilityAcquired (capability owner : String)
  | capabilityMoved (capability source target : String)
  | capabilityReleased (capability owner reason : String)
  | intentDeclared (intent : IntentKind) (transactionId : String)
  | barrierEntered (barrier : BarrierKind) (result : BarrierResult)
  | membershipSnapshot (authority : Authority) (members : List String) (completeness : Completeness)
  | identityRevalidated (capability : String) (result : IdentityResult)
  | signalSent (capability : String) (signal : SignalName) (result : SignalResult)
  | endpointTransition (endpoint : String) (operation : EndpointOperation) (result : EndpointResult)
  | operationCheckpoint (operation : BoundaryOperation) (checkpoint : Boundary.Checkpoint)
      (placement : Placement) (result : CheckpointResult)
  | memberObserved (capability : String) (origin : MemberOrigin)
  | faultInjected (phase : FaultPhase) (fault : FaultName)
  | recovery (action : RecoveryAction) (reason : String)
  | terminal (outcome : Outcome)
  deriving DecidableEq, Repr

def EventData.isTerminal : EventData → Bool
  | .terminal _ => true
  | _ => false

structure TraceEvent where
  seq : JsonInteger
  timeNs : JsonInteger
  actor : Actor
  data : EventData
  stateAfter : StateSnapshot
  deriving DecidableEq, Repr

inductive ProvenanceKind where
  | historicalObservation | goldenScenario
  deriving DecidableEq, Repr

structure SourceIdentity where
  repository : String
  commit : String
  tree : String
  profile : String
  module : String
  deriving DecidableEq, Repr

structure Provenance where
  kind : ProvenanceKind
  sourceLabel : String
  evidenceId : String
  sourceIdentity : SourceIdentity
  artifactSha256 : Option String
  deriving DecidableEq, Repr

structure Budget where
  maxEvents : JsonInteger
  maxVirtualTimeNs : JsonInteger
  maxLiveCapabilities : JsonInteger
  maxRecoverySteps : JsonInteger
  deriving DecidableEq, Repr

structure CatalogItem where
  capabilityId : String
  kind : CapabilityKind
  token : String
  generation : JsonInteger
  deriving DecidableEq, Repr

structure Ownership where
  capability : String
  owner : String
  deriving DecidableEq, Repr

structure Expected where
  outcome : Outcome
  state : StateSnapshot
  invariants : List String
  liveCapabilities : List Ownership
  deriving DecidableEq, Repr

structure Document where
  schemaVersion : JsonInteger
  modelVersion : JsonInteger
  traceId : String
  scenario : String
  provenance : Provenance
  budget : Budget
  initial : StateSnapshot
  capabilityCatalog : List CatalogItem
  liveCapabilities : List Ownership
  events : List TraceEvent
  expected : Expected
  recoveryObservations : List RecoveryObservation
  deriving DecidableEq, Repr

def isLowerDigit (c : Char) : Bool := ('a' ≤ c && c ≤ 'z') || ('0' ≤ c && c ≤ '9')

/-- The character class `[a-z0-9._-]`. -/
def isNameChar (c : Char) : Bool := isLowerDigit c || c == '.' || c == '_' || c == '-'

def isHexDigit (c : Char) : Bool := ('0' ≤ c && c ≤ '9') || ('a' ≤ c && c ≤ 'f')

/-- A nonempty text over a character class. -/
def isWord (allowed : Char → Bool) (text : List Char) : Bool :=
  !text.isEmpty && text.all allowed

/-- `lead` followed by a nonempty word of `[a-z0-9._-]`. -/
def isTagged (lead text : String) : Bool :=
  lead.toList.isPrefixOf text.toList && isWord isNameChar (text.toList.drop lead.toList.length)

/-- The pattern `^[a-z0-9][a-z0-9._-]*$`, or with another class for the tail. -/
def isIdentifier (tail : Char → Bool) (text : String) : Bool :=
  match text.toList with
  | [] => false
  | first :: rest => isLowerDigit first && rest.all tail

def isHex (length : Nat) (text : String) : Bool :=
  text.toList.length == length && text.toList.all isHexDigit

/-- The owner pattern, also used for scenarios. -/
def isOwner (text : String) : Bool := isIdentifier isNameChar text

/-- String patterns of an event's `data` object. -/
def EventData.patterns : EventData → Bool
  | .capabilityAcquired capability owner => isTagged "cap." capability && isOwner owner
  | .capabilityMoved capability source target =>
    isTagged "cap." capability && isOwner source && isOwner target
  | .capabilityReleased capability owner reason =>
    isTagged "cap." capability && isOwner owner && isWord isNameChar reason.toList
  | .intentDeclared intent transactionId => intent != .none && isTagged "txn." transactionId
  | .membershipSnapshot _ members _ => members.all (isTagged "cap.")
  | .identityRevalidated capability _ | .signalSent capability _ _
  | .memberObserved capability _ => isTagged "cap." capability
  | .endpointTransition endpoint _ _ => isTagged "endpoint." endpoint
  | .recovery _ reason => isWord isNameChar reason.toList
  | .barrierEntered .. | .operationCheckpoint .. | .faultInjected .. | .terminal _ => true

/-- The schema's `uniqueItems` on the members of a snapshot. -/
def EventData.uniqueMembers : EventData → Bool
  | .membershipSnapshot _ members _ => decide members.Nodup
  | _ => true

/-- A number that JSON can write: only zero is written `-0`. -/
def JsonInteger.writable (n : JsonInteger) : Bool := n.spelling != .negativeZero || n.value == 0

/-- Every number of a document. -/
def Document.numbers (doc : Document) : List JsonInteger :=
  [doc.schemaVersion, doc.modelVersion, doc.budget.maxEvents, doc.budget.maxVirtualTimeNs,
    doc.budget.maxLiveCapabilities, doc.budget.maxRecoverySteps] ++
    doc.capabilityCatalog.map CatalogItem.generation ++
    doc.events.flatMap fun event => [event.seq, event.timeNs]

def Ownership.patterns (item : Ownership) : Bool :=
  isTagged "cap." item.capability && isOwner item.owner

/-- What `lifecycle-replay-trace-v1.schema.json` demands beyond keys and enumerations. -/
@[mk_iff]
structure SatisfiesSchema (doc : Document) : Prop where
  schemaVersion : doc.schemaVersion.value = 1
  modelVersion : doc.modelVersion.value = 1
  traceId : isIdentifier (fun c => isLowerDigit c || c == '-') doc.traceId = true
  scenario : isOwner doc.scenario = true
  sourceLabel : doc.provenance.sourceLabel ≠ ""
  evidenceId : isWord (fun c => isNameChar c || c == '/') doc.provenance.evidenceId.toList = true
  repository : doc.provenance.sourceIdentity.repository ≠ ""
  commit : isHex 40 doc.provenance.sourceIdentity.commit = true
  tree : isHex 40 doc.provenance.sourceIdentity.tree = true
  profile : isOwner doc.provenance.sourceIdentity.profile = true
  module : isOwner doc.provenance.sourceIdentity.module = true
  artifact : doc.provenance.artifactSha256.isSome = true ↔
    doc.provenance.kind = .historicalObservation
  artifactSha : ∀ sha ∈ doc.provenance.artifactSha256, isHex 64 sha = true
  budgetEvents : 1 ≤ doc.budget.maxEvents.value
  budgetTime : 1 ≤ doc.budget.maxVirtualTimeNs.value
  budgetLive : 1 ≤ doc.budget.maxLiveCapabilities.value
  budgetRecovery : 1 ≤ doc.budget.maxRecoverySteps.value
  catalog : ∀ item ∈ doc.capabilityCatalog, isTagged "cap." item.capabilityId = true ∧
    isWord (fun c => isNameChar c || c == '@') item.token.toList = true ∧ 1 ≤ item.generation.value
  catalogUnique : doc.capabilityCatalog.Nodup
  live : ∀ item ∈ doc.liveCapabilities, item.patterns = true
  liveUnique : doc.liveCapabilities.Nodup
  atLeastTwo : 2 ≤ doc.events.length
  events : ∀ event ∈ doc.events, event.data.patterns = true
  members : ∀ event ∈ doc.events, event.data.uniqueMembers = true
  invariants : doc.expected.invariants ≠ [] ∧ doc.expected.invariants.Nodup ∧
    ∀ name ∈ doc.expected.invariants, isWord (fun c => isLowerDigit c || c == '-') name.toList = true
  expectedLive : ∀ item ∈ doc.expected.liveCapabilities, item.patterns = true
  expectedLiveUnique : doc.expected.liveCapabilities.Nodup
  writable : ∀ n ∈ doc.numbers, n.writable = true

instance (doc : Document) : Decidable (SatisfiesSchema doc) :=
  decidable_of_iff _ (satisfiesSchema_iff doc).symm

/-- The initial journal phase and intent are both NONE. -/
def Document.Idle (doc : Document) : Prop :=
  doc.initial.journal = .none ∧ doc.initial.intent = .none

instance (doc : Document) : Decidable doc.Idle := inferInstanceAs (Decidable (_ ∧ _))

def invariantRegistry : Finset String := {
  "no-raw-path-authority", "no-unvalidated-fd", "stable-journal-independent",
  "total-recovery-matrix", "identity-before-signal", "no-children-after-gone",
  "shared-lease-bound", "pidfd-identity-before-signal", "late-fork-closes-snapshot",
  "bounded-replay", "terminal-trace"}

def modelMaxEvents : Nat := 128
def modelMaxVirtualTimeNs : Nat := 1000000
def modelMaxLiveCapabilities : Nat := 64
def modelMaxRecoverySteps : Nat := 16

/-- What a replay returns. The source prints maps and sets in key order, so equal values
here print equally. -/
structure Replay where
  traceId : String
  outcome : Outcome
  finalSnapshot : StateSnapshot
  recoveryObservations : List RecoveryObservation
  liveCapabilities : Owners
  obligations : Finset Obligation
  satisfied : Finset String
  deriving DecidableEq

end Darling.Lifecycle
