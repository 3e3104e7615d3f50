import Mathlib.Data.Finset.Basic
import Darling.Boundary.Errors
import Darling.Library.FiniteMaps

/-! The lifecycle reducer of the operation boundary. It computes ownership, journal
transitions, recovery targets and terminal obligations. Maps and sets are unordered
here; the source keeps them in key order, which no transition reads. -/
namespace Darling.Lifecycle

open Darling.Boundary (BoundaryError)

inductive StableState where
  | uninitialized | ready | running | draining | stopped | corrupt
  deriving DecidableEq, Repr

inductive JournalPhase where
  | none | prepare | publish | cleanup | commit | abort
  deriving DecidableEq, Repr

inductive IntentKind where
  | none | createPrefix | startSession | requestShutdown | releaseSession | recreatePrefix | recover
  deriving DecidableEq, Repr

inductive CapabilityKind where
  | prefixDirectory | sessionRootPidfd | sessionMemberPidfd | sharedSessionLease
  | runtimeEndpoint | journalRecord
  deriving DecidableEq, Repr

def CapabilityKind.isPidfd : CapabilityKind → Bool
  | .sessionRootPidfd | .sessionMemberPidfd => true
  | _ => false

def CapabilityKind.isIdentity (kind : CapabilityKind) : Bool :=
  kind.isPidfd || kind == .sharedSessionLease

/-- `initializeReady` is the source's `Initialize`. -/
inductive RecoveryAction where
  | initializeReady | noop
  | rollbackUninitialized | rollbackReady | rollbackRunning | rollbackStopped
  | completePublish | completeCleanup | drainToReady | continueDrain
  | failClosed | quarantine
  deriving DecidableEq, Repr

inductive Outcome where
  | success | failClosed | timeout | recovered
  deriving DecidableEq, Repr

inductive SignalResult where
  | sent | gone | rejected | deadline
  deriving DecidableEq, Repr

inductive Event where
  | acquire (id : String) (kind : CapabilityKind) (generation : Nat) (owner : String)
  | move (id source target : String)
  | release (id owner : String)
  | intent (intent : IntentKind) (transaction : String)
  | barrierEntered
  | membership (members : List String) (completeness : String)
  | identity (id : String) (isMatch : Bool)
  | signal (id : String) (result : SignalResult)
  | endpoint (endpoint operation result : String)
  | operationCheckpoint (operation checkpoint placement result : String)
  | memberObserved (id origin : String)
  | fault (name : String)
  | recovery (action : RecoveryAction)
  | terminal (outcome : Outcome)
  deriving DecidableEq, Repr

/-- The reducer stores obligations by their text. Only these texts are ever inserted, and
`fault` is the one that takes a name, so the texts and these values correspond. -/
inductive Obligation where
  | membershipIncomplete | membershipClosed | identityFailure | lateForkRecovery
  | endpointFailure | operationFailure | signalFailure | quarantineFailure | inodeAbaFailure
  | fault (name : String)
  deriving DecidableEq, Repr

def Obligation.text : Obligation → String
  | .membershipIncomplete => "membership-incomplete"
  | .membershipClosed => "membership-closed"
  | .identityFailure => "identity-failure"
  | .lateForkRecovery => "late-fork-recovery"
  | .endpointFailure => "endpoint-failure"
  | .operationFailure => "operation-failure"
  | .signalFailure => "signal-failure"
  | .quarantineFailure => "quarantine-failure"
  | .inodeAbaFailure => "inode-aba-failure"
  | .fault name => "fault:" ++ name

structure CatalogEntry where
  kind : CapabilityKind
  generation : Nat
  deriving DecidableEq, Repr

structure StateSnapshot where
  stable : StableState
  journal : JournalPhase
  intent : IntentKind
  deriving DecidableEq, Repr

structure RecoveryObservation where
  stable : StableState
  journal : JournalPhase
  action : RecoveryAction
  deriving DecidableEq, Repr

abbrev Catalog := Finmap (fun _ : String => CatalogEntry)
abbrev Owners := Finmap (fun _ : String => String)

structure Reducer where
  snapshot : StateSnapshot
  catalog : Catalog
  live : Owners
  matched : Finset String
  gone : Finset String
  consumed : Finset (String × Nat)
  checkpointLive : Owners
  checkpointMatched : Finset String
  checkpointGone : Finset String
  transaction : Option String
  obligations : Finset Obligation
  membershipClosed : Bool
  terminal : Option Outcome
  observations : List RecoveryObservation
  membershipSeenAfterGone : Bool
  signalWithoutIdentity : Bool
  lateForkSeen : Bool
  lateForkAfterClosed : Bool
  lateForkFaultSeen : Bool
  operationRejectionSeen : Bool
  operationRecoverySeen : Bool
  deriving DecidableEq

def Reducer.new (stable : StableState) : Reducer where
  snapshot := ⟨stable, .none, .none⟩
  catalog := ∅
  live := ∅
  matched := ∅
  gone := ∅
  consumed := ∅
  checkpointLive := ∅
  checkpointMatched := ∅
  checkpointGone := ∅
  transaction := none
  obligations := ∅
  membershipClosed := false
  terminal := none
  observations := []
  membershipSeenAfterGone := false
  signalWithoutIdentity := false
  lateForkSeen := false
  lateForkAfterClosed := false
  lateForkFaultSeen := false
  operationRejectionSeen := false
  operationRecoverySeen := false

/-- A call that mutates the reducer leaves a state behind even when it is refused. -/
abbrev Reply := EStateM.Result BoundaryError Reducer Unit

def seedOwnership (r : Reducer) (id owner : String) : Except BoundaryError Reducer :=
  match r.catalog.lookup id with
  | none => .error (.wrongCapability "unknown seeded capability")
  | some entry =>
    if id ∈ r.live then .error (.wrongCapability "duplicate seeded capability")
    else .ok { r with
      consumed := insert (id, entry.generation) r.consumed
      live := r.live.insert id owner }

def isCapabilityName (id : String) : Bool := "cap.".toList.isPrefixOf id.toList

def registerCapability (r : Reducer) (id : String) (kind : CapabilityKind) (generation : Nat) :
    Except BoundaryError Reducer :=
  if !isCapabilityName id ∨ generation = 0 ∨ id ∈ r.catalog then
    .error (.wrongCapability "duplicate or invalid capability catalog entry")
  else .ok { r with catalog := r.catalog.insert id ⟨kind, generation⟩ }

def stableTransitionAllowed : StableState → StableState → Bool
  | .uninitialized, .uninitialized | .uninitialized, .ready | .uninitialized, .corrupt => true
  | .ready, .ready | .ready, .running | .ready, .stopped | .ready, .corrupt => true
  | .running, .running | .running, .draining | .running, .ready | .running, .stopped
  | .running, .corrupt => true
  | .draining, .draining | .draining, .running | .draining, .ready | .draining, .stopped
  | .draining, .corrupt => true
  | .stopped, .stopped | .stopped, .ready | .stopped, .corrupt => true
  | .corrupt, .corrupt => true
  | _, _ => false

def journalTransitionAllowed : JournalPhase → JournalPhase → Bool
  | .none, .none | .none, .prepare | .none, .commit | .none, .abort => true
  | .prepare, .prepare | .prepare, .publish | .prepare, .cleanup | .prepare, .abort => true
  | .publish, .publish | .publish, .commit | .publish, .abort => true
  | .cleanup, .cleanup | .cleanup, .commit | .cleanup, .abort => true
  | .commit, .commit | .commit, .none | .commit, .abort | .commit, .prepare => true
  | .abort, .abort | .abort, .none | .abort, .prepare => true
  | _, _ => false

@[simp] theorem stableTransitionAllowed_refl (stable : StableState) :
    stableTransitionAllowed stable stable = true := by cases stable <;> rfl

@[simp] theorem journalTransitionAllowed_refl (journal : JournalPhase) :
    journalTransitionAllowed journal journal = true := by cases journal <;> rfl

def recoveryAction : StableState → JournalPhase → RecoveryAction
  | .uninitialized, .none => .initializeReady
  | .uninitialized, .prepare => .rollbackUninitialized
  | .uninitialized, .publish => .rollbackUninitialized
  | .uninitialized, .cleanup => .rollbackUninitialized
  | .uninitialized, .commit => .failClosed
  | .uninitialized, .abort => .rollbackUninitialized
  | .ready, .none => .noop
  | .ready, .prepare => .rollbackReady
  | .ready, .publish => .completePublish
  | .ready, .cleanup => .completeCleanup
  | .ready, .commit => .noop
  | .ready, .abort => .rollbackReady
  | .running, .none => .noop
  | .running, .prepare => .rollbackRunning
  | .running, .publish => .completePublish
  | .running, .cleanup => .drainToReady
  | .running, .commit => .noop
  | .running, .abort => .rollbackRunning
  | .draining, .none => .continueDrain
  | .draining, .prepare => .rollbackRunning
  | .draining, .publish => .completePublish
  | .draining, .cleanup => .continueDrain
  | .draining, .commit => .drainToReady
  | .draining, .abort => .rollbackRunning
  | .stopped, .none => .noop
  | .stopped, .prepare => .rollbackStopped
  | .stopped, .publish => .completePublish
  | .stopped, .cleanup => .completeCleanup
  | .stopped, .commit => .noop
  | .stopped, .abort => .rollbackStopped
  | .corrupt, .abort => .quarantine
  | .corrupt, _ => .failClosed

/-- The state an action leads to, before the transition tables are consulted. -/
def actionTarget (action : RecoveryAction) (origin : StateSnapshot) : StateSnapshot :=
  match action with
  | .noop | .continueDrain => origin
  | .initializeReady | .completePublish => ⟨.ready, .commit, .createPrefix⟩
  | .rollbackUninitialized => ⟨.uninitialized, .abort, .recover⟩
  | .rollbackReady => ⟨.ready, .abort, .recover⟩
  | .rollbackRunning => ⟨.running, .abort, .recover⟩
  | .rollbackStopped => ⟨.stopped, .abort, .recover⟩
  | .completeCleanup => ⟨.stopped, .commit, .releaseSession⟩
  | .drainToReady => ⟨.ready, .commit, .releaseSession⟩
  | .failClosed | .quarantine => ⟨.corrupt, .abort, .recover⟩

def transitionAllowed (before after : StateSnapshot) : Bool :=
  stableTransitionAllowed before.stable after.stable &&
    journalTransitionAllowed before.journal after.journal

@[simp] theorem transitionAllowed_refl (snapshot : StateSnapshot) :
    transitionAllowed snapshot snapshot = true := by simp [transitionAllowed]

def recoveryTarget (action : RecoveryAction) (origin : StateSnapshot) :
    Except BoundaryError StateSnapshot :=
  if transitionAllowed origin (actionTarget action origin) then .ok (actionTarget action origin)
  else .error (.wrongCapability "unreachable recovery target")

/-- Every prescribed action is executable: the recovery matrix never leads to a state the
transition tables forbid. -/
theorem recoveryTarget_prescribed (s : StateSnapshot) :
    recoveryTarget (recoveryAction s.stable s.journal) s =
      .ok (actionTarget (recoveryAction s.stable s.journal) s) := by
  obtain ⟨stable, journal, intent⟩ := s
  cases stable <;> cases journal <;> rfl

/-- Actions that restore the ownership checkpoint. -/
def RecoveryAction.isRollback : RecoveryAction → Bool
  | .rollbackUninitialized | .rollbackReady | .rollbackRunning | .rollbackStopped
  | .failClosed | .quarantine => true
  | _ => false

/-- Actions that close the transaction and keep its ownership. -/
def RecoveryAction.isCompletion : RecoveryAction → Bool
  | .initializeReady | .completePublish | .completeCleanup | .drainToReady => true
  | _ => false

/-- Obligations a rollback discharges. -/
def Obligation.isRolledBack : Obligation → Bool
  | .fault _ | .identityFailure | .lateForkRecovery | .endpointFailure | .operationFailure
  | .signalFailure | .quarantineFailure | .inodeAbaFailure => true
  | .membershipIncomplete | .membershipClosed => false

/-- Obligations a continued drain discharges. -/
def Obligation.isDrained : Obligation → Bool
  | .operationFailure | .signalFailure | .quarantineFailure | .inodeAbaFailure => true
  | _ => false

def Obligation.isUnresolved : Obligation → Bool
  | .fault _ | .identityFailure | .lateForkRecovery | .membershipIncomplete | .endpointFailure
  | .operationFailure | .signalFailure | .quarantineFailure | .inodeAbaFailure => true
  | .membershipClosed => false

def unresolved (r : Reducer) : Bool := decide (∃ item ∈ r.obligations, item.isUnresolved)

def rollback (r : Reducer) : Reducer :=
  { r with
    operationRecoverySeen := r.operationRecoverySeen || decide (.operationFailure ∈ r.obligations)
    live := r.checkpointLive.eraseAll r.gone
    matched := r.checkpointMatched \ r.gone
    gone := r.checkpointGone ∪ r.gone
    transaction := none
    obligations := r.obligations.filter fun item => !item.isRolledBack }

def continueDrain (r : Reducer) : Reducer :=
  { r with
    operationRecoverySeen := r.operationRecoverySeen || decide (.operationFailure ∈ r.obligations)
    obligations := r.obligations.filter fun item => !item.isDrained }

/-- The ownership and obligation effect of a prescribed action. -/
def settle (action : RecoveryAction) (r : Reducer) : Reducer :=
  if action.isRollback then rollback r
  else if action.isCompletion then { r with transaction := none }
  else if action = .continueDrain then continueDrain r
  else r

@[simp] theorem settle_snapshot (action : RecoveryAction) (r : Reducer) :
    (settle action r).snapshot = r.snapshot := by
  unfold settle; split_ifs <;> rfl

@[simp] theorem settle_checkpointLive (action : RecoveryAction) (r : Reducer) :
    (settle action r).checkpointLive = r.checkpointLive := by
  unfold settle; split_ifs <;> rfl

def recover (r : Reducer) (action : RecoveryAction) : Reply :=
  if action ≠ recoveryAction r.snapshot.stable r.snapshot.journal then
    .error (.wrongCapability "recovery action does not cover state/phase") r
  else match recoveryTarget action r.snapshot with
    | .error error => .error error r
    | .ok target => .ok () <| settle action { r with
        snapshot := target
        observations := r.observations ++ [⟨r.snapshot.stable, r.snapshot.journal, action⟩] }

def acquire (r : Reducer) (id : String) (kind : CapabilityKind) (generation : Nat)
    (owner : String) : Reply :=
  match r.catalog.lookup id with
  | none => .error (.wrongCapability "unknown capability") r
  | some entry =>
    if entry.kind ≠ kind ∨ entry.generation ≠ generation ∨ id ∈ r.live ∨
        (id, entry.generation) ∈ r.consumed then
      .error (.wrongCapability "double or reused capability generation") r
    else .ok () { r with
      consumed := insert (id, entry.generation) r.consumed
      live := r.live.insert id owner }

/-- The membership loop stops at its first bad member. -/
def checkMembers (r : Reducer) : List String → Except BoundaryError Unit
  | [] => .ok ()
  | member :: rest =>
    match r.catalog.lookup member with
    | none => .error (.wrongCapability "unknown member")
    | some entry =>
      if !entry.kind.isPidfd ∨ member ∉ r.live then
        .error (.wrongCapability "membership requires live pidfd")
      else checkMembers r rest

def membership (r : Reducer) (members : List String) (completeness : String) : Reply :=
  if r.gone.Nonempty then
    .error (.wrongCapability "membership after gone identity")
      { r with membershipSeenAfterGone := true }
  else match checkMembers r members with
    | .error error => .error error r
    | .ok _ => .ok () { r with
        membershipClosed := r.membershipClosed || completeness == "CLOSED"
        obligations := insert
          (if completeness = "TIMEOUT" ∨ completeness = "OVERFLOW" then .membershipIncomplete
            else .membershipClosed) r.obligations }

def identity (r : Reducer) (id : String) (isMatch : Bool) : Reply :=
  match r.catalog.lookup id with
  | none => .error (.wrongCapability "unknown identity") r
  | some entry =>
    if !entry.kind.isIdentity ∨ id ∉ r.live then
      .error (.wrongCapability "identity requires live capability") r
    else if isMatch then .ok () { r with matched := insert id r.matched }
    else .ok () { r with
      live := r.live.erase id
      matched := r.matched.erase id
      gone := insert id r.gone
      obligations := insert .identityFailure r.obligations }

/-- The ledger effect of a signal, before the journal moves to cleanup. -/
def signalEffect (r : Reducer) (id : String) : SignalResult → Reducer
  | .sent => r
  | .gone => { r with
      live := r.live.erase id
      matched := r.matched.erase id
      gone := insert id r.gone }
  | .rejected => { r with obligations := insert .signalFailure r.obligations }
  | .deadline => { r with obligations := insert (.fault "TIMEOUT") r.obligations }

def signal (r : Reducer) (id : String) (result : SignalResult) : Reply :=
  match r.catalog.lookup id with
  | none => .error (.wrongCapability "unknown signal capability") r
  | some entry =>
    if !entry.kind.isPidfd ∨ id ∉ r.live ∨ id ∉ r.matched then
      .error (.wrongCapability "signal requires matching pidfd")
        { r with signalWithoutIdentity := true }
    else .ok () { signalEffect r id result with
      snapshot := { r.snapshot with journal := .cleanup } }

def boundaryOperations : List String := ["MKDIR_CHILD", "UNLINK_EXACT", "RENAME_EXACT"]

def boundaryCheckpoints : List String := [
  "after-mkdir-before-bind", "after-bind-before-publish", "after-stage-mkdir-before-bind",
  "after-stage-bind-before-move", "after-move-before-verify",
  "after-quarantine-move-before-verify", "after-quarantine-verify-before-gc",
  "before-exact-mutation", "after-exact-mutation"]

/-- The obligation a rejected checkpoint adds beside `operationFailure`. -/
def companion (operation checkpoint : String) : Finset Obligation :=
  if checkpoint = "after-quarantine-move-before-verify" then {.quarantineFailure}
  else if operation = "RENAME_EXACT" ∧ checkpoint = "after-move-before-verify" then
    {.inodeAbaFailure}
  else ∅

def operationCheckpoint (r : Reducer) (operation checkpoint placement result : String) : Reply :=
  if operation ∉ boundaryOperations ∨ checkpoint ∉ boundaryCheckpoints ∨
      placement ∉ ["BEFORE", "AFTER"] ∨ result ∉ ["INJECTED", "COMPLETED", "ERROR"] then
    .error (.wrongCapability "invalid operation checkpoint") r
  else if result ∈ ["INJECTED", "ERROR"] then .ok () { r with
    operationRejectionSeen := true
    obligations := companion operation checkpoint ∪ insert .operationFailure r.obligations }
  else .ok () r

def memberObserved (r : Reducer) (id origin : String) : Reply :=
  match r.catalog.lookup id with
  | none => .error (.wrongCapability "unknown observed member") r
  | some entry =>
    if !entry.kind.isPidfd then .error (.wrongCapability "member observation requires pidfd") r
    else if origin = "LATE_FORK" then .ok () { r with
      lateForkSeen := true
      lateForkAfterClosed := r.membershipClosed
      obligations := insert .lateForkRecovery r.obligations }
    else .ok () r

/-- The event match of `apply_inner`, between the terminal check and the final
transition check. -/
def applyEvent (r : Reducer) : Event → Reply
  | .acquire id kind generation owner => acquire r id kind generation owner
  | .move id source target =>
    if r.live.lookup id ≠ some source then .error (.wrongCapability "move ownership") r
    else .ok () { r with live := r.live.insert id target }
  | .release id owner =>
    if r.live.lookup id ≠ some owner then .error (.wrongCapability "release ownership") r
    else .ok () { r with live := r.live.erase id, matched := r.matched.erase id }
  | .intent intent transaction =>
    if r.transaction.isSome then .error (.wrongCapability "nested lifecycle transaction") r
    else .ok () { r with
      transaction := some transaction
      checkpointLive := r.live
      checkpointMatched := r.matched
      checkpointGone := r.gone
      snapshot := { r.snapshot with journal := .prepare, intent := intent } }
  | .barrierEntered => .ok () { r with snapshot := { r.snapshot with stable := .draining } }
  | .membership members completeness => membership r members completeness
  | .identity id isMatch => identity r id isMatch
  | .signal id result => signal r id result
  | .endpoint _ _ result =>
    if result = "REJECTED" then .ok () { r with
      obligations := insert .endpointFailure r.obligations }
    else .ok () r
  | .operationCheckpoint operation checkpoint placement result =>
    operationCheckpoint r operation checkpoint placement result
  | .memberObserved id origin => memberObserved r id origin
  | .fault name => .ok () { r with
      obligations := insert (.fault name) r.obligations
      lateForkFaultSeen := r.lateForkFaultSeen || name == "LATE_FORK" }
  | .recovery action => recover r action
  | .terminal outcome =>
    if outcome = .success ∧ unresolved r then
      .error (.wrongCapability "successful terminal has unresolved obligations") r
    else .ok () { r with terminal := some outcome }

def applyInner (r : Reducer) (event : Event) : Reply :=
  if r.terminal.isSome then .error (.wrongCapability "event after terminal") r
  else match applyEvent r event with
    | .error error after => .error error after
    | .ok _ after =>
      if transitionAllowed r.snapshot after.snapshot then .ok () after
      else .error (.wrongCapability "illegal lifecycle transition") after

/-- A rejected event restores the reducer, except that the two safety observations are
monotone evidence and survive. -/
def apply (r : Reducer) (event : Event) : Reply :=
  match applyInner r event with
  | .ok _ after => .ok () after
  | .error error after => .error error { r with
      signalWithoutIdentity := r.signalWithoutIdentity || after.signalWithoutIdentity
      membershipSeenAfterGone := r.membershipSeenAfterGone || after.membershipSeenAfterGone }

end Darling.Lifecycle
