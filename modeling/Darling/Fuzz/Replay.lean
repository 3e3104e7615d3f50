import Darling.Library.Texts
import Mathlib.Data.List.Infix
import Darling.Fuzz.Bytecode
import Darling.Lifecycle.Replay

/-! `fuzz.rs`: the replay of a scenario through the lifecycle reducer, its classification and the
minimization of its failures. Texts are lists of characters; sets that the source prints in order are
unordered here. -/
namespace Darling.Fuzz

open Darling.Boundary (BoundaryError Checkpoint)
open Darling.Lifecycle

export Texts (Text isWhitespace)

def maxScheduleSteps : Nat := 64
def maxOutputBytes : Nat := 64 * 1024
def maxErrorRecords : Nat := 16
def maxErrorBytes : Nat := 256
def maxReplayTrace : Nat := 64

def fuzzInvariantRegistry : List String := [
  "no-raw-path-authority", "no-unvalidated-fd", "stable-journal-independent", "total-recovery-matrix",
  "identity-before-signal", "no-children-after-gone", "shared-lease-bound", "pidfd-identity-before-signal",
  "late-fork-closes-snapshot", "bounded-replay", "terminal-trace",
  "identity-failure-recovered", "signal-failure-recovered", "deadline-recovered", "operation-failure-recovered",
  "quarantine-recovery", "inode-aba-revalidated", "pid-reuse-revalidated", "root-gone-membership-revalidated"]

/-- The obligations that take one of the eight fuzz predicates away. -/
def fuzzPredicates : List (Obligation × String) := [
  (.identityFailure, "identity-failure-recovered"),
  (.signalFailure, "signal-failure-recovered"),
  (.fault "TIMEOUT", "deadline-recovered"),
  (.operationFailure, "operation-failure-recovered"),
  (.quarantineFailure, "quarantine-recovery"),
  (.inodeAbaFailure, "inode-aba-revalidated"),
  (.fault "PID_REUSE", "pid-reuse-revalidated"),
  (.fault "ROOT_EXIT", "root-gone-membership-revalidated")]

def capabilityIds : List String := [
  "cap.session-root", "cap.launchd-member", "cap.late-member", "cap.shared-lease", "cap.launchd-endpoint"]

def checkpointNames : List String := [
  "after-mkdir-before-bind", "after-bind-before-publish", "after-stage-mkdir-before-bind",
  "after-stage-bind-before-move", "after-move-before-verify", "after-quarantine-move-before-verify",
  "after-quarantine-verify-before-gc", "before-exact-mutation", "after-exact-mutation"]

def operationNames : List String := ["MKDIR_CHILD", "UNLINK_EXACT", "RENAME_EXACT"]

def faultNames : List String := [
  "SIGINT", "TIMEOUT", "ROOT_EXIT", "PID_REUSE", "LATE_FORK", "LEASE_HOLDER", "CLOSE_RANGE"]

def originNames : List String := ["STARTUP_LEDGER", "SNAPSHOT", "LATE_FORK", "REPLACEMENT"]

def completenessNames : List String := ["COMPLETE", "CLOSED", "ABORTED_GONE", "OVERFLOW", "TIMEOUT"]

/-- An entry of one of the tables, or the table's error. -/
def entry (table : List α) (index : UInt8) (message : String) : Except DecodeError α :=
  match table[index.toNat]? with
  | some value => .ok value
  | none => .error ⟨message⟩

def capabilityId (index : UInt8) : Except DecodeError String := entry capabilityIds index "capability index"

def capabilityKind (index : UInt8) : Except DecodeError CapabilityKind :=
  entry [.sessionRootPidfd, .sessionMemberPidfd, .sessionMemberPidfd, .sharedSessionLease, .runtimeEndpoint] index
    "capability kind"

def stableState (value : UInt8) : Except DecodeError StableState :=
  entry [.uninitialized, .ready, .running, .draining, .stopped, .corrupt] value "stable state"

def intentKind (value : UInt8) : Except DecodeError IntentKind :=
  entry [.none, .createPrefix, .startSession, .requestShutdown, .releaseSession, .recreatePrefix, .recover] value
    "intent"

def recoveryActionOf (value : UInt8) : Except DecodeError RecoveryAction :=
  entry [.initializeReady, .noop, .rollbackUninitialized, .rollbackReady, .rollbackRunning, .rollbackStopped,
    .completePublish, .completeCleanup, .drainToReady, .continueDrain, .failClosed, .quarantine] value
    "recovery action"

def signalResult (value : UInt8) : Except DecodeError SignalResult :=
  entry [.sent, .gone, .rejected, .deadline] value "signal result"

def outcome (value : UInt8) : Except DecodeError Outcome :=
  entry [.success, .failClosed, .timeout, .recovered] value "terminal outcome"

/-- The members of a membership mask; only its three low bits are read. -/
def maskMembers (mask : UInt8) : List String :=
  ((List.range 3).filter fun index => mask.toNat.testBit index).filterMap fun index => capabilityIds[index]?

def eventForOp : BytecodeOp → Except DecodeError (Option Event)
  | .intent value => return some (.intent (← intentKind value) "txn.fuzz")
  | .barrier => return some .barrierEntered
  | .acquire capability =>
    return some (.acquire (← capabilityId capability) (← capabilityKind capability) 1 "controller")
  | .identity capability isMatch => return some (.identity (← capabilityId capability) isMatch)
  | .membership mask completeness =>
    return some (.membership (maskMembers mask) (← entry completenessNames completeness "membership completeness"))
  | .signal capability _ result => return some (.signal (← capabilityId capability) (← signalResult result))
  | .recovery value => return some (.recovery (← recoveryActionOf value))
  | .release capability => return some (.release (← capabilityId capability) "controller")
  | .checkpoint operation checkpoint placement result => do
    let operation ← entry operationNames operation "operation"
    let checkpoint ← entry checkpointNames checkpoint "checkpoint"
    return some (.operationCheckpoint operation checkpoint (if placement = 0 then "BEFORE" else "AFTER")
      (if result = 0 then "INJECTED" else if result = 1 then "COMPLETED" else "ERROR"))
  | .memberObserved capability origin =>
    return some (.memberObserved (← capabilityId capability) (← entry originNames origin "member origin"))
  | .fault value => return some (.fault (← entry faultNames value "fault"))
  | .terminal value => return some (.terminal (← outcome value))
  | .advance _ => return none
  | .noop => return none

def opTag : BytecodeOp → Nat
  | .intent _ => 0
  | .barrier => 1
  | .acquire _ => 2
  | .identity _ _ => 3
  | .membership _ _ => 4
  | .signal _ _ _ => 5
  | .recovery _ => 6
  | .release _ => 7
  | .checkpoint _ _ _ _ => 8
  | .memberObserved _ _ => 9
  | .fault _ => 10
  | .terminal _ => 11
  | .advance _ => 12
  | .noop => 13

def opName : BytecodeOp → String
  | .intent _ => "intent"
  | .barrier => "barrier"
  | .acquire _ => "acquire"
  | .identity _ _ => "identity"
  | .membership _ _ => "membership"
  | .signal _ _ _ => "signal"
  | .recovery _ => "recovery"
  | .release _ => "release"
  | .checkpoint _ _ _ _ => "checkpoint"
  | .memberObserved _ _ => "member-observed"
  | .fault _ => "fault"
  | .terminal _ => "terminal"
  | .advance _ => "advance-time"
  | .noop => "noop"

def snapshotCode (snapshot : StateSnapshot) : Nat :=
  let stable := match snapshot.stable with
    | .uninitialized => 0 | .ready => 1 | .running => 2 | .draining => 3 | .stopped => 4 | .corrupt => 5
  let journal := match snapshot.journal with
    | .none => 0 | .prepare => 1 | .publish => 2 | .cleanup => 3 | .commit => 4 | .abort => 5
  stable * 8 + journal

def debugName : Checkpoint → String
  | .afterMkdirBeforeBind => "AfterMkdirBeforeBind"
  | .afterBindBeforePublish => "AfterBindBeforePublish"
  | .afterStageMkdirBeforeBind => "AfterStageMkdirBeforeBind"
  | .afterStageBindBeforeMove => "AfterStageBindBeforeMove"
  | .afterMoveBeforeVerify => "AfterMoveBeforeVerify"
  | .afterQuarantineMoveBeforeVerify => "AfterQuarantineMoveBeforeVerify"
  | .afterQuarantineVerifyBeforeGc => "AfterQuarantineVerifyBeforeGc"
  | .beforeExactMutation => "BeforeExactMutation"
  | .afterExactMutation => "AfterExactMutation"

/-- `osError` is the text the platform has for an error number. -/
def display (osError : Nat → String) : BoundaryError → Text
  | .io operation errno => operation.toList ++ ": ".toList ++ (osError errno).toList
  | .invalidComponent component => "invalid component: ".toList ++ component.toList
  | .notAbsolutePath => "anchor path must be absolute".toList
  | .identityMismatch => "retained inode identity mismatch".toList
  | .wrongCapability operation => "wrong capability for ".toList ++ operation.toList
  | .capabilityClosed => "capability is closed or moved".toList
  | .budgetExceeded operation => "budget exceeded: ".toList ++ operation.toList
  | .quarantineRequired => "quarantine requires an externally proven quiescent scope".toList
  | .injected checkpoint => "fault injected at ".toList ++ (debugName checkpoint).toList
  | .unsupported operation => "unsupported: ".toList ++ operation.toList

def truncateError (error : Text) : Text := error.take maxErrorBytes

/-- The records of refused events are capped; the others are not. -/
def record (errors : List Text) (error : Text) : List Text :=
  if errors.length < maxErrorRecords then errors ++ [truncateError error] else errors

def eventError (index : Nat) (reason : Text) : Text :=
  "event ".toList ++ (Nat.repr index).toList ++ ": ".toList ++ reason

/-- What the loop over the operations carries. -/
structure Progress where
  reducer : Reducer
  errors : List Text := []
  coverage : Finset Nat := ∅
  virtualTimeNs : Nat := 0
  recoverySteps : Nat := 0
  scheduleSteps : Nat := 0
  rejectedEvents : Nat := 0

inductive Flow where
  | next (progress : Progress)
  | stop (progress : Progress)

def Progress.cover (s : Progress) (edge : Nat) : Progress := { s with coverage := insert edge s.coverage }

def Progress.exceed (s : Progress) (error : String) (edge : Nat) : Flow :=
  .stop { s.cover edge with errors := s.errors ++ [error.toList] }

def Progress.reject (s : Progress) (tag : Nat) (errors : List Text) : Flow :=
  .next { s.cover (0x4000 + tag) with rejectedEvents := s.rejectedEvents + 1, errors := errors }

def isRecovery : Event → Bool
  | .recovery _ => true
  | _ => false

def delta : BytecodeOp → Nat
  | .advance value => value.toNat
  | _ => 100

section Loop

variable (osError : Nat → String)

def applyEventOf (s : Progress) (index tag : Nat) (event : Event) : Flow :=
  match apply s.reducer event with
  | .error error after =>
    { s with reducer := after }.reject tag (record s.errors (eventError index (display osError error)))
  | .ok _ after =>
    let s := { s with reducer := after }.cover (0x2000 + snapshotCode after.snapshot)
    if modelMaxLiveCapabilities < after.live.keys.card then s.exceed "live capability budget exceeded" 0x7ff3
    else .next s

def countRecovery (s : Progress) (event : Event) : Progress :=
  if isRecovery event then { s with recoverySteps := s.recoverySteps + 1 } else s

def replayEvent (s : Progress) (index tag : Nat) (event : Event) : Flow :=
  if isRecovery event ∧ modelMaxRecoverySteps < (countRecovery s event).recoverySteps then
    (countRecovery s event).exceed "recovery budget exceeded" 0x7ff2
  else applyEventOf osError (countRecovery s event) index tag event

/-- An operation within the time budget. -/
def replayTimed (s : Progress) (index : Nat) (op : BytecodeOp) : Flow :=
  match eventForOp op with
  | .ok (some event) => replayEvent osError s index (opTag op) event
  | .ok none => .next s
  | .error error => s.reject (opTag op) (s.errors ++ [error.message.toList])

/-- The sum of the times stays far below 2^64, so only the limit is checked. -/
def replayOp (s : Progress) (index : Nat) (op : BytecodeOp) : Flow :=
  if s.reducer.terminal.isSome then
    s.reject (opTag op) (record s.errors (eventError index "event after terminal".toList))
  else if maxScheduleSteps ≤ s.scheduleSteps then s.exceed "schedule budget exceeded" 0x7ff0
  else if modelMaxVirtualTimeNs < s.virtualTimeNs + delta op then
    { s with scheduleSteps := s.scheduleSteps + 1 }.exceed "virtual time budget exceeded" 0x7ff1
  else
    replayTimed osError ({ s with
      scheduleSteps := s.scheduleSteps + 1
      virtualTimeNs := s.virtualTimeNs + delta op }.cover (0x1000 + opTag op)) index op

def replayOps (s : Progress) (index : Nat) : List BytecodeOp → Progress
  | [] => s
  | op :: rest =>
    match replayOp osError s index op with
    | .next s => replayOps s (index + 1) rest
    | .stop s => s

end Loop

inductive Status where
  | accepted | rejected | incomplete | budgetExceeded | invariantViolation
  deriving DecidableEq, Repr

def startsWith (text initial : Text) : Bool := initial.isPrefixOf text

def contains (text part : Text) : Bool := decide (part <:+: text)

def baseStatus (s : Progress) : Status :=
  if s.errors.any (contains · "budget exceeded".toList) then .budgetExceeded
  else if s.errors ≠ [] then .rejected
  else if s.reducer.terminal = none then .incomplete
  else .accepted

/-- The limits the fuzz oracle gives the reducer's own invariants. -/
def fuzzLimits : Limits := ⟨maxOps, modelMaxVirtualTimeNs, maxCapabilities, modelMaxRecoverySteps⟩

def satisfied (program : ScenarioBytecode) (final : Reducer) (virtualTimeNs : Nat) : Finset String :=
  (invariantNames final program.ops.length virtualTimeNs fuzzLimits ∪ (fuzzPredicates.map (·.2)).toFinset) \
    ((fuzzPredicates.filter (·.1 ∈ final.obligations)).map (·.2)).toFinset

def missingNames (program : ScenarioBytecode) (s : Progress) : List String :=
  fuzzInvariantRegistry.filter (· ∉ satisfied program s.reducer s.virtualTimeNs)

def invariantError (missing : List String) : Text :=
  "invariant: missing=".toList ++ (",".intercalate missing).toList

def finalErrors (program : ScenarioBytecode) (s : Progress) : List Text :=
  if missingNames program s ≠ [] ∧ s.rejectedEvents = 0 ∧ ¬s.errors.any (startsWith · "invariant:".toList) then
    s.errors ++ [truncateError (invariantError (missingNames program s))]
  else s.errors

def finalStatus (program : ScenarioBytecode) (s : Progress) : Status :=
  if baseStatus s = .accepted ∧ missingNames program s ≠ [] ∧ s.reducer.terminal.isSome ∧ s.rejectedEvents = 0 then
    .invariantViolation
  else baseStatus s

def firstWord (text : Text) : Option Text :=
  match (text.dropWhile isWhitespace).takeWhile (!isWhitespace ·) with
  | [] => none
  | word => some word

def errorClass (error : Text) : Text :=
  if startsWith error "invariant:".toList then "invariant".toList
  else if startsWith error "event ".toList then "event-rejection".toList
  else if contains error "budget exceeded".toList then "budget".toList
  else (firstWord (error.takeWhile (· ≠ ':'))).getD error

def missingInvariants (errors : List Text) : Finset Text :=
  (errors.flatMap fun error =>
    if startsWith error "invariant: missing=".toList then
      ((error.drop "invariant: missing=".toList.length).splitOn ',').filter (· ≠ [])
    else []).toFinset

/-- The replay of a reducer scenario names no explorer scenario and no recovery status. -/
structure FailureFingerprint where
  status : Status
  missingInvariants : Finset Text
  errorClasses : Finset Text
  deriving DecidableEq

def failureFingerprint (status : Status) (errors : List Text) : FailureFingerprint :=
  ⟨status, missingInvariants errors, (errors.map errorClass).toFinset⟩

structure ReplayReport where
  status : Status
  mode : FuzzMode
  seed : UInt64
  eventCount : Nat
  virtualTimeNs : Nat
  recoverySteps : Nat
  scheduleSteps : Nat
  terminal : Option Outcome
  unresolvedObligations : Finset Obligation
  errors : List Text
  rejectedEvents : Nat
  coverageEdges : Finset Nat
  minimizedBytecode : Option Codecs.Bytes
  minimizedReplayTrace : List String
  failureFingerprint : FailureFingerprint

/-- The texts and sizes that come from outside the crate: `osError` from the platform, and the length of a
report in JSON, which holds an identity that the build generates. -/
structure Platform where
  osError : Nat → String
  jsonLength : ReplayReport → Nat

def registerCatalog (r : Reducer) : Except BoundaryError Reducer := do
  let r ← registerCapability r "cap.session-root" .sessionRootPidfd 1
  let r ← registerCapability r "cap.launchd-member" .sessionMemberPidfd 1
  let r ← registerCapability r "cap.late-member" .sessionMemberPidfd 1
  let r ← registerCapability r "cap.shared-lease" .sharedSessionLease 1
  registerCapability r "cap.launchd-endpoint" .runtimeEndpoint 1

def catalogued (osError : Nat → String) (stable : StableState) : Except DecodeError Reducer :=
  match registerCatalog (Reducer.new stable) with
  | .ok r => .ok r
  | .error error => .error ⟨String.ofList (display osError error)⟩

def encoded (program : ScenarioBytecode) : Option Codecs.Bytes :=
  match program.encode with
  | .ok bytes => some bytes
  | .error _ => none

def report (program minimized : ScenarioBytecode) (s : Progress) : ReplayReport where
  status := finalStatus program s
  mode := program.mode
  seed := program.seed
  eventCount := program.ops.length
  virtualTimeNs := s.virtualTimeNs
  recoverySteps := s.recoverySteps
  scheduleSteps := s.scheduleSteps
  terminal := s.reducer.terminal
  unresolvedObligations := s.reducer.obligations.filter (·.isUnresolved)
  errors := finalErrors program s
  rejectedEvents := s.rejectedEvents
  coverageEdges := s.coverage
  minimizedBytecode := encoded minimized
  minimizedReplayTrace := (minimized.ops.take maxReplayTrace).map opName
  failureFingerprint := failureFingerprint (finalStatus program s) (finalErrors program s)

def ensureOutputBound (platform : Platform) (output : ReplayReport) : Except DecodeError ReplayReport :=
  if maxOutputBytes < platform.jsonLength output then .error ⟨"fuzz output exceeds output limit"⟩ else .ok output

/-- `replay_reducer` before its output is measured, with the program it reports for a failure. -/
def replayWith (osError : Nat → String) (program : ScenarioBytecode)
    (minimizing : FailureFingerprint → ScenarioBytecode) : Except DecodeError ReplayReport := do
  let initial ← stableState program.initialStable
  let r ← catalogued osError initial
  let s := replayOps osError { reducer := r } 0 program.ops
  let expected := failureFingerprint (finalStatus program s) (finalErrors program s)
  let minimized := if finalErrors program s ≠ [] then minimizing expected else program
  return report program minimized s

def keepsFailure (platform : Platform) (expected : FailureFingerprint) (trial : ScenarioBytecode) : Bool :=
  match replayWith platform.osError trial (fun _ => trial) >>= ensureOutputBound platform with
  | .ok report => report.failureFingerprint = expected
  | .error _ => false

def ScenarioBytecode.without (program : ScenarioBytecode) (index : Nat) : ScenarioBytecode :=
  { program with ops := program.ops.eraseIdx index }

/-- The loop of `minimize_reducer_program`. -/
def minimizeFrom (platform : Platform) (expected : FailureFingerprint) (candidate : ScenarioBytecode) (index : Nat) :
    ScenarioBytecode :=
  if below : index < candidate.ops.length then
    if keepsFailure platform expected (candidate.without index) then
      minimizeFrom platform expected (candidate.without index) index
    else minimizeFrom platform expected candidate (index + 1)
  else candidate
  termination_by candidate.ops.length - index
  decreasing_by
    · have shorter := List.length_eraseIdx_of_lt below
      simp only [ScenarioBytecode.without, shorter]
      omega
    · omega

def minimizeReducerProgram (platform : Platform) (program : ScenarioBytecode) (expected : FailureFingerprint) :
    ScenarioBytecode :=
  minimizeFrom platform expected program 0

/-- The report of `replay_reducer`, before its output is measured. -/
def replayReport (platform : Platform) (program : ScenarioBytecode) (minimizeFailures : Bool) :
    Except DecodeError ReplayReport :=
  replayWith platform.osError program fun expected =>
    if minimizeFailures then minimizeReducerProgram platform program expected else program

def replayReducer (platform : Platform) (program : ScenarioBytecode) (minimizeFailures : Bool) :
    Except DecodeError ReplayReport :=
  replayReport platform program minimizeFailures >>= ensureOutputBound platform

end Darling.Fuzz
