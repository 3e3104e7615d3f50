import Mathlib.Data.Finset.Sort
import Mathlib.Data.String.Basic
import Darling.Lifecycle.Divergence

/-! The deterministic explorer: a scenario is drafted for a failure boundary and an interleaving, minimized,
executed through the reducer under a schedule of virtual time, and written out as a replay trace. The probe of the
real file system is a parameter. -/
namespace Darling.Lifecycle.Explorer

open Darling.Boundary (BoundaryError Checkpoint)

section Scenarios

inductive FailureBoundary where
  | beforePrepare | afterPrepare | beforePublish | afterPublish | beforeCleanup | afterCleanup |
      beforeCommit | afterCommit
  | beforeBarrier | afterBarrier | beforeIdentity | afterIdentity | beforeSignal | afterSignal |
      beforeEndpoint | afterEndpoint
  deriving DecidableEq, Repr

def FailureBoundary.text : FailureBoundary → String
  | .beforePrepare => "before-prepare"
  | .afterPrepare => "after-prepare"
  | .beforePublish => "before-publish"
  | .afterPublish => "after-publish"
  | .beforeCleanup => "before-cleanup"
  | .afterCleanup => "after-cleanup"
  | .beforeCommit => "before-commit"
  | .afterCommit => "after-commit"
  | .beforeBarrier => "before-barrier"
  | .afterBarrier => "after-barrier"
  | .beforeIdentity => "before-identity"
  | .afterIdentity => "after-identity"
  | .beforeSignal => "before-signal"
  | .afterSignal => "after-signal"
  | .beforeEndpoint => "before-endpoint"
  | .afterEndpoint => "after-endpoint"

def FailureBoundary.fault : FailureBoundary → FaultName
  | .beforePrepare | .afterPrepare => .sigint
  | .beforePublish | .afterPublish => .rootExit
  | .beforeCleanup | .afterCleanup => .closeRange
  | .beforeCommit | .afterCommit => .sigint
  | .beforeBarrier | .afterBarrier => .lateFork
  | .beforeIdentity | .afterIdentity => .pidReuse
  | .beforeSignal | .afterSignal => .timeout
  | .beforeEndpoint | .afterEndpoint => .leaseHolder

def FailureBoundary.phase : FailureBoundary → FaultPhase
  | .beforePrepare | .afterPrepare => .prepare
  | .beforePublish | .afterPublish => .publish
  | .beforeCleanup | .afterCleanup => .cleanup
  | .beforeCommit | .afterCommit => .commit
  | .beforeBarrier | .afterBarrier => .barrier
  | .beforeIdentity | .afterIdentity => .barrier
  | .beforeSignal | .afterSignal => .signal
  | .beforeEndpoint | .afterEndpoint => .cleanup

structure ProbeSpec where
  operation : BoundaryOperation
  checkpoint : Checkpoint
  placement : Placement
  deriving DecidableEq, Repr

def FailureBoundary.probeSpec : FailureBoundary → ProbeSpec
  | .beforePrepare => ⟨.mkdirChild, .afterStageMkdirBeforeBind, .before⟩
  | .afterPrepare => ⟨.mkdirChild, .afterMkdirBeforeBind, .after⟩
  | .beforePublish => ⟨.mkdirChild, .afterMkdirBeforeBind, .before⟩
  | .afterPublish => ⟨.mkdirChild, .afterBindBeforePublish, .after⟩
  | .beforeCleanup => ⟨.unlinkExact, .afterStageBindBeforeMove, .before⟩
  | .afterCleanup => ⟨.unlinkExact, .afterMoveBeforeVerify, .after⟩
  | .beforeCommit => ⟨.unlinkExact, .beforeExactMutation, .before⟩
  | .afterCommit => ⟨.unlinkExact, .afterExactMutation, .after⟩
  | .beforeBarrier => ⟨.unlinkExact, .afterQuarantineMoveBeforeVerify, .before⟩
  | .afterBarrier => ⟨.unlinkExact, .afterQuarantineVerifyBeforeGc, .after⟩
  | .beforeIdentity => ⟨.unlinkExact, .beforeExactMutation, .before⟩
  | .afterIdentity => ⟨.unlinkExact, .afterMoveBeforeVerify, .after⟩
  | .beforeSignal => ⟨.renameExact, .afterMoveBeforeVerify, .before⟩
  | .afterSignal => ⟨.renameExact, .afterExactMutation, .after⟩
  | .beforeEndpoint => ⟨.renameExact, .beforeExactMutation, .before⟩
  | .afterEndpoint => ⟨.renameExact, .afterExactMutation, .after⟩

inductive Interleaving where
  | none | orphanCgroup | postDeadlineSignal | inodeAba | partialPublication | restart | cleanupFailure |
      lateFork | rootExit
  | pidReuse | forkChurn | concurrentClose
  deriving DecidableEq, Repr

def Interleaving.text : Interleaving → String
  | .none => "none"
  | .orphanCgroup => "orphan-cgroup"
  | .postDeadlineSignal => "post-deadline-signal"
  | .inodeAba => "inode-aba"
  | .partialPublication => "partial-publication"
  | .restart => "restart"
  | .cleanupFailure => "cleanup-failure"
  | .lateFork => "late-fork"
  | .rootExit => "root-exit"
  | .pidReuse => "pid-reuse"
  | .forkChurn => "fork-churn"
  | .concurrentClose => "concurrent-close"

inductive RecoveryStatus where
  | clean | forensicRequired | unsafeState | undetected
  deriving DecidableEq, Repr

/-- What a probe of the file system reports, as far as a scenario looks at it. -/
structure RealProbe where
  operation : BoundaryOperation
  checkpoint : Checkpoint
  placement : Placement
  result : CheckpointResult
  faultDetected : Bool
  recoveryStatus : RecoveryStatus
  safetyPreserved : Bool
  stageObligations : Nat
  quarantineObligations : Nat
  filesystemClean : Bool
  filesystemPostcondition : Bool
  rootPreserved : Bool
  recoveryCompleted : Bool
  deriving DecidableEq, Repr

def reducerOnlyProbe (boundary : FailureBoundary) : RealProbe where
  operation := boundary.probeSpec.operation
  checkpoint := boundary.probeSpec.checkpoint
  placement := boundary.probeSpec.placement
  result := .injected
  faultDetected := true
  recoveryStatus := .clean
  safetyPreserved := true
  stageObligations := 0
  quarantineObligations := 0
  filesystemClean := true
  filesystemPostcondition := true
  rootPreserved := false
  recoveryCompleted := true

end Scenarios

section Budgets

inductive ExplorerError where
  | budget (name : String)
  | refused (error : BoundaryError)
  | reducer (text : String)
  | invariant (text : String)
  deriving DecidableEq, Repr

abbrev ExplorerM := Except ExplorerError

structure ExplorerBudget where
  maxScenarios : Nat := 16 * 4 + 8 * 8
  maxEvents : Nat := 32
  maxVirtualTimeNs : Nat := 100000
  maxLiveCapabilities : Nat := 16
  maxRecoverySteps : Nat := 8
  maxScheduleSteps : Nat := 8
  deriving DecidableEq, Repr

def ExplorerBudget.validate (budget : ExplorerBudget) : ExplorerM Unit := do
  require (¬(budget.maxScenarios = 0 ∨ 16 * 4 + 8 * 8 < budget.maxScenarios)) (.budget "scenario matrix")
  require (¬(budget.maxEvents = 0 ∨ modelMaxEvents < budget.maxEvents)) (.budget "events")
  require (¬(budget.maxVirtualTimeNs = 0 ∨ modelMaxVirtualTimeNs < budget.maxVirtualTimeNs)) (.budget "virtual time")
  require (¬(budget.maxLiveCapabilities = 0 ∨ modelMaxLiveCapabilities < budget.maxLiveCapabilities))
    (.budget "live capabilities")
  require (¬(budget.maxRecoverySteps = 0 ∨ modelMaxRecoverySteps < budget.maxRecoverySteps)) (.budget "recovery steps")
  require (¬(budget.maxScheduleSteps = 0 ∨ budget.maxEvents < budget.maxScheduleSteps)) (.budget "schedule steps")

def ExplorerBudget.limits (budget : ExplorerBudget) : Limits where
  maxEvents := budget.maxEvents
  maxVirtualTimeNs := budget.maxVirtualTimeNs
  maxLiveCapabilities := budget.maxLiveCapabilities
  maxRecoverySteps := budget.maxRecoverySteps

/-- `VirtualClock::advance`. -/
def advance (maxNs nowNs deltaNs : Nat) : ExplorerM Nat := do
  require (nowNs + deltaNs < UInt64.size) (.budget "virtual time overflow")
  require (nowNs + deltaNs ≤ maxNs) (.budget "virtual time")
  return nowNs + deltaNs

def mixSeed (seed ordinal : UInt64) : UInt64 :=
  let value := seed ^^^ (ordinal * 0x9e3779b97f4a7c15)
  let value := value ^^^ (value >>> 30)
  let value := value * 0xbf58476d1ce4e5b9
  let value := value ^^^ (value >>> 27)
  let value := value * 0x94d049bb133111eb
  value ^^^ (value >>> 31)

end Budgets

section Drafts

structure CatalogSpec where
  id : String
  kind : CapabilityKind
  token : String
  deriving DecidableEq, Repr

/-- An event for the reducer with the kind and the data that the trace gives it. -/
structure DraftEvent where
  actor : Actor
  event : Event
  data : EventData
  deltaNs : Nat
  deriving DecidableEq, Repr

structure Draft where
  scenario : String
  initialStable : StableState
  catalog : List CatalogSpec
  events : List DraftEvent
  scheduleSteps : Nat
  realProbe : RealProbe
  deriving DecidableEq, Repr

/-- The arguments of `push_event` for one event. -/
structure Planned where
  actor : Actor
  event : Event
  data : EventData
  deriving DecidableEq, Repr

def pushEvent (state : List DraftEvent × UInt64) (item : Planned) : List DraftEvent × UInt64 :=
  let seed := mixSeed state.2 (UInt64.ofNat (state.1.length + 1))
  (state.1 ++ [⟨item.actor, item.event, item.data, 100 + (seed % 300).toNat⟩], seed)

def sessionRoot : CatalogSpec := ⟨"cap.session-root", .sessionRootPidfd, "session-root@explorer"⟩
def launchdMember : CatalogSpec := ⟨"cap.launchd-member", .sessionMemberPidfd, "launchd@explorer"⟩
def lateMember : CatalogSpec := ⟨"cap.late-member", .sessionMemberPidfd, "late-member@explorer"⟩
def sharedLease : CatalogSpec := ⟨"cap.shared-lease", .sharedSessionLease, "lease@explorer"⟩
def launchdEndpoint : CatalogSpec := ⟨"cap.launchd-endpoint", .runtimeEndpoint, "launchd-socket@explorer"⟩

def draftCatalog : List CatalogSpec := [sessionRoot, launchdMember, lateMember, sharedLease, launchdEndpoint]

def Interleaving.initialStable : Interleaving → StableState
  | .partialPublication => .uninitialized
  | .restart => .ready
  | _ => .running

def Interleaving.intent : Interleaving → IntentKind
  | .partialPublication => .createPrefix
  | .restart => .startSession
  | _ => .requestShutdown

def Interleaving.recovery : Interleaving → RecoveryAction
  | .partialPublication => .rollbackUninitialized
  | .restart => .rollbackReady
  | .postDeadlineSignal => .continueDrain
  | _ => .rollbackRunning

def scheduleSteps : Interleaving → Nat
  | .none => 0
  | .lateFork => 2
  | .forkChurn => 3
  | _ => 1

def acquire (capability : CatalogSpec) (owner : String) : Planned :=
  ⟨.controller, .acquire capability.id capability.kind 1 owner, .capabilityAcquired capability.id owner⟩

def endpoint (operation : EndpointOperation) (result : EndpointResult) : Planned :=
  ⟨.observer, .endpoint "endpoint.launchd" operation.text result.text,
    .endpointTransition "endpoint.launchd" operation result⟩

def observed (capability : CatalogSpec) (origin : MemberOrigin) : Planned :=
  ⟨.member, .memberObserved capability.id origin.text, .memberObserved capability.id origin⟩

/-- `add_interleaving_events`. -/
def interleavingEvents : Interleaving → List Planned
  | .postDeadlineSignal => [
    ⟨.controller, .identity sessionRoot.id true, .identityRevalidated sessionRoot.id .same⟩,
    ⟨.controller, .signal sessionRoot.id .deadline, .signalSent sessionRoot.id .term .deadline⟩]
  | .inodeAba | .pidReuse =>
      [⟨.controller, .identity sessionRoot.id false, .identityRevalidated sessionRoot.id .mismatch⟩]
  | .rootExit => [⟨.controller, .identity sessionRoot.id false, .identityRevalidated sessionRoot.id .gone⟩]
  | .lateFork => [acquire lateMember "controller", observed lateMember .lateFork]
  | .forkChurn => [acquire lateMember "controller", observed lateMember .lateFork, observed lateMember .snapshot]
  | .concurrentClose => [endpoint .close .removed]
  | .cleanupFailure => [endpoint .unlink .rejected]
  | .orphanCgroup | .partialPublication | .restart | .none => []

/-- The events between the intent and the checkpoint. -/
def sessionEvents : Interleaving → List Planned
  | .partialPublication => []
  | .restart => [endpoint .revalidate .alreadyGone]
  | interleaving =>
    let completeness := if interleaving = .orphanCgroup then Completeness.timeout else .closed
    let authority := if interleaving = .orphanCgroup then Authority.delegatedCgroup else .sessionLedger
    [⟨.controller, .barrierEntered, .barrierEntered .threadsStopped .entered⟩,
      acquire sessionRoot "controller", acquire launchdMember "controller",
      ⟨.observer, .membership [sessionRoot.id, launchdMember.id] completeness.text,
        .membershipSnapshot authority [sessionRoot.id, launchdMember.id] completeness⟩] ++
    interleavingEvents interleaving ++
    if interleaving = .lateFork ∨ interleaving = .forkChurn then
      [⟨.controller, .fault FaultName.lateFork.text, .faultInjected .barrier .lateFork⟩]
    else []

def intentEvent (boundary : FailureBoundary) (interleaving : Interleaving) : Planned :=
  let transaction := "txn.explorer-" ++ boundary.text
  ⟨.launcher, .intent interleaving.intent transaction, .intentDeclared interleaving.intent transaction⟩

def probeEvent (realProbe : RealProbe) : Planned where
  actor := .controller
  event := .operationCheckpoint realProbe.operation.text (checkpointText realProbe.checkpoint) realProbe.placement.text
    realProbe.result.text
  data := .operationCheckpoint realProbe.operation realProbe.checkpoint realProbe.placement realProbe.result

def faultEvent (boundary : FailureBoundary) : Planned :=
  ⟨.controller, .fault boundary.fault.text, .faultInjected boundary.phase boundary.fault⟩

def recoveryEvents (interleaving : Interleaving) : List Planned := [
  ⟨.recovery, .recovery interleaving.recovery, .recovery interleaving.recovery "explorer-fault"⟩,
  ⟨.recovery, .terminal .recovered, .terminal .recovered⟩]

/-- The events of `draft_for` in their order. -/
def plan (boundary : FailureBoundary) (interleaving : Interleaving) (realProbe : RealProbe) : List Planned :=
  intentEvent boundary interleaving ::
    (sessionEvents interleaving ++ [probeEvent realProbe, faultEvent boundary] ++ recoveryEvents interleaving)

def draftFor (boundary : FailureBoundary) (interleaving : Interleaving) (seed : UInt64)
    (realProbe : RealProbe) : Draft where
  scenario := boundary.text ++ "-" ++ interleaving.text
  initialStable := interleaving.initialStable
  catalog := draftCatalog
  events := ((plan boundary interleaving realProbe).foldl pushEvent ([], seed)).1
  scheduleSteps := scheduleSteps interleaving
  realProbe := realProbe

end Drafts

section Execution

structure Run where
  reducer : Reducer
  snapshots : List StateSnapshot
  times : List Nat
  deriving DecidableEq

def stepInvariants : List String := [
  "no-raw-path-authority", "no-unvalidated-fd", "stable-journal-independent", "total-recovery-matrix",
  "identity-before-signal", "no-children-after-gone", "shared-lease-bound", "pidfd-identity-before-signal",
    "bounded-replay"]

def completionInvariants : List String := [
  "no-raw-path-authority", "no-unvalidated-fd", "stable-journal-independent", "total-recovery-matrix",
  "identity-before-signal", "no-children-after-gone", "shared-lease-bound", "pidfd-identity-before-signal",
  "late-fork-closes-snapshot", "bounded-replay", "terminal-trace"]

def missingText (eventCount : Nat) (missing : String) : String :=
  "step " ++ toString eventCount ++ " missing safety invariant " ++ missing

def verifyStepInvariants (reducer : Reducer) (eventCount timeNs : Nat) (budget : ExplorerBudget) : ExplorerM Unit :=
  match stepInvariants.find? fun name => name ∉ invariantNames reducer eventCount timeNs budget.limits with
  | some missing => .error (.invariant (missingText eventCount missing))
  | none => .ok ()

/-- The locals of the event loop. -/
structure Progress where
  reducer : Reducer
  nowNs : Nat
  snapshots : List StateSnapshot
  times : List Nat
  scheduleSeed : UInt64

def Progress.nextSeed (p : Progress) : UInt64 := mixSeed p.scheduleSeed (UInt64.ofNat (p.times.length + 1))

/-- `schedule_delta` of a round. -/
def Progress.delay (p : Progress) (event : DraftEvent) : Nat := event.deltaNs + (p.nextSeed % 7).toNat

def applied (r : Reducer) (event : Event) : ExplorerM Reducer :=
  match apply r event with
  | .ok _ after => .ok after
  | .error error _ => .error (.refused error)

/-- One round of the event loop, from the advance of the clock on. -/
def executeRound (budget : ExplorerBudget) (p : Progress) (event : DraftEvent) (scheduleDelta : Nat)
    (scheduleSeed : UInt64) :
    ExplorerM Progress := do
  let nowNs ← advance budget.maxVirtualTimeNs p.nowNs scheduleDelta
  let reducer ← applied p.reducer event.event
  require (¬(budget.maxLiveCapabilities < reducer.live.keys.card ∨
    budget.maxRecoverySteps < reducer.observations.length))
    (.budget "per-step reducer state")
  verifyStepInvariants reducer (p.snapshots.length + 1) nowNs budget
  return ⟨reducer, nowNs, p.snapshots ++ [reducer.snapshot], p.times ++ [nowNs], scheduleSeed⟩

def executeEvent (budget : ExplorerBudget) (p : Progress) (event : DraftEvent) : ExplorerM Progress :=
  executeRound budget p event (p.delay event) p.nextSeed

def executeEvents (budget : ExplorerBudget) : Progress → List DraftEvent → ExplorerM Progress
  | p, [] => .ok p
  | p, event :: rest => do
    let p ← executeEvent budget p event
    executeEvents budget p rest

def registerSpec (r : Reducer) (capability : CatalogSpec) : ExplorerM Reducer :=
  match registerCapability r capability.id capability.kind 1 with
  | .ok r => .ok r
  | .error error => .error (.refused error)

def Event.isTerminal : Event → Bool
  | .terminal _ => true
  | _ => false

/-- A terminal event is last and nowhere else. -/
def terminalLast (events : List DraftEvent) : Bool :=
  (events.getLast?.any fun event => Event.isTerminal event.event) &&
    !(events.dropLast.any fun event => Event.isTerminal event.event)

def execute (draft : Draft) (seed : UInt64) (budget : ExplorerBudget) : ExplorerM Run := do
  require (¬(draft.events.length < 2 ∨ budget.maxEvents < draft.events.length)) (.budget "events")
  require (¬(budget.maxScheduleSteps < draft.scheduleSteps)) (.budget "schedule steps")
  require (terminalLast draft.events = true) (.reducer "terminal must be unique and last")
  let reducer ← draft.catalog.foldlM registerSpec (Reducer.new draft.initialStable)
  require (budget.maxVirtualTimeNs ≠ 0) (.budget "virtual time")
  let p ← executeEvents budget ⟨reducer, 0, [], [], seed⟩ draft.events
  return ⟨p.reducer, p.snapshots, p.times⟩

def completeInvariants (run : Run) (budget : ExplorerBudget) : Bool :=
  completionInvariants.all fun name =>
    name ∈ invariantNames run.reducer run.snapshots.length (run.times.getLast?.getD 0) budget.limits

end Execution

section Minimization

/-- What `required_events_present` asks of the events of an interleaving. -/
def Interleaving.shownBy : Interleaving → Event → Bool
  | .none, _ | .partialPublication, _ | .restart, _ => true
  | .postDeadlineSignal, .signal _ _ => true
  | .inodeAba, .identity _ false | .pidReuse, .identity _ false | .rootExit, .identity _ false => true
  | .orphanCgroup, .membership _ completeness => completeness == "TIMEOUT"
  | .lateFork, .memberObserved _ origin | .forkChurn, .memberObserved _ origin => origin == "LATE_FORK"
  | .cleanupFailure, .endpoint _ _ _ | .concurrentClose, .endpoint _ _ _ => true
  | _, _ => false

def Interleaving.unmarked : Interleaving → Bool
  | .none | .partialPublication | .restart => true
  | _ => false

def Event.isRecovery : Event → Bool
  | .recovery _ => true
  | _ => false

def requiredEventsPresent (draft : Draft) (boundary : FailureBoundary) (interleaving : Interleaving) : Bool :=
  (draft.events.any fun event => decide (event.event =
    .operationCheckpoint draft.realProbe.operation.text (checkpointText draft.realProbe.checkpoint)
      draft.realProbe.placement.text draft.realProbe.result.text)) &&
  (draft.events.any fun event => decide (event.event = .fault boundary.fault.text)) &&
  (draft.events.any fun event => Event.isRecovery event.event) &&
  (interleaving.unmarked || draft.events.any fun event => interleaving.shownBy event.event)

def minimizeSeed : UInt64 := 0x5eed

/-- `keeps_detection`. -/
def keepsDetection (boundary : FailureBoundary) (interleaving : Interleaving) (budget : ExplorerBudget)
    (draft : Draft) : Bool :=
  match execute draft minimizeSeed budget with
  | .ok run =>
    completeInvariants run budget && decide (run.reducer.terminal = some .recovered) &&
      requiredEventsPresent draft boundary interleaving
  | .error _ => false

def Draft.without (draft : Draft) (index : Nat) : Draft := { draft with events := draft.events.eraseIdx index }

/-- The loop of `minimize_draft`, down to the first event, which stays. -/
def minimizeFrom (boundary : FailureBoundary) (interleaving : Interleaving) (budget : ExplorerBudget) (draft : Draft) :
    Nat → Draft
  | 0 => draft
  | index + 1 =>
    if draft.events[index + 1]?.any fun event => Event.isTerminal event.event then
      minimizeFrom boundary interleaving budget draft index
    else if keepsDetection boundary interleaving budget (draft.without (index + 1)) then
      minimizeFrom boundary interleaving budget (draft.without (index + 1)) index
    else minimizeFrom boundary interleaving budget draft index

def minimizeDraft (boundary : FailureBoundary) (interleaving : Interleaving) (budget : ExplorerBudget)
    (draft : Draft) : Draft :=
  minimizeFrom boundary interleaving budget draft (draft.events.length - 1)

end Minimization

section Traces

def traceEvents : Nat → List DraftEvent → List Nat → List StateSnapshot → List TraceEvent
  | index, event :: events, time :: times, snapshot :: snapshots =>
    ⟨plain index, plain time, event.actor, event.data, snapshot⟩ :: traceEvents (index + 1) events times snapshots
  | _, _, _, _ => []

/-- Ownership in the order of the capabilities, as a `BTreeMap` lists it. -/
def ownerships (owners : Owners) : List Ownership :=
  (owners.keys.sort (· ≤ ·)).map fun id => ⟨id, (owners.lookup id).getD ""⟩

def traceJson (draft : Draft) (run : Run) (budget : ExplorerBudget) : Document where
  schemaVersion := plain 1
  modelVersion := plain 1
  traceId := draft.scenario
  scenario := draft.scenario
  provenance := {
    kind := .goldenScenario
    sourceLabel := "dar-4ush.3-deterministic-explorer"
    evidenceId := "dar-4ush.3/" ++ draft.scenario
    sourceIdentity := {
      repository := "darling-workspace"
      commit := "d02570556cac7df68459fe2e7df4f189b665b955"
      tree := "1daf503705aea74c7a6a2d7b94205409d164b9b5"
      profile := "lifecycle-lab"
      module := "operation-boundary" }
    artifactSha256 := none }
  budget := ⟨plain budget.maxEvents, plain budget.maxVirtualTimeNs, plain budget.maxLiveCapabilities,
    plain budget.maxRecoverySteps⟩
  initial := ⟨draft.initialStable, .none, .none⟩
  capabilityCatalog := draft.catalog.map fun capability => ⟨capability.id, capability.kind, capability.token, plain 1⟩
  liveCapabilities := []
  events := traceEvents 0 draft.events run.times run.snapshots
  expected := ⟨run.reducer.terminal.getD .recovered, run.reducer.snapshot, tableNames, ownerships run.reducer.live⟩
  recoveryObservations := run.reducer.observations

/-- What a scenario reports, besides texts that only repeat the draft and the probe. -/
structure ScenarioResult where
  scenario : String
  seed : UInt64
  faultDetected : Bool
  recoveryStatus : RecoveryStatus
  safetyPreserved : Bool
  outcome : Option Outcome
  eventCount : Nat
  minimizedEventCount : Nat
  unresolvedObligations : Finset Obligation
  virtualTimeNs : Nat
  invariantComplete : Bool
  trace : Document
  deriving DecidableEq

def unresolvedObligations (r : Reducer) : Finset Obligation := r.obligations.filter fun item => item.isUnresolved

/-- What `run_real_case` and `run_reducer_only_case` do with the draft of a probe; they differ in what makes a
scenario clean. -/
def runCase (boundary : FailureBoundary) (interleaving : Interleaving) (seed : UInt64) (budget : ExplorerBudget)
    (realProbe : RealProbe) (probeClean : Bool) : ExplorerM ScenarioResult := do
  let draft := draftFor boundary interleaving seed realProbe
  let minimized := minimizeDraft boundary interleaving budget draft
  let run ← execute minimized seed budget
  let invariantComplete := completeInvariants run budget
  let replayFaultDetected := invariantComplete && decide (run.reducer.terminal = some .recovered) &&
    run.reducer.operationRejectionSeen && run.reducer.operationRecoverySeen &&
    decide (.operationFailure ∉ run.reducer.obligations) && requiredEventsPresent minimized boundary interleaving
  let faultDetected := minimized.realProbe.faultDetected && replayFaultDetected
  let safetyPreserved := minimized.realProbe.safetyPreserved && invariantComplete
  let recoveryStatus :=
    if !faultDetected then RecoveryStatus.undetected
    else if !safetyPreserved then .unsafeState
    else if unresolvedObligations run.reducer ≠ ∅ then .forensicRequired
    else if probeClean then .clean
    else .forensicRequired
  return {
    scenario := draft.scenario, seed, faultDetected, recoveryStatus, safetyPreserved
    outcome := run.reducer.terminal
    eventCount := draft.events.length
    minimizedEventCount := minimized.events.length
    unresolvedObligations := unresolvedObligations run.reducer
    virtualTimeNs := run.times.getLast?.getD 0
    invariantComplete
    trace := traceJson minimized run budget }

def runReducerOnlyCase (boundary : FailureBoundary) (interleaving : Interleaving) (seed : UInt64)
    (budget : ExplorerBudget) :
    ExplorerM ScenarioResult :=
  runCase boundary interleaving seed budget (reducerOnlyProbe boundary) true

end Traces

end Darling.Lifecycle.Explorer
