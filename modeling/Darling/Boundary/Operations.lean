import Darling.Boundary.Machine

/-! The exact mutations of the boundary and the cleanups behind their error exits. -/
namespace Darling.Boundary

variable {κ : Type}

def registerUnboundStage (env : Env κ) (parent : DirCap) (stage : Nat) (child : Option Nat)
    (name : String) (expected childIdentity : Option FileIdentity) : BoundaryM κ Nat := do
  let parentFd ← attempt (duplicateFd env parent.fd)
  pushStage (.unbound
    { parentFd := parentFd.toOption, parentIdentity := parent.identity, stageRef := stage, child,
      name, expected, childIdentity, scope := parent.scope })
  return (← get).pendingStages.length - 1

/-- `Vec::swap_remove`: the last element takes the removed one's place. -/
def swapRemove (items : List α) (index : Nat) : List α :=
  match items.getLast? with
  | some last => (items.set index last).dropLast
  | none => items

def resolveStageObligation (index : Nat) : BoundaryM κ Unit :=
  modify fun s => { s with pendingStages := swapRemove s.pendingStages index }

def retainStageAuthority (env : Env κ) (parent stage : DirCap) (name : String) (child : Option Nat)
    (childIdentity : Option FileIdentity) : BoundaryM κ Unit := do
  let parentFd ← attempt (duplicateFd env parent.fd)
  let stageFd ← attempt (duplicateFd env stage.fd)
  match parentFd, stageFd with
  | .ok parentFd, .ok stageFd =>
    pushStage (.bound
      { parent := { parent with fd := parentFd }, stage := { stage with fd := stageFd },
        stageRef := stage.id, name, child, childIdentity })
  | _, _ => do
    let _ ← registerUnboundStage env parent stage.id child name (some stage.identity) childIdentity

def revalidateDirectory (env : Env κ) (capability : DirCap) (metadata : Bool) :
    BoundaryM κ FileIdentity := do
  let observed ← fromFd env capability.fd
  failOrRecord (if metadata then .revalidateMetadata else .revalidate)
    (.directory capability)
    (if observed.inodeKey ≠ capability.identity.inodeKey ∨
        metadata ∧ observed ≠ capability.identity then
      .error .identityMismatch
    else .ok observed)

def revalidateLock (env : Env κ) (lease : ExclusiveLease) : BoundaryM κ Unit := do
  let observed ← fromFd env lease.fd
  ensure (observed.inodeKey = lease.identity.inodeKey) .identityMismatch

def requireScope (expected actual : ScopeId) : BoundaryM κ Unit :=
  ensure (expected = actual) (.wrongCapability "authority scope")

def requireExactMutationScope (env : Env κ) (parent : DirCap) (lease : ExclusiveLease) :
    BoundaryM κ Unit := do
  match (← get).quiescentScope with
  | none => throw .quarantineRequired
  | some scope => do
    ensure (parent.scope = scope.scope ∨ scope.secondaryParentScope = some parent.scope)
      (.wrongCapability "authority scope")
    let observedParent ← revalidateDirectory env parent false
    ensure (scope.allowsParent observedParent) .identityMismatch
    let observedLease ← fromFd env lease.fd
    ensure (observedLease.inodeKey = scope.leaseIdentity.inodeKey) .identityMismatch

/-- The name and the retained descriptor still both carry the expected inode. -/
def verifyQuarantine (env : Env κ) (parent : DirCap) (object : QuarantinedObject) : BoundaryM κ Unit := do
  let held ← fromFd env object.fd
  ensure (held.inodeKey = object.expected.inodeKey) .identityMismatch
  let observed ← fromAt env parent.fd object.quarantineName
  ensure (observed.inodeKey = object.expected.inodeKey) .identityMismatch

/-- The checks of `gc_quarantine` up to the last hook. -/
def checkQuarantine (env : Env κ) (parent : DirCap) (lease : ExclusiveLease) (scope : QuiescentScope)
    (object : QuarantinedObject) : BoundaryM κ Unit := do
  requireScope parent.scope scope.scope
  requireScope parent.scope object.scope
  let observedParent ← revalidateDirectory env parent false
  ensure (scope.allowsParent observedParent ∧
      observedParent.inodeKey = object.parentIdentity.inodeKey) .identityMismatch
  revalidateLock env lease
  let scopeLease ← fromFd env lease.fd
  ensure (scopeLease.inodeKey = scope.leaseIdentity.inodeKey) .identityMismatch
  let objectLease ← fromFd env lease.fd
  ensure (objectLease.inodeKey = object.leaseIdentity.inodeKey) .identityMismatch
  verifyQuarantine env parent object
  checkpoint env .afterQuarantineVerifyBeforeGc

/-- `gc_quarantine` after the last hook. -/
def collectQuarantine (env : Env κ) (parent : DirCap) (object : QuarantinedObject) : BoundaryM κ Unit := do
  ensure ((← get).quiescenceInvalidated = false) .quarantineRequired
  verifyQuarantine env parent object
  unlinkAt env parent.fd object.quarantineName object.directory

def gcQuarantine (env : Env κ) (parent : DirCap) (lease : ExclusiveLease) (scope : QuiescentScope)
    (object : QuarantinedObject) : BoundaryM κ Unit := holdingScope do
  checkQuarantine env parent lease scope object
  collectQuarantine env parent object

def trackQuarantine (object : QuarantinedObject) : BoundaryM κ Unit := do
  pushQuarantine (.bound object)
  recordQuarantine object.id .boundRecovery object.expected

def finishQuarantine (env : Env κ) (parent : DirCap) (lease : ExclusiveLease)
    (object : QuarantinedObject) : BoundaryM κ Unit := do
  match (← get).quiescentScope with
  | none => do
    trackQuarantine object
    throw .quarantineRequired
  | some scope => do
    modify fun s => { s with quiescentScope := none }
    let result ← attempt (gcQuarantine env parent lease scope object)
    modify fun s => if s.quiescenceInvalidated then s else { s with quiescentScope := some scope }
    match result with
    | .ok () => recordQuarantine object.id .collected object.expected
    | .error error => do
      trackQuarantine object
      throw error

def restoreQuarantine (env : Env κ) (parent : DirCap) (quarantineName originalName : String)
    (expected : FileIdentity) : BoundaryM κ Unit := do
  renameAt env parent.fd quarantineName parent.fd originalName
  let restored ← fromAt env parent.fd originalName
  ensure (restored.inodeKey = expected.inodeKey) .identityMismatch

def restoreOrTrackQuarantine (env : Env κ) (parent : DirCap) (originalName : String)
    (restoreExpected : FileIdentity) (unbound : UnboundQuarantine) (bound : Option QuarantinedObject)
    (error : BoundaryError) : BoundaryM κ BoundaryError := do
  match ← attempt
      (restoreQuarantine env parent unbound.quarantineName originalName restoreExpected) with
  | .ok () => do
    setRollbackDisposition .restoredAfterMove
    recordQuarantine unbound.id .restored restoreExpected
    return error
  | .error _ => do
    setRollbackDisposition .quarantinedForRecovery
    match bound with
    | some object => do
      trackQuarantine object
      return .quarantineRequired
    | none => do
      pushQuarantine (.unbound unbound)
      recordQuarantine unbound.id .unboundRecovery restoreExpected
      return .quarantineRequired

def quarantineNameOf (id : Nat) : String := ".lifecycle-quarantine-" ++ toString id

def stageNameOf (id : Nat) : String := ".lifecycle-stage-" ++ toString id

/-- The error exits of `rollback_named` that first try to put the object back. -/
def giveUpQuarantine (env : Env κ) (parent : DirCap) (name : String) (unbound : UnboundQuarantine)
    (restoreExpected : FileIdentity) (bound : Option QuarantinedObject) (error : BoundaryError) :
    BoundaryM κ α := do
  throw (← restoreOrTrackQuarantine env parent name restoreExpected unbound bound error)

/-- `rollback_named` once the object stands under its quarantine name. -/
def bindQuarantined (env : Env κ) (parent : DirCap) (lease : ExclusiveLease) (name : String)
    (unbound : UnboundQuarantine) : BoundaryM κ QuarantinedObject := do
  let expected := unbound.expected
  let fd ← rescue (openObjectPathAt env parent.fd unbound.quarantineName)
    (giveUpQuarantine env parent name unbound expected none)
  let parentFd ← rescue (duplicateFd env parent.fd)
    (giveUpQuarantine env parent name unbound expected none)
  let object : QuarantinedObject :=
    { fd, parent := { parent with fd := parentFd }, parentIdentity := parent.identity,
      leaseIdentity := lease.identity, scope := parent.scope,
      quarantineName := unbound.quarantineName, expected, directory := unbound.directory,
      id := unbound.id }
  rescue (checkpoint env .afterQuarantineMoveBeforeVerify)
    (giveUpQuarantine env parent name unbound expected (some object))
  let moved ← rescue (fromFd env object.fd)
    (giveUpQuarantine env parent name unbound expected (some object))
  if moved.inodeKey ≠ expected.inodeKey then
    giveUpQuarantine env parent name unbound moved (some object) .identityMismatch
  else
    match ← attempt (fromAt env parent.fd name) with
    | .ok _ => do
      setRollbackDisposition .quarantinedForRecovery
      trackQuarantine object
      throw .identityMismatch
    | .error error =>
      -- Only an absent name shows that nothing took the moved object's place.
      if error.isNotFound then do
        setRollbackDisposition .readyForQuarantine
        return object
      else do
        setRollbackDisposition .quarantinedForRecovery
        trackQuarantine object
        throw error

def rollbackNamed (env : Env κ) (parent : DirCap) (lease : ExclusiveLease) (name : String)
    (expected : FileIdentity) (directory : Bool) : BoundaryM κ QuarantinedObject := do
  setRollbackDisposition .preQuarantineFailure
  requireScope parent.scope lease.scope
  let _ ← revalidateDirectory env parent false
  revalidateLock env lease
  let quarantineName := quarantineNameOf (← nextId)
  renameAt env parent.fd name parent.fd quarantineName
  let parentFd ← attempt (duplicateFd env parent.fd)
  let id ← nextId
  bindQuarantined env parent lease name
    { parentFd := parentFd.toOption, parentIdentity := parent.identity,
      leaseIdentity := lease.identity, scope := parent.scope, quarantineName, expected, directory, id }

def rollbackCreated (env : Env κ) (parent : DirCap) (lease : ExclusiveLease) (name : String)
    (cap : DirCap) (directory : Bool) : BoundaryM κ QuarantinedObject := do
  setRollbackDisposition .preQuarantineFailure
  requireScope parent.scope lease.scope
  requireScope parent.scope cap.scope
  rollbackNamed env parent lease name cap.identity directory

/-- What a rollback that did not reach the quarantine leaves to its caller. -/
def retainUnlessQuarantined (retain : BoundaryM κ Unit) (error : BoundaryError) : BoundaryM κ α := do
  onlyIf (← get).rollbackDisposition.retainsStageAuthority retain
  throw error

def terminalOf (result : Except BoundaryError α) : StageCleanupTerminal :=
  if result.isOk then .cleaned else .failed

def cleanupRegistered (env : Env κ) (parent : DirCap) (lease : ExclusiveLease) (name : String)
    (cap : DirCap) (directory : Bool) : BoundaryM κ Unit := do
  let result ← attempt do
    let object ← rescue (rollbackCreated env parent lease name cap directory)
      (retainUnlessQuarantined (retainStageAuthority env parent cap name none none))
    finishQuarantine env parent lease object
  recordStageCleanup parent lease cap.id (terminalOf result) (some cap.identity)
  ofExcept result

def cleanupRegisteredIdentity (env : Env κ) (parent : DirCap) (lease : ExclusiveLease)
    (name : String) (expected : FileIdentity) (capabilityId : Nat) : BoundaryM κ Unit := do
  let register : BoundaryM κ Unit := do
    let _ ← registerUnboundStage env parent capabilityId none name (some expected) (some expected)
  let result ← attempt do
    rescue (requireScope parent.scope lease.scope) fun error => do
      setRollbackDisposition .preQuarantineFailure
      register
      throw error
    let object ← rescue (rollbackNamed env parent lease name expected true)
      (retainUnlessQuarantined register)
    finishQuarantine env parent lease object
  recordStageCleanup parent lease capabilityId (terminalOf result) (some expected)
  ofExcept result

def rollbackNamedAndFinishUnboundStage (env : Env κ) (parent : DirCap) (lease : ExclusiveLease)
    (name : String) (stage : Nat) (expected : FileIdentity) : BoundaryM κ Unit := do
  let object ← rescue (rollbackNamed env parent lease name expected true)
    (retainUnlessQuarantined do
      let _ ← registerUnboundStage env parent stage (some stage) name (some expected) none)
  finishQuarantine env parent lease object

/-- The error exits of `create_staging_dir` between registration and binding. -/
def abandonUnboundStage (env : Env κ) (parent : DirCap) (lease : ExclusiveLease) (name : String)
    (stage : Nat) (identity : FileIdentity) (error : BoundaryError) : BoundaryM κ α := do
  let cleanup ← attempt
    (rollbackNamedAndFinishUnboundStage env parent lease name stage identity)
  recordStageCleanup parent lease stage (terminalOf cleanup) (some identity)
  throw error

/-- `create_staging_dir` once the stage is registered. -/
def bindStage (env : Env κ) (parent : DirCap) (lease : ExclusiveLease) (stageId : Nat)
    (identity : FileIdentity) : BoundaryM κ (String × DirCap) := do
  let stageName := stageNameOf stageId
  rescue (checkpoint env .afterStageMkdirBeforeBind)
    (abandonUnboundStage env parent lease stageName stageId identity)
  let fd ← rescue (openDirAt env parent.fd stageName)
    (abandonUnboundStage env parent lease stageName stageId identity)
  let boundIdentity ← rescue (fromFd env fd)
    (abandonUnboundStage env parent lease stageName stageId identity)
  if boundIdentity.inodeKey ≠ identity.inodeKey then
    abandonUnboundStage env parent lease stageName stageId identity .identityMismatch
  else
    let cap : DirCap := { fd, identity := boundIdentity, id := stageId, scope := parent.scope }
    rescue (checkpoint env .afterStageBindBeforeMove) fun error => do
      cleanupRegistered env parent lease stageName cap true
      throw error
    return (stageName, cap)

def createStagingDir (env : Env κ) (parent : DirCap) (lease : ExclusiveLease) :
    BoundaryM κ (String × DirCap) := do
  let _ ← revalidateDirectory env parent false
  revalidateLock env lease
  requireScope parent.scope lease.scope
  let stageId ← nextId
  let stageName := stageNameOf stageId
  mkdirAt env parent.fd stageName 0o700
  recordStageAllocated parent lease stageId
  let identity ← rescue (fromAt env parent.fd stageName) fun error => do
    let _ ← registerUnboundStage env parent stageId (some stageId) stageName none none
    recordStageCleanup parent lease stageId .deferred none
    throw error
  recordStageRegistered parent lease stageId stageId identity
  bindStage env parent lease stageId identity

def restoreStaged (env : Env κ) (stage parent : DirCap) (stagedName originalName : String) :
    BoundaryM κ Unit := do
  requireScope stage.scope parent.scope
  let _ ← revalidateDirectory env parent false
  let staged ← fromAt env stage.fd stagedName
  renameAt env stage.fd stagedName parent.fd originalName
  let restored ← fromAt env parent.fd originalName
  ensure (restored.inodeKey = staged.inodeKey) .identityMismatch

def restoreStagedAndCleanup (env : Env κ) (stage parent : DirCap) (lease : ExclusiveLease)
    (stageName stagedName originalName : String) : BoundaryM κ Unit := do
  rescue (restoreStaged env stage parent stagedName originalName) fun error => do
    let childIdentity ← attempt (fromAt env stage.fd stagedName)
    retainStageAuthority env parent stage stageName none childIdentity.toOption
    throw error
  cleanupRegistered env parent lease stageName stage true

def exactIdentity (env : Env κ) (parent : DirCap) (lease : ExclusiveLease) (name : String)
    (expected : FileIdentity) : BoundaryM κ Unit := do
  requireScope parent.scope lease.scope
  let _ ← revalidateDirectory env parent false
  revalidateLock env lease
  let observed ← fromAt env parent.fd name
  ensure (observed.inodeKey = expected.inodeKey) .identityMismatch
  checkpoint env .beforeExactMutation

def stagedName : String := "entry"

/-- Record the outcome of a public operation that ends with the error. -/
def failWith (operation : OperationName) (capabilities : CapabilitySet) (outcome : OperationOutcome)
    (error : BoundaryError) : BoundaryM κ α := do
  recordOperation operation capabilities outcome none
  throw error

/-- The error exits of `mkdir_child` once the child is registered. -/
def abandonChild (env : Env κ) (parent : DirCap) (lease : ExclusiveLease) (stageName : String)
    (stage : DirCap) (capabilities : CapabilitySet) (outcome : OperationOutcome)
    (cleanupChild : BoundaryM κ Unit) (error : BoundaryError) : BoundaryM κ α := do
  let child ← attempt cleanupChild
  let outer ← attempt (cleanupRegistered env parent lease stageName stage true)
  failWith .mkdirChild capabilities (if child.isOk ∧ outer.isOk then outcome else .rollbackIncomplete)
    error

/-- `mkdir_child` from the bound child to its publication. -/
def publishChild (env : Env κ) (parent : DirCap) (lease : ExclusiveLease) (finalName stageName : String)
    (stage : DirCap) (childId : Nat) (childIdentity : FileIdentity) : BoundaryM κ DirCap := do
  let capabilities : CapabilitySet := .mkdirChild parent lease (some stage.id) (some childId)
  rescue (checkpoint env .afterMkdirBeforeBind)
    (abandonChild env parent lease stageName stage capabilities .rolledBackError
      (cleanupRegisteredIdentity env stage lease stagedName childIdentity childId))
  let fd ← rescue (openDirAt env stage.fd stagedName)
    (abandonChild env parent lease stageName stage capabilities .stagedError
      (cleanupRegisteredIdentity env stage lease stagedName childIdentity childId))
  let identity ← rescue (fromFd env fd)
    (abandonChild env parent lease stageName stage capabilities .stagedError
      (cleanupRegisteredIdentity env stage lease stagedName childIdentity childId))
  if identity.inodeKey ≠ childIdentity.inodeKey then
    abandonChild env parent lease stageName stage capabilities .identityMismatch
      (cleanupRegisteredIdentity env stage lease stagedName childIdentity childId) .identityMismatch
  else
    let cap : DirCap := { fd, identity, id := childId, scope := stage.scope }
    rescue (checkpoint env .afterBindBeforePublish)
      (abandonChild env parent lease stageName stage capabilities .rolledBackError
        (cleanupRegistered env stage lease stagedName cap true))
    rescue (renameAt env stage.fd stagedName parent.fd finalName)
      (abandonChild env parent lease stageName stage capabilities .rolledBackError
        (cleanupRegistered env stage lease stagedName cap true))
    recordStagePublished stage parent lease childId childId identity
    rescue (cleanupRegistered env parent lease stageName stage true)
      (failWith .mkdirChild capabilities .mutatedError)
    recordOperation .mkdirChild capabilities .applied none
    return cap

/-- `mkdir_child` once its stage exists. -/
def stageChild (env : Env κ) (parent : DirCap) (lease : ExclusiveLease) (finalName : String)
    (mode : UInt32) (stageName : String) (stage : DirCap) : BoundaryM κ DirCap := do
  let capabilities : CapabilitySet := .mkdirChild parent lease (some stage.id) none
  rescue (mkdirAt env stage.fd stagedName mode) fun error => do
    let cleanup ← attempt (cleanupRegistered env parent lease stageName stage true)
    failWith .mkdirChild capabilities (if cleanup.isOk then .stagedError else .rollbackIncomplete) error
  let childId ← nextId
  recordStageAllocated stage lease childId
  let childIdentity ← rescue (fromAt env stage.fd stagedName) fun error => do
    let obligation ← registerUnboundStage env stage childId (some childId) stagedName none none
    let cleanup ← attempt (cleanupRegistered env parent lease stageName stage true)
    onlyIf cleanup.isOk (resolveStageObligation obligation)
    recordStageCleanup stage lease childId (if cleanup.isOk then .cleaned else .deferred) none
    failWith .mkdirChild capabilities (if cleanup.isOk then .stagedError else .rollbackIncomplete) error
  recordStageRegistered stage lease childId childId childIdentity
  publishChild env parent lease finalName stageName stage childId childIdentity

def mkdirChild (env : Env κ) (parent : DirCap) (lease : ExclusiveLease) (name : String)
    (mode : UInt32) : BoundaryM κ DirCap := do
  let _ ← revalidateDirectory env parent false
  revalidateLock env lease
  requireScope parent.scope lease.scope
  let finalName ← ofExcept (cName name)
  let (stageName, stage) ← rescue (createStagingDir env parent lease)
    (failWith .mkdirChild (.mkdirStart parent lease) .stagedError)
  stageChild env parent lease finalName mode stageName stage

/-- A step between the move into the stage and the final mutation: on failure the move is
rolled back and a complete rollback is reported with the given outcome. -/
def reporting (outcome : OperationOutcome) (body : BoundaryM κ α) :
    EStateM (OperationOutcome × BoundaryError) (State κ) α :=
  rescue body fun error => throw (outcome, error)

/-- Stage the named object: `unlink_exact` and `rename_exact` up to the move. -/
def moveIntoStage (env : Env κ) (operation : OperationName) (capabilities : CapabilitySet)
    (parent : DirCap) (lease : ExclusiveLease) (name : String) : BoundaryM κ (String × DirCap) := do
  let (stageName, stage) ← rescue (createStagingDir env parent lease)
    (failWith operation capabilities .stagedError)
  rescue (renameAt env parent.fd name stage.fd stagedName) fun error => do
    let cleanup ← attempt (cleanupRegistered env parent lease stageName stage true)
    failWith operation capabilities (if cleanup.isOk then .stagedError else .rollbackIncomplete) error
  return (stageName, stage)

/-- The error exits of `unlink_exact` and `rename_exact` after the move. -/
def rollbackMove (env : Env κ) (operation : OperationName) (capabilities : CapabilitySet)
    (parent : DirCap) (lease : ExclusiveLease) (name stageName : String) (stage : DirCap)
    (failure : OperationOutcome × BoundaryError) : BoundaryM κ α := do
  let rollback ← attempt
    (restoreStagedAndCleanup env stage parent lease stageName stagedName name)
  match rollback with
  | .ok () => failWith operation capabilities failure.1 failure.2
  | .error error => failWith operation capabilities .rollbackIncomplete error

/-- `unlink_exact` and `rename_exact` after the mutation. -/
def finishMutation (env : Env κ) (operation : OperationName) (capabilities : CapabilitySet)
    (parent : DirCap) (lease : ExclusiveLease) (stageName : String) (stage : DirCap) : BoundaryM κ Unit := do
  rescue (cleanupRegistered env parent lease stageName stage true)
    (failWith operation capabilities .mutatedError)
  rescue (checkpoint env .afterExactMutation) (failWith operation capabilities .mutatedError)
  recordOperation operation capabilities .applied none

/-- `unlink_exact` and `rename_exact` after their preconditions; they differ in the checked
mutation of the staged object. -/
def stagedMutation (env : Env κ) (operation : OperationName) (capabilities : CapabilitySet)
    (parent : DirCap) (lease : ExclusiveLease) (name : String)
    (mutate : DirCap → EStateM (OperationOutcome × BoundaryError) (State κ) Unit) :
    BoundaryM κ Unit := do
  let (stageName, stage) ← moveIntoStage env operation capabilities parent lease name
  rescue (mutate stage) (rollbackMove env operation capabilities parent lease name stageName stage)
  finishMutation env operation capabilities parent lease stageName stage

def verifyStaged (env : Env κ) (stage : DirCap) (expected : FileIdentity) :
    EStateM (OperationOutcome × BoundaryError) (State κ) Unit := do
  let observed ← reporting .rolledBackError (fromAt env stage.fd stagedName)
  ensure (observed.inodeKey = expected.inodeKey) (.identityMismatch, .identityMismatch)

def removeStaged (env : Env κ) (parent : DirCap) (lease : ExclusiveLease) (expected : FileIdentity)
    (directory : Bool) (stage : DirCap) : EStateM (OperationOutcome × BoundaryError) (State κ) Unit := do
  reporting .rolledBackError (checkpoint env .afterMoveBeforeVerify)
  verifyStaged env stage expected
  reporting .rolledBackError (requireExactMutationScope env parent lease)
  verifyStaged env stage expected
  reporting .rolledBackError (unlinkAt env stage.fd stagedName directory)

/-- A destination without the writer-stop proof is reported as a plain error. -/
def publishStaged (env : Env κ) (sourceParent destinationParent : DirCap) (lease : ExclusiveLease)
    (destination : String) (expected : FileIdentity) (stage : DirCap) :
    EStateM (OperationOutcome × BoundaryError) (State κ) Unit := do
  reporting .rolledBackError (checkpoint env .afterMoveBeforeVerify)
  verifyStaged env stage expected
  reporting .rolledBackError (requireExactMutationScope env sourceParent lease)
  reporting .error (requireExactMutationScope env destinationParent lease)
  verifyStaged env stage expected
  reporting .rolledBackError (renameAt env stage.fd stagedName destinationParent.fd destination)

/-- The checks of `unlink_exact` before it stages anything. -/
def checkUnlink (env : Env κ) (parent : DirCap) (lease : ExclusiveLease) (name : String)
    (expected : FileIdentity) : BoundaryM κ String := do
  let name ← ofExcept (cName name)
  rescue (exactIdentity env parent lease name expected)
    (failWith .unlinkExact (.unlink parent lease) .error)
  return name

def unlinkExact (env : Env κ) (parent : DirCap) (lease : ExclusiveLease) (name : String)
    (expected : FileIdentity) (directory : Bool) : BoundaryM κ Unit := do
  let name ← checkUnlink env parent lease name expected
  stagedMutation env .unlinkExact (.unlink parent lease) parent lease name
    (removeStaged env parent lease expected directory)

/-- The checks of `rename_exact` before it stages anything. -/
def checkRename (env : Env κ) (sourceParent destinationParent : DirCap) (lease : ExclusiveLease)
    (source destination : String) (expected : FileIdentity) : BoundaryM κ (String × String) := do
  let source ← ofExcept (cName source)
  let destination ← ofExcept (cName destination)
  let capabilities : CapabilitySet := .rename sourceParent destinationParent lease
  rescue (requireScope sourceParent.scope lease.scope) (failWith .renameExact capabilities .error)
  rescue (exactIdentity env sourceParent lease source expected) (failWith .renameExact capabilities .error)
  let _ ← rescue (revalidateDirectory env destinationParent false) (failWith .renameExact capabilities .error)
  return (source, destination)

def renameExact (env : Env κ) (sourceParent destinationParent : DirCap) (lease : ExclusiveLease)
    (source destination : String) (expected : FileIdentity) : BoundaryM κ Unit := do
  let (source, destination) ← checkRename env sourceParent destinationParent lease source destination expected
  stagedMutation env .renameExact (.rename sourceParent destinationParent lease) sourceParent lease source
    (publishStaged env sourceParent destinationParent lease destination expected)

/-- The three operations that stage a resource. -/
inductive Operation where
  | mkdirChild (parent : DirCap) (lease : ExclusiveLease) (name : String) (mode : UInt32)
  | unlinkExact (parent : DirCap) (lease : ExclusiveLease) (name : String) (expected : FileIdentity)
      (directory : Bool)
  | renameExact (sourceParent destinationParent : DirCap) (lease : ExclusiveLease)
      (source destination : String) (expected : FileIdentity)

def call (env : Env κ) : Operation → BoundaryM κ Unit
  | .mkdirChild parent lease name mode => do
    let _ ← mkdirChild env parent lease name mode
  | .unlinkExact parent lease name expected directory =>
    unlinkExact env parent lease name expected directory
  | .renameExact sourceParent destinationParent lease source destination expected =>
    renameExact env sourceParent destinationParent lease source destination expected

end Darling.Boundary
