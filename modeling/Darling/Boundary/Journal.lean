import Darling.Boundary.Errors

/-! The data of the operation boundary: retained capabilities, the obligations it hands to a
recovery controller and the typed journal it emits. -/
namespace Darling.Boundary

abbrev RawFd := Nat

/-- The runtime brand of an anchored transaction scope. -/
abbrev ScopeId := Nat

structure FileIdentity where
  device : UInt64
  inode : UInt64
  mode : UInt32
  nlink : UInt64
  uid : UInt32
  gid : UInt32
  deriving DecidableEq, Repr

/-- Device and inode number. The comparisons of the boundary use nothing else, except for
a metadata revalidation. -/
abbrev InodeKey := UInt64 × UInt64

def FileIdentity.inodeKey (identity : FileIdentity) : InodeKey := (identity.device, identity.inode)

structure DirCap where
  fd : RawFd
  identity : FileIdentity
  id : Nat
  scope : ScopeId
  deriving DecidableEq, Repr

structure ExclusiveLease where
  fd : RawFd
  identity : FileIdentity
  id : Nat
  scope : ScopeId
  deriving DecidableEq, Repr

/-- An externally established proof that no namespace writer runs. -/
structure QuiescentScope where
  parentIdentity : FileIdentity
  secondaryParentIdentity : Option FileIdentity
  secondaryParentScope : Option ScopeId
  leaseIdentity : FileIdentity
  scope : ScopeId
  token : Nat
  deriving DecidableEq, Repr

def QuiescentScope.allowsParent (scope : QuiescentScope) (identity : FileIdentity) : Bool :=
  scope.parentIdentity.inodeKey = identity.inodeKey ||
    scope.secondaryParentIdentity.any (·.inodeKey = identity.inodeKey)

structure QuarantinedObject where
  fd : RawFd
  parent : DirCap
  parentIdentity : FileIdentity
  leaseIdentity : FileIdentity
  scope : ScopeId
  quarantineName : String
  expected : FileIdentity
  directory : Bool
  id : Nat
  deriving DecidableEq, Repr

structure UnboundQuarantine where
  parentFd : Option RawFd
  parentIdentity : FileIdentity
  leaseIdentity : FileIdentity
  scope : ScopeId
  quarantineName : String
  expected : FileIdentity
  directory : Bool
  id : Nat
  deriving DecidableEq, Repr

inductive QuarantineObligation where
  | bound (object : QuarantinedObject)
  | unbound (object : UnboundQuarantine)
  deriving DecidableEq, Repr

def QuarantineObligation.quarantineName : QuarantineObligation → String
  | bound object => object.quarantineName
  | unbound object => object.quarantineName

structure BoundStageObligation where
  parent : DirCap
  stage : DirCap
  stageRef : Nat
  name : String
  child : Option Nat
  childIdentity : Option FileIdentity
  deriving DecidableEq, Repr

structure UnboundStageObligation where
  parentFd : Option RawFd
  parentIdentity : FileIdentity
  stageRef : Nat
  child : Option Nat
  name : String
  expected : Option FileIdentity
  childIdentity : Option FileIdentity
  scope : ScopeId
  deriving DecidableEq, Repr

inductive StageObligation where
  | bound (obligation : BoundStageObligation)
  | unbound (obligation : UnboundStageObligation)
  deriving DecidableEq, Repr

def StageObligation.id : StageObligation → Nat
  | bound obligation => obligation.stageRef
  | unbound obligation => obligation.stageRef

inductive RollbackDisposition where
  | readyForQuarantine
  | preQuarantineFailure
  | restoredAfterMove
  | quarantinedForRecovery
  deriving DecidableEq, Repr

def RollbackDisposition.retainsStageAuthority : RollbackDisposition → Bool
  | preQuarantineFailure | restoredAfterMove => true
  | readyForQuarantine | quarantinedForRecovery => false

inductive OperationName where
  | mkdirChild
  | revalidate
  | revalidateMetadata
  | unlinkExact
  | renameExact
  | checkpoint
  deriving DecidableEq, Repr

inductive OperationOutcome where
  | observed
  | applied
  | error
  | injected
  | allocated
  | registered
  | published
  | deferred
  | stagedError
  | rolledBackError
  | rollbackIncomplete
  | identityMismatch
  | mutatedError
  deriving DecidableEq, Repr

inductive CapabilityRole where
  | directory
  | lease
  | parent
  | sourceParent
  | destinationParent
  | stage
  | child
  | quarantine
  deriving DecidableEq, Repr

structure CapabilityRef where
  id : Nat
  role : CapabilityRole
  deriving DecidableEq, Repr

abbrev CapabilitySet := List CapabilityRef

namespace CapabilitySet

def directory (capability : DirCap) : CapabilitySet := [⟨capability.id, .directory⟩]

def mkdirStart (parent : DirCap) (lease : ExclusiveLease) : CapabilitySet :=
  [⟨parent.id, .parent⟩, ⟨lease.id, .lease⟩]

def mkdirChild (parent : DirCap) (lease : ExclusiveLease) (stage child : Option Nat) : CapabilitySet :=
  mkdirStart parent lease ++ (stage.map (⟨·, .stage⟩)).toList ++ (child.map (⟨·, .child⟩)).toList

def stage (parent : DirCap) (lease : ExclusiveLease) (stage : Nat) (child : Option Nat) : CapabilitySet :=
  mkdirChild parent lease (some stage) child

def rename (sourceParent destinationParent : DirCap) (lease : ExclusiveLease) : CapabilitySet :=
  [⟨sourceParent.id, .sourceParent⟩, ⟨destinationParent.id, .destinationParent⟩, ⟨lease.id, .lease⟩]

def publish (sourceParent destinationParent : DirCap) (lease : ExclusiveLease) (stage child : Nat) :
    CapabilitySet :=
  rename sourceParent destinationParent lease ++ [⟨stage, .stage⟩, ⟨child, .child⟩]

def unlink (parent : DirCap) (lease : ExclusiveLease) : CapabilitySet := mkdirStart parent lease

def quarantine (object : Nat) : CapabilitySet := [⟨object, .quarantine⟩]

end CapabilitySet

inductive StageCleanupTerminal where
  | cleaned
  | deferred
  | failed
  | rollbackIncomplete
  deriving DecidableEq, Repr

inductive QuarantineTerminal where
  | restored
  | boundRecovery
  | unboundRecovery
  | collected
  deriving DecidableEq, Repr

/-- The identity is `none` where the source records `NotApplicable`. -/
inductive StageJournal where
  | allocated (capabilities : CapabilitySet) (stage : Nat) (identity : Option FileIdentity)
  | registered (capabilities : CapabilitySet) (stage child : Nat) (identity : Option FileIdentity)
  | published (capabilities : CapabilitySet) (stage child : Nat) (identity : Option FileIdentity)
  | cleanup (capabilities : CapabilitySet) (stage : Nat) (terminal : StageCleanupTerminal)
      (identity : Option FileIdentity)
  deriving DecidableEq, Repr

structure QuarantineEvent where
  terminal : QuarantineTerminal
  capabilities : CapabilitySet
  object : Nat
  identity : FileIdentity
  deriving DecidableEq, Repr

structure OperationEvent where
  operation : OperationName
  capabilities : CapabilitySet
  result : OperationOutcome
  checkpoint : Option Checkpoint
  deriving DecidableEq, Repr

inductive JournalRecord where
  | operation (event : OperationEvent)
  | stage (event : StageJournal)
  | quarantine (event : QuarantineEvent)
  deriving DecidableEq, Repr

structure OperationRecord where
  sequence : Nat
  record : JournalRecord
  deriving DecidableEq, Repr

end Darling.Boundary
