import Darling.Boundary.Journal
import Darling.Library.Effects

/-! The boundary as a machine over an arbitrary kernel and an arbitrary fault injector. Every
answer of either is a function of the environment, so a theorem about all environments is a
theorem about every result of every syscall and every verdict of every hook. -/
namespace Darling.Boundary

/-- The syscalls of the boundary, indexed by what they return on success. -/
inductive Syscall : Type → Type where
  | fstat (fd : RawFd) : Syscall FileIdentity
  | fstatat (parent : RawFd) (name : String) : Syscall FileIdentity
  | openDirectory (parent : RawFd) (name : String) : Syscall RawFd
  | openObjectPath (parent : RawFd) (name : String) : Syscall RawFd
  | duplicate (fd : RawFd) : Syscall RawFd
  | mkdirat (parent : RawFd) (name : String) (mode : UInt32) : Syscall Unit
  | unlinkat (parent : RawFd) (name : String) (directory : Bool) : Syscall Unit
  | renameat2 (sourceParent : RawFd) (source : String) (destinationParent : RawFd)
      (destination : String) (noReplace : Bool) : Syscall Unit

/-- The label `io_error` puts on a failure of the call. -/
def Syscall.operation : Syscall ρ → String
  | fstat _ => "fstat"
  | fstatat _ _ => "fstatat"
  | openDirectory _ _ => "openat directory"
  | openObjectPath _ _ => "openat object capability"
  | duplicate _ => "fcntl duplicate"
  | mkdirat _ _ _ => "mkdirat"
  | unlinkat _ _ _ => "unlinkat"
  | renameat2 _ _ _ _ _ => "renameat2"

/-- A directory entry, named through a descriptor of its directory. -/
structure Place where
  directory : RawFd
  name : String
  deriving DecidableEq, Repr

structure Move where
  source : Place
  destination : Place
  deriving DecidableEq, Repr

/-- The change of the namespace a successful call makes. -/
inductive Effect where
  | made (place : Place)
  | removed (place : Place)
  | moved (move : Move)
  deriving DecidableEq, Repr

def Syscall.effect : Syscall ρ → Option Effect
  | mkdirat parent name _ => some (.made ⟨parent, name⟩)
  | unlinkat parent name _ => some (.removed ⟨parent, name⟩)
  | renameat2 sourceParent source destinationParent destination _ =>
    some (.moved ⟨⟨sourceParent, source⟩, ⟨destinationParent, destination⟩⟩)
  | _ => none

/-- Whether a fault hook runs before or after its checkpoint is recorded. -/
inductive HookPhase where
  | before
  | after
  deriving DecidableEq, Repr

/-- The kernel and the fault injector. The flag tells them whether a writer-stop proof is in
force; a hook answers its verdict and whether it invalidated the quiescence. -/
structure Env (κ : Type) where
  syscall : {ρ : Type} → Bool → Syscall ρ → κ → Except Nat ρ × κ
  hook : Bool → HookPhase → Checkpoint → κ → Except BoundaryError Unit × Bool × κ

/-- The fields of `Boundary` and what it was given: the observer's records, the namespace
changes made so far and the world behind the syscalls. `lent` is set while a caller's
scope is held by `gc_quarantine`. The two counters are `u64` in the source, which adds one
at a time; that none wraps is taken for granted. -/
structure State (κ : Type) where
  sequence : Nat := 0
  nextId : Nat := 0
  quiescentScope : Option QuiescentScope := none
  quiescenceInvalidated : Bool := false
  pendingQuarantines : List QuarantineObligation := []
  pendingStages : List StageObligation := []
  rollbackDisposition : RollbackDisposition := .readyForQuarantine
  records : List OperationRecord := []
  effects : List Effect := []
  lent : Bool := false
  world : κ

/-- A writer-stop proof is in force. -/
def State.barrier (s : State κ) : Bool := s.quiescentScope.isSome || s.lent

abbrev BoundaryM (κ : Type) := EStateM BoundaryError (State κ)

def perform (env : Env κ) (call : Syscall ρ) : BoundaryM κ ρ := fun s =>
  match env.syscall s.barrier call s.world with
  | (.ok reply, world) => .ok reply { s with world, effects := s.effects ++ call.effect.toList }
  | (.error errno, world) => .error (.io call.operation errno) { s with world }

def fromFd (env : Env κ) (fd : RawFd) : BoundaryM κ FileIdentity := perform env (.fstat fd)

def fromAt (env : Env κ) (parent : RawFd) (name : String) : BoundaryM κ FileIdentity :=
  perform env (.fstatat parent name)

def openDirAt (env : Env κ) (parent : RawFd) (name : String) : BoundaryM κ RawFd :=
  perform env (.openDirectory parent name)

def openObjectPathAt (env : Env κ) (parent : RawFd) (name : String) : BoundaryM κ RawFd :=
  perform env (.openObjectPath parent name)

def duplicateFd (env : Env κ) (fd : RawFd) : BoundaryM κ RawFd := perform env (.duplicate fd)

def mkdirAt (env : Env κ) (parent : RawFd) (name : String) (mode : UInt32) : BoundaryM κ Unit :=
  perform env (.mkdirat parent name mode)

def unlinkAt (env : Env κ) (parent : RawFd) (name : String) (directory : Bool) : BoundaryM κ Unit :=
  perform env (.unlinkat parent name directory)

/-- Always with `RENAME_NOREPLACE`. -/
def renameAt (env : Env κ) (sourceParent : RawFd) (source : String) (destinationParent : RawFd)
    (destination : String) : BoundaryM κ Unit :=
  perform env (.renameat2 sourceParent source destinationParent destination true)

def cName (name : String) : Except BoundaryError String :=
  if name = "" ∨ name = "." ∨ name = ".." ∨ '/' ∈ name.toList ∨ '\x00' ∈ name.toList then
    .error (.invalidComponent name)
  else .ok name

def nextId : BoundaryM κ Nat := fun s => .ok (s.nextId + 1) { s with nextId := s.nextId + 1 }

def setQuiescentScope (scope : QuiescentScope) : BoundaryM κ Unit :=
  modify fun s => { s with quiescenceInvalidated := false, quiescentScope := some scope }

def setRollbackDisposition (disposition : RollbackDisposition) : BoundaryM κ Unit :=
  modify fun s => { s with rollbackDisposition := disposition }

def pushStage (obligation : StageObligation) : BoundaryM κ Unit :=
  modify fun s => { s with pendingStages := s.pendingStages ++ [obligation] }

def pushQuarantine (obligation : QuarantineObligation) : BoundaryM κ Unit :=
  modify fun s => { s with pendingQuarantines := s.pendingQuarantines ++ [obligation] }

def record (record : JournalRecord) : BoundaryM κ Unit :=
  modify fun s =>
    { s with sequence := s.sequence + 1, records := s.records ++ [⟨s.sequence + 1, record⟩] }

def recordOperation (operation : OperationName) (capabilities : CapabilitySet)
    (result : OperationOutcome) (checkpoint : Option Checkpoint) : BoundaryM κ Unit :=
  record (.operation ⟨operation, capabilities, result, checkpoint⟩)

def recordStageAllocated (parent : DirCap) (lease : ExclusiveLease) (stage : Nat) : BoundaryM κ Unit :=
  record (.stage (.allocated (.stage parent lease stage none) stage none))

def recordStageRegistered (parent : DirCap) (lease : ExclusiveLease) (stage child : Nat)
    (identity : FileIdentity) : BoundaryM κ Unit :=
  record (.stage (.registered (.stage parent lease stage (some child)) stage child (some identity)))

def recordStagePublished (sourceParent destinationParent : DirCap) (lease : ExclusiveLease)
    (stage child : Nat) (identity : FileIdentity) : BoundaryM κ Unit :=
  record (.stage (.published (.publish sourceParent destinationParent lease stage child) stage child
    (some identity)))

def recordStageCleanup (parent : DirCap) (lease : ExclusiveLease) (stage : Nat)
    (terminal : StageCleanupTerminal) (identity : Option FileIdentity) : BoundaryM κ Unit :=
  record (.stage (.cleanup (.stage parent lease stage none) stage terminal identity))

def recordQuarantine (object : Nat) (terminal : QuarantineTerminal) (identity : FileIdentity) :
    BoundaryM κ Unit :=
  record (.quarantine ⟨terminal, .quarantine object, object, identity⟩)

def failOrRecord (operation : OperationName) (capabilities : CapabilitySet)
    (result : Except BoundaryError α) : BoundaryM κ α := do
  recordOperation operation capabilities (if result.isOk then .observed else .error) none
  ofExcept result

/-- The parked scope comes back unless the hook invalidated it. -/
def runHook (env : Env κ) (phase : HookPhase) (checkpoint : Checkpoint) :
    BoundaryM κ (Except BoundaryError Unit) := fun s =>
  match env.hook s.barrier phase checkpoint s.world with
  | (verdict, true, world) =>
    .ok verdict { s with quiescentScope := none, quiescenceInvalidated := true, lent := false, world }
  | (verdict, false, world) => .ok verdict { s with world }

def checkpoint (env : Env κ) (checkpoint : Checkpoint) : BoundaryM κ Unit := do
  let result ← runHook env .before checkpoint
  recordOperation .checkpoint [] (if result.isOk then .observed else .injected) (some checkpoint)
  ofExcept result
  match ← runHook env .after checkpoint with
  | .ok () => pure ()
  | .error error => do
    recordOperation .checkpoint [] .injected (some checkpoint)
    throw error

/-- The scope a caller passes by reference is in force while the call holds it. -/
def holdingScope (body : BoundaryM κ α) : BoundaryM κ α := do
  modify fun s => { s with lent := true }
  let result ← attempt body
  modify fun s => { s with lent := false }
  ofExcept result

end Darling.Boundary
