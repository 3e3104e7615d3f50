import Darling.Boundary.Machine

/-! A namespace behind the syscalls: directories map names to inodes, descriptors stand for
inodes, and foreign writers change the entries whenever no writer-stop proof forbids it. -/
namespace Darling.Boundary

/-- The inode under a name of a directory inode. -/
abbrev Entries := List ((InodeKey × String) × InodeKey)

/-- What the boundary did to the namespace. A removal says whether the removed inode was a
directory the boundary made, a rename which inode it replaced. -/
inductive Event where
  | removed (inode : InodeKey) (own : Bool)
  | renamed (inode : InodeKey) (replaced : Option InodeKey)
  deriving DecidableEq, Repr

/-- `own` lists the inodes of directories the boundary made; an inode leaves it when a writer
reuses its number. -/
structure World where
  entries : Entries
  descriptors : List (RawFd × InodeKey)
  own : List InodeKey := []
  events : List Event := []
  clock : Nat := 0

namespace World

def uses (w : World) (inode : InodeKey) : Bool :=
  w.entries.any (fun entry => entry.2 == inode || entry.1.1 == inode) ||
    w.descriptors.any (·.2 == inode)

def freshFd (w : World) : RawFd := (w.descriptors.map (·.1)).foldr max 0 + 1

def openInode (w : World) (inode : InodeKey) : Except Nat RawFd × World :=
  (.ok w.freshFd, { w with descriptors := (w.freshFd, inode) :: w.descriptors })

def EBADF : Nat := 9

def EEXIST : Nat := 17

def ENOSPC : Nat := 28

def inodeOf (w : World) (fd : RawFd) : Except Nat InodeKey :=
  match w.descriptors.lookup fd with
  | some inode => .ok inode
  | none => .error EBADF

/-- The directory inode and, when the name exists, the inode under it. -/
def resolve (w : World) (fd : RawFd) (name : String) : Except Nat (InodeKey × Option InodeKey) :=
  (w.inodeOf fd).map fun directory => (directory, w.entries.lookup (directory, name))

def find (w : World) (fd : RawFd) (name : String) : Except Nat InodeKey :=
  match w.resolve fd name with
  | .ok (_, some inode) => .ok inode
  | .ok (_, none) => .error ENOENT
  | .error errno => .error errno

def erase (entries : Entries) (place : InodeKey × String) : Entries :=
  entries.filter (·.1 ≠ place)

end World

/-- Everything the boundary does not control. A writer may put any entries in place of the
present ones and may reuse inode numbers; a syscall may fail for any reason of its own, such as
a directory that is not empty; the kernel picks metadata and the inode of a new directory. -/
structure Adversary where
  fails : World → Option Nat
  writes : World → Entries
  reuses : World → InodeKey → Bool
  describe : World → InodeKey → FileIdentity
  inode : World → InodeKey
  verdict : World → HookPhase → Checkpoint → Except BoundaryError Unit
  invalidates : World → HookPhase → Checkpoint → Bool

namespace Adversary

variable (adversary : Adversary)

def write (w : World) : World :=
  { w with entries := adversary.writes w, own := w.own.filter fun inode => !adversary.reuses w inode }

def identity (w : World) (inode : InodeKey) : FileIdentity :=
  { adversary.describe w inode with device := inode.1, inode := inode.2 }

/-- Bind the result of a lookup, or fail with its error in the unchanged world. -/
def resolving (w : World) (found : Except Nat α) (next : α → Except Nat ρ × World) : Except Nat ρ × World :=
  match found with
  | .ok value => next value
  | .error errno => (.error errno, w)

def makeDirectory (w : World) (name : String) (found : InodeKey × Option InodeKey) : Except Nat Unit × World :=
  if found.2.isSome then (.error World.EEXIST, w)
  else if w.uses (adversary.inode w) then (.error World.ENOSPC, w)
  else (.ok (), { w with
    entries := ((found.1, name), adversary.inode w) :: w.entries
    own := adversary.inode w :: w.own })

def removeName (w : World) (name : String) (found : InodeKey × Option InodeKey) : Except Nat Unit × World :=
  match found.2 with
  | none => (.error ENOENT, w)
  | some inode => (.ok (), { w with
      entries := World.erase w.entries (found.1, name)
      events := w.events ++ [.removed inode (inode ∈ w.own)] })

def moveName (w : World) (source destination : String) (noReplace : Bool) (origin : InodeKey × Option InodeKey)
    (target : InodeKey × Option InodeKey) : Except Nat Unit × World :=
  match origin.2 with
  | none => (.error ENOENT, w)
  | some inode =>
    if noReplace ∧ target.2.isSome then (.error World.EEXIST, w)
    else (.ok (), { w with
      entries := ((target.1, destination), inode) ::
        World.erase (World.erase w.entries (origin.1, source)) (target.1, destination)
      events := w.events ++ [.renamed inode target.2] })

/-- The effect of a syscall that the adversary lets through. -/
def kernel (w : World) : Syscall ρ → Except Nat ρ × World
  | .fstat fd => resolving w (w.inodeOf fd) fun inode => (.ok (adversary.identity w inode), w)
  | .fstatat parent name => resolving w (w.find parent name) fun inode =>
    (.ok (adversary.identity w inode), w)
  | .openDirectory parent name => resolving w (w.find parent name) w.openInode
  | .openObjectPath parent name => resolving w (w.find parent name) w.openInode
  | .duplicate fd => resolving w (w.inodeOf fd) w.openInode
  | .mkdirat parent name _ => resolving w (w.resolve parent name) (adversary.makeDirectory w name)
  | .unlinkat parent name _ => resolving w (w.resolve parent name) (removeName w name)
  | .renameat2 sourceParent source destinationParent destination noReplace =>
    resolving w (w.resolve sourceParent source) fun origin =>
    resolving w (w.resolve destinationParent destination) (moveName w source destination noReplace origin)

@[simp] theorem kernel_fstatat (w : World) (parent : RawFd) (name : String) :
    adversary.kernel w (.fstatat parent name) =
      resolving w (w.find parent name) fun inode => (.ok (adversary.identity w inode), w) := rfl

@[simp] theorem kernel_mkdirat (w : World) (parent : RawFd) (name : String) (mode : UInt32) :
    adversary.kernel w (.mkdirat parent name mode) =
      resolving w (w.resolve parent name) (adversary.makeDirectory w name) := rfl

@[simp] theorem kernel_unlinkat (w : World) (parent : RawFd) (name : String) (directory : Bool) :
    adversary.kernel w (.unlinkat parent name directory) =
      resolving w (w.resolve parent name) (removeName w name) := rfl

/-- Writers run before a syscall unless a writer-stop proof is in force. -/
def settle (quiet : Bool) (w : World) : World :=
  let ticked := { w with clock := w.clock + 1 }
  if quiet then ticked else adversary.write ticked

/-- While a proof is in force a hook writes only if it reports an invalidation. -/
def env : Env World where
  syscall quiet call w :=
    let ready := adversary.settle quiet w
    match adversary.fails ready with
    | some errno => (.error errno, ready)
    | none => adversary.kernel ready call
  hook quiet phase point w :=
    let ticked := { w with clock := w.clock + 1 }
    let invalidated := adversary.invalidates ticked phase point
    (adversary.verdict ticked phase point, invalidated,
      if quiet && !invalidated then ticked else adversary.write ticked)

end Adversary

end Darling.Boundary
