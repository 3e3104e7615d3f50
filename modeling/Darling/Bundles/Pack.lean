import Darling.Library.Interruptions

/-! `handoff.py pack`: a bundle package is written beside the output, the output is displaced and the
package takes its place, around a journal from which `_recover_pack` restores or finishes. -/
namespace Darling.Bundles

/-- What stands at a path. The entries of a directory are listed with everything below it. -/
inductive Node (ρ : Type) where
  | directory (entries : List ρ)
  | file (bytes : List UInt8)
  deriving DecidableEq, Repr

inductive Status where
  | prepared
  | committed
  | other (text : String)
  deriving DecidableEq, Repr

structure Journal where
  version : Nat
  state : Status
  output : String
  existed : Bool
  deriving DecidableEq, Repr

inductive Place where
  | output
  | backup
  | staged
  deriving DecidableEq, Repr

/-- The paths of the transaction. `temporary` is the temporary journal, without a value while it is not
completely written; `committed` remembers that a committed journal was once put in place. -/
structure Disk (ρ : Type) where
  output : Option (Node ρ) := none
  backup : Option (Node ρ) := none
  staged : Option (Node ρ) := none
  journal : Option Journal := none
  temporary : Option (Option Journal) := none
  committed : Bool := false

inductive PackError where
  | os
  | stagingExists
  | invalidJournal
  | invalidState (text : String)
  | backupMissing
  deriving DecidableEq, Repr

inductive Point where
  | storage
  | writePackage
  | writeJournal
  | displace
  | publish
  | remove (place : Place)
  | restore
  | cleanup
  deriving DecidableEq, Repr

/-- The output path and the order in which a removal meets the entries of a directory. -/
structure Host (ρ : Type) where
  output : String
  order : List ρ → List ρ

abbrev PackM (ρ : Type) := Program Point PackError (Disk ρ)

variable {ρ : Type} [DecidableEq ρ]

def Disk.node (d : Disk ρ) : Place → Option (Node ρ)
  | .output => d.output
  | .backup => d.backup
  | .staged => d.staged

def Disk.put (d : Disk ρ) (place : Place) (node : Option (Node ρ)) : Disk ρ :=
  match place with
  | .output => { d with output := node }
  | .backup => { d with backup := node }
  | .staged => { d with staged := node }

/-- Whether a rename may put the node over what is there. -/
def replaceable (node : Node ρ) : Option (Node ρ) → Bool
  | none => true
  | some (.file _) => match node with
    | .file _ => true
    | .directory _ => false
  | some (.directory entries) => match node with
    | .file _ => false
    | .directory _ => entries.isEmpty

/-- `os.replace`. -/
def Disk.replace (source destination : Place) (d : Disk ρ) : Except PackError (Unit × Disk ρ) :=
  match d.node source with
  | none => .error .os
  | some node =>
    if replaceable node (d.node destination) then .ok ((), (d.put source none).put destination (some node))
    else .error .os

def packWriteJournal (payload : Journal) : PackM ρ Unit := do
  write .writeJournal fun d => { d with temporary := some none }
  write .writeJournal fun d => { d with temporary := some (some payload) }
  sync .writeJournal
  write .writeJournal fun d =>
    { d with journal := some payload, temporary := none, committed := d.committed || payload.state = .committed }
  sync .writeJournal

/-- One entry of a directory goes. -/
def Disk.unlink (place : Place) (entry : ρ) (d : Disk ρ) : Disk ρ :=
  match d.node place with
  | some (.directory entries) => d.put place (some (.directory (entries.erase entry)))
  | _ => d

/-- `_pack_remove`, with one step an entry of a directory. -/
def packRemove (host : Host ρ) (place : Place) : PackM ρ Unit := do
  match (← disk).node place with
  | some (.directory entries) => do
    (host.order entries).forM fun entry => write (.remove place) (Disk.unlink place entry)
    write (.remove place) fun d => d.put place none
  | some (.file _) => write (.remove place) fun d => d.put place none
  | none => pure ()

def packCleanup (host : Host ρ) : PackM ρ Unit := do
  packRemove host .backup
  packRemove host .staged
  onlyIf (← disk).journal.isSome (write .cleanup fun d => { d with journal := none })
  onlyIf (← disk).temporary.isSome (write .cleanup fun d => { d with temporary := none })
  sync .cleanup

/-- The rollback of a prepared journal. -/
def rollBack (host : Host ρ) (journal : Journal) : PackM ρ Unit := do
  let d ← disk
  if d.backup.isSome then do
    packRemove host .output
    act .restore (Disk.replace .backup .output)
    sync .restore
  else if !journal.existed then do
    packRemove host .output
    sync .restore
  else demand (d.output.isSome = true) .backupMissing

def recoverPack (host : Host ρ) : PackM ρ Unit := do
  match (← disk).journal with
  | none => packCleanup host
  | some journal => do
    demand (journal.version = 1 ∧ journal.output = host.output) .invalidJournal
    match journal.state with
    | .prepared => rollBack host journal
    | .committed => pure ()
    | .other text => raise (.invalidState text)
    packCleanup host

/-- `write_package`, with one step an entry, and `_fsync_tree`. -/
def writePackage (package : List ρ) : PackM ρ Unit := do
  demand ((← disk).staged.isNone = true) .stagingExists
  write .writePackage fun d => d.put .staged (some (.directory []))
  (List.range package.length).forM fun index =>
    write .writePackage fun d => d.put .staged (some (.directory (package.take (index + 1))))
  sync .writePackage

/-- The body of `pack` between its two journals. -/
def exchange (host : Host ρ) (existed : Bool) : PackM ρ Unit := do
  onlyIf (← disk).output.isSome do
    act .displace (Disk.replace .output .backup)
    sync .displace
    sync .displace
  act .publish (Disk.replace .staged .output)
  sync .publish
  packWriteJournal { version := 1, state := .committed, output := host.output, existed }

/-- `pack` once the projects are known; `package` is what `write_package` makes of them. -/
def pack (host : Host ρ) (package : List ρ) : PackM ρ Unit := do
  -- the parent of the output, the transaction directory and its lock
  sync .storage
  sync .storage
  sync .storage
  recoverPack host
  writePackage package
  let existed := (← disk).output.isSome
  packWriteJournal { version := 1, state := .prepared, output := host.output, existed }
  handle (exchange host existed) fun error => do
    recoverPack host
    raise error
  handle (packCleanup host) fun error => if error = .os then pure () else raise error

end Darling.Bundles
