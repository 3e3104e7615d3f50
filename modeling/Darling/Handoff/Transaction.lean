import Darling.Library.Interruptions
import Mathlib.Logic.Function.Basic

/-! The handoff transaction: five publication paths are replaced one after the other around a
journal, and rolled back from backups when the journal is not committed. -/
namespace Darling.Handoff

/-- `PUBLICATION_PATHS`, in their order. -/
inductive Publication where
  | issues
  | repos
  | locked
  | base
  | handoff
  deriving DecidableEq, Repr

def publicationPaths : List Publication := [.issues, .repos, .locked, .base, .handoff]

def Publication.relative : Publication → String
  | issues => ".beads/issues.jsonl"
  | repos => "state/repos.tsv"
  | locked => "locked.xml"
  | base => "base.xml"
  | handoff => "handoff"

inductive Node where
  | file (bytes : List UInt8)
  | directory
  | symlink (target : String)
  | other
  deriving DecidableEq, Repr

structure Record where
  relative : String
  mode : Nat
  node : Node
  deriving DecidableEq, Repr

/-- Everything at and below a path, its own record first; empty when nothing is there. -/
abbrev Tree := List Record

def Tree.isDirectory (tree : Tree) : Bool := tree.head?.any (·.node = .directory)

inductive HandoffError where
  | os
  | interrupted
  | missingPath
  | unsupportedType
  | parentNotReal (path : Publication)
  | storageNotClean
  | drifted (path : Publication)
  | displacedDiffers (path : Publication)
  | destinationAppeared (path : Publication)
  | publishedDiffers (path : Publication)
  | unsafeJournal
  | foreignJournal
  | invalidClosure
  | invalidTransactionPath
  | invalidScratch
  | refusedOverwrite (path : Publication)
  | backupMissing (path : Publication)
  | backupDiffers (path : Publication)
  deriving DecidableEq, Repr

/-- An entry of the transaction storage, named by the index of its publication path. -/
inductive Slot where
  | backups (index : Nat)
  | displaced (index : Nat)
  deriving DecidableEq, Repr

inductive JournalState where
  | prepared
  | committed
  deriving DecidableEq, Repr

structure ScratchPath where
  parent : String
  name : List Char
  deriving DecidableEq, Repr

structure Entry (δ : Type) where
  relative : Publication
  before : Option δ
  after : δ
  existed : Bool
  backup : Slot
  displaced : Slot
  deriving DecidableEq, Repr

structure Journal (δ : Type) where
  version : Nat
  state : JournalState
  control : String
  scratch : ScratchPath
  entries : List (Entry δ)
  deriving DecidableEq, Repr

/-- What surrounds a transaction: the directories it works in, the digest of a listing, the order
in which a removal meets the entries of a directory, the parents of the publication paths that
are real directories, and the links that lead somewhere from the backup directory. -/
structure Host (δ : Type) where
  control : String
  parent : String
  stage : List Char
  suffix : List Char
  nonempty : suffix ≠ []
  digest : Tree → δ
  order : Tree → List Record
  realParents : Publication → Bool
  resolves : String → Bool

variable {δ : Type} [DecidableEq δ]

def Host.scratch (host : Host δ) : ScratchPath := ⟨host.parent, host.stage ++ host.suffix⟩

/-- The part of the file system the transaction works on. `temporary` is the temporary journal,
without a value while it is not completely written; `committed` remembers that a committed
journal was once put in place. -/
structure Disk (δ : Type) where
  published : Publication → Tree
  staged : Publication → Tree
  scratch : Tree
  backups : Option (Publication → Tree) := none
  displaced : Option (Publication → Tree) := none
  journal : Option (Journal δ) := none
  temporary : Option (Option (Journal δ)) := none
  committed : Bool := false

inductive Place where
  | published (path : Publication)
  | staged (path : Publication)
  | scratch
  | backup (path : Publication)
  | displaced (path : Publication)
  deriving DecidableEq, Repr

def Disk.tree (d : Disk δ) : Place → Tree
  | .published path => d.published path
  | .staged path => d.staged path
  | .scratch => d.scratch
  | .backup path => (d.backups.map (· path)).getD []
  | .displaced path => (d.displaced.map (· path)).getD []

def Disk.put (d : Disk δ) (place : Place) (tree : Tree) : Disk δ :=
  match place with
  | .published path => { d with published := Function.update d.published path tree }
  | .staged path => { d with staged := Function.update d.staged path tree }
  | .scratch => { d with scratch := tree }
  | .backup path => { d with backups := d.backups.map (Function.update · path tree) }
  | .displaced path => { d with displaced := d.displaced.map (Function.update · path tree) }

/-- `os.replace`. -/
def Disk.replace (source destination : Place) (d : Disk δ) : Except HandoffError (Unit × Disk δ) :=
  if d.tree source = [] then .error .os
  else .ok ((), (d.put source []).put destination (d.tree source))

/-- The steps of `_durable_json`. -/
inductive WriteStep where
  | create
  | write
  | sync
  | rename
  | directory
  deriving DecidableEq, Repr

/-- The steps of the transaction. A removal of a published path has begun once an entry is gone. -/
inductive Point where
  | storage
  | copy (path : Publication)
  | journal (state : JournalState) (step : WriteStep)
  | undo
  | displace (path : Publication)
  | publish (path : Publication)
  | removal (path : Publication) (begun : Bool)
  | restore (path : Publication)
  | cleanup
  deriving DecidableEq, Repr

abbrev HandoffM (δ : Type) := Program Point HandoffError (Disk δ)

def requireRealParentChain (host : Host δ) (path : Publication) : HandoffM δ Unit :=
  demand (host.realParents path = true) (.parentNotReal path)

def snapshot (host : Host δ) (tree : Tree) : Except HandoffError δ :=
  if tree = [] then .error .missingPath
  else if tree.any (·.node = .other) then .error .unsupportedType
  else .ok (host.digest tree)

def snapshotAt (host : Host δ) (place : Place) : HandoffM δ δ := do
  match snapshot host ((← disk).tree place) with
  | .ok value => return value
  | .error error => raise error

/-- The snapshot of a path that may be absent. -/
def observe (host : Host δ) (place : Place) : HandoffM δ (Option δ) := do
  if (← disk).tree place = [] then return none else return some (← snapshotAt host place)

/-- Whether the temporary journal can be created is decided by `O_EXCL`. -/
def durableJson (payload : Journal δ) : HandoffM δ Unit := do
  act (.journal payload.state .create) fun d =>
    if d.temporary.isSome then .error .unsafeJournal else .ok ((), { d with temporary := some none })
  handle
    (do
      write (.journal payload.state .write) fun d => { d with temporary := some (some payload) }
      sync (.journal payload.state .sync))
    fun error => do
      write .undo fun d => { d with temporary := none }
      raise error
  write (.journal payload.state .rename) fun d =>
    { d with journal := some payload, temporary := none
             committed := d.committed || payload.state = .committed }
  sync (.journal payload.state .directory)

/-- The rest of a removal that has to meet the listed entries before the root. -/
def removeEntries (label : Bool → Point) (place : Place) : Bool → List Record → HandoffM δ Unit
  | begun, [] => write (label begun) fun d => d.put place []
  | begun, record :: rest => do
    write (label begun) fun d => d.put place ((d.tree place).erase record)
    removeEntries label place true rest

/-- `shutil.rmtree`, one step an entry. -/
def rmtree (host : Host δ) (label : Bool → Point) (place : Place) : HandoffM δ Unit := do
  removeEntries label place false (host.order ((← disk).tree place))

/-- `_remove` of a published path. -/
def remove (host : Host δ) (path : Publication) : HandoffM δ Unit := do
  if Tree.isDirectory ((← disk).tree (.published path)) then
    rmtree host (.removal path) (.published path)
  else write (.removal path false) fun d => d.put (.published path) []

/-- An entry a step, then its synchronisation, which follows links. -/
def copyBackup (host : Host δ) (path : Publication) : HandoffM δ Unit := do
  let tree := (← disk).tree (.published path)
  (List.range tree.length).forM fun index =>
    write (.copy path) fun d => d.put (.backup path) (tree.take (index + 1))
  demand (tree.head?.all fun root => match root.node with
    | .symlink target => host.resolves target
    | _ => true) .os
  sync (.copy path)

def cleanupScratch (host : Host δ) : HandoffM δ Unit := do
  onlyIf ((← disk).scratch ≠ []) do
    publicationPaths.forM fun path => rmtree host (fun _ => .cleanup) (.staged path)
    rmtree host (fun _ => .cleanup) .scratch
    sync .cleanup

def removeBackups (host : Host δ) : HandoffM δ Unit := do
  onlyIf (← disk).backups.isSome do
    publicationPaths.forM fun path => rmtree host (fun _ => .cleanup) (.backup path)
    write .cleanup fun d => { d with backups := none }

def removeDisplaced (host : Host δ) : HandoffM δ Unit := do
  onlyIf (← disk).displaced.isSome do
    publicationPaths.forM fun path => rmtree host (fun _ => .cleanup) (.displaced path)
    write .cleanup fun d => { d with displaced := none }

def removeTemporary : HandoffM δ Unit := do
  onlyIf (← disk).temporary.isSome (write .cleanup fun d => { d with temporary := none })

/-- `_validate_scratch_path` of a path that may be missing. -/
def validateScratchPath (host : Host δ) (scratch : ScratchPath) : HandoffM δ Unit :=
  demand (scratch.parent = host.parent ∧ host.stage.isPrefixOf scratch.name ∧
    scratch.name.length ≠ host.stage.length) .invalidScratch

def cleanupTransaction (host : Host δ) (scratch : ScratchPath) : HandoffM δ Unit := do
  validateScratchPath host scratch
  cleanupScratch host
  removeBackups host
  removeDisplaced host
  removeTemporary
  onlyIf (← disk).journal.isSome (write .cleanup fun d => { d with journal := none })
  sync .cleanup

def journalEntries (host : Host δ) (journal : Journal δ) : HandoffM δ (List (Entry δ)) := do
  demand (journal.version = 1 ∧ journal.control = host.control) .foreignJournal
  demand (journal.entries.map (·.relative) = publicationPaths) .invalidClosure
  demand (journal.entries.map (·.backup) = (List.range journal.entries.length).map .backups ∧
      journal.entries.map (·.displaced) = (List.range journal.entries.length).map .displaced)
    .invalidTransactionPath
  return journal.entries

def cleanupOrphans (host : Host δ) : HandoffM δ Unit := do
  let d ← disk
  onlyIf d.journal.isNone do
    removeBackups host
    removeDisplaced host
    removeTemporary
    cleanupScratch host
    onlyIf (d.backups.isSome ∨ d.displaced.isSome ∨ d.temporary.isSome ∨ d.scratch ≠ []) do
      sync .cleanup
      sync .cleanup

/-- The backup takes the place of a publication path that held something before. -/
def restoreBackup (host : Host δ) (entry : Entry δ) : HandoffM δ Unit := do
  let path := entry.relative
  demand ((← disk).tree (.backup path) ≠ []) (.backupMissing path)
  let kept ← snapshotAt host (.backup path)
  demand (some kept = entry.before) (.backupDiffers path)
  act (.restore path) (Disk.replace (.backup path) (.published path))

/-- One entry of a prepared journal is rolled back. -/
def recoverEntry (host : Host δ) (entry : Entry δ) : HandoffM δ Unit := do
  let path := entry.relative
  requireRealParentChain host path
  let observed ← observe host (.published path)
  if observed = entry.before then pure () else do
    demand (observed = none ∨ observed = some entry.after) (.refusedOverwrite path)
    onlyIf observed.isSome (remove host path)
    requireRealParentChain host path
    demand ((← disk).tree (.published path) = []) (.destinationAppeared path)
    onlyIf entry.existed (restoreBackup host entry)
    sync (.restore path)

/-- An operating system error of the cleanup is only a warning once the journal is committed. -/
def recover (host : Host δ) : HandoffM δ Unit := do
  match (← disk).journal with
  | none => pure ()
  | some journal => do
    let entries ← journalEntries host journal
    validateScratchPath host journal.scratch
    match journal.state with
    | .committed =>
      handle (cleanupTransaction host journal.scratch) fun error =>
        if error = .os then pure () else raise error
    | .prepared => do
      entries.reverse.forM (recoverEntry host)
      cleanupTransaction host journal.scratch

structure Plan (δ : Type) where
  path : Publication
  before : Option δ
  after : δ
  deriving DecidableEq, Repr

/-- A unit of `publish` with its backup. -/
def prepareUnit (host : Host δ) (hashes : Publication → δ) (path : Publication) : HandoffM δ (Plan δ) := do
  requireRealParentChain host path
  let before ← observe host (.published path)
  onlyIf before.isSome (copyBackup host path)
  return { path, before, after := hashes path }

def prepareUnits (host : Host δ) (hashes : Publication → δ) : List Publication → HandoffM δ (List (Plan δ))
  | [] => return []
  | path :: rest => do
    let unit ← prepareUnit host hashes path
    return unit :: (← prepareUnits host hashes rest)

def Plan.entry (index : Nat) (unit : Plan δ) : Entry δ :=
  { relative := unit.path, before := unit.before, after := unit.after, existed := unit.before.isSome
    backup := .backups index, displaced := .displaced index }

def journalOf (host : Host δ) (state : JournalState) (units : List (Plan δ)) : Journal δ :=
  { version := 1, state, control := host.control, scratch := host.scratch
    entries := units.mapIdx Plan.entry }

/-- The old content of a unit moves out of the way and is checked there. -/
def displace (host : Host δ) (unit : Plan δ) : HandoffM δ Unit := do
  let path := unit.path
  act (.displace path) (Disk.replace (.published path) (.displaced path))
  sync (.displace path)
  sync (.displace path)
  let moved ← snapshotAt host (.displaced path)
  if some moved = unit.before then pure () else do
    let d ← disk
    onlyIf (d.tree (.published path) = [] ∧ d.tree (.displaced path) ≠ []) do
      act (.displace path) (Disk.replace (.displaced path) (.published path))
      sync (.displace path)
    raise (.displacedDiffers path)

def publishUnit (host : Host δ) (unit : Plan δ) : HandoffM δ Unit := do
  let path := unit.path
  requireRealParentChain host path
  let observed ← observe host (.published path)
  demand (observed = unit.before) (.drifted path)
  onlyIf unit.before.isSome (displace host unit)
  requireRealParentChain host path
  demand ((← disk).tree (.published path) = []) (.destinationAppeared path)
  act (.publish path) (Disk.replace (.staged path) (.published path))
  sync (.publish path)
  let published ← snapshotAt host (.published path)
  demand (published = unit.after) (.publishedDiffers path)

/-- `publish` up to its commit point. -/
def publishAll (host : Host δ) (hashes : Publication → δ) : HandoffM δ Unit := do
  write .storage fun d => { d with backups := some fun _ => [] }
  write .storage fun d => { d with displaced := some fun _ => [] }
  let units ← prepareUnits host hashes publicationPaths
  sync .storage
  durableJson (journalOf host .prepared units)
  units.forM (publishUnit host)
  durableJson (journalOf host .committed units)

/-- The handler of `publish`: with a journal the recovery decides, without one nothing was changed. -/
def undoPublication (host : Host δ) : HandoffM δ Unit := do
  if (← disk).journal.isSome then recover host
  else do
    removeBackups host
    removeDisplaced host

def rollBack (host : Host δ) (error : HandoffError) : HandoffM δ Unit := do
  undoPublication host
  raise error

def publish (host : Host δ) (hashes : Publication → δ) : HandoffM δ Unit := do
  let d ← disk
  demand (d.backups.isNone ∧ d.displaced.isNone) .storageNotClean
  handle (publishAll host hashes) (rollBack host)
  handle (cleanupTransaction host host.scratch) fun _ => pure ()

/-- What `execute` does before it plans a new handoff. -/
def restart (host : Host δ) : HandoffM δ Unit := do
  cleanupOrphans host
  recover host

end Darling.Handoff
