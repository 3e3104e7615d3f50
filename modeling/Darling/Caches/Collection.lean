import Darling.Caches.Documents
import Mathlib.Algebra.BigOperators.Group.List.Basic
import Mathlib.Algebra.Order.BigOperators.Group.List
import Mathlib.Algebra.Order.Group.Nat
import Mathlib.Data.List.Dedup

/-! `test_runtime_cache.py`: the collection of the runtime build cache, planned and real.

The disk is the list of its paths. What git answers, and what it takes away with a worktree, is a
parameter; so are the locks of the entries, which stand beside them. -/
namespace Darling.Caches.Collection

abbrev Path := List Text

inductive Node where
  | directory
  | link
  | file (bytes : Nat) (text : Text) (parsed : Content)

abbrev Disk := List (Path × Node)

def gitName : Text := ".git".toList

def isDirectory : Option Node → Bool
  | some .directory => true
  | _ => false

def Node.bytes : Node → Nat
  | .file bytes _ _ => bytes
  | _ => 0

/-- Strictly below. -/
def below (top path : Path) : Bool := decide (top <+: path) && path != top

/-- `entry_bytes`. -/
def entryBytes (disk : Disk) (entry : Path) : Nat :=
  ((disk.filter fun item => below entry item.1).map fun item => item.2.bytes).sum

def children (disk : Disk) (directory : Path) : List Path :=
  ((disk.map (·.1)).filter fun path => directory <+: path ∧ path.length = directory.length + 1).dedup

def markerFile : Option Node → MarkerFile
  | none => .absent
  | some .link => .link
  | some .directory => .directory
  | some (.file _ _ parsed) => .file parsed

def sourceKind : Text := "west-runtime-source".toList
def buildKind : Text := "west-runtime-build".toList

inductive Bucket where
  | legacy | source | build
  deriving DecidableEq, Repr

def Bucket.path (root : Path) : Bucket → Path
  | .legacy => root
  | .source => root ++ ["source".toList]
  | .build => root ++ ["build".toList]

/-- `[0-9a-f]{64}`. -/
def isKey (name : Text) : Bool :=
  name.length == 64 && name.all fun c => ('0' ≤ c && c ≤ '9') || ('a' ≤ c && c ≤ 'f')

section Ownership

variable (sha : Json → Text)

def asMembers : Json → Option Members
  | .obj members => some members
  | _ => none

def asItems : Json → Option (List Json)
  | .arr items => some items
  | _ => none

def asText : Json → Option Text
  | .str text => some text
  | _ => none

/-- `set(members) == names`. -/
def hasExactly (members : Members) (names : List Text) : Bool :=
  members.all (fun item => item.1 ∈ names) && names.all fun name => (members.lookup name).isSome

/-- `type(value) is int`, which a Boolean is not. -/
def isPlainInt : Json → Bool
  | .int _ => true
  | _ => false

def isNatural : Json → Bool
  | .int n => 0 ≤ n
  | _ => false

def artifactValid (artifact : Json) : Bool :=
  match asMembers artifact with
  | none => false
  | some members =>
    hasExactly members ["path".toList, "bytes".toList, "mode".toList, "sha256".toList] &&
      (match asText (members.get "path".toList) with
        | some path => !path.isEmpty && path.head? != some '/' && !(Texts.pureParts path).contains "..".toList
        | none => false) &&
      isNatural (members.get "bytes".toList) && isPlainInt (members.get "mode".toList) &&
      ((asText (members.get "sha256".toList)).map isKey).getD false

def identityValid (identity : Members) (name : Text) : Bool :=
  hasExactly identity ["schema_version".toList, "key".toList, "proof".toList, "prefix".toList, "targets".toList,
      "configure_args".toList] &&
    (identity.get "schema_version".toList).same (.int 1) &&
    ((asText (identity.get "key".toList)).map isKey).getD false &&
    (asMembers (identity.get "proof".toList)).isSome &&
    ((asText (identity.get "prefix".toList)).map fun path => path.head? == some '/').getD false &&
    ((asItems (identity.get "targets".toList)).map fun items =>
      !items.isEmpty && items.all fun item => (asText item).isSome).getD false &&
    ((asItems (identity.get "configure_args".toList)).map fun items =>
      items.all fun item => (asText item).isSome).getD false &&
    sha (Json.canonical (.obj identity)) == name

def receiptValid (value : Json) (name : Text) : Bool :=
  match asMembers value with
  | none => false
  | some receipt =>
    (receipt.get "schema_version".toList).same (.int 1) &&
      (receipt.get "kind".toList).same (.str buildKind) &&
      ((asMembers (receipt.get "identity".toList)).map fun identity => identityValid sha identity name).getD false &&
      ((asItems (receipt.get "artifacts".toList)).map fun items => !items.isEmpty && items.all artifactValid).getD false

/-- `_legacy_owned`. -/
def legacyOwned (disk : Disk) (entry : Path) (name : Text) : Bool :=
  match disk.lookup (entry ++ ["cache-index.json".toList]) with
  | some (.file _ _ (.document value)) =>
    receiptValid sha value name && isDirectory (disk.lookup (entry ++ ["build".toList]))
  | _ => false

/-- `read_marker` of an entry. -/
def entryMarker (kind : Text) (disk : Disk) (entry : Path) (name : Text) : Except Raised (Option Members) :=
  readMarker kind (markerFile (disk.lookup (entry ++ [".west-runtime-cache.json".toList]))) name

/-- `_owned`. -/
def owned (disk : Disk) (bucket : Bucket) (entry : Path) (name : Text) : Except Raised Bool :=
  if isKey name = false then .ok false
  else
    match bucket with
    | .legacy => .ok (legacyOwned sha disk entry name)
    | .source => (entryMarker sourceKind disk entry name).map fun marker => marker.isSome
    | .build => (entryMarker buildKind disk entry name).map fun marker =>
      marker.isSome || legacyOwned sha disk entry name

end Ownership

section Worktrees

/-- The answers of git. A failed query is `none`, a dirty status `some true`. The removal of a worktree
takes files away and adds none; where it fails, it says what it leaves. -/
structure Git where
  revParse : Disk → Path → Option (Path × Path)
  status : Disk → Path → List Path → Option Bool
  head : Disk → Path → Option Text
  removeWorktree : Disk → Path → Path → Except Disk Disk
  takesAway : ∀ {disk repo target next}, removeWorktree disk repo target = .ok next → next.Sublist disk

/-- Why an entry is left alone, or an `OSError`. -/
inductive Obstacle where
  | symlinkedMetadata (marker : Path)
  | dependentWorktrees (marker : Path)
  | uninspected (target : Path)
  | externalMetadata (marker : Path)
  | unrecognized (marker : Path)
  | elsewhere (marker : Path)
  | lockedWorktree (target : Path)
  | statusFailed (target : Path)
  | changes (target : Path)
  | undecodable
  | movedHead (source : Path)
  | unreadable (path : Path)
  deriving DecidableEq

/-- The directories that `os.walk` comes to; `.git` directories are not entered. -/
def walked (disk : Disk) (entry : Path) : List Path :=
  (disk.filter fun item => isDirectory (some item.2) && decide (entry <+: item.1) &&
    !(item.1.drop entry.length).contains gitName).map (·.1)

structure Found where
  markers : List Path := []
  repositories : List Path := []

/-- One turn of the walk. A link has no target here: `is_dir()` and `exists()` of the source follow one, so a
link in the place of `worktrees` is an empty directory to the walk. -/
def Found.visit (disk : Disk) (found : Found) (directory : Path) : Except Obstacle Found :=
  match disk.lookup (directory ++ [gitName]) with
  | none => .ok found
  | some .link => .error (.symlinkedMetadata (directory ++ [gitName]))
  | some (.file _ _ _) => .ok { found with markers := found.markers ++ [directory ++ [gitName]] }
  | some .directory =>
    if (children disk (directory ++ [gitName, "worktrees".toList])).isEmpty then
      .ok { found with repositories := found.repositories ++ [directory] }
    else .error (.dependentWorktrees (directory ++ [gitName]))

def namedPath (text : Text) : Path := Texts.pureParts text

/-- `backlink.read_text().strip()`. -/
def strip (text : Text) : Text :=
  ((text.dropWhile Char.isWhitespace).reverse.dropWhile Char.isWhitespace).reverse

variable (git : Git)

/-- One marker of a worktree or of a repository whose metadata is elsewhere in the entry; the worktree
comes with the repository it is registered in. A link named `locked` or `index.lock` locks also where it
dangles. -/
def inspectMarker (disk : Disk) (entry marker : Path) : Except Obstacle (Option (Path × Path)) :=
  let target := marker.dropLast
  match git.revParse disk target with
  | none => .error (.uninspected target)
  | some (common, gitdir) =>
    if gitdir = common then
      if entry <+: common then .ok none else .error (.externalMetadata marker)
    else if gitdir.dropLast.getLast? ≠ some "worktrees".toList ∨ gitdir.dropLast.dropLast ≠ common then
      .error (.unrecognized marker)
    else
      match disk.lookup (gitdir ++ ["gitdir".toList]) with
      | some (.file _ text _) =>
        if namedPath (strip text) ≠ marker then .error (.elsewhere marker)
        else if (disk.lookup (gitdir ++ ["locked".toList])).isSome ∨
            (disk.lookup (gitdir ++ ["index.lock".toList])).isSome then .error (.lockedWorktree target)
        else .ok (some (if common.getLast? = some gitName then common.dropLast else common, target))
      | _ => .error (.unreadable (gitdir ++ ["gitdir".toList]))

def inspectStatus (disk : Disk) (repositories : List Path) (target : Path) : Except Obstacle Unit :=
  let nested := repositories.filter fun child => child ≠ target ∧ target <+: child
  match git.status disk target (nested.map fun child => child.drop target.length) with
  | none => .error (.statusFailed target)
  | some true => .error (.changes target)
  | some false => .ok ()

/-- The last check of `_entry_worktrees`. A link in the place of the source is no directory. -/
def inspectHead (disk : Disk) (entry : Path) (name : Text) : Except Obstacle Unit :=
  let source := entry ++ ["darling".toList]
  match entryMarker sourceKind disk entry name with
  | .error _ => .error .undecodable
  | .ok none => .ok ()
  | .ok (some owner) =>
    if isDirectory (disk.lookup source) = false then .ok ()
    else if (asText (owner.get "darling".toList)).isSome ∧
        git.head disk source = asText (owner.get "darling".toList) then .ok ()
    else .error (.movedHead source)

/-- `_entry_worktrees`. -/
def entryWorktrees (disk : Disk) (entry : Path) (name : Text) : Except Obstacle (List (Path × Path)) := do
  let found ← (walked disk entry).foldlM (Found.visit disk) {}
  let markers := found.markers.insertionSort fun a b => b.length ≤ a.length
  let worktrees ← markers.mapM (inspectMarker git disk entry)
  let repositories := found.repositories ++ markers.map List.dropLast
  let _ ← repositories.mapM (inspectStatus git disk repositories)
  inspectHead git disk entry name
  return worktrees.filterMap id

def removeWorktrees (disk : Disk) : List (Path × Path) → Except Disk Disk
  | [] => .ok disk
  | (repo, target) :: rest => do
    let next ← git.removeWorktree disk repo target
    removeWorktrees next rest

end Worktrees

section Pruning

/-- The lock file of an entry, with what its mode grants and whether another process holds it. -/
inductive Lock where
  | absent (creatable : Bool)
  | link
  | directory
  | file (readable writable held : Bool)
  deriving DecidableEq, Repr

structure Host where
  git : Git
  sha : Json → Text
  root : Path
  /-- The root is inside the state root, and no part of it is a link. -/
  admitted : Bool
  mtime : Path → Int
  lock : Path → Lock
  /-- What a failed `rmtree` leaves. -/
  rmtree : Disk → Path → Option Disk
  protect : List Path

variable (host : Host)

/-- `_idle_entry`. A plan opens the lock to read and does not create it. -/
def idle (dryRun : Bool) : Lock → Except Unit Bool
  | .absent creatable => if dryRun || creatable then .ok true else .error ()
  | .link => .error ()
  | .directory => .error ()
  | .file readable writable held => if readable && (dryRun || writable) then .ok (!held) else .error ()

structure Label where
  bucket : Bucket
  name : Text
  deriving DecidableEq, Repr

structure Candidate where
  stamp : Int
  label : Label
  size : Nat
  deriving DecidableEq, Repr

def Label.path (root : Path) (label : Label) : Path := label.bucket.path root ++ [label.name]

inductive Reason where
  | symlink | unproven | inUse | locked | ownershipChanged
  | obstacle (obstacle : Obstacle)
  deriving DecidableEq

inductive Failure where
  | lock | ownership
  | unreadable (path : Path)
  | disposal
  deriving DecidableEq

structure Skip where
  path : Path
  reason : Reason

/-- One path of a bucket: a candidate, a path left alone, or neither. -/
def scanPath (disk : Disk) (bucket : Bucket) (path : Path) : Except Raised (List Candidate × List Skip) :=
  let name := path.getLast?.getD []
  if bucket = .legacy ∧ (name = "source".toList ∨ name = "build".toList) then .ok ([], [])
  else
    match disk.lookup path with
    | some .link => .ok ([], [⟨path, .symlink⟩])
    | some .directory => (owned host.sha disk bucket path name).map fun mine =>
      if mine then ([⟨host.mtime path, ⟨bucket, name⟩, entryBytes disk path⟩], []) else ([], [⟨path, .unproven⟩])
    | _ => .ok ([], [])

def scanPaths (disk : Disk) (bucket : Bucket) : List Path → Except Raised (List Candidate × List Skip)
  | [] => .ok ([], [])
  | path :: rest => do
    let (found, left) ← scanPath host disk bucket path
    let (others, more) ← scanPaths disk bucket rest
    return (found ++ others, left ++ more)

def pathNotAfter : Path → Path → Bool
  | [], _ => true
  | _ :: _, [] => false
  | a :: as, b :: bs => if a = b then pathNotAfter as bs else notAfter a b

def scanBucket (disk : Disk) (bucket : Bucket) : Except Raised (List Candidate × List Skip) :=
  match disk.lookup (bucket.path host.root) with
  | some .link => .ok ([], [⟨bucket.path host.root, .symlink⟩])
  | some .directory =>
    scanPaths host disk bucket
      ((children disk (bucket.path host.root)).insertionSort fun a b => pathNotAfter a b = true)
  | _ => .ok ([], [])

def scan (disk : Disk) : Except Raised (List Candidate × List Skip) :=
  if isDirectory (disk.lookup host.root) = false then .ok ([], [])
  else do
    let (legacy, first) ← scanBucket host disk .legacy
    let (source, second) ← scanBucket host disk .source
    let (build, third) ← scanBucket host disk .build
    return (legacy ++ source ++ build, first ++ second ++ third)

/-- The order of the tuples: use time, then path. -/
def precedes (a b : Candidate) : Bool :=
  usedBefore pathNotAfter (a.stamp, a.label.path host.root) (b.stamp, b.label.path host.root)

inductive Judgement where
  | skip (reason : Reason)
  | fail (failure : Failure)
  | accept (worktrees : List (Path × Path)) (size : Nat)

/-- What the loop makes of an entry before it is disposed of. -/
def judge (dryRun : Bool) (disk : Disk) (label : Label) : Judgement :=
  let entry := label.path host.root
  if host.protect.any fun path => decide (path <+: entry) || decide (entry <+: path) then .skip .inUse
  else
    match idle dryRun (host.lock entry) with
    | .error _ => .fail .lock
    | .ok false => .skip .locked
    | .ok true =>
      if isDirectory (disk.lookup entry) = false then .skip .ownershipChanged
      else
        match owned host.sha disk label.bucket entry label.name with
        | .error _ => .fail .ownership
        | .ok false => .skip .ownershipChanged
        | .ok true =>
          match entryWorktrees host.git disk entry label.name with
          | .error (.unreadable path) => .fail (.unreadable path)
          | .error obstacle => .skip (.obstacle obstacle)
          | .ok worktrees => .accept worktrees (entryBytes disk entry)

/-- `_dispose_entry`, with what a failed one leaves. -/
def disposeEntry (disk : Disk) (entry : Path) (worktrees : List (Path × Path)) : Except Disk Disk := do
  let bare ← removeWorktrees host.git disk worktrees
  match host.rmtree bare entry with
  | some left => .error left
  | none => .ok (bare.filter fun item => !decide (entry <+: item.1))

structure Outcome where
  planned : List Label := []
  plannedBytes : Nat := 0
  evicted : List Label := []
  evictedBytes : Nat := 0
  total : Int
  skipped : List Skip := []
  errors : List (Label × Failure) := []

def Outcome.plan (outcome : Outcome) (label : Label) (size : Nat) : Outcome :=
  { outcome with planned := label :: outcome.planned, plannedBytes := size + outcome.plannedBytes }

def Outcome.evict (outcome : Outcome) (label : Label) (size : Nat) : Outcome :=
  { outcome with evicted := label :: outcome.evicted, evictedBytes := size + outcome.evictedBytes }

def Outcome.skip (outcome : Outcome) (skip : Skip) : Outcome := { outcome with skipped := skip :: outcome.skipped }

def Outcome.fail (outcome : Outcome) (label : Label) (failure : Failure) : Outcome :=
  { outcome with errors := (label, failure) :: outcome.errors }

/-- The loop over the entries in the order of their use. -/
def collect (maxBytes : Int) (dryRun : Bool) : Disk → Int → List Candidate → Outcome
  | _, total, [] => { total := total }
  | disk, total, candidate :: rest =>
    if total ≤ maxBytes then { total := total }
    else
      match judge host dryRun disk candidate.label with
      | .skip reason => (collect maxBytes dryRun disk total rest).skip ⟨candidate.label.path host.root, reason⟩
      | .fail failure => (collect maxBytes dryRun disk total rest).fail candidate.label failure
      | .accept worktrees size =>
        let measured := total + (size - candidate.size)
        if dryRun then (collect maxBytes dryRun disk (measured - size) rest).plan candidate.label size
        else
          match disposeEntry host disk (candidate.label.path host.root) worktrees with
          | .ok next =>
            ((collect maxBytes dryRun next (measured - size) rest).plan candidate.label size).evict candidate.label size
          | .error left => ((collect maxBytes dryRun left measured rest).plan candidate.label size).fail
              candidate.label .disposal

inductive Refusal where
  | root
  | raised (raised : Raised)
  deriving DecidableEq

structure Report where
  outcome : Outcome
  bytes : Int

def candidates (disk : Disk) : Except Raised (List Candidate) :=
  (scan host disk).map fun scanned => scanned.1.insertionSort fun a b => precedes host a b = true

def totalBytes (entries : List Candidate) : Int := ((entries.map (·.size)).sum : Nat)

/-- `_prune`. -/
def prune (maxBytes : Int) (dryRun : Bool) (disk : Disk) : Except Refusal Report :=
  if host.admitted = false then .error .root
  else
    match scan host disk, candidates host disk with
    | .ok (_, left), .ok entries =>
      let outcome := collect host maxBytes dryRun disk (totalBytes entries) entries
      .ok ⟨{ outcome with skipped := left ++ outcome.skipped }, max outcome.total 0⟩
    | .error raised, _ => .error (.raised raised)
    | _, .error raised => .error (.raised raised)

end Pruning

section Prediction

variable (host : Host) (maxBytes : Int)

/-- The size that an entry is taken with, if it is. -/
def takenSize (dryRun : Bool) (disk : Disk) (label : Label) : Option Nat :=
  match judge host dryRun disk label with
  | .accept _ size => some size
  | _ => none

/-- The disk once an entry that is taken has been disposed of. -/
def disposed (disk : Disk) (label : Label) : Disk :=
  match judge host false disk label with
  | .accept worktrees _ =>
    match disposeEntry host disk (label.path host.root) worktrees with
    | .ok next => next
    | .error left => left
  | _ => disk

/-- Each entry that the bound asks for is taken, and with the same size, in the state that the entries
before it leave as in the initial one. -/
def Undisturbed (initial : Disk) : Disk → Int → List Candidate → Prop
  | _, _, [] => True
  | disk, total, candidate :: rest =>
    maxBytes < total → takenSize host false disk candidate.label = takenSize host true initial candidate.label ∧
      if (takenSize host true initial candidate.label).isSome then
        Undisturbed initial (disposed host disk candidate.label) (total - candidate.size) rest
      else Undisturbed initial disk total rest

/-- No disposal failed. -/
def Clean (outcome : Outcome) : Prop := ∀ label, (label, Failure.disposal) ∉ outcome.errors

variable {host maxBytes}

section Turns

variable {candidate : Candidate} {rest : List Candidate} {disk : Disk} {total : Int}

end Turns

/-- The two lists, and the bytes of their entries, are the same. -/
def Agree (plan real : Outcome) : Prop := plan.planned = real.evicted ∧ plan.plannedBytes = real.evictedBytes

section Candidates

variable {disk : Disk} {bucket : Bucket}

end Candidates

/-- No entry that the collection comes to is judged otherwise, or is of another size, once the entries
before it are gone. -/
def Separate (host : Host) (maxBytes : Int) (disk : Disk) : Prop :=
  host.admitted = true → ∀ entries, candidates host disk = .ok entries →
    Undisturbed host maxBytes disk disk (totalBytes entries) entries

section Registered

def sourceLabel : Label := ⟨.source, List.replicate 64 'a'⟩
end Registered

end Prediction

end Darling.Caches.Collection
