import Darling.Stack.Extract

/-! `capture_tree`: the captured roots of a prefix become an archive and its manifest. -/
namespace Darling.Stack

open FileTrees

/-- What stands at a path of the prefix. The children of a directory are in the order of their names;
two names of one file share its inode. -/
inductive Tree where
  | file (inode : Nat) (content : List UInt8) (mode : Nat)
  | directory (mode : Nat) (children : List (Name × Tree))
  | link (target : Text)
  | special

/-- The parts of the prefix that a capture reads: the children of `usr/local`, if it is a directory and
no link, and the work directory below `private/var/tmp`, if it exists. -/
structure Prefix where
  locals : Option (List (Name × Tree))
  workName : Name
  work : Option Tree

def localRoot : Path Name := ["usr".toList, "local".toList]

def workRoot (pre : Prefix) : Path Name := ["private".toList, "var".toList, "tmp".toList, pre.workName]

/-- `_captured_roots`, with what stands at each. -/
def capturedRoots (pre : Prefix) : List (Path Name × Option Tree) :=
  (pre.locals.getD []).map (fun child => (localRoot ++ [child.1], some child.2)) ++ [(workRoot pre, pre.work)]

/-- `_work_empty_directories`. -/
def workEmptyDirectories (root : Path Name) : List (Path Name) :=
  if "west-homebrew-lz4-".toList <+: root.getLast?.getD [] then
    [root ++ ["tmp".toList], root ++ ["logs".toList], root ++ ["cache".toList, "downloads".toList]]
  else []

mutual
/-- `walk` of `_relative_members`. -/
def members (empty : List (Path Name)) (name : Path Name) : Tree → List (Path Name × Tree)
  | .directory mode children =>
    (name, .directory mode children) :: if name ∈ empty then [] else childMembers empty name children
  | .file inode content mode => [(name, .file inode content mode)]
  | .link target => [(name, .link target)]
  | .special => [(name, .special)]

def childMembers (empty : List (Path Name)) (name : Path Name) : List (Name × Tree) → List (Path Name × Tree)
  | [] => []
  | (child, tree) :: rest => members empty (name ++ [child]) tree ++ childMembers empty name rest
end

def emptyDirectories (roots : List (Path Name × Option Tree)) : List (Path Name) :=
  roots.flatMap fun root => workEmptyDirectories root.1

/-- `_relative_members`. A root that is missing is passed over. -/
def relativeMembers (roots : List (Path Name × Option Tree)) : List (Path Name × Tree) :=
  roots.flatMap fun root =>
    match root.2 with
    | some tree => members (emptyDirectories roots) root.1 tree
    | none => []

/-- `gettarinfo`: a file whose inode the archive already has comes as a link to it. -/
inductive Header where
  | regular (mode : Nat)
  | hardLink (mode : Nat)
  | directory (mode : Nat)
  | symlink (target : Text)
  | other

def getTarInfo (inodes : List Nat) : Tree → Header
  | .file inode _ mode => if inode ∈ inodes then .hardLink mode else .regular mode
  | .directory mode _ => .directory mode
  | .link target => .symlink target
  | .special => .other

/-- The link is replaced by a second copy of the file. -/
def Header.replaced : Header → Header
  | .hardLink mode => .regular mode
  | header => header

/-- The blocks in which `extractfile` is read back. -/
def blocksOf : Nat → List UInt8 → List (List UInt8)
  | 0, _ => []
  | fuel + 1, content =>
    if content = [] then [] else content.take (1024 * 1024) :: blocksOf fuel (content.drop (1024 * 1024))

/-- `unsupported capture member`, with its name in the archive. -/
structure Unsupported where
  name : Text
  deriving DecidableEq, Repr

structure Capturing where
  inodes : List Nat := []
  archive : List TarInfo := []
  manifest : Members := []

/-- `members[name] = recorded`. -/
def record (manifest : Members) (name : Text) (recorded : Recorded) : Members :=
  manifest.filter (fun item => item.1 ≠ name) ++ [(name, recorded)]

def Capturing.put (capturing : Capturing) (name : Text) (kind : TarKind) (recorded : Recorded) : Capturing :=
  { capturing with
    archive := capturing.archive ++ [⟨name, kind⟩]
    manifest := record capturing.manifest name recorded }

variable (digest : List UInt8 → Text)

/-- One member goes into the archive and into the manifest. The archive keeps the lower twelve bits of a
mode. -/
def captureMember (capturing : Capturing) (name : Path Name) (tree : Tree) : Except Unsupported Capturing :=
  match (getTarInfo capturing.inodes tree).replaced, tree with
  | .regular mode, .file inode content _ =>
    .ok ({ capturing with inodes := inode :: capturing.inodes }.put (render name)
      (.regular (mode % 0o10000) (some (blocksOf content.length content)))
      (.object (some "file".toList) none (some (digest content)) (some mode) (some content.length)))
  | .directory mode, _ =>
    .ok (capturing.put (render name) (.directory (mode % 0o10000))
      (.object (some "directory".toList) none none (some mode) (some 0)))
  | .symlink target, _ =>
    .ok (capturing.put (render name) (.symlink target)
      (.object (some "symlink".toList) (some target) none none (some 0)))
  | _, _ => .error ⟨render name⟩

def captureMembers : Capturing → List (Path Name × Tree) → Except Unsupported Capturing
  | capturing, [] => .ok capturing
  | capturing, (name, tree) :: rest => do captureMembers (← captureMember digest capturing name tree) rest

/-- `capture_tree`. -/
def captureTree (roots : List (Path Name × Option Tree)) : Except Unsupported (List TarInfo × Members) :=
  (captureMembers digest {} (relativeMembers roots)).map fun capturing => (capturing.archive, capturing.manifest)

end Darling.Stack
