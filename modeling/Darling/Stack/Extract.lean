import Darling.Library.FileTrees
import Darling.Library.Interruptions
import Darling.Library.Texts
import Mathlib.Algebra.GroupWithZero.Nat

/-! `extract_tree`: an archive is checked as a whole, then its directories, its files and its links are
written below a destination, and what was written is compared with the manifest. -/
namespace Darling.Stack

open FileTrees

export Texts (Text pureParts)

abbrev Name := List Char

def isAbsolute (text : Text) : Bool := text.head? = some '/'

/-- `str` of a relative `PurePosixPath`. -/
def render (parts : List Text) : Text := if parts = [] then ['.'] else List.intercalate ['/'] parts

def partOf (part : Text) : FileTrees.Part Name := if part = ['.', '.'] then .up else .name part

def targetOf (text : Text) : Target Name := ⟨text, isAbsolute text, (pureParts text).map partOf⟩

inductive Failure where
  | os (errno : Errno)
  | unsafeMember (name : Text)
  | tar
  | attribute
  | value
  deriving DecidableEq, Repr

/-- A member name that stays below where it is put. -/
structure Member where
  parts : List Name
  below : parts ≠ []
  plain : ['.', '.'] ∉ parts

def Member.text (member : Member) : Text := render member.parts

def rstripSlash (text : Text) : Text := (text.reverse.dropWhile (· = '/')).reverse

def safeMember (name : Text) : Except Failure Member :=
  if accepted : isAbsolute name = false ∧ pureParts name ≠ [] ∧ ['.', '.'] ∉ pureParts name ∧
      render (pureParts name) = rstripSlash name then
    .ok ⟨pureParts name, accepted.2.1, accepted.2.2.1⟩
  else .error (.unsafeMember name)

/-- `info.isdir()`, `info.isreg()` with what `extractfile` gives, `info.issym()`, and everything else. -/
inductive TarKind where
  | directory (mode : Nat)
  | regular (mode : Nat) (blocks : Option (List (List UInt8)))
  | symlink (linkname : Text)
  | other

structure TarInfo where
  name : Text
  kind : TarKind

/-- A value of the manifest; `other` is not an object. The size is what `int` makes of it, 0 where there is
none, and nothing where `int` refuses it. -/
inductive Recorded where
  | object (kind target sha256 : Option Text) (mode : Option Nat) (size : Option Int)
  | other
  deriving DecidableEq, Repr

abbrev Members := List (Text × Recorded)

inductive Problem where
  | emptyTarget (name : Text)
  | unsupportedType (name : Text)
  | membership
  | beneathSymlink (name : Text)
  | unreadable (name : Text)
  | expectedSymlink (name : Text)
  | targetDiffers (name : Text)
  | missing (name : Text)
  | expectedDirectory (name : Text)
  | expectedFile (name : Text)
  | digestDiffers (name : Text)
  deriving DecidableEq, Repr

/-- The files, and every place where something was created, overwritten, changed or removed. -/
structure Disk where
  tree : FileTree Name
  touches : List (Reached Name) := []

inductive Point where
  | archive
  | mkdir
  | openFile
  | writeFile
  | chmod
  | unlink
  | symlink
  | verify
  deriving DecidableEq, Repr

/-- Where the extraction writes, the bound on a walk, the file mode creation mask, and the digest of a file. -/
structure Host where
  destination : Path Name
  limit : Nat
  umask : Nat
  digest : List UInt8 → Text

/-- The mode that a new file or directory gets: the bits of the mask are taken away. -/
def masked (umask mode : Nat) : Nat := mode - (mode &&& umask)

abbrev StackM := Program Point Failure Disk

section Calls

variable (host : Host)

/-- A path below the destination, walked by the kernel. -/
def reach (d : Disk) (follow : Bool) (name : Path Name) : Except Failure (Reached Name) :=
  (walk d.tree follow host.limit host.destination 0 (name.map .name)).mapError .os

/-- The node at the place is replaced, and the place noted. -/
def Disk.set (d : Disk) (reached : Reached Name) (node : Option (Node Name)) : Disk :=
  { tree := Function.update d.tree reached.path node, touches := d.touches ++ [reached] }

/-- A call that changes one place, found by a walk. -/
def changing (point : Point) (follow : Bool) (name : Path Name)
    (change : Option (Node Name) → Except Errno (Option (Node Name))) : StackM (Reached Name) :=
  act point fun d =>
    match reach host d follow name with
    | .error failure => .error failure
    | .ok reached =>
      match change (d.tree reached.path) with
      | .error errno => .error (.os errno)
      | .ok node => .ok (reached, d.set reached node)

def mkdirAt (name : Path Name) : StackM (Reached Name) :=
  changing host .mkdir false name fun
    | none => .ok (some (.directory (masked host.umask 0o777)))
    | some _ => .error .exists

def isDir (d : Disk) (name : Path Name) : Bool :=
  match reach host d true name with
  | .ok reached => (d.tree reached.path).any Node.isDirectory
  | .error _ => false

/-- An existing directory is accepted. -/
def acceptDirectory (name : Path Name) (failure : Failure) : StackM Unit := do
  if isDir host (← disk) name then pure () else raise failure

/-- `mkdir(parents=False, exist_ok=True)`. -/
def mkdirOnce (name : Path Name) : StackM Unit :=
  handle (do let _ ← mkdirAt host name) fun
    | .os .notFound => raise (.os .notFound)
    | .os errno => acceptDirectory host name (.os errno)
    | failure => raise failure

/-- `mkdir(parents=True, exist_ok=True)` of the first names of a path. The destination itself is there. -/
def mkdirs (name : Path Name) : Nat → StackM Unit
  | 0 => mkdirOnce host []
  | depth + 1 =>
    handle (do let _ ← mkdirAt host (name.take (depth + 1))) fun
      | .os .notFound => do
        mkdirs name depth
        mkdirOnce host (name.take (depth + 1))
      | .os errno => acceptDirectory host (name.take (depth + 1)) (.os errno)
      | failure => raise failure

def makeParents (name : Path Name) : StackM Unit := mkdirs host name (name.length - 1)

/-- `open("wb")`: the file is created or cut to nothing. -/
def openFile (name : Path Name) : StackM (Reached Name) :=
  changing host .openFile true name fun
    | some (.directory _) => .error .isDirectory
    | some (.file _ mode) => .ok (some (.file [] mode))
    | _ => .ok (some (.file [] (masked host.umask 0o666)))

/-- A block goes to the open file. -/
def writeBlock (opened : Reached Name) (block : List UInt8) : StackM Unit :=
  write .writeFile fun d =>
    match d.tree opened.path with
    | some (.file content mode) => d.set opened (some (.file (content ++ block) mode))
    | _ => d

def chmod (name : Path Name) (mode : Nat) : StackM Unit := do
  let _ ← changing host .chmod true name fun
    | none => .error .notFound
    | some (.file content _) => .ok (some (.file content mode))
    | some (.directory _) => .ok (some (.directory mode))
    | some (.symlink target) => .ok (some (.symlink target))

def unlink (name : Path Name) : StackM Unit := do
  let _ ← changing host .unlink false name fun
    | none => .error .notFound
    | some (.directory _) => .error .isDirectory
    | some _ => .ok none

def symlinkTo (name : Path Name) (linkname : Text) : StackM Unit := do
  let _ ← changing host .symlink false name fun
    | none => .ok (some (.symlink (targetOf linkname)))
    | some _ => .error .exists

end Calls

section Checks

/-- What the loop over the archive collects. -/
structure Inspection where
  seen : List Member := []
  directories : List Member := []
  regular : List (Member × Nat × Option (List (List UInt8))) := []
  symlinks : List (Member × Text) := []
  problems : List Problem := []

def Inspection.add (inspection : Inspection) (info : TarInfo) : Except Failure Inspection := do
  let member ← safeMember info.name
  let inspection := { inspection with seen := inspection.seen ++ [member] }
  match info.kind with
  | .directory _ => return { inspection with directories := inspection.directories ++ [member] }
  | .regular mode blocks => return { inspection with regular := inspection.regular ++ [(member, mode, blocks)] }
  | .symlink linkname => return { inspection with
      problems := inspection.problems ++ (if linkname = [] then [.emptyTarget member.text] else [])
      symlinks := inspection.symlinks ++ [(member, linkname)] }
  | .other => return { inspection with
      problems := inspection.problems ++ [.unsupportedType member.text] }

def inspect : Inspection → List TarInfo → Except Failure Inspection
  | inspection, [] => .ok inspection
  | inspection, info :: rest => do inspect (← inspection.add info) rest

/-- The proper ancestors of a member, as text. -/
def parents (member : Member) : List Text := (member.parts.inits.filter fun first => first ≠ [] ∧
    first ≠ member.parts).map render

def beneath (inspection : Inspection) (member : Member) : Bool :=
  (parents member).any fun parent => inspection.symlinks.any fun link => link.1.text = parent

/-- The problems that keep the archive from being extracted. -/
def structural (inspection : Inspection) (members : Members) : List Problem :=
  inspection.problems ++
    (if (inspection.seen.map Member.text).isPerm (members.map (·.1)) then [] else [.membership]) ++
    (inspection.seen.filter (beneath inspection)).map fun member => .beneathSymlink member.text

variable (host : Host)

/-- `destination / name` for a name of the manifest. -/
def look (d : Disk) (follow : Bool) (name : Text) : Option (Node Name) :=
  match walk d.tree follow host.limit (if isAbsolute name then [] else host.destination) 0
    ((pureParts name).map partOf) with
  | .ok reached => d.tree reached.path
  | .error _ => none

def verifyMember (d : Disk) (name : Text) : Recorded → Except Failure (List Problem)
  | .other => .error .attribute
  | .object kind target sha256 _ _ =>
    if kind = some "symlink".toList then
      match look host d false name with
      | some (.symlink found) => .ok (if target = some found.text then [] else [.targetDiffers name])
      | _ => .ok [.expectedSymlink name]
    else match look host d false name with
      | none | some (.symlink _) => .ok [.missing name]
      | some (.directory _) => .ok (if kind = some "directory".toList then [] else [.expectedFile name])
      | some (.file content _) =>
        if kind = some "directory".toList then .ok [.expectedDirectory name]
        else .ok (if sha256 = some (host.digest content) then [] else [.digestDiffers name])

def verifyTree (d : Disk) : Members → Except Failure (List Problem)
  | [] => .ok []
  | (name, recorded) :: rest => do return (← verifyMember host d name recorded) ++ (← verifyTree d rest)

end Checks

section Extraction

variable (host : Host)

def extractFile (file : Member × Nat × Option (List (List UInt8))) : StackM (List Problem) := do
  makeParents host file.1.parts
  match file.2.2 with
  | none => return [.unreadable file.1.text]
  | some blocks => do
    let opened ← openFile host file.1.parts
    blocks.forM (writeBlock opened)
    chmod host file.1.parts (file.2.1 % 0o1000)
    return []

def extractFiles : List (Member × Nat × Option (List (List UInt8))) → StackM (List Problem)
  | [] => return []
  | file :: rest => do return (← extractFile host file) ++ (← extractFiles rest)

def isLinkOrFile (d : Disk) (name : Path Name) : Bool :=
  (match reach host d false name with
    | .ok reached => (d.tree reached.path).any Node.isLink
    | .error _ => false) ||
  (match reach host d true name with
    | .ok reached => (d.tree reached.path).any fun
      | .file _ _ => true
      | _ => false
    | .error _ => false)

def extractLink (link : Member × Text) : StackM Unit := do
  makeParents host link.1.parts
  onlyIf (isLinkOrFile host (← disk) link.1.parts) (unlink host link.1.parts)
  symlinkTo host link.1.parts link.2

def extractTree (archive : Except Failure (List TarInfo)) (members : Members) : StackM (List Problem) := do
  let infos ← act .archive fun d => archive.map (·, d)
  let inspection ← match inspect {} infos with
    | .ok inspection => pure inspection
    | .error failure => raise failure
  if structural inspection members ≠ [] then return structural inspection members
  else
    inspection.directories.forM fun member => mkdirs host member.parts member.parts.length
    let unread ← extractFiles host inspection.regular
    inspection.symlinks.forM (extractLink host)
    let differing ← act .verify fun d => (verifyTree host d members).map (·, d)
    return unread ++ differing

end Extraction

end Darling.Stack
