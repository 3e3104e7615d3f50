import Mathlib.Data.List.Nodup
import Darling.Evidence.LogCapture

/-! Payloads in an evidence directory: raw, or stored as zstd beside immutable index files that the
readers merge. -/
namespace Darling.Evidence

def MIN_BYTES : Nat := 4096

def isIndexName (name : List Char) : Prop :=
  name = "evidence-index.json".toList ∨ ("evidence-index.".toList <+: name ∧ ".json".toList <:+ name)

def isPartialName (name : List Char) : Prop := ".evidence-".toList <+: name ∧ ".partial".toList <:+ name

/-- The name of a directory entry that is neither an index nor one of the writer's temporaries. -/
@[ext] structure FileName where
  chars : List Char
  plain : chars ≠ [] ∧ '/' ∉ chars ∧ chars ≠ ".".toList ∧ chars ≠ "..".toList
  payload : ¬isIndexName chars ∧ ¬isPartialName chars
  deriving DecidableEq

theorem getLast?_of_suffix {ending whole : List Char} (suffix : ending <:+ whole) (some : ending ≠ []) :
    whole.getLast? = ending.getLast? := by
  obtain ⟨front, rfl⟩ := suffix
  rw [List.getLast?_append_of_ne_nil _ some]

/-- `name + ".zst"`. -/
def FileName.stored (name : FileName) : FileName where
  chars := name.chars ++ ".zst".toList
  plain := by
    have last : (name.chars ++ ".zst".toList).getLast? = some 't' := by simp
    refine ⟨by simp, by simpa using name.plain.2.1, ?_, ?_⟩
    · intro same
      rw [same] at last
      exact absurd last (by decide)
    · intro same
      rw [same] at last
      exact absurd last (by decide)
  payload := by
    have last : (name.chars ++ ".zst".toList).getLast? = some 't' := by simp
    have other (ending : List Char) (some : ending ≠ []) (differs : ending.getLast? ≠ Option.some 't') :
        ¬ending <:+ name.chars ++ ".zst".toList := by
      intro suffix
      rw [getLast?_of_suffix suffix some] at last
      exact differs last
    refine ⟨?_, fun temporary => ?_⟩
    · rintro (same | ⟨-, suffix⟩)
      · rw [same] at last
        exact absurd last (by decide)
      · exact other _ (by decide) (by decide) suffix
    · -- `.partial` ends in `l`
      exact other _ (by decide) (by decide) temporary.2

/-- The name is one of the stored form. -/
def FileName.isStored (name : FileName) : Prop := ".zst".toList <:+ name.chars

instance (name : FileName) : Decidable name.isStored := inferInstanceAs (Decidable (_ <:+ _))

theorem FileName.stored_isStored (name : FileName) : name.stored.isStored := List.suffix_append _ _

theorem FileName.stored_injective {first second : FileName} (same : first.stored = second.stored) :
    first = second := by
  have chars : first.chars ++ ".zst".toList = second.chars ++ ".zst".toList := congrArg FileName.chars same
  exact FileName.ext (List.append_cancel_right chars)

/-- `Path.suffix`: from the last dot on, unless it is the first or the last character. -/
def suffix (name : List Char) : List Char :=
  let ending := name.reverse.takeWhile (· ≠ '.')
  if ending = [] ∨ name.length ≤ ending.length + 1 then [] else '.' :: ending.reverse

theorem suffix_stored {stem : List Char} (some : stem ≠ []) :
    suffix (stem ++ ".zst".toList) = ".zst".toList := by
  have ending : (stem ++ ".zst".toList).reverse.takeWhile (· ≠ '.') = "tsz".toList := by
    simp [List.takeWhile]
  unfold suffix
  rw [ending]
  simp [some]

theorem suffix_suffix (name : List Char) : suffix name <:+ name := by
  unfold suffix
  extract_lets ending
  split
  case isTrue => exact List.nil_suffix
  case isFalse long =>
    rcases rest : name.reverse.dropWhile (· ≠ '.') with _ | ⟨dot, front⟩
    · -- without a dot the ending is the whole name
      have whole := List.takeWhile_append_dropWhile (p := (· ≠ '.')) (l := name.reverse)
      rw [rest, List.append_nil] at whole
      have same : ending.length = name.reverse.length := congrArg List.length whole
      rw [List.length_reverse] at same
      omega
    · have isDot : dot = '.' := by
        have head := List.head?_dropWhile_not (fun c : Char => c ≠ '.') name.reverse
        rw [rest] at head
        simpa using head
      subst isDot
      have whole : ending ++ '.' :: front = name.reverse := by
        rw [← rest]
        exact List.takeWhile_append_dropWhile
      refine ⟨front.reverse, ?_⟩
      rw [← List.reverse_reverse name, ← whole]
      simp

/-- The parts of a directory's path. -/
abbrev Folder := List (List Char)

@[ext] structure Path where
  parent : Folder
  name : FileName
  deriving DecidableEq

def Path.stored (path : Path) : Path := { path with name := path.name.stored }

/-- The programs and text functions the module calls. -/
structure Tools (δ : Type) where
  sha256 : Bytes → δ
  compress : Bytes → Bytes
  decompress : Bytes → Option Bytes
  lossless : ∀ bytes, decompress (compress bytes) = some bytes
  /-- `str.lower`, on ASCII text the usual one. -/
  lower : List Char → List Char
  lower_ascii : ∀ text, (∀ c ∈ text, c.toNat < 128) → lower text = text.map Char.toLower

/-- `stamp` stands for the device, the inode and the two times. -/
structure File where
  bytes : Bytes
  executable : Bool := false
  stamp : Nat := 0
  deriving DecidableEq

inductive Entry where
  | file (file : File)
  | symlink
  | special
  deriving DecidableEq

structure Record (δ : Type) where
  storedPath : FileName
  originalBytes : Nat
  storedBytes : Nat
  sha256 : δ
  storedSha256 : δ
  deriving DecidableEq

structure Index (δ : Type) where
  schema : Nat
  files : List (FileName × Record δ)

/-- `evidence-index.json`, or an addition named by a UUID. -/
inductive IndexName where
  | base
  | addition (uuid : Nat)
  deriving DecidableEq

/-- What a `.evidence-*.partial` file holds. -/
inductive Partial (δ : Type) where
  | empty
  | payload (file : File)
  | index (index : Index δ)

/-- The directories. Temporaries are numbered as `mkstemp` makes them. -/
structure Disk (δ : Type) where
  entries : Path → Option Entry
  indexes : Folder → List (IndexName × Index δ) := fun _ => []
  partials : Nat → Option (Partial δ) := fun _ => none
  made : Nat := 0

inductive Reason where
  | notFinalized
  | symlinkPath
  | unsupportedIndex (folder : Folder) (index : IndexName)
  | invalidEntry (folder : Folder) (logical : FileName)
  | conflictingEntries (folder : Folder) (logical : FileName)
  | notRegular (path : Path)
  | missingIndexed (path : Path)
  | rawConflicts (path : Path)
  | payloadNotFound (path : Path)
  | missingEntry (path : Path)
  | storedDiffers (path : Path)
  | exceedsOriginal
  | verificationFailed
  | decodedDiffers
  | decodeFailed (path : Path)
  | storedExists (path : Path)
  | alreadyPublished (path : Path)
  | inputChanged (path : Path)
  | acquiredWriter (path : Path)
  | trackedEdits (path : Path)
  | notTemporary
  deriving DecidableEq

/-- What a step may raise. An interruption is no `Exception` and passes the handlers. -/
inductive Failure where
  | os
  | value
  | evidence (reason : Reason)
  | interrupted
  deriving DecidableEq

/-- `except (OSError, ValueError, EvidenceError)`. -/
def Failure.caught : Failure → Bool
  | interrupted => false
  | _ => true

section Reading

variable {δ : Type} [DecidableEq δ] (tools : Tools δ)

namespace Disk

variable (d : Disk δ)

/-- `os.path.lexists`. -/
def lexists (path : Path) : Prop := (d.entries path).isSome

instance (path : Path) : Decidable (d.lexists path) := inferInstanceAs (Decidable (_ = true))

def file? (path : Path) : Option File :=
  match d.entries path with
  | some (.file file) => some file
  | _ => none

/-- Everything the indexes of a directory list. -/
def records (folder : Folder) : List (FileName × Record δ) := (d.indexes folder).flatMap fun index => index.2.files

def logicalNames (folder : Folder) : List FileName := (d.records folder).map Prod.fst

end Disk

/-- The order of the file names: hexadecimal digits sort before `json`. -/
def IndexName.sorted : IndexName → IndexName → Bool
  | addition first, addition second => first ≤ second
  | addition _, base => true
  | base, addition _ => false
  | base, base => true

def indexPaths (d : Disk δ) (folder : Folder) : List (IndexName × Index δ) :=
  (d.indexes folder).mergeSort fun first second => first.1.sorted second.1

def mergeEntry (folder : Folder) (files : List (FileName × Record δ)) (entry : FileName × Record δ) :
    Except Failure (List (FileName × Record δ)) := do
  require (entry.2.storedPath = entry.1.stored) (.evidence (.invalidEntry folder entry.1))
  require (entry.1 ∉ files.map Prod.fst ∧ entry.2.storedPath ∉ files.map (·.2.storedPath))
    (.evidence (.conflictingEntries folder entry.1))
  return files ++ [entry]

def mergeIndex (folder : Folder) (files : List (FileName × Record δ)) (index : IndexName × Index δ) :
    Except Failure (List (FileName × Record δ)) := do
  require (index.2.schema = 1) (.evidence (.unsupportedIndex folder index.1))
  index.2.files.foldlM (mergeEntry folder) files

def loadIndex (d : Disk δ) (folder : Folder) : Except Failure (List (FileName × Record δ)) :=
  (indexPaths d folder).foldlM (mergeIndex folder) []

/-- `index["files"].get(logical)`. -/
def getRecord (files : List (FileName × Record δ)) (logical : List Char) : Option (Record δ) :=
  (files.find? fun entry => entry.1.chars = logical).map Prod.snd

/-- `path.name` without a final `.zst`. -/
def logicalName (path : Path) : List Char :=
  if path.name.isStored then path.name.chars.take (path.name.chars.length - 4) else path.name.chars

def noSymlinks (d : Disk δ) (path : Path) : Except Failure Unit :=
  require (d.entries path ≠ some .symlink) (.evidence .symlinkPath)

def checkRaw (d : Disk δ) (path : Path) (record : Record δ) : Except Failure Unit :=
  match d.file? path with
  | some file =>
    if path.name.chars = logicalName path then
      require (file.bytes.length = record.originalBytes ∧ tools.sha256 file.bytes = record.sha256)
        (.evidence (.rawConflicts path))
    else return ()
  | none => return ()

def resolveUnindexed (d : Disk δ) (path : Path) : Except Failure Path := do
  if (d.file? path).isSome then return path
  noSymlinks d path.stored
  require (d.lexists path.stored → (d.file? path.stored).isSome) (.evidence (.notRegular path.stored))
  require (d.file? path.stored).isSome (.evidence (.payloadNotFound path))
  return path.stored

def resolvePayload (d : Disk δ) (path : Path) : Except Failure Path := do
  noSymlinks d path
  require (d.lexists path → (d.file? path).isSome) (.evidence (.notRegular path))
  let index ← loadIndex d path.parent
  match getRecord index (logicalName path) with
  | some record => do
    let stored : Path := { path with name := record.storedPath }
    noSymlinks d stored
    require (d.file? stored).isSome (.evidence (.missingIndexed stored))
    checkRaw tools d path record
    return stored
  | none => resolveUnindexed d path

/-- `_verify_zstd`. -/
def verifyZstd (bytes : Bytes) (expectedHash : δ) (expectedSize : Nat) : Except Failure Unit :=
  match tools.decompress bytes with
  | none => throw (.evidence .verificationFailed)
  | some decoded => do
    require (decoded.length ≤ expectedSize) (.evidence .exceedsOriginal)
    require (decoded.length = expectedSize ∧ tools.sha256 decoded = expectedHash) (.evidence .decodedDiffers)

structure Metadata (δ : Type) where
  bytes : Nat
  stored : Option (Nat × FileName × δ) := none

/-- The bytes of a file that must be there. -/
def readFile (d : Disk δ) (path : Path) : Except Failure Bytes :=
  match d.file? path with
  | some file => return file.bytes
  | none => throw .os

/-- The stored file is the one the record describes. -/
def checkStored (path : Path) (bytes : Bytes) (record : Record δ) : Except Failure Unit :=
  require (bytes.length = record.storedBytes ∧ tools.sha256 bytes = record.storedSha256)
    (.evidence (.storedDiffers path))

def payloadMetadata (d : Disk δ) (path : Path) : Except Failure (Metadata δ) := do
  let stored ← resolvePayload tools d path
  let index ← loadIndex d path.parent
  let bytes ← readFile d stored
  match getRecord index (logicalName path) with
  | none => do
    require (stored = path) (.evidence (.missingEntry path))
    return { bytes := bytes.length }
  | some record => do
    require (record.storedPath = stored.name) (.evidence (.missingEntry path))
    checkStored tools stored bytes record
    verifyZstd tools bytes record.sha256 record.originalBytes
    return { bytes := record.originalBytes, stored := some (bytes.length, stored.name, record.sha256) }

def decode (stored : Path) (bytes : Bytes) : Except Failure Bytes :=
  if suffix stored.name.chars = ".zst".toList then
    match tools.decompress bytes with
    | some decoded => return decoded
    | none => throw (.evidence (.decodeFailed stored))
  else return bytes

/-- The whole stream of `open_payload`. -/
def openPayload (d : Disk δ) (path : Path) : Except Failure Bytes := do
  let stored ← resolvePayload tools d path
  let index ← loadIndex d path.parent
  let bytes ← readFile d stored
  match getRecord index (logicalName path) with
  | none => decode tools stored bytes
  | some record => do
    checkStored tools stored bytes record
    let decoded ← decode tools stored bytes
    require (decoded.length = record.originalBytes ∧ tools.sha256 decoded = record.sha256)
      (.evidence .decodedDiffers)
    return decoded

end Reading

end Darling.Evidence
