import Mathlib.Data.List.Infix
import Mathlib.Data.List.Defs
import Darling.Library.Interruptions
import Darling.Evidence.Storage

/-! Compression of finalized payloads. Every call that reaches the disk is one step; what the rest of
the machine answers (writers, locks, git) is part of the call. -/
namespace Darling.Evidence

def texts (names : List String) : List (List Char) := names.map String.toList

def BLOCKED_DIRS : List (List Char) := texts [".git", ".darling", "build", "source", "src", "prefix", "cache",
  ".cache", "__pycache__", "node_modules", "target"]

def BLOCKED_STARTS : List (List Char) := texts ["prefix-", "build-", "build_", "runtime-build-cache", ".git",
  "rescue"]

def PAYLOAD_SUFFIXES : List (List Char) := texts [".log", ".stdout", ".stderr", ".trace", ".strace", ".core",
  ".dmp", ".dump", ".perf", ".data", ".pcap", ".pcapng", ".out", ".err", ".txt"]

def METADATA_SUFFIXES : List (List Char) := texts [".md", ".json", ".jsonl", ".yaml", ".yml", ".toml", ".sha256",
  ".sha256sum", ".sha1", ".sum", ".c", ".h", ".cc", ".cpp", ".py", ".rs", ".sh", ".patch", ".diff", ".bundle",
  ".zst"]

def METADATA_NAMES : List (List Char) := texts ["command.txt", "env.txt", "pid.txt", "target-pid.txt",
  "exit-status.txt", "cleanup-status.txt", "prefix-cleanup-status.txt", "attach-strace.txt", "fatal-targets.txt",
  "evidence-manifest"]

def METADATA_STARTS : List (List Char) := texts [".", "readme", "manifest", "checksum", "sha256", "cmakelists",
  "summary", "verdict", "counters", "census", "index", "rescue"]

def BINARY_MAGIC : List Bytes := [[0x7f, 0x45, 0x4c, 0x46], [0xcf, 0xfa, 0xed, 0xfe], [0xfe, 0xed, 0xfa, 0xcf],
  [0xce, 0xfa, 0xed, 0xfe], [0xfe, 0xed, 0xfa, 0xce], [0xca, 0xfe, 0xba, 0xbe], [0xbe, 0xba, 0xfe, 0xca],
  [0xca, 0xfe, 0xba, 0xbf], [0xbf, 0xba, 0xfe, 0xca], [0x21, 0x3c, 0x61, 0x72]]

/-- The name before a dot and a final number. -/
def numberedStem (name : List Char) : Option (List Char) :=
  match name.reverse.dropWhile Char.isDigit with
  | '.' :: stem => if name.reverse.takeWhile Char.isDigit = [] then none else some stem.reverse
  | _ => none

/-- The pattern of numbered cores, traces and logs; `$` also matches before a final newline. -/
def isNumbered (name : List Char) : Bool :=
  let line := if name.getLast? = some '\n' then name.dropLast else name
  [name, line].any fun text =>
    match numberedStem text with
    | none => false
    | some stem =>
      stem = "core".toList || "-core".toList.isSuffixOf stem || ".core".toList.isSuffixOf stem ||
        decide (".trace".toList <:+: stem) || ".log".toList.isSuffixOf stem

/-- When the writers of the inputs are looked up. -/
inductive Moment where
  | preparing
  | publishing
  | unlinking
  deriving DecidableEq

/-- What the rest of the machine answers during one call. -/
structure Surroundings where
  hasProfile : Folder → Bool := fun _ => false
  hasRuntime : Folder → Bool := fun _ => false
  writer : Moment → Path → Bool := fun _ _ => false
  locked : Path → Bool := fun _ => false
  tracked : Bool → Path → Bool := fun _ _ => false
  uuid : Nat → Nat := id

inductive Action where
  | retained
  | compressed
  | wouldCompress
  | error
  deriving DecidableEq

inductive Retention where
  | notDiagnostic
  | alreadyCompressed
  | notRegular
  | executable
  | belowMinimum
  | openWriter
  | activeLock
  | smallSavings
  | failed (failure : Failure)
  deriving DecidableEq

structure Details (δ : Type) where
  originalBytes : Nat
  storedBytes : Nat
  sha256 : δ

structure Report (δ : Type) where
  path : Path
  action : Action := .retained
  savedBytes : Nat := 0
  reason : Option Retention := none
  details : Option (Details δ) := none
  metadata : Option (Metadata δ) := none
  originalBytes : Option Nat := none
  storedPath : Option Path := none

/-- `_PreparedPayload`; the descriptor is the file that was opened. -/
structure Prepared (δ : Type) where
  path : Path
  original : File
  temporary : Nat
  details : Details δ
  savedBytes : Nat
  storedSha256 : δ

inductive Preparation (δ : Type) where
  | retained (report : Report δ)
  | prepared (item : Prepared δ)

inductive Point where
  | open
  | makePartial
  | compress
  | flush
  | verify
  | settle
  | durable
  | removePartial
  | lock
  | check
  | readIndex
  | link
  | syncFolder
  | nameIndex
  | writeIndex
  | linkIndex
  | tracked
  | unlink
  | select
  | census
  | yield
  deriving DecidableEq

abbrev Compressor (δ : Type) := Program Point Failure (Disk δ)

section Calls

variable {δ : Type} [DecidableEq δ] (tools : Tools δ) (around : Surroundings)

def partBlocked (part : List Char) : Bool :=
  let lowered := tools.lower part
  BLOCKED_DIRS.contains lowered || "-cache".toList.isSuffixOf lowered ||
    BLOCKED_STARTS.any fun start => start.isPrefixOf lowered

/-- `_blocked` for a file: the parts of its directory, and what stands in the directories above. -/
def blocked (path : Path) : Bool :=
  path.parent.any (partBlocked tools) ||
    (path.parent.inits.filter (· ≠ [])).any fun parent => around.hasProfile parent || around.hasRuntime parent

def hasMagic (bytes : Bytes) : Bool := BINARY_MAGIC.contains (bytes.take 4) || bytes.take 2 = [0x4d, 0x5a]

def inDiagnostics (path : Path) : Bool := (path.parent ++ [path.name.chars]).contains "diagnostics".toList

def eligible (d : Disk δ) (path : Path) (explicit : Bool) : Bool :=
  let name := tools.lower path.name.chars
  let ending := tools.lower (suffix path.name.chars)
  if METADATA_NAMES.contains name then false
  else if METADATA_STARTS.any fun start => start.isPrefixOf name then false
  else if METADATA_SUFFIXES.contains ending then false
  else if PAYLOAD_SUFFIXES.contains ending then true
  else if (texts ["stdout", "stderr", "core", "perf.data"]).contains name || isNumbered name then true
  else if explicit || inDiagnostics path then
    if (texts [".bin", ".raw", ".dat"]).contains ending then true
    else match d.file? path with
      | some file => hasMagic file.bytes
      | none => false
  else false

namespace Disk

def setEntry (d : Disk δ) (path : Path) (entry : Option Entry) : Disk δ :=
  { d with entries := Function.update d.entries path entry }

def setPartial (d : Disk δ) (id : Nat) (content : Option (Partial δ)) : Disk δ :=
  { d with partials := Function.update d.partials id content }

/-- A new, empty temporary. -/
def create (d : Disk δ) : Disk δ := { d.setPartial d.made (some .empty) with made := d.made + 1 }

def addIndex (d : Disk δ) (folder : Folder) (name : IndexName) (index : Index δ) : Disk δ :=
  { d with indexes := Function.update d.indexes folder (d.indexes folder ++ [(name, index)]) }

omit [DecidableEq δ] in
@[simp] theorem setEntry_same (d : Disk δ) (path : Path) (entry : Option Entry) :
    (d.setEntry path entry).entries path = entry := Function.update_self ..

omit [DecidableEq δ] in
theorem setEntry_other (d : Disk δ) {path other : Path} (apart : other ≠ path) (entry : Option Entry) :
    (d.setEntry path entry).entries other = d.entries other := Function.update_of_ne apart ..

omit [DecidableEq δ] in
@[simp] theorem setPartial_same (d : Disk δ) (id : Nat) (content : Option (Partial δ)) :
    (d.setPartial id content).partials id = content := Function.update_self ..

omit [DecidableEq δ] in
theorem setPartial_other (d : Disk δ) {id other : Nat} (apart : other ≠ id) (content : Option (Partial δ)) :
    (d.setPartial id content).partials other = d.partials other := Function.update_of_ne apart ..

omit [DecidableEq δ] in
@[simp] theorem addIndex_same (d : Disk δ) (folder : Folder) (name : IndexName) (index : Index δ) :
    (d.addIndex folder name index).indexes folder = d.indexes folder ++ [(name, index)] := Function.update_self ..

omit [DecidableEq δ] in
theorem addIndex_other (d : Disk δ) {folder other : Folder} (apart : other ≠ folder) (name : IndexName)
    (index : Index δ) : (d.addIndex folder name index).indexes other = d.indexes other :=
  Function.update_of_ne apart ..

end Disk

/-- A step that looks at the disk and may raise. -/
def reading {α : Type} (point : Point) (look : Disk δ → Except Failure α) : Compressor δ α :=
  act point fun d => do
    let value ← look d
    return (value, d)

/-- `tempfile.mkstemp`. -/
def makePartial : Compressor δ Nat :=
  act .makePartial fun d => return (d.made, d.create)

/-- `temporary.unlink(missing_ok=True)`. -/
def removePartial (id : Nat) : Compressor δ Unit := write .removePartial fun d => d.setPartial id none

/-- The tests of an open regular file; a file that passes them is compressed. -/
def inspectFile (d : Disk δ) (path : Path) (explicit : Bool) (file : File) :
    Except Failure (Report δ ⊕ File) := do
  if !explicit && file.executable && !inDiagnostics path then
    return .inl { path, reason := some .executable }
  else if file.bytes.length < MIN_BYTES then
    return .inl { path, reason := some .belowMinimum, originalBytes := some file.bytes.length }
  else if around.writer .preparing path then
    return .inl { path, reason := some .openWriter }
  else if around.locked path then
    return .inl { path, reason := some .activeLock }
  else do
    require (¬d.lexists path.stored) (.evidence (.storedExists path.stored))
    return .inr file

/-- The start of `_prepare_file`, until a temporary is made. -/
def inspect (path : Path) (explicit : Bool) (d : Disk δ) : Except Failure (Report δ ⊕ File) := do
  noSymlinks d path
  if blocked tools around path || !eligible tools d path explicit then
    return .inl { path, reason := some .notDiagnostic }
  else
    match d.entries path with
    | none =>
      if d.lexists path.stored then do
        let metadata ← payloadMetadata tools d path
        return .inl { path, reason := some .alreadyCompressed, metadata := some metadata }
      else throw .os
    | some .symlink => throw .os
    | some .special => return .inl { path, reason := some .notRegular }
    | some (.file file) => inspectFile around d path explicit file

/-- What stands in the temporary. -/
def readPartial (id : Nat) (d : Disk δ) : Except Failure File :=
  match d.partials id with
  | some (.payload file) => return file
  | _ => throw .os

def checkInput (d : Disk δ) (path : Path) (original : File) : Except Failure Unit := do
  noSymlinks d path
  require (d.entries path = some (.file original)) (.evidence (.inputChanged path))

/-- The compressed temporary is verified and made durable. -/
def settle (path : Path) (file : File) (id : Nat) (details : Details δ) (stored : File) :
    Compressor δ (Preparation δ) := do
  reading .verify fun _ => verifyZstd tools stored.bytes details.sha256 details.originalBytes
  reading .check fun d => checkInput d path file
  write .settle fun d => d.setPartial id (some (.payload { stored with executable := file.executable }))
  sync .durable
  return .prepared
    { path, original := file, temporary := id, details
      savedBytes := details.originalBytes - details.storedBytes, storedSha256 := tools.sha256 stored.bytes }

def compressInto (path : Path) (file : File) (id : Nat) : Compressor δ (Preparation δ) := do
  write .compress fun d => d.setPartial id (some (.payload { bytes := tools.compress file.bytes, stamp := id }))
  sync .flush
  let stored ← reading .check (readPartial id)
  let saved := file.bytes.length - stored.bytes.length
  let details : Details δ :=
    { originalBytes := file.bytes.length, storedBytes := stored.bytes.length, sha256 := tools.sha256 file.bytes }
  if saved < MIN_BYTES ∨ saved * 10 < file.bytes.length then
    return .retained { path, reason := some .smallSavings, details := some details }
  else settle tools path file id details stored

/-- The temporary stays only with a prepared payload. -/
def stage (path : Path) (file : File) : Compressor δ (Preparation δ) := do
  let id ← makePartial
  let result ← handle (compressInto tools path file id) fun error => do
    removePartial id
    raise error
  match result with
  | .retained report => do
    removePartial id
    return .retained report
  | .prepared item => return .prepared item

def prepareFile (path : Path) (explicit : Bool) : Compressor δ (Preparation δ) := do
  match ← reading .open (inspect tools around path explicit) with
  | .inl report => return .retained report
  | .inr file => stage tools path file

def checkPrepared (items : List (Prepared δ)) (moment : Option Moment) : Compressor δ Unit :=
  reading .check fun d => items.forM fun item => do
    checkInput d item.path item.original
    require (∀ time ∈ moment, around.writer time item.path = false) (.evidence (.acquiredWriter item.path))

/-- No index and no file stands where the items will be published. -/
def checkVacant (folder : Folder) (items : List (Prepared δ)) (d : Disk δ) : Except Failure Unit := do
  let index ← loadIndex d folder
  items.forM fun item =>
    require (item.path.name ∉ index.map Prod.fst ∧ ¬d.lexists item.path.stored)
      (.evidence (.alreadyPublished item.path))

/-- `os.link(item.temporary, item.stored)`. -/
def linkStored (item : Prepared δ) : Compressor δ Unit :=
  act .link fun d => do
    let file ← readPartial item.temporary d
    require (¬d.lexists item.path.stored) .os
    return ((), d.setEntry item.path.stored (some (.file file)))

def Prepared.record (item : Prepared δ) : FileName × Record δ :=
  (item.path.name,
    { storedPath := item.path.name.stored, originalBytes := item.original.bytes.length
      storedBytes := item.details.storedBytes, sha256 := item.details.sha256, storedSha256 := item.storedSha256 })

def additions (items : List (Prepared δ)) : Index δ := { schema := 1, files := items.map Prepared.record }

/-- `os.link` of an index: an index that stands is never replaced. -/
def linkIndex (folder : Folder) (name : IndexName) (id : Nat) : Compressor δ Unit :=
  act .linkIndex fun d =>
    match d.partials id with
    | some (.index index) => do
      require (name ∉ (d.indexes folder).map Prod.fst) .os
      return ((), d.addIndex folder name index)
    | _ => throw .os

/-- `_atomic_json` with `replace=False`. -/
def atomicJson (folder : Folder) (name : IndexName) (index : Index δ) : Compressor δ Unit := do
  let id ← makePartial
  cleaning (do
    write .writeIndex fun d => d.setPartial id (some (.index index))
    sync .flush
    linkIndex folder name id
    sync .syncFolder)
    (removePartial id)

def indexName (folder : Folder) (d : Disk δ) : Except Failure IndexName :=
  return if .base ∈ (d.indexes folder).map Prod.fst then .addition (around.uuid d.made) else .base

def checkTracked (items : List (Prepared δ)) (includeTracked : Option Bool) : Compressor δ Unit :=
  reading .tracked fun _ => items.forM fun item =>
    require (∀ option ∈ includeTracked, around.tracked option item.path = false)
      (.evidence (.trackedEdits item.path))

/-- `item.path.unlink()` after its last check. -/
def unlinkRaw (item : Prepared δ) : Compressor δ Unit := do
  checkPrepared around [item] none
  act .unlink fun d => do
    require (d.lexists item.path) .os
    return ((), d.setEntry item.path none)

def Prepared.report (item : Prepared δ) (action : Action) (storedPath : Option Path) : Report δ :=
  { path := item.path, action, savedBytes := item.savedBytes, details := some item.details, storedPath }

def publishLocked (folder : Folder) (items : List (Prepared δ)) (includeTracked : Option Bool) :
    Compressor δ Unit := do
  checkPrepared around items (some .publishing)
  reading .readIndex (checkVacant folder items)
  items.forM linkStored
  sync .syncFolder
  let name ← reading .nameIndex (indexName around folder)
  atomicJson folder name (additions items)
  checkTracked around items includeTracked
  checkPrepared around items (some .unlinking)
  items.forM (unlinkRaw around)
  sync .syncFolder

def publishDirectory (folder : Folder) (items : List (Prepared δ)) (dryRun : Bool)
    (includeTracked : Option Bool) : Compressor δ (List (Report δ)) :=
  if dryRun then do
    checkPrepared around items (some .publishing)
    return items.map fun item => item.report .wouldCompress none
  else do
    sync .lock
    publishLocked around folder items includeTracked
    return items.map fun item => item.report .compressed (some item.path.stored)

/-- `close`. -/
def closeItem (item : Prepared δ) : Compressor δ Unit := removePartial item.temporary

def compressFile (path : Path) (finalized dryRun explicit : Bool) : Compressor δ (List (Report δ)) := do
  demand (finalized = true) (.evidence .notFinalized)
  match ← prepareFile tools around path explicit with
  | .retained report => return [report]
  | .prepared item =>
    cleaning (publishDirectory around item.path.parent [item] dryRun none) (closeItem item)

def failedReport (path : Path) (failure : Failure) : Report δ :=
  { path, action := .error, reason := some (.failed failure) }

/-- The prepared payloads of a batch, the reports so far, and what ended the loop early. -/
structure Batch (δ : Type) where
  prepared : List (Prepared δ) := []
  reports : List (Report δ) := []
  interruption : Option Failure := none

def Batch.addReport (batch : Batch δ) (report : Report δ) : Batch δ :=
  { batch with reports := report :: batch.reports }

def Batch.addItem (batch : Batch δ) (item : Prepared δ) : Batch δ :=
  { batch with prepared := item :: batch.prepared }

/-- One turn of the loop: what was prepared, or what was raised. -/
def prepareCaught (path : Path) (explicit : Bool) : Compressor δ (Except Failure (Preparation δ)) :=
  handle (do
    let result ← prepareFile tools around path explicit
    return .ok result)
    fun failure => return .error failure

def prepareBatch : List (Path × Bool) → Compressor δ (Batch δ)
  | [] => return {}
  | (path, explicit) :: rest => do
    match ← prepareCaught tools around path explicit with
    | .ok (.retained report) => do
      let later ← prepareBatch rest
      return later.addReport report
    | .ok (.prepared item) => do
      let later ← prepareBatch rest
      return later.addItem item
    | .error failure =>
      if failure.caught then do
        let later ← prepareBatch rest
        return later.addReport (failedReport path failure)
      else return { interruption := some failure }

/-- `directories`: the items by parent, in order of first appearance. -/
def directories (items : List (Prepared δ)) : List (Folder × List (Prepared δ)) :=
  (items.map (·.path.parent)).eraseDups.map fun folder => (folder, items.filter (·.path.parent = folder))

def publishGroups (dryRun includeTracked : Bool) :
    List (Folder × List (Prepared δ)) → Compressor δ (List (Report δ))
  | [] => return []
  | (folder, items) :: rest => do
    let reports ← handle (publishDirectory around folder items dryRun (some includeTracked)) fun failure =>
      if failure.caught then return items.map fun item => failedReport item.path failure
      else raise failure
    let later ← publishGroups dryRun includeTracked rest
    return reports ++ later

/-- `dict(batch).items()`: each path once, with the last flag given for it. -/
def distinctPaths (batch : List (Path × Bool)) : List (Path × Bool) :=
  (batch.map Prod.fst).eraseDups.map fun path => (path, (batch.reverse.lookup path).getD false)

def finishBatch (paths : List (Path × Bool)) (batch : Batch δ) (dryRun includeTracked : Bool) :
    Compressor δ (List (Report δ)) := do
  match batch.interruption with
  | some failure => raise failure
  | none => do
    let published ← publishGroups around dryRun includeTracked (directories batch.prepared)
    -- the consumer of the generator may stop at each of these
    paths.forM fun _ => sync .yield
    return paths.filterMap fun (path, _) => (batch.reports ++ published).find? (·.path = path)

def compressBatch (selection : List (Path × Bool)) (dryRun includeTracked : Bool) :
    Compressor δ (List (Report δ)) := do
  let paths := distinctPaths selection
  sync .census
  let batch ← prepareBatch tools around paths
  cleaning (finishBatch around paths batch dryRun includeTracked) (batch.prepared.forM closeItem)

/-- `compress_paths` on what `_selected` yields, in batches of 32. -/
def compressPaths (dryRun includeTracked : Bool) : List (List (Path × Bool)) → Compressor δ (List (Report δ))
  | [] => return []
  | batch :: rest => do
    sync .select
    let reports ← compressBatch tools around batch dryRun includeTracked
    let later ← compressPaths dryRun includeTracked rest
    return reports ++ later

end Calls

/-- One call with the answers it meets. -/
inductive Call where
  | file (path : Path) (finalized dryRun explicit : Bool) (around : Surroundings)
  | paths (selection : List (Path × Bool)) (dryRun includeTracked : Bool) (around : Surroundings)

section Runs

variable {δ : Type} [DecidableEq δ] (tools : Tools δ)

def Call.program : Call → Compressor δ (List (Report δ))
  | file path finalized dryRun explicit around => compressFile tools around path finalized dryRun explicit
  | paths selection dryRun includeTracked around =>
    compressPaths tools around dryRun includeTracked (selection.toChunks 32)

/-- The disk after a call with the faults it meets. -/
def perform (d : Disk δ) (call : Call × Schedule Failure) : Disk δ :=
  (finalState (call.1.program tools { disk := d, faults := call.2 })).disk

def performAll (d : Disk δ) (calls : List (Call × Schedule Failure)) : Disk δ := calls.foldl (perform tools) d

end Runs

end Darling.Evidence
