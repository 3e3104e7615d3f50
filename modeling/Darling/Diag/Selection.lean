import Darling.Library.Texts
import Mathlib.Algebra.GroupWithZero.Nat
import Mathlib.Data.List.Infix

/-! `select_evidence`: the windows an evidence manifest registers are read from their offsets and put
together into the sliced log, and the state says whether an empty census of it is a measurement. -/
namespace Darling.Diag

export Texts (Text isWhitespace)

abbrev Bytes := List UInt8

section Texts

/-- A line without the carriage return before its line feed. -/
def chomp (line : Text) : Text := if line.getLast? = some '\r' then line.dropLast else line

/-- `str::lines`, with the characters of the line read so far. -/
def linesFrom (line : Text) : Text → List Text
  | [] => if line = [] then [] else [line]
  | c :: rest => if c = '\n' then chomp line :: linesFrom [] rest else linesFrom (line ++ [c]) rest

def lines (text : Text) : List Text := linesFrom [] text

/-- `strip_prefix`. -/
def valueOf (key : String) (line : Text) : Option Text :=
  if key.toList.isPrefixOf line then some (line.drop key.toList.length) else none

/-- `split_once`. -/
def splitOnce (separator : Char) (text : Text) : Option (Text × Text) :=
  if separator ∈ text then
    some (text.takeWhile (· ≠ separator), (text.dropWhile (· ≠ separator)).tail)
  else none

def trim (text : Text) : Text := ((text.dropWhile isWhitespace).reverse.dropWhile isWhitespace).reverse

/-- `parse` for an unsigned type of so many bits. -/
def parseUnsigned (bits : Nat) (text : Text) : Option Nat :=
  let digits := if text.head? = some '+' then text.tail else text
  let value := digits.foldl (fun value c => 10 * value + (c.toNat - '0'.toNat)) 0
  if digits ≠ [] ∧ digits.all (·.isDigit) ∧ value < 2 ^ bits then some value else none

/-- `parse::<u64>`. -/
def parseU64 (text : Text) : Option Nat := parseUnsigned 64 text

end Texts

/-- `std::path::Component`. -/
inductive Component where
  | rootDir
  | curDir
  | parentDir
  | normal (name : Text)
  deriving DecidableEq, Repr

/-- A path as its components, by which paths are compared. -/
abbrev Path := List Component

def Component.ofPart : Text → Option Component
  | [] => none
  | ['.'] => none
  | ['.', '.'] => some .parentDir
  | name => some (.normal name)

def pathOf (text : Text) : Path :=
  let parts := text.splitOn '/'
  (if text.head? = some '/' then [.rootDir] else if parts.head? = some ['.'] then [.curDir] else []) ++
    parts.filterMap Component.ofPart

def fileName (path : Path) : Option Text :=
  match path.getLast? with
  | some (.normal name) => some name
  | _ => none

/-- The original was a core file. -/
def isCore (original : Path) : Bool := (fileName original).any ("core.".toList.isPrefixOf ·)

/-- The fields of the manifest that the selection reads. -/
structure EvidenceManifest where
  scope : Option Text := none
  unavailable : List Text := []
  sources : List (Path × Path) := []
  endTime : Option Nat := none
  files : List (Path × Nat) := []

/-- `file=`: the path and, after the last blank, the size at the start. -/
def windowOf (rest : Text) : Option (Path × Nat) := do
  let (size, path) ← splitOnce ' ' rest.reverse
  let offset ← parseU64 size.reverse
  return (pathOf path.reverse, offset)

/-- `source=`: the captured copy and its original. -/
def mappingOf (rest : Text) : Option (Path × Path) :=
  (splitOnce '\t' rest).map fun (copy, original) => (pathOf copy, pathOf original)

/-- One line of `parse_evidence_manifest`. The other keys set fields that are not read here. -/
def EvidenceManifest.add (manifest : EvidenceManifest) (line : Text) : EvidenceManifest :=
  match valueOf "scope=" line, valueOf "unavailable=" line, valueOf "source=" line, valueOf "end=" line,
    valueOf "file=" line with
  | some scope, _, _, _, _ =>
    if manifest.scope.any (· ≠ scope) then { manifest with scope := some "ambiguous".toList }
    else { manifest with scope := some scope }
  | none, some reason, _, _, _ => { manifest with unavailable := manifest.unavailable ++ [reason] }
  | none, none, some rest, _, _ =>
    match mappingOf rest with
    | some mapping => { manifest with sources := manifest.sources ++ [mapping] }
    | none => { manifest with
        unavailable := manifest.unavailable ++ ["invalid captured-source mapping: ".toList ++ rest] }
  | none, none, none, some time, _ => { manifest with endTime := parseU64 (trim time) }
  | none, none, none, none, some rest =>
    match windowOf rest with
    | some window => { manifest with files := manifest.files ++ [window] }
    | none => { manifest with unavailable := manifest.unavailable ++ ["invalid registered window: ".toList ++ rest] }
  | none, none, none, none, none => manifest

def parseEvidenceManifest (text : Text) : EvidenceManifest := (lines text).foldl EvidenceManifest.add {}

inductive EvidenceState where
  | measured
  | partialEvidence
  | unavailable
  | noEvidence
  | unscoped
  deriving DecidableEq, Repr

inductive ReadError where
  | notFound
  | other
  deriving DecidableEq, Repr

/-- What the selection finds: the manifest's text unless it cannot be read, the files, and whether the
sliced log can be written. `decode` is the lossy decoding with NUL as a line feed. -/
structure Input where
  stateDir : Path
  manifest : Option Text
  read : Path → Except ReadError Bytes
  decode : Bytes → Text
  writable : Bool

inductive Kind where
  | jobOwned
  | registered
  deriving DecidableEq, Repr

structure Entry where
  path : Path
  offset : Nat
  kind : Kind
  deriving DecidableEq, Repr

inductive Status where
  | ok
  | truncated
  | missing
  | unreadable
  | unscoped
  deriving DecidableEq, Repr

structure EvidenceSource where
  path : Path
  kind : Kind
  offset : Nat
  size : Option Nat
  read : Nat
  status : Status
  deriving DecidableEq, Repr

inductive Reason where
  | noManifest
  | notFinalized
  | notCleared
  | registeredUnavailable (reason : Text)
  | ambiguousMapping (path : Path)
  | truncated (path : Path) (offset size : Nat)
  | cannotRead (kind : Kind) (path : Path) (error : ReadError)
  | noRuntimeLog
  | notPublished
  deriving DecidableEq, Repr

structure EvidenceReport where
  state : EvidenceState
  rowsBytes : Nat := 0
  sources : List EvidenceSource := []
  reasons : List Reason := []
  /-- The sliced log, unless it could not be written. -/
  log : Option Text := none

/-- The variables of the loop over the entries. -/
structure Tally where
  missing : Bool := false
  unreadable : Bool := false
  truncated : Bool := false
  out : Text := []
  rowsBytes : Nat := 0
  sources : List EvidenceSource := []
  reasons : List Reason := []

namespace EvidenceManifest

/-- The mappings of a captured copy. -/
def mappings (manifest : EvidenceManifest) (path : Path) : List (Path × Path) :=
  manifest.sources.filter (·.1 = path)

/-- The window is left out of the log as a core file. -/
def excludes (manifest : EvidenceManifest) (path : Path) : Bool :=
  manifest.sources.any fun (copy, original) => copy = path && isCore original

def entries (manifest : EvidenceManifest) (stateDir : Path) : List Entry :=
  ⟨stateDir ++ [.normal "log".toList], 0, .jobOwned⟩ ::
    (manifest.files.filter fun window => !manifest.excludes window.1).map fun window =>
      ⟨window.1, window.2, .registered⟩

end EvidenceManifest

/-- What an entry turns out to be. -/
inductive Finding where
  | unscoped
  | failed (error : ReadError)
  | truncated (size : Nat)
  | whole (bytes : Bytes)

def examine (input : Input) (manifest : EvidenceManifest) (entry : Entry) : Finding :=
  if entry.kind = .registered ∧ (manifest.mappings entry.path).length ≠ 1 then .unscoped
  else match input.read entry.path with
    | .error error => .failed error
    | .ok bytes =>
      if entry.kind = .registered ∧ bytes.length < entry.offset then .truncated bytes.length else .whole bytes

/-- A text on a line of its own at the end of the log. -/
def push (out decoded : Text) : Text :=
  (if out ≠ [] ∧ out.getLast? ≠ some '\n' then out ++ ['\n'] else out) ++ decoded

/-- The body of the loop. -/
def visit (input : Input) (manifest : EvidenceManifest) (tally : Tally) (entry : Entry) : Tally :=
  let source (size : Option Nat) (read : Nat) (status : Status) : EvidenceSource :=
    ⟨entry.path, entry.kind, entry.offset, size, read, status⟩
  match examine input manifest entry with
  | .unscoped => { tally with
      unreadable := true
      reasons := tally.reasons ++ [.ambiguousMapping entry.path]
      sources := tally.sources ++ [source none 0 .unscoped] }
  | .truncated size => { tally with
      truncated := true
      reasons := tally.reasons ++ [.truncated entry.path entry.offset size]
      sources := tally.sources ++ [source (some size) 0 .truncated] }
  | .whole bytes =>
    let slice := bytes.drop (min entry.offset bytes.length)
    { tally with
      out := push tally.out (input.decode slice)
      rowsBytes := tally.rowsBytes + slice.length
      sources := tally.sources ++ [source (some bytes.length) slice.length .ok] }
  | .failed .notFound => { tally with
      missing := true
      reasons := tally.reasons ++ [.cannotRead entry.kind entry.path .notFound]
      sources := tally.sources ++ [source none 0 .missing] }
  | .failed .other => { tally with
      unreadable := true
      reasons := tally.reasons ++ [.cannotRead entry.kind entry.path .other]
      sources := tally.sources ++ [source none 0 .unreadable] }

def stateOf (manifest : EvidenceManifest) (entries : List Entry) (tally : Tally) : EvidenceState × List Reason :=
  if tally.missing || tally.unreadable || !manifest.unavailable.isEmpty then (.unavailable, tally.reasons)
  else if tally.truncated then (.partialEvidence, tally.reasons)
  else if !entries.any (·.kind = .registered) then (.noEvidence, tally.reasons ++ [.noRuntimeLog])
  else (.measured, tally.reasons)

def publish (input : Input) (report : EvidenceReport) (log : Text) : EvidenceReport :=
  if input.writable then { report with log := some log }
  else { report with state := .unavailable, reasons := report.reasons ++ [.notPublished] }

def selectEvidence (input : Input) : EvidenceReport :=
  match input.manifest with
  | none => { state := .unscoped, reasons := [.noManifest], log := if input.writable then some [] else none }
  | some text =>
    let manifest := parseEvidenceManifest text
    if manifest.scope ≠ some "explicit".toList ∨ manifest.endTime = none then
      { state := .unavailable
        reasons := .notFinalized :: (if input.writable then [] else [.notCleared])
        log := if input.writable then some [] else none }
    else
      let entries := manifest.entries input.stateDir
      let tally := entries.foldl (visit input manifest)
        { reasons := manifest.unavailable.map Reason.registeredUnavailable }
      let (state, reasons) := stateOf manifest entries tally
      publish input { state, reasons, rowsBytes := tally.rowsBytes, sources := tally.sources } tally.out

section Parsing

/-- A line never takes back what an earlier one registered. -/
structure Extends (earlier later : EvidenceManifest) : Prop where
  files : earlier.files ⊆ later.files
  sources : earlier.sources ⊆ later.sources
  unavailable : later.unavailable = [] → earlier.unavailable = []

theorem Extends.refl (manifest : EvidenceManifest) : Extends manifest manifest := ⟨fun _ => id, fun _ => id, id⟩

theorem Extends.trans {first second third : EvidenceManifest} (before : Extends first second)
    (after : Extends second third) : Extends first third :=
  ⟨fun _ listed => after.files (before.files listed), fun _ listed => after.sources (before.sources listed),
    fun empty => before.unavailable (after.unavailable empty)⟩

theorem add_extends (manifest : EvidenceManifest) (line : Text) : Extends manifest (manifest.add line) := by
  unfold EvidenceManifest.add
  split
  · split <;> exact ⟨fun _ => id, fun _ => id, id⟩
  · exact ⟨fun _ => id, fun _ => id, fun empty => (List.append_eq_nil_iff.mp empty).1⟩
  · split
    · exact ⟨fun _ => id, fun _ => List.mem_append_left _, id⟩
    · exact ⟨fun _ => id, fun _ => id, fun empty => (List.append_eq_nil_iff.mp empty).1⟩
  · exact ⟨fun _ => id, fun _ => id, id⟩
  · split
    · exact ⟨fun _ => List.mem_append_left _, fun _ => id, id⟩
    · exact ⟨fun _ => id, fun _ => id, fun empty => (List.append_eq_nil_iff.mp empty).1⟩
  · exact .refl manifest

/-- A line starts with one key only, unless one of them starts the other. -/
theorem valueOf_exclusive {key : String} (other : String) {line rest : Text} (found : valueOf key line = some rest)
    (differ : ¬other.toList.isPrefixOf key.toList ∧ ¬key.toList.isPrefixOf other.toList) :
    valueOf other line = none := by
  unfold valueOf at found ⊢
  split at found
  · rename_i starts
    refine if_neg fun starts' => ?_
    rcases List.prefix_or_prefix_of_prefix (List.isPrefixOf_iff_prefix.mp starts)
      (List.isPrefixOf_iff_prefix.mp starts')
      with below | above
    · exact differ.2 (List.isPrefixOf_iff_prefix.mpr below)
    · exact differ.1 (List.isPrefixOf_iff_prefix.mpr above)
  · cases found

/-- A `file=` line is registered or leaves the evidence unavailable. -/
theorem add_file (manifest : EvidenceManifest) {line rest : Text} (key : valueOf "file=" line = some rest)
    (available : (manifest.add line).unavailable = []) :
    ∃ window, windowOf rest = some window ∧ window ∈ (manifest.add line).files := by
  simp only [EvidenceManifest.add, key, valueOf_exclusive "scope=" key (by decide),
    valueOf_exclusive "unavailable=" key (by decide), valueOf_exclusive "source=" key (by decide),
    valueOf_exclusive "end=" key (by decide)] at available ⊢
  cases found : windowOf rest with
  | none => simp [found] at available
  | some window => exact ⟨window, rfl, List.mem_append_right _ (List.mem_singleton_self _)⟩

/-- A `source=` line is registered or leaves the evidence unavailable. -/
theorem add_source (manifest : EvidenceManifest) {line rest : Text} (key : valueOf "source=" line = some rest)
    (available : (manifest.add line).unavailable = []) :
    ∃ mapping, mappingOf rest = some mapping ∧ mapping ∈ (manifest.add line).sources := by
  simp only [EvidenceManifest.add, key, valueOf_exclusive "scope=" key (by decide),
    valueOf_exclusive "unavailable=" key (by decide)] at available ⊢
  cases found : mappingOf rest with
  | none => simp [found] at available
  | some mapping => exact ⟨mapping, rfl, List.mem_append_right _ (List.mem_singleton_self _)⟩

/-- The `file=` and `source=` lines of a text are all among what was parsed of it. -/
def LinesParsed (text : List Text) (manifest : EvidenceManifest) : Prop :=
  ∀ line ∈ text, ∀ rest,
    (valueOf "file=" line = some rest → ∃ window, windowOf rest = some window ∧ window ∈ manifest.files) ∧
    (valueOf "source=" line = some rest → ∃ mapping, mappingOf rest = some mapping ∧ mapping ∈ manifest.sources)

theorem fold_extends (text : List Text) (manifest : EvidenceManifest) :
    Extends manifest (text.foldl EvidenceManifest.add manifest) := by
  induction text generalizing manifest with
  | nil => exact .refl manifest
  | cons line text ih => exact (add_extends manifest line).trans (ih (manifest.add line))

theorem fold_parsed (text : List Text) (manifest : EvidenceManifest)
    (available : (text.foldl EvidenceManifest.add manifest).unavailable = []) :
    LinesParsed text (text.foldl EvidenceManifest.add manifest) := by
  induction text generalizing manifest with
  | nil => exact fun _ listed => absurd listed List.not_mem_nil
  | cons line text ih =>
    intro other listed rest
    rcases List.mem_cons.mp listed with rfl | later
    · have kept := fold_extends text (manifest.add other)
      constructor
      · intro key
        obtain ⟨window, found, added⟩ := add_file manifest key (kept.unavailable available)
        exact ⟨window, found, kept.files added⟩
      · intro key
        obtain ⟨mapping, found, added⟩ := add_source manifest key (kept.unavailable available)
        exact ⟨mapping, found, kept.sources added⟩
    · exact ih (manifest.add line) available other later rest

theorem parse_parsed {text : Text} (available : (parseEvidenceManifest text).unavailable = []) :
    LinesParsed (lines text) (parseEvidenceManifest text) := fold_parsed (lines text) {} available

end Parsing

section Visiting

variable {input : Input} {manifest : EvidenceManifest}

/-- What reading an entry whole adds to the report. -/
def Entry.source (entry : Entry) (bytes : Bytes) : EvidenceSource :=
  ⟨entry.path, entry.kind, entry.offset, some bytes.length, bytes.length - min entry.offset bytes.length, .ok⟩

def Tally.clean (tally : Tally) : Bool := !tally.missing && !tally.unreadable && !tally.truncated

theorem visit_clean (tally : Tally) (entry : Entry) :
    (visit input manifest tally entry).clean ↔ tally.clean ∧ ∃ bytes, examine input manifest entry = .whole bytes := by
  unfold visit
  cases examine input manifest entry with
  | unscoped => simp [Tally.clean]
  | truncated size => simp [Tally.clean]
  | whole bytes => simp [Tally.clean]
  | failed error => cases error <;> simp [Tally.clean]

theorem visits_clean (entries : List Entry) (tally : Tally) :
    (entries.foldl (visit input manifest) tally).clean ↔
      tally.clean ∧ ∀ entry ∈ entries, ∃ bytes, examine input manifest entry = .whole bytes := by
  induction entries generalizing tally with
  | nil => simp
  | cons entry entries ih =>
    rw [List.foldl_cons, ih, visit_clean, List.forall_mem_cons, and_assoc]

theorem push_grows (out decoded : Text) : out <+: push out decoded := by
  unfold push
  split
  · exact (List.prefix_append _ _).trans (List.prefix_append _ _)
  · exact List.prefix_append _ _

/-- The log and the sources only grow. -/
theorem visit_grows (input : Input) (manifest : EvidenceManifest) (tally : Tally) (entry : Entry) :
    tally.out <+: (visit input manifest tally entry).out ∧
      ∃ source, (visit input manifest tally entry).sources = tally.sources ++ [source] ∧
        source.path = entry.path ∧ source.kind = entry.kind := by
  unfold visit
  cases examine input manifest entry with
  | unscoped => exact ⟨List.prefix_rfl, _, rfl, rfl, rfl⟩
  | truncated size => exact ⟨List.prefix_rfl, _, rfl, rfl, rfl⟩
  | whole bytes =>
    exact ⟨push_grows tally.out _, _, rfl, rfl, rfl⟩
  | failed error => cases error <;> exact ⟨List.prefix_rfl, _, rfl, rfl, rfl⟩

theorem visits_grow (input : Input) (manifest : EvidenceManifest) (entries : List Entry) (tally : Tally) :
    tally.out <+: (entries.foldl (visit input manifest) tally).out ∧
      tally.sources ⊆ (entries.foldl (visit input manifest) tally).sources := by
  induction entries generalizing tally with
  | nil => exact ⟨List.prefix_rfl, fun _ => id⟩
  | cons entry entries ih =>
    obtain ⟨out, source, sources, _⟩ := visit_grows input manifest tally entry
    obtain ⟨out', sources'⟩ := ih (visit input manifest tally entry)
    refine ⟨out.trans out', fun old listed => sources' ?_⟩
    rw [sources]
    exact List.mem_append_left _ listed

/-- An entry that is whole is in the sources, and its text in the log. -/
theorem visits_whole {entries : List Entry} (tally : Tally) {entry : Entry} (listed : entry ∈ entries) {bytes : Bytes}
    (whole : examine input manifest entry = .whole bytes) :
    entry.source bytes ∈ (entries.foldl (visit input manifest) tally).sources ∧
      input.decode (bytes.drop (min entry.offset bytes.length)) <:+:
        (entries.foldl (visit input manifest) tally).out := by
  induction entries generalizing tally with
  | nil => cases listed
  | cons first entries ih =>
    rcases List.mem_cons.mp listed with rfl | later
    · obtain ⟨out, sources⟩ := visits_grow input manifest entries (visit input manifest tally entry)
      have visited : (visit input manifest tally entry).sources = tally.sources ++ [entry.source bytes] ∧
          (visit input manifest tally entry).out =
            push tally.out (input.decode (bytes.drop (min entry.offset bytes.length))) := by
        unfold visit
        rw [whole]
        simp [Entry.source]
      constructor
      · refine sources ?_
        rw [visited.1]
        exact List.mem_append_right _ (List.mem_singleton_self _)
      · refine List.IsInfix.trans ?_ out.isInfix
        rw [visited.2]
        exact (List.suffix_append _ _).isInfix
    · exact ih (visit input manifest tally first) later

/-- Every source comes from an entry. -/
theorem visits_sources {entries : List Entry} {tally : Tally} {source : EvidenceSource}
    (listed : source ∈ (entries.foldl (visit input manifest) tally).sources) :
    source ∈ tally.sources ∨ ∃ entry ∈ entries, source.path = entry.path ∧ source.kind = entry.kind := by
  induction entries generalizing tally with
  | nil => exact .inl listed
  | cons entry entries ih =>
    obtain ⟨_, added, sources, path, kind⟩ := visit_grows input manifest tally entry
    rcases ih listed with earlier | ⟨other, later, same⟩
    · rw [sources] at earlier
      rcases List.mem_append.mp earlier with old | new
      · exact .inl old
      · rw [List.mem_singleton.mp new]
        exact .inr ⟨entry, List.mem_cons_self, path, kind⟩
    · exact .inr ⟨other, List.mem_cons_of_mem _ later, same⟩

end Visiting

section Completeness

/-- The window was read from its offset to the end of the file, and its text is part of the log. -/
def Measures (input : Input) (report : EvidenceReport) (window : Path × Nat) : Prop :=
  ∃ bytes log, input.read window.1 = .ok bytes ∧ window.2 ≤ bytes.length ∧ report.log = some log ∧
    input.decode (bytes.drop window.2) <:+: log ∧
    ⟨window.1, .registered, window.2, some bytes.length, bytes.length - window.2, .ok⟩ ∈ report.sources

/-- The only mapping of the window names a core file. -/
def LoneCore (manifest : EvidenceManifest) (window : Path × Nat) : Prop :=
  ∃ mapping, manifest.mappings window.1 = [mapping] ∧ isCore mapping.2

/-- A measured state vouches for every window and every line of the manifest. -/
def MeasuredComplete (input : Input) : Prop :=
  (selectEvidence input).state = .measured → ∃ text, input.manifest = some text ∧
    (∀ window ∈ (parseEvidenceManifest text).files,
      Measures input (selectEvidence input) window ∨ LoneCore (parseEvidenceManifest text) window) ∧
    LinesParsed (lines text) (parseEvidenceManifest text)

/-- Apart from the windows that are left out, nothing stands in the way of a measurement. -/
structure Usable (input : Input) (manifest : EvidenceManifest) : Prop where
  scope : manifest.scope = some "explicit".toList
  ended : manifest.endTime ≠ none
  available : manifest.unavailable = []
  wrapper : ∃ bytes, input.read (input.stateDir ++ [.normal "log".toList]) = .ok bytes
  windows : ∀ window ∈ manifest.files, manifest.excludes window.1 = false →
    (manifest.mappings window.1).length = 1 ∧ ∃ bytes, input.read window.1 = .ok bytes ∧ window.2 ≤ bytes.length
  registered : ∃ window ∈ manifest.files, manifest.excludes window.1 = false
  writable : input.writable = true

variable {input : Input} {manifest : EvidenceManifest}

theorem examine_registered {path : Path} {offset : Nat} {bytes : Bytes} :
    examine input manifest ⟨path, offset, .registered⟩ = .whole bytes ↔
      (manifest.mappings path).length = 1 ∧ input.read path = .ok bytes ∧ offset ≤ bytes.length := by
  unfold examine
  by_cases lone : (manifest.mappings path).length = 1
  · cases found : input.read path with
    | error error => simp [lone]
    | ok content =>
      by_cases short : content.length < offset
      · simp only [lone, ne_eq, not_true_eq_false, and_false, if_false, true_and, short, if_true]
        constructor
        · intro impossible
          cases impossible
        · rintro ⟨same, enough⟩
          cases same
          omega
      · simp only [lone, ne_eq, not_true_eq_false, and_false, if_false, true_and, short]
        constructor
        · intro same
          cases same
          exact ⟨rfl, by omega⟩
        · rintro ⟨same, _⟩
          cases same
          rfl
  · simp [lone]

theorem examine_jobOwned {path : Path} {bytes : Bytes} :
    examine input manifest ⟨path, 0, .jobOwned⟩ = .whole bytes ↔ input.read path = .ok bytes := by
  cases found : input.read path <;> simp [examine, found]

theorem mem_entries {stateDir : Path} {entry : Entry} :
    entry ∈ manifest.entries stateDir ↔ entry = ⟨stateDir ++ [.normal "log".toList], 0, .jobOwned⟩ ∨
      ∃ window ∈ manifest.files, manifest.excludes window.1 = false ∧ entry = ⟨window.1, window.2, .registered⟩ := by
  simp only [EvidenceManifest.entries, List.mem_cons, List.mem_map, List.mem_filter, Bool.not_eq_true', and_assoc,
    eq_comm (a := entry)]

/-- The tally after the loop. -/
def gathered (input : Input) (manifest : EvidenceManifest) : Tally :=
  (manifest.entries input.stateDir).foldl (visit input manifest)
    { reasons := manifest.unavailable.map Reason.registeredUnavailable }

theorem gathered_clean : (gathered input manifest).clean ↔
    (∃ bytes, input.read (input.stateDir ++ [.normal "log".toList]) = .ok bytes) ∧
      ∀ window ∈ manifest.files, manifest.excludes window.1 = false →
        (manifest.mappings window.1).length = 1 ∧ ∃ bytes, input.read window.1 = .ok bytes ∧
          window.2 ≤ bytes.length := by
  rw [gathered, visits_clean]
  constructor
  · rintro ⟨_, whole⟩
    constructor
    · obtain ⟨bytes, read⟩ := whole _ (mem_entries.mpr (.inl rfl))
      exact ⟨bytes, examine_jobOwned.mp read⟩
    · intro window listed kept
      obtain ⟨bytes, read⟩ := whole _ (mem_entries.mpr (.inr ⟨window, listed, kept, rfl⟩))
      obtain ⟨lone, found, enough⟩ := examine_registered.mp read
      exact ⟨lone, bytes, found, enough⟩
  · rintro ⟨⟨content, wrapper⟩, windows⟩
    refine ⟨rfl, fun entry listed => ?_⟩
    rcases mem_entries.mp listed with rfl | ⟨window, registered, kept, rfl⟩
    · exact ⟨content, examine_jobOwned.mpr wrapper⟩
    · obtain ⟨lone, bytes, found, enough⟩ := windows window registered kept
      exact ⟨bytes, examine_registered.mpr ⟨lone, found, enough⟩⟩

theorem stateOf_measured (manifest : EvidenceManifest) (entries : List Entry) (tally : Tally) :
    (stateOf manifest entries tally).1 = .measured ↔
      tally.clean ∧ manifest.unavailable = [] ∧ ∃ entry ∈ entries, entry.kind = .registered := by
  unfold stateOf Tally.clean
  cases tally.missing <;> cases tally.unreadable <;> cases tally.truncated <;> simp
  all_goals cases manifest.unavailable <;> simp
  all_goals split <;> simp_all

theorem entries_registered {stateDir : Path} : (∃ entry ∈ manifest.entries stateDir, entry.kind = .registered) ↔
    ∃ window ∈ manifest.files, manifest.excludes window.1 = false := by
  constructor
  · rintro ⟨entry, listed, kind⟩
    rcases mem_entries.mp listed with rfl | ⟨window, registered, kept, rfl⟩
    · cases kind
    · exact ⟨window, registered, kept⟩
  · rintro ⟨window, registered, kept⟩
    exact ⟨_, mem_entries.mpr (.inr ⟨window, registered, kept, rfl⟩), rfl⟩

/-- The state is measured exactly when the evidence is usable; the log and the sources are then those of
the loop. -/
theorem selectEvidence_measured {text : Text} (found : input.manifest = some text) :
    ((selectEvidence input).state = .measured ↔ Usable input (parseEvidenceManifest text)) ∧
      ((selectEvidence input).state = .measured →
        (selectEvidence input).log = some (gathered input (parseEvidenceManifest text)).out ∧
        (selectEvidence input).sources = (gathered input (parseEvidenceManifest text)).sources) := by
  unfold selectEvidence
  rw [found]
  simp only
  split
  · rename_i refused
    refine ⟨⟨(fun impossible => by cases impossible), fun usable => ?_⟩, fun impossible => by cases impossible⟩
    rcases refused with other | open_
    · exact absurd usable.scope other
    · exact absurd open_ usable.ended
  · rename_i accepted
    rw [not_or, not_not] at accepted
    have state := stateOf_measured (parseEvidenceManifest text) ((parseEvidenceManifest text).entries input.stateDir)
      (gathered input (parseEvidenceManifest text))
    rw [entries_registered, gathered_clean] at state
    unfold publish
    split
    · rename_i writable
      refine ⟨state.trans ?_, fun _ => ⟨rfl, rfl⟩⟩
      constructor
      · rintro ⟨⟨wrapper, windows⟩, available, registered⟩
        exact ⟨accepted.1, accepted.2, available, wrapper, windows, registered, writable⟩
      · intro usable
        exact ⟨⟨usable.wrapper, usable.windows⟩, usable.available, usable.registered⟩
    · rename_i closed
      exact ⟨⟨(fun impossible => by cases impossible), fun usable => absurd usable.writable closed⟩,
        fun impossible => by cases impossible⟩

/-- A window that is not left out is measured. -/
theorem usable_measures {text : Text} (found : input.manifest = some text)
    (usable : Usable input (parseEvidenceManifest text)) {window : Path × Nat}
    (listed : window ∈ (parseEvidenceManifest text).files)
    (kept : (parseEvidenceManifest text).excludes window.1 = false) : Measures input (selectEvidence input) window := by
  obtain ⟨iff, measured⟩ := selectEvidence_measured found
  obtain ⟨log, sources⟩ := measured (iff.mpr usable)
  obtain ⟨lone, bytes, read, enough⟩ := usable.windows window listed kept
  have whole := examine_registered.mpr ⟨lone, read, enough⟩
  obtain ⟨source, text⟩ :=
    visits_whole { reasons := (parseEvidenceManifest text).unavailable.map Reason.registeredUnavailable }
    (mem_entries.mpr (.inr ⟨window, listed, kept, rfl⟩)) whole
  rw [Entry.source, Nat.min_eq_left enough] at source
  rw [Nat.min_eq_left enough] at text
  exact ⟨bytes, _, read, enough, log, text, sources ▸ source⟩

/-- A window that is left out is in no source. -/
theorem excluded_unread {text : Text} (found : input.manifest = some text)
    (measured : (selectEvidence input).state = .measured) (window : Path × Nat)
    (excluded : (parseEvidenceManifest text).excludes window.1 = true) :
    ¬Measures input (selectEvidence input) window := by
  rintro ⟨bytes, log, _, _, _, _, listed⟩
  rw [((selectEvidence_measured found).2 measured).2] at listed
  rcases visits_sources listed with none | ⟨entry, member, path, kind⟩
  · cases none
  · rcases mem_entries.mp member with rfl | ⟨other, _, kept, rfl⟩
    · cases kind
    · have path : window.1 = other.1 := path
      rw [path, kept] at excluded
      cases excluded

theorem excluded_loneCore (window : Path × Nat) (excluded : manifest.excludes window.1 = true) :
    LoneCore manifest window ↔ (manifest.mappings window.1).length = 1 := by
  constructor
  · rintro ⟨mapping, lone, _⟩
    rw [lone]
    rfl
  · intro lone
    obtain ⟨mapping, shape⟩ := List.length_eq_one_iff.mp lone
    refine ⟨mapping, shape, ?_⟩
    obtain ⟨core, listed, same⟩ := List.any_eq_true.mp excluded
    simp only [Bool.and_eq_true, decide_eq_true_eq] at same
    have member : core ∈ manifest.mappings window.1 := List.mem_filter.mpr ⟨listed, decide_eq_true same.1⟩
    rw [shape] at member
    rw [← List.mem_singleton.mp member]
    exact same.2

/-- Measured evidence is complete exactly when no usable manifest gives a window with a core mapping
another mapping: such a window is left out before its mappings are counted. -/
theorem measured_complete (input : Input) :
    MeasuredComplete input ↔ ∀ text, input.manifest = some text → Usable input (parseEvidenceManifest text) →
      ∀ window ∈ (parseEvidenceManifest text).files, (parseEvidenceManifest text).excludes window.1 →
        ((parseEvidenceManifest text).mappings window.1).length = 1 := by
  constructor
  · intro complete text found usable window listed excluded
    have measured := (selectEvidence_measured found).1.mpr usable
    obtain ⟨same, found', windows, _⟩ := complete measured
    obtain rfl := Option.some.inj (found.symm.trans found')
    rcases windows window listed with read | core
    · exact absurd read (excluded_unread found measured window excluded)
    · exact (excluded_loneCore window excluded).mp core
  · intro condition measured
    cases found : input.manifest with
    | none => simp [selectEvidence, found] at measured
    | some text =>
      have usable := (selectEvidence_measured found).1.mp measured
      refine ⟨text, rfl, fun window listed => ?_, parse_parsed usable.available⟩
      by_cases excluded : (parseEvidenceManifest text).excludes window.1
      · exact .inr ((excluded_loneCore window excluded).mpr (condition text found usable window listed excluded))
      · exact .inl (usable_measures found usable listed (Bool.eq_false_iff.mpr excluded))

/-- The second window has a core file and the server log for originals. -/
def twiceMappedText : Text :=
  ("scope=explicit\nend=1\nfile=/job/a 0\nsource=/job/a\t/prefix/app.log\n" ++
    "file=/job/b 0\nsource=/job/b\t/prefix/core.1\nsource=/job/b\t/prefix/dserver.log\n").toList

def twiceMapped : Input where
  stateDir := [.rootDir, .normal "job".toList]
  manifest := some twiceMappedText
  read _ := .ok [104, 105]
  decode bytes := bytes.map fun byte => Char.ofNat byte.toNat
  writable := true

theorem twiceMapped_measured : (selectEvidence twiceMapped).state = .measured := by
  unfold twiceMapped twiceMappedText
  rw [String.toList_append, String.toList_ofList, String.toList_ofList]
  decide +kernel

theorem twiceMapped_incomplete : ¬MeasuredComplete twiceMapped := by
  have measured := twiceMapped_measured
  intro complete
  obtain ⟨text, found, windows, _⟩ := complete measured
  have same : twiceMappedText = text := Option.some.inj found
  subst same
  have excluded : (parseEvidenceManifest twiceMappedText).excludes (pathOf "/job/b".toList) := by
    unfold twiceMappedText
    rw [String.toList_append, String.toList_ofList, String.toList_ofList]
    decide +kernel
  have listed : (pathOf "/job/b".toList, 0) ∈ (parseEvidenceManifest twiceMappedText).files := by
    unfold twiceMappedText
    rw [String.toList_append, String.toList_ofList, String.toList_ofList]
    decide +kernel
  rcases windows (pathOf "/job/b".toList, 0) listed with read | core
  · exact excluded_unread found measured (pathOf "/job/b".toList, 0) excluded read
  · refine absurd ((excluded_loneCore (pathOf "/job/b".toList, 0) excluded).mp core) ?_
    unfold twiceMappedText
    rw [String.toList_append, String.toList_ofList, String.toList_ofList]
    decide +kernel

end Completeness

end Darling.Diag
