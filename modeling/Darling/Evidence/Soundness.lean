import Mathlib.Data.List.Perm.Lattice
import Darling.Evidence.Compression

/-! The invariant of an evidence directory, and what the readers make of a directory that has it: the
indexes load, and every payload is read back as it was. -/
namespace Darling.Evidence

section Merging

variable {δ : Type} {folder : Folder}

theorem mergeEntries_ok {files entries : List (FileName × Record δ)}
    (named : ∀ entry ∈ files ++ entries, entry.2.storedPath = entry.1.stored)
    (distinct : ((files ++ entries).map Prod.fst).Nodup) :
    entries.foldlM (mergeEntry folder) files = .ok (files ++ entries) := by
  induction entries generalizing files with
  | nil => simp [pure, Except.pure]
  | cons entry rest induction =>
    have apart : entry.1 ∉ files.map Prod.fst := by
      intro member
      rw [List.map_append, List.nodup_append] at distinct
      exact distinct.2.2 _ member _ List.mem_cons_self rfl
    have fresh : entry.2.storedPath ∉ files.map (·.2.storedPath) := by
      intro member
      obtain ⟨other, listed, same⟩ := List.mem_map.mp member
      rw [named other (List.mem_append_left _ listed),
        named entry (List.mem_append_right _ List.mem_cons_self)] at same
      exact apart (List.mem_map.mpr ⟨other, listed, FileName.stored_injective same⟩)
    have step : mergeEntry folder files entry = .ok (files ++ [entry]) := by
      unfold mergeEntry
      rw [require_bind_ok, require_bind_ok]
      exact ⟨named entry (List.mem_append_right _ List.mem_cons_self), ⟨apart, fresh⟩, rfl⟩
    have whole : files ++ entry :: rest = files ++ [entry] ++ rest := by simp
    rw [List.foldlM_cons, step]
    rw [whole] at named distinct ⊢
    exact induction named distinct

theorem mergeIndexes_ok {files : List (FileName × Record δ)} {indexes : List (IndexName × Index δ)}
    (schema : ∀ index ∈ indexes, index.2.schema = 1)
    (named : ∀ entry ∈ files ++ indexes.flatMap (·.2.files), entry.2.storedPath = entry.1.stored)
    (distinct : ((files ++ indexes.flatMap (·.2.files)).map Prod.fst).Nodup) :
    indexes.foldlM (mergeIndex folder) files = .ok (files ++ indexes.flatMap (·.2.files)) := by
  induction indexes generalizing files with
  | nil => simp [pure, Except.pure]
  | cons index rest induction =>
    have whole : files ++ (index :: rest).flatMap (·.2.files) =
        files ++ index.2.files ++ rest.flatMap (·.2.files) := by simp
    rw [whole] at named distinct ⊢
    have step : mergeIndex folder files index = .ok (files ++ index.2.files) := by
      unfold mergeIndex
      rw [require_bind_ok]
      refine ⟨schema index List.mem_cons_self, mergeEntries_ok ?_ ?_⟩
      · exact fun entry member => named entry (List.mem_append_left _ member)
      · rw [List.map_append] at distinct
        exact (List.nodup_append.mp distinct).1
    rw [List.foldlM_cons, step]
    exact induction (fun other member => schema other (List.mem_cons_of_mem _ member)) named distinct

end Merging

section Invariant

variable {δ : Type} {tools : Tools δ} {original : Path → Option Entry} {d d' : Disk δ}

/-- The record describes the stored bytes, and these decode to the raw ones. -/
structure Archives (tools : Tools δ) (name : FileName) (record : Record δ) (raw stored : Bytes) : Prop where
  named : record.storedPath = name.stored
  originalBytes : record.originalBytes = raw.length
  sha256 : record.sha256 = tools.sha256 raw
  storedBytes : record.storedBytes = stored.length
  storedSha256 : record.storedSha256 = tools.sha256 stored
  decodes : tools.decompress stored = some raw

/-- The record has its stored file, which decodes to the payload that was there. -/
def Archived (tools : Tools δ) (original : Path → Option Entry) (d : Disk δ) (folder : Folder)
    (entry : FileName × Record δ) : Prop :=
  ¬entry.1.isStored ∧ ∃ raw stored,
    original ⟨folder, entry.1⟩ = some (.file raw) ∧
    d.entries ⟨folder, entry.1.stored⟩ = some (.file stored) ∧
    Archives tools entry.1 entry.2 raw.bytes stored.bytes

/-- The indexes are consistent, and a raw payload is gone only when it is indexed. -/
structure Sound (tools : Tools δ) (original : Path → Option Entry) (d : Disk δ) : Prop where
  schema : ∀ folder, ∀ index ∈ d.indexes folder, index.2.schema = 1
  distinct : ∀ folder, (d.logicalNames folder).Nodup
  archived : ∀ folder, ∀ entry ∈ d.records folder, Archived tools original d folder entry
  raw : ∀ path, ¬path.name.isStored →
    d.entries path = original path ∨ d.entries path = none ∧ path.name ∈ d.logicalNames path.parent

theorem Sound.start : Sound tools original { entries := original } where
  schema _ _ member := by cases member
  distinct _ := List.nodup_nil
  archived _ _ member := by cases member
  raw _ _ := .inl rfl

theorem Sound.of_same (sound : Sound tools original d) (entries : d'.entries = d.entries)
    (indexes : d'.indexes = d.indexes) : Sound tools original d' := by
  cases d
  cases d'
  cases entries
  cases indexes
  exact ⟨sound.schema, sound.distinct, sound.archived, sound.raw⟩

/-- A file appears at a stored name that was free. -/
theorem Sound.link (sound : Sound tools original d) {path : Path} {entry : Entry}
    (free : ¬d.lexists path.stored) : Sound tools original (d.setEntry path.stored (some entry)) where
  schema := sound.schema
  distinct := sound.distinct
  archived folder other member := by
    obtain ⟨plain, raw, stored, before, there, archives⟩ := sound.archived folder other member
    refine ⟨plain, raw, stored, before, ?_, archives⟩
    rw [Disk.setEntry_other, there]
    intro same
    rw [← same, Disk.lexists, there] at free
    exact free rfl
  raw other plain := by
    have apart : other ≠ path.stored := by
      rintro rfl
      exact plain (FileName.stored_isStored _)
    rw [Disk.setEntry_other d apart]
    exact sound.raw other plain

/-- An indexed raw payload goes. -/
theorem Sound.unlink (sound : Sound tools original d) {path : Path} (plain : ¬path.name.isStored)
    (indexed : path.name ∈ d.logicalNames path.parent) : Sound tools original (d.setEntry path none) where
  schema := sound.schema
  distinct := sound.distinct
  archived folder other member := by
    obtain ⟨flat, raw, stored, before, there, archives⟩ := sound.archived folder other member
    refine ⟨flat, raw, stored, before, ?_, archives⟩
    rw [Disk.setEntry_other, there]
    rintro rfl
    exact plain (FileName.stored_isStored _)
  raw other flat := by
    by_cases same : other = path
    · subst same
      exact .inr ⟨Disk.setEntry_same .., indexed⟩
    · rw [Disk.setEntry_other d same]
      exact sound.raw other flat

theorem records_addIndex (d : Disk δ) (folder other : Folder) (name : IndexName) (index : Index δ) :
    (d.addIndex folder name index).records other =
      if other = folder then d.records folder ++ index.files else d.records other := by
  unfold Disk.records
  by_cases same : other = folder
  · subst same
    simp
  · rw [Disk.addIndex_other d same, if_neg same]

theorem logicalNames_addIndex {name : FileName} {folder other : Folder} {label : IndexName}
    {index : Index δ} (member : name ∈ d.logicalNames other) :
    name ∈ (d.addIndex folder label index).logicalNames other := by
  unfold Disk.logicalNames at *
  rw [records_addIndex]
  split
  case isTrue same =>
    subst same
    rw [List.map_append]
    exact List.mem_append_left _ member
  case isFalse => exact member

/-- New records whose stored files stand. -/
theorem Sound.addIndex (sound : Sound tools original d) {folder : Folder} {name : IndexName} {index : Index δ}
    (schema : index.schema = 1) (distinct : (index.files.map Prod.fst).Nodup)
    (vacant : ∀ entry ∈ index.files, entry.1 ∉ d.logicalNames folder)
    (archived : ∀ entry ∈ index.files, Archived tools original d folder entry) :
    Sound tools original (d.addIndex folder name index) where
  schema other added member := by
    by_cases same : other = folder
    · subst same
      rw [Disk.addIndex_same, List.mem_append, List.mem_singleton] at member
      rcases member with old | rfl
      · exact sound.schema other added old
      · exact schema
    · rw [Disk.addIndex_other d same] at member
      exact sound.schema other added member
  distinct other := by
    unfold Disk.logicalNames
    rw [records_addIndex]
    split
    · rw [List.map_append, List.nodup_append]
      refine ⟨sound.distinct folder, distinct, ?_⟩
      rintro first old second new rfl
      obtain ⟨entry, listed, same⟩ := List.mem_map.mp new
      exact vacant entry listed (same ▸ old)
    · exact sound.distinct other
  archived other entry member := by
    rw [records_addIndex] at member
    split at member
    case isTrue same =>
      subst same
      rcases List.mem_append.mp member with old | new
      · exact sound.archived other entry old
      · exact archived entry new
    case isFalse => exact sound.archived other entry member
  raw path plain := by
    rcases sound.raw path plain with same | ⟨gone, indexed⟩
    · exact .inl same
    · exact .inr ⟨gone, logicalNames_addIndex indexed⟩

theorem indexPaths_records (d : Disk δ) (folder : Folder) :
    ((indexPaths d folder).flatMap (·.2.files)).Perm (d.records folder) :=
  (List.mergeSort_perm _ _).flatMap_right _

/-- The merged index is a rearrangement of all the records. -/
theorem Sound.loadIndex (sound : Sound tools original d) (folder : Folder) :
    ∃ index, loadIndex d folder = .ok index ∧ index.Perm (d.records folder) := by
  have perm := indexPaths_records d folder
  refine ⟨_, @mergeIndexes_ok _ _ [] _ ?_ ?_ ?_, perm⟩
  · intro index member
    exact sound.schema folder index ((List.mergeSort_perm _ _).mem_iff.mp member)
  · intro entry member
    obtain ⟨-, _, _, -, -, archives⟩ := sound.archived folder entry (perm.mem_iff.mp member)
    exact archives.named
  · rw [List.nil_append, (perm.map Prod.fst).nodup_iff]
    exact sound.distinct folder

theorem getRecord_none {index : List (FileName × Record δ)} {name : FileName}
    (found : getRecord index name.chars = none) : name ∉ index.map Prod.fst := by
  unfold getRecord at found
  rw [Option.map_eq_none_iff, List.find?_eq_none] at found
  intro member
  obtain ⟨entry, listed, rfl⟩ := List.mem_map.mp member
  exact found entry listed (by simp)

theorem getRecord_some {index : List (FileName × Record δ)} {name : FileName} {record : Record δ}
    (found : getRecord index name.chars = some record) : (name, record) ∈ index := by
  unfold getRecord at found
  obtain ⟨entry, first, rfl⟩ := Option.map_eq_some_iff.mp found
  have same : entry.1 = name := FileName.ext (by simpa using List.find?_some first)
  subst same
  exact List.mem_of_find?_eq_some first

theorem logicalName_plain {path : Path} (plain : ¬path.name.isStored) : logicalName path = path.name.chars :=
  if_neg plain

theorem decode_plain {path : Path} (plain : ¬path.name.isStored) (bytes : Bytes) :
    decode tools path bytes = .ok bytes := by
  unfold decode
  rw [if_neg]
  · rfl
  · intro same
    apply plain
    unfold FileName.isStored
    rw [← same]
    exact suffix_suffix _

theorem decode_stored {path : Path} {bytes raw : Bytes} (decodes : tools.decompress bytes = some raw) :
    decode tools path.stored bytes = .ok raw := by
  have ending : suffix path.stored.name.chars = ".zst".toList := suffix_stored path.name.plain.1
  unfold decode
  rw [if_pos ending, decodes]
  rfl

theorem readFile_ok {path : Path} {file : File} (there : d.entries path = some (.file file)) :
    readFile d path = .ok file.bytes := by
  unfold readFile Disk.file?
  rw [there]
  rfl

theorem noSymlinks_ok {path : Path} (plain : d.entries path ≠ some .symlink) : noSymlinks d path = .ok () :=
  if_pos plain

theorem require_pass {condition : Prop} [Decidable condition] {failure : Failure} (holds : condition) :
    require condition failure = .ok () := if_pos holds

section Resolving

variable {path : Path} {index : List (FileName × Record δ)}
  (regular : d.entries path = none ∨ ∃ file, d.entries path = some (.file file))
  (loaded : loadIndex d path.parent = .ok index) (plain : ¬path.name.isStored)

include regular loaded plain

/-- `resolve_payload` at a path where nothing but a file may stand, after the index is loaded. -/
theorem resolvePayload_ok [DecidableEq δ] {result : Path} (rest : (match getRecord index path.name.chars with
      | some record => do
        noSymlinks d { path with name := record.storedPath }
        require (d.file? { path with name := record.storedPath }).isSome
          (.evidence (.missingIndexed { path with name := record.storedPath }))
        checkRaw tools d path record
        return { path with name := record.storedPath }
      | none => resolveUnindexed d path) = .ok result) : resolvePayload tools d path = .ok result := by
  have link : d.entries path ≠ some .symlink := by
    rcases regular with none | ⟨file, some⟩
    · rw [none]
      nofun
    · rw [some]
      nofun
  have file : d.lexists path → (d.file? path).isSome := by
    unfold Disk.lexists Disk.file?
    rcases regular with none | ⟨file, some⟩
    · rw [none]
      exact id
    · rw [some]
      exact id
  unfold resolvePayload
  rw [noSymlinks_ok link, require_pass file, loaded, logicalName_plain plain]
  exact rest

theorem openPayload_unindexed [DecidableEq δ] {file : File} (found : getRecord index path.name.chars = none)
    (there : d.entries path = some (.file file)) : openPayload tools d path = .ok file.bytes := by
  have resolved : resolvePayload tools d path = .ok path := by
    apply resolvePayload_ok regular loaded plain
    rw [found]
    simp [resolveUnindexed, Disk.file?, there, pure, Except.pure]
  unfold openPayload
  rw [resolved, loaded, logicalName_plain plain]
  change (readFile d path >>= _) = _
  rw [readFile_ok there, found]
  exact decode_plain plain _

theorem openPayload_indexed [DecidableEq δ] {record : Record δ} {raw : Bytes} {stored : File}
    (found : getRecord index path.name.chars = some record)
    (same : ∀ file, d.entries path = some (.file file) → file.bytes = raw)
    (standing : d.entries path.stored = some (.file stored))
    (archives : Archives tools path.name record raw stored.bytes) : openPayload tools d path = .ok raw := by
  have place : ({ path with name := record.storedPath } : Path) = path.stored := by
    rw [archives.named]
    rfl
  have isFile : d.file? path.stored = some stored := by
    unfold Disk.file?
    rw [standing]
  have checked : checkRaw tools d path record = .ok () := by
    unfold checkRaw Disk.file?
    rcases regular with none | ⟨file, some⟩
    · rw [none]
      rfl
    · rw [some]
      dsimp only
      rw [if_pos (logicalName_plain plain).symm, same file some]
      exact require_pass ⟨archives.originalBytes.symm, archives.sha256.symm⟩
  have resolved : resolvePayload tools d path = .ok path.stored := by
    apply resolvePayload_ok regular loaded plain
    rw [found]
    dsimp only
    rw [place, noSymlinks_ok (by rw [standing]; nofun), require_pass (by rw [isFile]; rfl), checked]
    rfl
  unfold openPayload
  rw [resolved, loaded, logicalName_plain plain]
  change (readFile d path.stored >>= _) = _
  rw [readFile_ok standing, found]
  change (checkStored tools path.stored stored.bytes record >>= _) = _
  rw [checkStored, require_pass ⟨archives.storedBytes.symm, archives.storedSha256.symm⟩]
  change (decode tools path.stored stored.bytes >>= _) = _
  rw [decode_stored archives.decodes]
  change (require _ _ >>= _) = _
  rw [require_pass ⟨archives.originalBytes.symm, archives.sha256.symm⟩]
  rfl

end Resolving

theorem Sound.openPayload [DecidableEq δ] (sound : Sound tools original d) {path : Path} {file : File}
    (there : original path = some (.file file)) (plain : ¬path.name.isStored) :
    openPayload tools d path = .ok file.bytes := by
  obtain ⟨index, loaded, perm⟩ := sound.loadIndex path.parent
  have raw := sound.raw path plain
  rw [there] at raw
  have regular : d.entries path = none ∨ ∃ file, d.entries path = some (.file file) := by
    rcases raw with same | ⟨gone, -⟩
    · exact .inr ⟨file, same⟩
    · exact .inl gone
  cases found : getRecord index path.name.chars with
  | none =>
    have absent : path.name ∉ d.logicalNames path.parent := by
      rw [Disk.logicalNames, ← (perm.map Prod.fst).mem_iff]
      exact getRecord_none found
    rcases raw with same | ⟨-, indexed⟩
    · exact openPayload_unindexed regular loaded plain found same
    · exact absurd indexed absent
  | some record =>
    obtain ⟨-, before, stored, was, standing, archives⟩ :=
      sound.archived path.parent _ (perm.mem_iff.mp (getRecord_some found))
    have same : before = file := by
      rw [there] at was
      cases was
      rfl
    subst same
    refine openPayload_indexed regular loaded plain found (fun other present => ?_) standing archives
    rcases raw with same | ⟨gone, -⟩
    · rw [same] at present
      cases present
      rfl
    · rw [gone] at present
      cases present

end Invariant

end Darling.Evidence
