import Darling.Evidence.Soundness

/-! Compression loses no payload: whatever cuts a call short, the directory keeps its invariant, so the
indexes load, every record describes the stored file it names, and every payload is read back. -/
namespace Darling.Evidence

variable {δ : Type} {tools : Tools δ} {original : Path → Option Entry} {around : Surroundings}
  {d : Disk δ} {all items : List (Prepared δ)}

theorem lower_zst : tools.lower ".zst".toList = ".zst".toList := by
  have ascii : ".zst".toList.all (fun c => c.toNat < 128) = true := by decide
  rw [tools.lower_ascii]
  · decide
  · simpa only [List.all_eq_true, decide_eq_true_eq] using ascii

/-- Files of the stored form are never compressed. -/
theorem eligible_plain {path : Path} {explicit : Bool} (passed : eligible tools d path explicit = true) :
    ¬path.name.isStored := by
  rintro ⟨stem, whole⟩
  unfold eligible at passed
  rw [← whole] at passed
  by_cases empty : stem = []
  · subst empty
    rw [List.nil_append, lower_zst] at passed
    exact absurd passed (by simp [METADATA_NAMES, METADATA_STARTS, texts])
  · rw [suffix_stored empty, lower_zst] at passed
    simp [METADATA_SUFFIXES, texts] at passed

theorem inspect_file [DecidableEq δ] {path : Path} {explicit : Bool} {file : File}
    (passed : inspect tools around path explicit d = .ok (.inr file)) :
    d.entries path = some (.file file) ∧ ¬path.name.isStored := by
  unfold inspect at passed
  obtain ⟨-, -, passed⟩ := bind_ok.mp passed
  split at passed
  case isTrue => cases passed
  case isFalse allowed =>
    simp only [Bool.or_eq_true, Bool.not_eq_true', not_or, Bool.not_eq_false, Bool.not_eq_true] at allowed
    have plain : ¬path.name.isStored := eligible_plain allowed.2
    split at passed
    case h_1 =>
      split at passed
      · obtain ⟨_, -, done⟩ := bind_ok.mp passed
        cases done
      · cases passed
    case h_2 => cases passed
    case h_3 => cases passed
    case h_4 there =>
      refine ⟨?_, plain⟩
      rw [there]
      unfold inspectFile at passed
      repeat'
        split at passed
        · cases passed
      rw [require_bind_ok] at passed
      cases passed.2
      rfl

theorem reading_holds {α : Type} {point : Point} {look : Disk δ → Except Failure α} {holds kept : Disk δ → Prop}
    (safe : ∀ d, holds d → kept d) :
    Triple (Holds holds) (reading point look) (fun value => Holds fun d => look d = .ok value ∧ holds d)
      (fun _ => Holds kept) := by
  refine act_holds (fun value d => look d = .ok value ∧ holds d) safe fun d value d' held changed => ?_
  obtain ⟨seen, looked, same⟩ := bind_ok.mp changed
  cases same
  exact ⟨looked, held⟩

/-- A prepared payload: its temporary holds what its record says. -/
structure Ready (tools : Tools δ) (original : Path → Option Entry) (item : Prepared δ) (d : Disk δ) : Prop where
  older : item.temporary < d.made
  plain : ¬item.path.name.isStored
  there : original item.path = some (.file item.original)
  content : ∃ file, d.partials item.temporary = some (.payload file) ∧
    Archives tools item.path.name item.record.2 item.original.bytes file.bytes

structure Staged (tools : Tools δ) (original : Path → Option Entry) (items : List (Prepared δ)) (d : Disk δ) :
    Prop where
  sound : Sound tools original d
  ready : ∀ item ∈ items, Ready tools original item d

/-- The temporary is younger than those of the payloads. -/
def Newer (items : List (Prepared δ)) (id : Nat) : Prop := ∀ item ∈ items, item.temporary < id

namespace Staged

theorem newer (staged : Staged tools original items d) : Newer items d.made :=
  fun item member => (staged.ready item member).older

theorem create (staged : Staged tools original items d) : Staged tools original items d.create where
  sound := staged.sound.of_same rfl rfl
  ready item member := by
    obtain ⟨older, plain, there, file, held, archives⟩ := staged.ready item member
    refine ⟨Nat.lt_succ_of_lt older, plain, there, file, ?_, archives⟩
    change (d.setPartial d.made _).partials _ = _
    rw [d.setPartial_other (Nat.ne_of_lt older), held]

theorem setPartial (staged : Staged tools original items d) {id : Nat} (newer : Newer items id)
    (content : Option (Partial δ)) : Staged tools original items (d.setPartial id content) where
  sound := staged.sound.of_same rfl rfl
  ready item member := by
    obtain ⟨older, plain, there, file, held, archives⟩ := staged.ready item member
    refine ⟨older, plain, there, file, ?_, archives⟩
    rw [d.setPartial_other (Nat.ne_of_lt (newer item member)), held]

/-- The temporaries of the payloads do not depend on the files and the indexes. -/
theorem of_sound {d' : Disk δ} (staged : Staged tools original items d) (sound : Sound tools original d')
    (partials : d'.partials = d.partials) (made : d'.made = d.made) : Staged tools original items d' where
  sound := sound
  ready item member := by
    obtain ⟨older, plain, there, content⟩ := staged.ready item member
    rw [← made] at older
    rw [← partials] at content
    exact ⟨older, plain, there, content⟩

theorem append {item : Prepared δ} (staged : Staged tools original items d) (ready : Ready tools original item d) :
    Staged tools original (items ++ [item]) d where
  sound := staged.sound
  ready other member := by
    rcases List.mem_append.mp member with old | new
    · exact staged.ready other old
    · cases List.mem_singleton.mp new
      exact ready

end Staged

theorem removePartial_staged {temporary : Nat} (newer : Newer all temporary) :
    Triple (Holds (Staged tools original all)) (removePartial temporary)
      (fun _ => Holds (Staged tools original all)) (fun _ => Holds (Staged tools original all)) :=
  write_holds _ (fun _ => id) fun _ staged => staged.setPartial newer none

/-- The payload a preparation leaves open. -/
def Preparation.payloads : Preparation δ → List (Prepared δ)
  | retained _ => []
  | prepared item => [item]

section Preparing

variable {path : Path} {file : File} {temporary : Nat}

/-- The temporary belongs to the caller and holds the file. -/
structure Filled (tools : Tools δ) (original : Path → Option Entry) (all : List (Prepared δ)) (temporary : Nat)
    (stored : File) (d : Disk δ) : Prop where
  staged : Staged tools original all d
  older : temporary < d.made
  content : d.partials temporary = some (.payload stored)

theorem Filled.fill {content : Partial δ} {stored : File} (newer : Newer all temporary)
    (staged : Staged tools original all d) (older : temporary < d.made) (same : content = .payload stored) :
    Filled tools original all temporary stored (d.setPartial temporary (some content)) where
  staged := staged.setPartial newer _
  older := older
  content := by rw [Disk.setPartial_same, same]

variable (newer : Newer all temporary) (there : original path = some (.file file)) (plain : ¬path.name.isStored)

include newer there plain

theorem settle_staged [DecidableEq δ] {stored : File} (decodes : tools.decompress stored.bytes = some file.bytes) :
    Triple (Holds (Filled tools original all temporary stored))
      (settle tools path file temporary ⟨file.bytes.length, stored.bytes.length, tools.sha256 file.bytes⟩ stored)
      (fun result => Holds fun d =>
        (∀ item ∈ result.payloads, item.path = path) ∧ Staged tools original (all ++ result.payloads) d)
      (fun _ => Holds (Staged tools original all)) := by
  unfold settle
  refine Triple.bind (reading_holds fun _ held => held.staged) fun _ => ?_
  refine Triple.bind (reading_holds fun _ held => held.2.staged) fun _ => ?_
  refine Triple.bind (write_holds (Filled tools original all temporary
    { stored with executable := file.executable }) (fun _ held => held.2.2.staged) fun d held => ?_) fun _ => ?_
  · exact Filled.fill newer held.2.2.staged held.2.2.older rfl
  refine Triple.bind (sync_holds fun _ held => held.staged) fun _ => ?_
  refine Triple.pure fun p held => ⟨?_, held.staged.append ?_⟩
  · intro item member
    cases List.mem_singleton.mp member
    rfl
  · exact ⟨held.older, plain, there, _, held.content, rfl, rfl, rfl, rfl, rfl, decodes⟩

theorem compressInto_staged [DecidableEq δ] :
    Triple (Holds fun d => Staged tools original all d ∧ temporary < d.made)
      (compressInto tools path file temporary)
      (fun result => Holds fun d =>
        (∀ item ∈ result.payloads, item.path = path) ∧ Staged tools original (all ++ result.payloads) d)
      (fun _ => Holds (Staged tools original all)) := by
  let stored : File := { bytes := tools.compress file.bytes, stamp := temporary }
  unfold compressInto
  refine Triple.bind (write_holds (Filled tools original all temporary stored)
    (fun _ held => held.1) fun d held => ?_) fun _ => ?_
  · exact Filled.fill newer held.1 held.2 rfl
  refine Triple.bind (sync_holds fun _ held => held.staged) fun _ => ?_
  refine Triple.bind (reading_holds fun _ held => held.staged) fun seen => ?_
  refine Triple.given (seen = stored) (fun p held => ?_) fun same => ?_
  · have looked := held.1
    unfold readPartial at looked
    rw [held.2.content] at looked
    cases looked
    rfl
  subst same
  dsimp only
  refine Triple.ite (fun _ => ?_) fun _ => ?_
  · refine Triple.pure fun p held => ⟨nofun, ?_⟩
    rw [Preparation.payloads, List.append_nil]
    exact held.2.staged
  · exact (settle_staged newer there plain (tools.lossless _)).strengthen fun _ held => held.2

omit newer in
theorem stage_staged [DecidableEq δ] :
    Triple (Holds (Staged tools original all)) (stage tools path file)
      (fun result => Holds fun d =>
        (∀ item ∈ result.payloads, item.path = path) ∧ Staged tools original (all ++ result.payloads) d)
      (fun _ => Holds (Staged tools original all)) := by
  unfold stage makePartial
  refine Triple.bind (act_holds (fun made d => Newer all made ∧ Staged tools original all d ∧ made < d.made)
    (fun _ => id) fun d made d' staged changed => ?_) fun made => ?_
  · cases changed
    exact ⟨staged.newer, staged.create, Nat.lt_succ_self _⟩
  refine Triple.given (Newer all made) (fun _ held => held.1) fun newer => ?_
  have removed : Triple (Holds (Staged tools original all)) (removePartial made) _ _ := removePartial_staged newer
  refine Triple.bind (handle_holds (Staged tools original all) ((compressInto_staged newer there plain).strengthen
    fun _ held => held.2) (fun _ => id) fun error => ?_) fun result => ?_
  · exact Triple.bind removed fun _ => raise_triple fun _ => id
  · cases result with
    | retained report =>
      refine Triple.bind (removed.strengthen fun p held => ?_) fun _ => Triple.pure fun p held => ⟨nofun, ?_⟩
      · have staged := held.2
        rwa [Preparation.payloads, List.append_nil] at staged
      · rwa [Preparation.payloads, List.append_nil]
    | prepared item => exact Triple.pure fun _ => id

end Preparing

/-- Whatever happens to `_prepare_file`, only a temporary is left, and a prepared payload is ready. -/
theorem prepareFile_staged [DecidableEq δ] (path : Path) (explicit : Bool) :
    Triple (Holds (Staged tools original all)) (prepareFile tools around path explicit)
      (fun result => Holds fun d =>
        (∀ item ∈ result.payloads, item.path = path) ∧ Staged tools original (all ++ result.payloads) d)
      (fun _ => Holds (Staged tools original all)) := by
  unfold prepareFile
  refine Triple.bind (reading_holds fun _ => id) fun seen => ?_
  cases seen with
  | inl report =>
    refine Triple.pure fun p held => ⟨nofun, ?_⟩
    rw [Preparation.payloads, List.append_nil]
    exact held.2
  | inr file =>
    refine Triple.given (original path = some (.file file) ∧ ¬path.name.isStored) (fun p held => ?_) fun fact => ?_
    · obtain ⟨there, plain⟩ := inspect_file held.1
      refine ⟨?_, plain⟩
      rcases held.2.sound.raw path plain with same | ⟨gone, -⟩
      · rw [← same, there]
      · rw [there] at gone
        cases gone
    · exact (stage_staged fact.1 fact.2).strengthen fun _ held => held.2

section Publishing

variable {folder : Folder} {done : List (Prepared δ)}

theorem checkPrepared_holds {holds kept : Disk δ → Prop} (moment : Option Moment) (safe : ∀ d, holds d → kept d) :
    Triple (Holds holds) (checkPrepared around items moment) (fun _ => Holds holds) (fun _ => Holds kept) :=
  (reading_holds safe).conclude (fun _ _ held => held.2) fun _ _ => id

theorem checkVacant_ok (sound : Sound tools original d) (passed : checkVacant folder items d = .ok ()) :
    ∀ item ∈ items, item.path.name ∉ d.logicalNames folder := by
  obtain ⟨index, loaded, perm⟩ := sound.loadIndex folder
  unfold checkVacant at passed
  rw [loaded] at passed
  intro item member indexed
  have vacant := require_ok.mp (forM_ok.mp passed item member)
  exact vacant.1 ((perm.map Prod.fst).mem_iff.mpr indexed)

/-- The stored file of the payload stands. -/
def Linked (tools : Tools δ) (item : Prepared δ) (d : Disk δ) : Prop :=
  ∃ file, d.entries item.path.stored = some (.file file) ∧
    Archives tools item.path.name item.record.2 item.original.bytes file.bytes

/-- No index names the payloads yet, and some of them are linked. -/
structure Placed (tools : Tools δ) (original : Path → Option Entry) (all items : List (Prepared δ))
    (folder : Folder) (done : List (Prepared δ)) (d : Disk δ) : Prop where
  staged : Staged tools original all d
  vacant : ∀ item ∈ items, item.path.name ∉ d.logicalNames folder
  linked : ∀ item ∈ done, Linked tools item d

/-- The payloads are indexed. -/
structure Indexed (tools : Tools δ) (original : Path → Option Entry) (all items : List (Prepared δ))
    (folder : Folder) (d : Disk δ) : Prop where
  staged : Staged tools original all d
  indexed : ∀ item ∈ items, item.path.name ∈ d.logicalNames folder

theorem linkStored_placed {item : Prepared δ} (member : item ∈ all) :
    Triple (Holds (Placed tools original all items folder done)) (linkStored item)
      (fun _ => Holds (Placed tools original all items folder (done ++ [item])))
      (fun _ => Holds (Staged tools original all)) := by
  refine act_holds (fun _ => Placed tools original all items folder (done ++ [item])) (fun _ held => held.staged)
    fun d _ d' held changed => ?_
  obtain ⟨file, held', rest⟩ := bind_ok.mp changed
  obtain ⟨free, same⟩ := require_bind_ok.mp rest
  cases same
  refine ⟨held.staged.of_sound (held.staged.sound.link free) rfl rfl, held.vacant, fun other listed => ?_⟩
  rcases List.mem_append.mp listed with old | new
  · obtain ⟨stored, there, archives⟩ := held.linked other old
    refine ⟨stored, ?_, archives⟩
    rw [Disk.setEntry_other, there]
    intro same
    rw [← same, Disk.lexists, there] at free
    exact free rfl
  · cases List.mem_singleton.mp new
    obtain ⟨-, -, -, stored, content, archives⟩ := held.staged.ready item member
    refine ⟨file, Disk.setEntry_same .., ?_⟩
    unfold readPartial at held'
    rw [content] at held'
    cases held'
    exact archives

variable (within : ∀ item ∈ items, item ∈ all ∧ item.path.parent = folder)
  (distinct : (items.map (·.path.name)).Nodup)

include within distinct

theorem additions_sound {name : IndexName} (held : Placed tools original all items folder items d) :
    Sound tools original (d.addIndex folder name (additions items)) := by
  apply held.staged.sound.addIndex rfl
  · simpa [additions, Prepared.record, Function.comp_def] using distinct
  · intro entry member
    obtain ⟨item, listed, rfl⟩ := List.mem_map.mp member
    exact held.vacant item listed
  · intro entry member
    obtain ⟨item, listed, rfl⟩ := List.mem_map.mp member
    obtain ⟨staged, same⟩ := within item listed
    subst same
    obtain ⟨stored, there, archives⟩ := held.linked item listed
    exact ⟨(held.staged.ready item staged).plain, item.original, stored, (held.staged.ready item staged).there,
      there, archives⟩

omit within distinct in
theorem additions_indexed {name : IndexName} {item : Prepared δ} (member : item ∈ items) :
    item.path.name ∈ (d.addIndex folder name (additions items)).logicalNames folder := by
  unfold Disk.logicalNames
  rw [records_addIndex, if_pos rfl, List.map_append]
  apply List.mem_append_right
  exact List.mem_map.mpr ⟨item.record, List.mem_map.mpr ⟨item, member, rfl⟩, rfl⟩

theorem linkIndex_indexed {name : IndexName} {temporary : Nat} :
    Triple (Holds fun d => Placed tools original all items folder items d ∧
        d.partials temporary = some (.index (additions items)))
      (linkIndex folder name temporary) (fun _ => Holds (Indexed tools original all items folder))
      (fun _ => Holds (Staged tools original all)) := by
  refine act_holds (fun _ => Indexed tools original all items folder) (fun _ held => held.1.staged)
    fun d _ d' held changed => ?_
  rw [held.2] at changed
  obtain ⟨-, same⟩ := require_bind_ok.mp changed
  cases same
  exact ⟨held.1.staged.of_sound (additions_sound within distinct held.1) rfl rfl, fun _ => additions_indexed⟩

theorem atomicJson_indexed {name : IndexName} :
    Triple (Holds (Placed tools original all items folder items)) (atomicJson folder name (additions items))
      (fun _ => Holds (Indexed tools original all items folder)) (fun _ => Holds (Staged tools original all)) := by
  unfold atomicJson makePartial
  refine Triple.bind (act_holds (fun made d => Newer all made ∧ Placed tools original all items folder items d)
    (fun _ held => held.staged) fun d made d' held changed => ?_) fun made => ?_
  · cases changed
    exact ⟨held.staged.newer, held.staged.create, held.vacant, held.linked⟩
  refine Triple.given (Newer all made) (fun _ held => held.1) fun newer => ?_
  refine cleaning_holds ?_ ?_ (removePartial_staged newer)
  · refine Triple.bind (write_holds (fun d => Placed tools original all items folder items d ∧
      d.partials made = some (.index (additions items))) (fun _ held => held.2.staged) fun d held => ?_) fun _ => ?_
    · exact ⟨⟨held.2.staged.setPartial newer _, held.2.vacant, held.2.linked⟩, Disk.setPartial_same ..⟩
    refine Triple.bind (sync_holds fun _ held => held.1.staged) fun _ => ?_
    refine Triple.bind (linkIndex_indexed within distinct) fun _ => ?_
    exact sync_holds fun _ held => held.staged
  · exact write_holds _ (fun _ held => held.staged) fun d held => ⟨held.staged.setPartial newer none, held.indexed⟩

omit distinct in
theorem unlinkRaw_indexed {item : Prepared δ} (member : item ∈ items) :
    Triple (Holds (Indexed tools original all items folder)) (unlinkRaw around item)
      (fun _ => Holds (Indexed tools original all items folder)) (fun _ => Holds (Staged tools original all)) := by
  obtain ⟨staged, parent⟩ := within item member
  refine Triple.bind (checkPrepared_holds none fun _ held => held.staged) fun _ => ?_
  refine act_holds (fun _ => Indexed tools original all items folder) (fun _ held => held.staged)
    fun d _ d' held changed => ?_
  obtain ⟨-, same⟩ := require_bind_ok.mp changed
  cases same
  have listed := held.indexed item member
  rw [← parent] at listed
  have sound := held.staged.sound.unlink (held.staged.ready item staged).plain listed
  exact ⟨held.staged.of_sound sound rfl rfl, held.indexed⟩

theorem publishLocked_staged (includeTracked : Option Bool) :
    Triple (Holds (Staged tools original all)) (publishLocked around folder items includeTracked)
      (fun _ => Holds (Staged tools original all)) (fun _ => Holds (Staged tools original all)) := by
  unfold publishLocked checkTracked
  refine Triple.bind (checkPrepared_holds _ fun _ => id) fun _ => ?_
  refine Triple.bind (reading_holds fun _ => id) fun _ => ?_
  have linked : Triple (Holds (Placed tools original all items folder [])) (items.forM linkStored)
      (fun _ => Holds (Placed tools original all items folder items)) (fun _ => Holds (Staged tools original all)) := by
    refine forM_triple (fun done => Holds (Placed tools original all items folder done))
      fun done item rest whole => ?_
    exact linkStored_placed (within item (whole ▸ List.mem_append_right _ List.mem_cons_self)).1
  refine Triple.bind (linked.strengthen fun p held => ?_) fun _ => ?_
  · exact ⟨held.2, checkVacant_ok held.2.sound held.1, nofun⟩
  refine Triple.bind (sync_holds fun _ held => held.staged) fun _ => ?_
  refine Triple.bind (reading_holds fun _ held => held.staged) fun name => ?_
  refine Triple.bind ((atomicJson_indexed within distinct).strengthen fun _ held => held.2) fun _ => ?_
  refine Triple.bind (reading_holds fun _ held => held.staged) fun _ => ?_
  refine Triple.bind (checkPrepared_holds _ fun _ held => held.2.staged) fun _ => ?_
  refine Triple.bind ((forM_invariant fun item member => unlinkRaw_indexed within member).strengthen
    fun _ held => held.2) fun _ => ?_
  exact (sync_holds fun _ held => held.staged).conclude (fun _ _ held => held.staged) fun _ _ => id

/-- Whatever cuts a publication short, the directory keeps the invariant and the temporaries. -/
theorem publishDirectory_staged (dryRun : Bool) (includeTracked : Option Bool) :
    Triple (Holds (Staged tools original all)) (publishDirectory around folder items dryRun includeTracked)
      (fun _ => Holds (Staged tools original all)) (fun _ => Holds (Staged tools original all)) := by
  apply Triple.ite
  · intro _
    exact Triple.bind (checkPrepared_holds _ fun _ => id) fun _ => Triple.pure fun _ => id
  · intro _
    refine Triple.bind (sync_holds fun _ => id) fun _ => ?_
    exact Triple.bind (publishLocked_staged within distinct includeTracked) fun _ => Triple.pure fun _ => id

end Publishing

section Batches

theorem Staged.sound_only : ∀ d, Staged tools original items d → Staged tools original [] d :=
  fun _ staged => ⟨staged.sound, nofun⟩

theorem closeItem_sound (item : Prepared δ) :
    Triple (Holds (Staged tools original [])) (closeItem item) (fun _ => Holds (Staged tools original []))
      (fun _ => Holds (Staged tools original [])) :=
  removePartial_staged nofun

theorem compressFile_sound [DecidableEq δ] (path : Path) (finalized dryRun explicit : Bool) :
    Invariant (Holds (Staged tools original [])) (compressFile tools around path finalized dryRun explicit) := by
  refine Triple.bind (demand_triple fun _ _ => id) fun _ => ?_
  refine Triple.bind ((prepareFile_staged path explicit).strengthen fun _ held => held.2) fun result => ?_
  cases result with
  | retained report => exact Triple.pure fun _ held => held.2
  | prepared item =>
    have published : Triple (Holds (Staged tools original [item]))
        (publishDirectory around item.path.parent [item] dryRun none)
        (fun _ => Holds (Staged tools original [item])) (fun _ => Holds (Staged tools original [item])) := by
      apply publishDirectory_staged
      · intro other member
        cases List.mem_singleton.mp member
        exact ⟨member, rfl⟩
      · exact List.nodup_singleton _
    exact cleaning_holds (published.weaken (fun _ held => held.2) (fun _ p => Staged.sound_only p.disk)
      fun _ p => Staged.sound_only p.disk) (closeItem_sound item) (closeItem_sound item)

theorem prepareCaught_staged [DecidableEq δ] (path : Path) (explicit : Bool) :
    Triple (Holds (Staged tools original all)) (prepareCaught tools around path explicit)
      (fun result => Holds fun d => match result with
        | .ok done => (∀ item ∈ done.payloads, item.path = path) ∧ Staged tools original (all ++ done.payloads) d
        | .error _ => Staged tools original all d)
      (fun _ => Holds (Staged tools original all)) := by
  refine handle_holds (Staged tools original all) ?_ (fun _ => id) fun _ => Triple.pure fun _ => id
  exact Triple.bind (prepareFile_staged path explicit) fun _ => Triple.pure fun _ => id

/-- The prepared payloads are among the given paths, in their order. -/
theorem prepareBatch_staged [DecidableEq δ] (paths : List (Path × Bool)) :
    Triple (Holds (Staged tools original all)) (prepareBatch tools around paths)
      (fun batch => Holds fun d => (batch.prepared.map (·.path)).Sublist (paths.map Prod.fst) ∧
        Staged tools original (all ++ batch.prepared) d)
      (fun _ => Holds (Staged tools original [])) := by
  induction paths generalizing all with
  | nil =>
    refine Triple.pure fun p staged => ⟨List.Sublist.refl _, ?_⟩
    rwa [List.append_nil]
  | cons entry rest induction =>
    obtain ⟨path, explicit⟩ := entry
    -- a turn that prepares nothing leaves the payloads of the later turns
    have later (change : Batch δ → Batch δ) (same : ∀ batch, (change batch).prepared = batch.prepared) :
        Triple (Holds (Staged tools original all)) (do
            let later ← prepareBatch tools around rest
            return change later)
          (fun batch => Holds fun d => (batch.prepared.map (·.path)).Sublist (((path, explicit) :: rest).map Prod.fst) ∧
            Staged tools original (all ++ batch.prepared) d)
          (fun _ => Holds (Staged tools original [])) := by
      refine Triple.bind induction fun batch => Triple.pure fun p held => ?_
      change (((change batch).prepared.map _).Sublist _) ∧ Staged _ _ (all ++ (change batch).prepared) _
      rw [same]
      exact ⟨held.1.cons path, held.2⟩
    refine Triple.bind ((prepareCaught_staged path explicit).fallback fun _ p => Staged.sound_only p.disk)
      fun result => ?_
    rcases result with failure | report | item
    · refine Triple.ite (fun _ => later (·.addReport _) fun _ => rfl) fun _ => Triple.pure fun p staged => ?_
      refine ⟨List.nil_sublist _, ?_⟩
      rwa [List.append_nil]
    · refine (later (·.addReport report) fun _ => rfl).strengthen fun p held => ?_
      have staged := held.2
      rwa [Preparation.payloads, List.append_nil] at staged
    · refine Triple.given (item.path = path) (fun p held => held.1 item (List.mem_singleton_self _)) fun same => ?_
      refine Triple.bind (induction.strengthen fun _ held => held.2) fun batch => Triple.pure fun p held => ?_
      obtain ⟨sublist, staged⟩ := held
      rw [Preparation.payloads, List.append_assoc, List.singleton_append] at staged
      refine ⟨?_, staged⟩
      rw [Batch.addItem, List.map_cons, same, List.map_cons]
      exact sublist.cons_cons path

theorem directories_spec (distinct : (items.map (·.path)).Nodup) {folder : Folder} {group : List (Prepared δ)}
    (member : (folder, group) ∈ directories items) :
    (∀ item ∈ group, item ∈ items ∧ item.path.parent = folder) ∧ (group.map (·.path.name)).Nodup := by
  obtain ⟨_, -, same⟩ := List.mem_map.mp member
  cases same
  have parents (item : Prepared δ) (listed : item ∈ items.filter (·.path.parent = folder)) :
      item ∈ items ∧ item.path.parent = folder := by simpa using listed
  refine ⟨parents, ?_⟩
  have filtered : ((items.filter (·.path.parent = folder)).map (·.path)).Nodup :=
    distinct.sublist (List.filter_sublist.map _)
  have named : (items.filter (·.path.parent = folder)).map (·.path.name) =
      ((items.filter (·.path.parent = folder)).map (·.path)).map Path.name := by
    rw [List.map_map]
    rfl
  rw [named]
  refine filtered.map_on fun first one second two same => ?_
  obtain ⟨item, listed, rfl⟩ := List.mem_map.mp one
  obtain ⟨other, listed', rfl⟩ := List.mem_map.mp two
  have together : item.path.parent = other.path.parent := by
    rw [(parents item listed).2, (parents other listed').2]
  exact Path.ext together same

theorem publishGroups_staged [DecidableEq δ] (dryRun includeTracked : Bool) (groups : List (Folder × List (Prepared δ)))
    (spec : ∀ group ∈ groups, (∀ item ∈ group.2, item ∈ all ∧ item.path.parent = group.1) ∧
      (group.2.map (·.path.name)).Nodup) :
    Triple (Holds (Staged tools original all)) (publishGroups around dryRun includeTracked groups)
      (fun _ => Holds (Staged tools original all)) (fun _ => Holds (Staged tools original all)) := by
  induction groups with
  | nil => exact Triple.pure fun _ => id
  | cons group rest induction =>
    obtain ⟨within, distinct⟩ := spec group List.mem_cons_self
    refine Triple.bind (handle_holds (Staged tools original all)
      (publishDirectory_staged within distinct dryRun (some includeTracked)) (fun _ => id) fun failure => ?_)
      fun _ => ?_
    · exact Triple.ite (fun _ => Triple.pure fun _ => id) fun _ => raise_triple fun _ => id
    · exact Triple.bind (induction fun other member => spec other (List.mem_cons_of_mem _ member))
        fun _ => Triple.pure fun _ => id

theorem finishBatch_staged [DecidableEq δ] (paths : List (Path × Bool)) (batch : Batch δ) (dryRun includeTracked : Bool)
    (distinct : (batch.prepared.map (·.path)).Nodup) :
    Triple (Holds (Staged tools original batch.prepared)) (finishBatch around paths batch dryRun includeTracked)
      (fun _ => Holds (Staged tools original batch.prepared))
      (fun _ => Holds (Staged tools original batch.prepared)) := by
  unfold finishBatch
  cases batch.interruption with
  | some failure => exact raise_triple fun _ => id
  | none =>
    refine Triple.bind (publishGroups_staged dryRun includeTracked _ fun group member =>
      directories_spec distinct member) fun _ => ?_
    exact Triple.bind (forM_invariant fun _ _ => sync_holds fun _ => id) fun _ => Triple.pure fun _ => id

theorem nodup_eraseDups {α : Type} [DecidableEq α] (values : List α) : values.eraseDups.Nodup := by
  cases values with
  | nil => exact List.nodup_nil
  | cons value rest =>
    rw [List.eraseDups_cons, List.nodup_cons]
    refine ⟨fun member => ?_, nodup_eraseDups _⟩
    have kept := List.mem_eraseDups.mp member
    simp at kept
termination_by values.length
decreasing_by
  have shorter := List.length_filter_le (fun other => !other == value) rest
  simp only [List.length_cons]
  omega

theorem distinctPaths_nodup (selection : List (Path × Bool)) : ((distinctPaths selection).map Prod.fst).Nodup := by
  unfold distinctPaths
  rw [List.map_map]
  simpa [Function.comp_def] using nodup_eraseDups (selection.map Prod.fst)

theorem compressBatch_sound [DecidableEq δ] (selection : List (Path × Bool)) (dryRun includeTracked : Bool) :
    Invariant (Holds (Staged tools original []))
      (compressBatch tools around selection dryRun includeTracked) := by
  refine Triple.bind (sync_holds fun _ => id) fun _ => ?_
  refine Triple.bind (prepareBatch_staged _) fun batch => ?_
  have closed : Triple (Holds (Staged tools original [])) (batch.prepared.forM closeItem)
      (fun _ => Holds (Staged tools original [])) (fun _ => Holds (Staged tools original [])) :=
    forM_invariant fun item _ => closeItem_sound item
  refine Triple.assume fun sublist => ?_
  have distinct := (distinctPaths_nodup selection).sublist sublist
  exact cleaning_holds ((finishBatch_staged _ batch dryRun includeTracked distinct).weaken
    (fun _ held => held) (fun _ p => Staged.sound_only p.disk) fun _ p => Staged.sound_only p.disk) closed closed

theorem compressPaths_sound [DecidableEq δ] (dryRun includeTracked : Bool) (batches : List (List (Path × Bool))) :
    Invariant (Holds (Staged tools original [])) (compressPaths tools around dryRun includeTracked batches) := by
  induction batches with
  | nil => exact Invariant.pure _
  | cons batch rest induction =>
    refine Triple.bind (sync_holds fun _ => id) fun _ => ?_
    refine Invariant.bind (compressBatch_sound batch dryRun includeTracked) fun _ => ?_
    exact Invariant.bind induction fun _ => Invariant.pure _

end Batches

theorem perform_sound [DecidableEq δ] (sound : Sound tools original d) (call : Call × Schedule Failure) :
    Sound tools original (perform tools d call) := by
  have invariant : Invariant (Holds (Staged tools original [])) (call.1.program tools) := by
    cases call.1 with
    | file path finalized dryRun explicit around => exact compressFile_sound path finalized dryRun explicit
    | paths selection dryRun includeTracked around => exact compressPaths_sound dryRun includeTracked _
  have start : Holds (Staged tools original []) (Process.mk d call.2 [] : Process Point Failure (Disk δ)) :=
    ⟨sound, nofun⟩
  exact (invariant.ended start).sound

theorem performAll_sound [DecidableEq δ] (sound : Sound tools original d) (calls : List (Call × Schedule Failure)) :
    Sound tools original (performAll tools d calls) := by
  induction calls generalizing d with
  | nil => exact sound
  | cons call rest induction => exact induction (perform_sound sound call)

/-- After any calls on directories of payloads, each cut short anywhere: the indexes load, their records
describe files that stand, and every payload is read back with the bytes it had. -/
theorem compression_loses_nothing [DecidableEq δ] (tools : Tools δ) (payloads : Path → Option Entry)
    (calls : List (Call × Schedule Failure)) :
    (∀ folder, ∃ index, loadIndex (performAll tools { entries := payloads } calls) folder = .ok index ∧
      ∀ entry ∈ index, ∃ stored,
        (performAll tools { entries := payloads } calls).entries ⟨folder, entry.2.storedPath⟩ =
          some (.file stored) ∧
        stored.bytes.length = entry.2.storedBytes ∧ tools.sha256 stored.bytes = entry.2.storedSha256) ∧
    ∀ path file, payloads path = some (.file file) → ¬path.name.isStored →
      openPayload tools (performAll tools { entries := payloads } calls) path = .ok file.bytes := by
  have sound : Sound tools payloads (performAll tools { entries := payloads } calls) :=
    performAll_sound Sound.start calls
  refine ⟨fun folder => ?_, fun path file there plain => sound.openPayload there plain⟩
  obtain ⟨index, loaded, perm⟩ := sound.loadIndex folder
  refine ⟨index, loaded, fun entry member => ?_⟩
  obtain ⟨-, raw, stored, -, standing, archives⟩ := sound.archived folder entry (perm.mem_iff.mp member)
  rw [archives.named]
  exact ⟨stored, standing, archives.storedBytes.symm, archives.storedSha256.symm⟩

def zeros : Bytes := List.replicate 5000 0

/-- A codec that knows one payload, with the bytes as their own digest. -/
def zeroTools : Tools Bytes where
  sha256 := id
  compress bytes := if bytes = zeros then [1] else 0 :: bytes
  decompress
    | [1] => some zeros
    | 0 :: bytes => some bytes
    | _ => none
  lossless bytes := by
    by_cases same : bytes = zeros
    · rw [if_pos same, same]
      rfl
    · rw [if_neg same]
      rfl
  lower text := text.map Char.toLower
  lower_ascii _ _ := rfl

def zeroLog : Path where
  parent := []
  name := ⟨"a.log".toList, by decide, by unfold isIndexName isPartialName; decide⟩

def zeroPayloads : Path → Option Entry := fun path => if path = zeroLog then some (.file { bytes := zeros }) else none

/-- A call that goes through, and a second one that dies at its first step. -/
def zeroCalls : List (Call × Schedule Failure) :=
  [(.file zeroLog true false true {}, []), (.file zeroLog true false true {}, crashAfter 0)]

set_option maxRecDepth 20000 in
theorem compression_loses_nothing_archived :
    (performAll zeroTools { entries := zeroPayloads } zeroCalls).entries zeroLog = none ∧
    openPayload zeroTools (performAll zeroTools { entries := zeroPayloads } zeroCalls) zeroLog = .ok zeros := by
  refine ⟨by decide +kernel, ?_⟩
  exact (compression_loses_nothing zeroTools zeroPayloads zeroCalls).2 zeroLog { bytes := zeros } (if_pos rfl)
    (by decide)

end Darling.Evidence
