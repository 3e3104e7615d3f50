import Darling.Lanes.Contracts

/-! The snapshots of the lanes form a forest over the imported bases, and no operation takes a snapshot
away that a lane in use or one of its descendants stands on, whatever fails on the way. -/
namespace Darling.Lanes

section Records

/-- The modes in which a record stands for snapshots. -/
def Mode.live : Mode → Prop
  | .active => True
  | .freezing => True
  | .frozen => True
  | .creating => False
  | .failed => False
  | .destroying => False

/-- What the store holds for a record: both keys of the lane are on the recorded parent, and the one the
mode speaks of is there. -/
structure Held (digest : Digest) (snapshots : Snapshots) (name : String) (record : Record) : Prop where
  active : record.mode = .active →
    record.key = digest.active name ∧ ∃ snapshot, snapshots.lookup (digest.active name) = some snapshot
  frozen : record.mode = .frozen →
    record.key = digest.committed name ∧ ∃ snapshot, snapshots.lookup (digest.committed name) = some snapshot
  own : record.mode.live → ∀ {snapshot}, snapshots.lookup (digest.active name) = some snapshot →
    snapshot.parent = some record.parentKey
  kept : record.mode.live → ∀ {snapshot}, snapshots.lookup (digest.committed name) = some snapshot →
    snapshot.parent = some record.parentKey

/-- A commit that may be finished at any time: of an import, or of a lane that is being frozen. -/
def Awaited (digest : Digest) (records : String → Option Record) (intent : Intent) : Prop :=
  (∃ token, intent.active = .imported token ∧ intent.name = .base token) ∨
  (∃ name, intent.active = digest.active name ∧ intent.name = digest.committed name ∧
    intent.labels.kind ≠ some .base ∧
    ∀ record, records name = some record → record.mode ≠ .active ∧ record.mode ≠ .frozen)

structure Sound (digest : Digest) (v : View) : Prop where
  grown : Grown v.snapshots
  held : ∀ {name record}, v.records name = some record → Held digest v.snapshots name record
  awaited : ∀ {intent}, v.intent = some intent → Awaited digest v.records intent

variable {digest : Digest} {snapshots snapshots' : Snapshots} {name : String} {record : Record} {v : View}

theorem Held.idle (idle : ¬record.mode.live) : Held digest snapshots name record where
  active mode := by
    rw [mode] at idle
    exact absurd True.intro idle
  frozen mode := by
    rw [mode] at idle
    exact absurd True.intro idle
  own live := absurd live idle
  kept live := absurd live idle

/-- Only the two keys of the lane matter. -/
theorem Held.same (held : Held digest snapshots name record)
    (own : snapshots'.lookup (digest.active name) = snapshots.lookup (digest.active name))
    (kept : snapshots'.lookup (digest.committed name) = snapshots.lookup (digest.committed name)) :
    Held digest snapshots' name record where
  active mode := by
    rw [own]
    exact held.active mode
  frozen mode := by
    rw [kept]
    exact held.frozen mode
  own live {snapshot} found := by
    rw [own] at found
    exact held.own live found
  kept live {snapshot} found := by
    rw [kept] at found
    exact held.kept live found

/-- A new version of a snapshot on the same parent. -/
theorem Held.relabel (held : Held digest snapshots name record) {key : Key} {old new : Snapshot}
    (found : snapshots.lookup key = some old) (linked : new.parent = old.parent) :
    Held digest (snapshots.insert key new) name record where
  active mode := by
    obtain ⟨named, snapshot, present⟩ := held.active mode
    refine ⟨named, ?_⟩
    by_cases same : digest.active name = key
    · exact ⟨new, by rw [same, Finmap.lookup_insert]⟩
    · exact ⟨snapshot, by rw [Finmap.lookup_insert_of_ne _ same, present]⟩
  frozen mode := by
    obtain ⟨named, snapshot, present⟩ := held.frozen mode
    refine ⟨named, ?_⟩
    by_cases same : digest.committed name = key
    · exact ⟨new, by rw [same, Finmap.lookup_insert]⟩
    · exact ⟨snapshot, by rw [Finmap.lookup_insert_of_ne _ same, present]⟩
  own live {snapshot} present := by
    obtain ⟨same, rfl⟩ | ⟨_, present⟩ := lookup_insert_cases present
    · rw [linked]
      rw [← same] at found
      exact held.own live found
    · exact held.own live present
  kept live {snapshot} present := by
    obtain ⟨same, rfl⟩ | ⟨_, present⟩ := lookup_insert_cases present
    · rw [linked]
      rw [← same] at found
      exact held.kept live found
    · exact held.kept live present

theorem committed_ne_active {name other : String} : digest.committed name ≠ digest.active other := nofun

/-- A key that no record in use stands on. -/
def Spare (digest : Digest) (v : View) (key : Key) : Prop :=
  ∀ name record, v.records name = some record → record.mode.live →
    key ≠ digest.active name ∧ key ≠ digest.committed name

/-- No pending commit of the lane. -/
def Unclaimed (digest : Digest) (name : String) (v : View) : Prop :=
  ∀ intent, v.intent = some intent → intent.active ≠ digest.active name

theorem Spare.original {key : Key} (original : key.original) : Spare digest v key := by
  intro name record _ _
  constructor
  · rintro rfl
    exact original
  · rintro rfl
    exact original

/-- The keys of a lane whose record is not in use. -/
theorem Spare.own (apart : Function.Injective digest.lane) {key : Key}
    (shape : key = digest.active name ∨ key = digest.committed name)
    (idle : ∀ record, v.records name = some record → ¬record.mode.live) : Spare digest v key := by
  intro other record recorded live
  have different : digest.lane name ≠ digest.lane other := by
    intro same
    cases apart same
    exact idle record recorded live
  rcases shape with rfl | rfl
  · exact ⟨fun same => different (Key.lane.inj same), nofun⟩
  · exact ⟨nofun, fun same => different (Key.frozen.inj same)⟩

/-- A change of the snapshots that no record in use sees. -/
theorem Sound.unseen (sound : Sound digest v) (grown : Grown snapshots)
    (same : ∀ name record, v.records name = some record → record.mode.live →
      snapshots.lookup (digest.active name) = v.snapshots.lookup (digest.active name) ∧
      snapshots.lookup (digest.committed name) = v.snapshots.lookup (digest.committed name)) :
    Sound digest { v with snapshots } where
  grown := grown
  held {name record} recorded := by
    by_cases live : record.mode.live
    · obtain ⟨own, kept⟩ := same name record recorded live
      exact (sound.held recorded).same own kept
    · exact Held.idle live
  awaited := sound.awaited

theorem Sound.prepare (sound : Sound digest v) {key : Key} {snapshot : Snapshot}
    (fresh : v.snapshots.lookup key = none) (spare : Spare digest v key) (unlabelled : snapshot.labels.kind = none)
    (root : snapshot.parent = none → key.original)
    (child : ∀ above, snapshot.parent = some above →
      above.permanent ∧ ∃ upper, v.snapshots.lookup above = some upper) :
    Sound digest { v with snapshots := v.snapshots.insert key snapshot } := by
  apply sound.unseen (sound.grown.prepare fresh unlabelled root child)
  intro name record recorded live
  obtain ⟨own, kept⟩ := spare name record recorded live
  exact ⟨Finmap.lookup_insert_of_ne _ own.symm, Finmap.lookup_insert_of_ne _ kept.symm⟩

theorem Sound.erase (sound : Sound digest v) {key : Key} (childless : Childless Snapshot.parent v.snapshots key)
    (spare : Spare digest v key) : Sound digest { v with snapshots := v.snapshots.erase key } := by
  apply sound.unseen (sound.grown.erase childless)
  intro name record recorded live
  obtain ⟨own, kept⟩ := spare name record recorded live
  exact ⟨Finmap.lookup_erase_ne own.symm, Finmap.lookup_erase_ne kept.symm⟩

theorem Sound.relabel (sound : Sound digest v) {key : Key} {old new : Snapshot}
    (found : v.snapshots.lookup key = some old) (linked : new.parent = old.parent)
    (kind : new.labels.kind = some .base → key.original) :
    Sound digest { v with snapshots := v.snapshots.insert key new } where
  grown := sound.grown.relabel found linked kind
  held recorded := (sound.held recorded).relabel found linked
  awaited := sound.awaited

/-- The commit of an import. -/
theorem Sound.commit_import (sound : Sound digest v) {token : String} {snapshot : Snapshot}
    (found : v.snapshots.lookup (.imported token) = some snapshot)
    (fresh : v.snapshots.lookup (.base token) = none) :
    Sound digest { v with snapshots := v.snapshots.commit (.base token) (.imported token) snapshot } := by
  refine sound.unseen (sound.grown.commit found fresh id id) ?_
  intro name record _ _
  exact ⟨lookup_commit_other nofun nofun, lookup_commit_other nofun nofun⟩

/-- The commit of a lane that is being frozen: its key changes, the parent stays. -/
theorem Sound.commit_lane (apart : Function.Injective digest.lane) (sound : Sound digest v) {snapshot : Snapshot}
    (found : v.snapshots.lookup (digest.active name) = some snapshot)
    (fresh : v.snapshots.lookup (digest.committed name) = none)
    (idle : ∀ record, v.records name = some record → record.mode ≠ .active ∧ record.mode ≠ .frozen) :
    Sound digest { v with snapshots := v.snapshots.commit (digest.committed name) (digest.active name) snapshot } where
  grown := sound.grown.commit found fresh id id
  awaited := sound.awaited
  held {other record} recorded := by
    by_cases same : other = name
    · subst other
      obtain ⟨inactive, unfrozen⟩ := idle record recorded
      refine ⟨(absurd · inactive), (absurd · unfrozen), ?_, ?_⟩
      · intro _ _ present
        cases present.symm.trans (lookup_commit_active nofun)
      · intro live _ present
        cases present.symm.trans lookup_commit_name
        have linked := (sound.held recorded).own live found
        exact linked
    · have different : digest.lane other ≠ digest.lane name := fun equal => same (apart equal)
      apply (sound.held recorded).same
      · exact lookup_commit_other nofun fun equal => different (Key.lane.inj equal)
      · exact lookup_commit_other (fun equal => different (Key.frozen.inj equal)) nofun

theorem Sound.commit (apart : Function.Injective digest.lane) (sound : Sound digest v) {intent : Intent}
    {snapshot : Snapshot} (pending : v.intent = some intent)
    (found : v.snapshots.lookup intent.active = some snapshot)
    (fresh : v.snapshots.lookup intent.name = none) :
    Sound digest { v with snapshots := v.snapshots.commit intent.name intent.active snapshot } := by
  obtain ⟨token, active, named⟩ | ⟨name, active, named, _, idle⟩ := sound.awaited pending
  · rw [active] at found ⊢
    rw [named] at fresh ⊢
    exact sound.commit_import found fresh
  · rw [active] at found ⊢
    rw [named] at fresh ⊢
    exact sound.commit_lane apart found fresh idle

theorem Sound.drop (sound : Sound digest v) : Sound digest { v with intent := none } where
  grown := sound.grown
  held := sound.held
  awaited pending := by cases pending

theorem Sound.intend (sound : Sound digest v) {intent : Intent} (awaited : Awaited digest v.records intent) :
    Sound digest { v with intent := some intent } where
  grown := sound.grown
  held := sound.held
  awaited pending := by
    cases pending
    exact awaited

theorem Sound.setDraft (sound : Sound digest v) (draft : Option Record) : Sound digest { v with draft } :=
  ⟨sound.grown, sound.held, sound.awaited⟩

theorem Sound.setRecord (sound : Sound digest v) {new : Option Record}
    (held : ∀ record, new = some record → Held digest v.snapshots name record)
    (calm : Unclaimed digest name v ∨
      ∀ record, new = some record → record.mode ≠ .active ∧ record.mode ≠ .frozen) :
    Sound digest (v.setRecord name new) where
  grown := sound.grown
  held {other record} recorded := by
    by_cases same : other = name
    · subst other
      exact held record (by simpa [View.setRecord] using recorded)
    · exact sound.held (by simpa [View.setRecord, same] using recorded)
  awaited {intent} pending := by
    rcases sound.awaited pending with imported | ⟨lane, active, named, labelled, idle⟩
    · exact .inl imported
    · refine .inr ⟨lane, active, named, labelled, fun record recorded => ?_⟩
      by_cases same : lane = name
      · subst lane
        rcases calm with unclaimed | calm
        · exact absurd active (unclaimed intent pending)
        · exact calm record (by simpa [View.setRecord] using recorded)
      · exact idle record (by simpa [View.setRecord, same] using recorded)

end Records

section Collecting

variable {digest : Digest} {window : Point → Prop} {kept : View → Prop}

theorem Sound.stable (apart : Function.Injective digest.lane) : Stable (Sound digest) where
  commit sound := sound.commit apart
  relabel sound found linked kind := by
    refine sound.relabel found linked fun base => ?_
    rcases kind base with old | original
    · exact sound.grown.bases found old
    · exact original
  drop := Sound.drop
  labelled {v intent} sound pending base := by
    obtain ⟨token, _, named⟩ | ⟨name, _, _, labelled, _⟩ := sound.awaited pending
    · rw [named]
      exact True.intro
    · exact absurd base labelled

theorem collectBase_runs {key : Key} (sound : ∀ v, kept v → Sound digest v)
    (erased : key.original → ∀ v, kept v → Childless Snapshot.parent v.snapshots key →
      kept { v with snapshots := v.snapshots.erase key }) :
    Runs Disk.view window kept (collectBase key) (fun _ => kept) kept kept := by
  refine Runs.bind (info_runs (fun _ => id) fun _ => id) fun found => ?_
  cases found with
  | none => exact Runs.pure fun _ => And.right
  | some snapshot =>
    refine Runs.onlyIf (fun base => ?_) fun _ _ => And.right
    have original : ∀ v, (v.snapshots.lookup key = some snapshot ∧ kept v) → key.original ∧ kept v := by
      rintro v ⟨found, held⟩
      exact ⟨(sound v held).grown.bases found (of_decide_eq_true base), held⟩
    refine Runs.strengthen ?_ original
    refine Runs.silent_bind children_silent (fun _ => And.right) (fun _ => And.right) fun used => ?_
    refine Runs.onlyIf (fun _ => ?_) fun _ _ => And.right
    have removed : Runs Disk.view window (fun v => key.original ∧ kept v) (SnapshotStore.remove key)
        (fun _ v => key.original ∧ kept v) (fun v => key.original ∧ kept v) (fun v => key.original ∧ kept v) :=
      remove_runs fun v held childless => ⟨held.1, erased held.1 v held.2 childless⟩
    exact removed.weaken (fun _ => id) (fun _ _ => And.right) (fun _ => And.right) (fun _ => And.right)

end Collecting

section Creating

variable {digest : Digest} {window : Point → Prop} {name : String} {parentKey : Key}

/-- Nothing of the lane is in the store, and the pending commit is an import. -/
structure Vacant (digest : Digest) (name : String) (v : View) : Prop where
  sound : Sound digest v
  record : v.records name = none
  own : v.snapshots.lookup (digest.active name) = none
  committed : v.snapshots.lookup (digest.committed name) = none
  importing : ∀ {intent}, v.intent = some intent → ∃ token, intent.active = .imported token ∧ intent.name = .base token

theorem Vacant.unseen {v : View} (vacant : Vacant digest name v) {snapshots : Snapshots}
    (sound : Sound digest { v with snapshots })
    (own : snapshots.lookup (digest.active name) = v.snapshots.lookup (digest.active name))
    (committed : snapshots.lookup (digest.committed name) = v.snapshots.lookup (digest.committed name)) :
    Vacant digest name { v with snapshots } where
  sound := sound
  record := vacant.record
  own := own.trans vacant.own
  committed := committed.trans vacant.committed
  importing := vacant.importing

/-- Keys that are in the store are not those of the lane. -/
theorem Vacant.others {v : View} (vacant : Vacant digest name v) {key : Key} {snapshot : Snapshot}
    (found : v.snapshots.lookup key = some snapshot) : digest.active name ≠ key ∧ digest.committed name ≠ key := by
  constructor
  · rintro rfl
    rw [vacant.own] at found
    cases found
  · rintro rfl
    rw [vacant.committed] at found
    cases found

theorem Vacant.relabel {v : View} (vacant : Vacant digest name v) {key : Key} {old new : Snapshot}
    (found : v.snapshots.lookup key = some old) (linked : new.parent = old.parent)
    (kind : new.labels.kind = some .base → key.original) :
    Vacant digest name { v with snapshots := v.snapshots.insert key new } := by
  obtain ⟨own, committed⟩ := vacant.others found
  apply vacant.unseen (vacant.sound.relabel found linked kind)
  · exact Finmap.lookup_insert_of_ne _ own
  · exact Finmap.lookup_insert_of_ne _ committed

theorem Vacant.stable (apart : Function.Injective digest.lane) : Stable (Vacant digest name) where
  commit {v intent snapshot} vacant pending found fresh := by
    have sound := vacant.sound.commit apart pending found fresh
    obtain ⟨token, active, named⟩ := vacant.importing pending
    rw [active, named] at sound ⊢
    exact vacant.unseen sound (lookup_commit_other nofun nofun) (lookup_commit_other nofun nofun)
  relabel vacant found linked kind :=
    vacant.relabel found linked fun base => (kind base).elim (vacant.sound.grown.bases found) id
  drop vacant := ⟨vacant.sound.drop, vacant.record, vacant.own, vacant.committed, nofun⟩
  labelled vacant := (Sound.stable apart).labelled vacant.sound

theorem Vacant.erase {v : View} (vacant : Vacant digest name v) {key : Key} (original : key.original)
    (childless : Childless Snapshot.parent v.snapshots key) :
    Vacant digest name { v with snapshots := v.snapshots.erase key } := by
  apply vacant.unseen (vacant.sound.erase childless (Spare.original original))
  · refine Finmap.lookup_erase_ne ?_
    rintro rfl
    exact original
  · refine Finmap.lookup_erase_ne ?_
    rintro rfl
    exact original

/-- The base of the request is in the store when `_import_base` returns. -/
theorem importBase_runs (apart : Function.Injective digest.lane) {request : Request} :
    Runs Disk.view window (Vacant digest name) (importBase digest request)
      (fun key v => Vacant digest name v ∧ key.permanent ∧ ∃ snapshot, v.snapshots.lookup key = some snapshot)
      (Vacant digest name) (Vacant digest name) := by
  refine Runs.bind (info_runs (fun _ => id) fun _ => id) fun found => ?_
  cases found with
  | some existing =>
    refine Runs.silent_bind Silent.demand (fun _ => And.right) (fun _ => And.right) fun _ => ?_
    exact Runs.pure fun v held => ⟨held.2, True.intro, existing, held.1⟩
  | none =>
    refine Runs.strengthen ?_ fun _ => And.right
    have prepared : Runs Disk.view window (Vacant digest name)
        (SnapshotStore.prepare .base (.imported (digest.base request.base)) none)
        (fun _ => Vacant digest name) (Vacant digest name) (Vacant digest name) := by
      refine prepare_runs ?_ ?_ (fun _ => id) (fun _ => id)
      · intro v layer lowers vacant fresh
        refine vacant.unseen ?_ (Finmap.lookup_insert_of_ne _ nofun) (Finmap.lookup_insert_of_ne _ nofun)
        exact vacant.sound.prepare fresh (Spare.original True.intro) rfl (fun _ => True.intro) nofun
      · intro v old new vacant present linked kind
        exact vacant.relabel present linked fun _ => True.intro
    refine Runs.bind prepared fun recipe => Runs.bind (Runs.handle (Vacant digest name) ?_ ?_) fun _ =>
      Runs.pure fun _ => id
    · refine Runs.silent_bind (Silent.write fun _ => rfl) (fun _ => id) (fun _ => id) fun _ => ?_
      refine Runs.silent_bind Silent.sync (fun _ => id) (fun _ => id) fun _ => ?_
      have labelled : Runs Disk.view window (Vacant digest name) (act .labelBase fun d =>
          d.label (.imported (digest.base request.base)) { kind := some .base, tree := some (d.trees recipe.upper) })
          (fun _ => Vacant digest name) (Vacant digest name) (Vacant digest name) := by
        refine Runs.act (fun _ => id) (fun _ _ => id) ?_ fun _ _ held _ => held
        intro d value d' vacant changed
        obtain ⟨snapshot, present, rfl⟩ := label_ok changed
        exact vacant.relabel present rfl fun _ => True.intro
      refine Runs.bind labelled fun _ => ?_
      refine (commit_runs (Vacant.stable apart) ?_).weaken (fun _ => id) ?_ (fun _ => id) (fun _ => id)
      · intro v snapshot vacant present
        refine ⟨vacant.sound.intend (.inl ⟨_, rfl, rfl⟩), vacant.record, vacant.own, vacant.committed, ?_⟩
        rintro intent same
        cases same
        exact ⟨_, rfl, rfl⟩
      · rintro _ v ⟨vacant, _, present⟩
        exact ⟨vacant, True.intro, present⟩
    · intro error
      refine Runs.bind (remove_runs fun v vacant childless => ?_) fun _ => Runs.raise fun _ => id
      exact vacant.erase True.intro childless

theorem frozenParent_runs {parent : String} :
    Runs Disk.view window (Vacant digest name) (frozenParent digest parent)
      (fun key v => Vacant digest name v ∧ key.permanent ∧ ∃ snapshot, v.snapshots.lookup key = some snapshot)
      (Vacant digest name) (Vacant digest name) := by
  refine Runs.disk_bind fun d => ?_
  cases recorded : d.record parent with
  | none => exact Runs.raise fun _ => And.right
  | some record =>
    refine Runs.bind (Runs.demand fun _ => And.right) fun _ => ?_
    have frozen : ∀ v, (record.mode = .frozen ∧ d.view = v ∧ Vacant digest name v) →
        Vacant digest name v ∧ record.key.permanent ∧ ∃ snapshot, v.snapshots.lookup record.key = some snapshot := by
      rintro v ⟨mode, rfl, vacant⟩
      obtain ⟨named, present⟩ := (vacant.sound.held recorded).frozen mode
      rw [named]
      exact ⟨vacant, True.intro, present⟩
    refine Runs.strengthen ?_ frozen
    refine Runs.silent_bind recordProblems_silent (fun _ => And.left) (fun _ => And.left) fun _ => ?_
    refine Runs.silent_bind inspect_silent (fun _ => And.left) (fun _ => And.left) fun _ => ?_
    refine Runs.silent_bind checkSnapshotLayers_silent (fun _ => And.left) (fun _ => And.left) fun _ => ?_
    exact Runs.pure fun _ => id

theorem selectParent_runs (apart : Function.Injective digest.lane) {request : Request} :
    Runs Disk.view window (Vacant digest name) (selectParent digest request)
      (fun key v => Vacant digest name v ∧ key.permanent ∧ ∃ snapshot, v.snapshots.lookup key = some snapshot)
      (Vacant digest name) (Vacant digest name) := by
  refine Runs.silent_bind inspect_silent (fun _ => id) (fun _ => id) fun _ => ?_
  cases request.parent with
  | none => exact Runs.silent_bind inspect_silent (fun _ => id) (fun _ => id) fun _ => importBase_runs apart
  | some parent => exact frozenParent_runs

/-- A creation may stop here: no commit of the lane is pending, so its record may take any mode. -/
structure Begun (digest : Digest) (name : String) (v : View) : Prop where
  sound : Sound digest v
  unclaimed : Unclaimed digest name v

/-- The record of the lane is not in use. -/
structure Idle (digest : Digest) (name : String) (v : View) : Prop extends Begun digest name v where
  idle : ∀ record, v.records name = some record → ¬record.mode.live

/-- Before the lane's snapshot is prepared. -/
structure Preparing (digest : Digest) (name : String) (parentKey : Key) (v : View) : Prop
    extends Idle digest name v where
  own : v.snapshots.lookup (digest.active name) = none
  committed : v.snapshots.lookup (digest.committed name) = none
  permanent : parentKey.permanent
  above : ∃ snapshot, v.snapshots.lookup parentKey = some snapshot
  draft : ∀ record, v.draft = some record →
    record.key = digest.active name ∧ record.parentKey = parentKey ∧ ¬record.mode.live

/-- The lane's snapshot is prepared on the parent that the record in memory names. -/
structure Prepared (digest : Digest) (name : String) (parentKey : Key) (v : View) : Prop
    extends Idle digest name v where
  own : ∃ snapshot, v.snapshots.lookup (digest.active name) = some snapshot ∧ snapshot.parent = some parentKey
  committed : v.snapshots.lookup (digest.committed name) = none
  draft : ∀ record, v.draft = some record →
    record.key = digest.active name ∧ record.parentKey = parentKey ∧ record.mode ≠ .frozen

theorem Begun.idleRecord {v : View} (begun : Begun digest name v) {new : Option Record}
    (idle : ∀ record, new = some record → ¬record.mode.live) : Idle digest name (v.setRecord name new) where
  sound := by
    refine begun.sound.setRecord (fun record same => Held.idle (idle record same)) (.inl begun.unclaimed)
  unclaimed := begun.unclaimed
  idle record recorded := idle record (by simpa [View.setRecord] using recorded)

theorem Begun.dropRecord {v : View} (begun : Begun digest name v) : Idle digest name (v.setRecord name none) :=
  begun.idleRecord fun _ same => nomatch same

theorem Idle.erase (apart : Function.Injective digest.lane) {v : View} (begun : Idle digest name v) {key : Key}
    (shape : key.original ∨ key = digest.active name ∨ key = digest.committed name)
    (childless : Childless Snapshot.parent v.snapshots key) :
    Idle digest name { v with snapshots := v.snapshots.erase key } where
  sound := by
    apply begun.sound.erase childless
    rcases shape with original | own
    · exact Spare.original original
    · exact Spare.own apart own begun.idle
  unclaimed := begun.unclaimed
  idle := begun.idle

theorem Prepared.held {v : View} (prepared : Prepared digest name parentKey v) {record : Record}
    (drafted : v.draft = some record) : Held digest v.snapshots name record := by
  obtain ⟨named, linked, unfrozen⟩ := prepared.draft record drafted
  obtain ⟨snapshot, found, parent⟩ := prepared.own
  refine ⟨fun _ => ⟨named, snapshot, found⟩, (absurd · unfrozen), ?_, ?_⟩
  · intro _ other present
    rw [found] at present
    cases present
    rw [linked, parent]
  · intro _ other present
    rw [prepared.committed] at present
    cases present

theorem Preparing.writes {v : View} (preparing : Preparing digest name parentKey v) {record : Record}
    (drafted : v.draft = some record) : Preparing digest name parentKey (v.setRecord name (some record)) where
  toIdle := by
    refine preparing.idleRecord fun other same => ?_
    cases same
    exact (preparing.draft record drafted).2.2
  own := preparing.own
  committed := preparing.committed
  permanent := preparing.permanent
  above := preparing.above
  draft := preparing.draft

theorem prepareLane_runs (apart : Function.Injective digest.lane) :
    Runs Disk.view window (Preparing digest name parentKey)
      (SnapshotStore.prepare .lane (digest.active name) (some parentKey))
      (fun _ v => Prepared digest name parentKey v ∧ ∀ record, v.draft = some record → ¬record.mode.live)
      (Begun digest name) (Begun digest name) := by
  refine prepare_runs ?_ ?_ (fun v preparing => preparing.toBegun) (fun v prepared => prepared.1.toBegun)
  · intro v layer lowers preparing fresh
    have sound : Sound digest
        { v with snapshots := v.snapshots.insert (digest.active name) ⟨.active, some parentKey, {}, layer,
          lowers⟩ } := by
      refine preparing.sound.prepare fresh (Spare.own apart (.inl rfl) preparing.idle) rfl nofun ?_
      rintro above same
      cases same
      exact ⟨preparing.permanent, preparing.above⟩
    refine ⟨⟨⟨⟨sound, preparing.unclaimed⟩, preparing.idle⟩, ⟨_, Finmap.lookup_insert _, rfl⟩, ?_, ?_⟩, ?_⟩
    · exact (Finmap.lookup_insert_of_ne _ committed_ne_active).trans preparing.committed
    · intro record drafted
      obtain ⟨named, linked, idle⟩ := preparing.draft record drafted
      refine ⟨named, linked, fun frozen => idle ?_⟩
      rw [frozen]
      exact True.intro
    · exact fun record drafted => (preparing.draft record drafted).2.2
  · rintro v old new ⟨prepared, idle⟩ found linked kind
    have sound : Sound digest { v with snapshots := v.snapshots.insert (digest.active name) new } := by
      apply prepared.sound.relabel found linked
      rw [kind]
      exact prepared.sound.grown.bases found
    obtain ⟨snapshot, present, parent⟩ := prepared.own
    rw [found] at present
    cases present
    refine ⟨⟨⟨⟨sound, prepared.unclaimed⟩, prepared.idle⟩, ⟨new, Finmap.lookup_insert _, ?_⟩, ?_, prepared.draft⟩, idle⟩
    · exact linked.trans parent
    · exact (Finmap.lookup_insert_of_ne _ committed_ne_active).trans prepared.committed

/-- Whatever stops the publication leaves every other lane as it was. -/
theorem publish_runs (apart : Function.Injective digest.lane) :
    Runs Disk.view window (Preparing digest name parentKey) (publish name (digest.active name) parentKey)
      (fun _ => Begun digest name) (Begun digest name) (Begun digest name) := by
  have begins : ∀ v, Preparing digest name parentKey v → Begun digest name v := fun v held => held.toBegun
  refine Runs.bind (writeDraft_runs begins begins fun v record held drafted => held.writes drafted) fun _ => ?_
  refine Runs.silent_bind (onLane_silent fun _ => rfl) begins begins fun _ => ?_
  refine Runs.silent_bind (Silent.forM fun _ => makeSubdir_silent) begins begins fun _ => ?_
  refine Runs.silent_bind inspect_silent begins begins fun _ => ?_
  refine Runs.bind (prepareLane_runs apart) fun recipe => ?_
  have continues : ∀ v, (Prepared digest name parentKey v ∧ ∀ record, v.draft = some record → ¬record.mode.live) →
      Begun digest name v := fun v held => held.1.toBegun
  have revised : Runs Disk.view window
      (fun v => Prepared digest name parentKey v ∧ ∀ record, v.draft = some record → ¬record.mode.live)
      (revise fun record => { record with recipe := some recipe })
      (fun _ v => Prepared digest name parentKey v ∧ ∀ record, v.draft = some record → ¬record.mode.live)
      (Begun digest name) (Begun digest name) := by
    refine revise_runs ?_
    rintro v ⟨prepared, idle⟩
    refine ⟨⟨⟨⟨prepared.sound.setDraft _, prepared.unclaimed⟩, prepared.idle⟩, prepared.own,
      prepared.committed, ?_⟩, ?_⟩
    · intro record drafted
      obtain ⟨old, known, rfl⟩ := Option.map_eq_some_iff.mp drafted
      exact prepared.draft old known
    · intro record drafted
      obtain ⟨old, known, rfl⟩ := Option.map_eq_some_iff.mp drafted
      exact idle old known
  refine Runs.bind revised fun _ => ?_
  have written : Runs Disk.view window
      (fun v => Prepared digest name parentKey v ∧ ∀ record, v.draft = some record → ¬record.mode.live)
      (writeDraft false name) (fun _ => Prepared digest name parentKey) (Begun digest name) (Begun digest name) := by
    refine writeDraft_runs continues (fun v held => held.toBegun) ?_
    rintro v record ⟨prepared, idle⟩ drafted
    refine ⟨prepared.idleRecord fun other same => ?_, prepared.own, prepared.committed, prepared.draft⟩
    cases same
    exact idle record drafted
  refine Runs.bind written fun _ => ?_
  have stays : ∀ v, Prepared digest name parentKey v → Begun digest name v := fun v held => held.toBegun
  have checked : Silent Disk.view checkDraft := by
    refine Silent.bind Silent.disk fun d => ?_
    cases d.draft with
    | none => exact Silent.raise
    | some record => exact checkSnapshotLayers_silent
  refine Runs.silent_bind checked stays stays fun _ => ?_
  refine Runs.silent_bind mount_silent stays stays fun _ => ?_
  refine Runs.silent_bind inspect_silent stays stays fun _ => ?_
  have adopted : Runs Disk.view window (Prepared digest name parentKey) (adoptMount name)
      (fun _ => Prepared digest name parentKey) (Begun digest name) (Begun digest name) := by
    refine Runs.disk_bind fun d => ?_
    cases (d.lanes name).bind Lane.mount with
    | none => exact Runs.raise fun v held => stays v held.2
    | some identity =>
      refine (revise_runs ?_).strengthen fun _ => And.right
      intro v prepared
      refine ⟨⟨⟨prepared.sound.setDraft _, prepared.unclaimed⟩, prepared.idle⟩, prepared.own, prepared.committed, ?_⟩
      intro record drafted
      obtain ⟨old, known, rfl⟩ := Option.map_eq_some_iff.mp drafted
      exact ⟨(prepared.draft old known).1, (prepared.draft old known).2.1, nofun⟩
  refine Runs.bind adopted fun _ => writeDraft_runs stays (fun _ => id) ?_
  intro v record prepared drafted
  refine ⟨prepared.sound.setRecord ?_ (.inl prepared.unclaimed), prepared.unclaimed⟩
  intro other same
  cases same
  exact prepared.held drafted

theorem rollBack_runs (apart : Function.Injective digest.lane) :
    Runs Disk.view window (Begun digest name) (rollBack name (digest.active name) parentKey)
      (fun _ => Begun digest name) (Begun digest name) (Begun digest name) := by
  refine Runs.silent_bind laneNamespace_silent (fun _ => id) (fun _ => id) fun _ => ?_
  refine Runs.silent_bind info_silent (fun _ => id) (fun _ => id) fun found => ?_
  have checked : Silent Disk.view (checkRollback (digest.active name) parentKey found) := by
    cases found with
    | none => exact Silent.pure
    | some snapshot =>
      exact Silent.bind Silent.demand fun _ => Silent.bind children_silent fun _ => Silent.demand
  refine Runs.silent_bind checked (fun _ => id) (fun _ => id) fun _ => ?_
  refine Runs.silent_bind inspect_silent (fun _ => id) (fun _ => id) fun _ => ?_
  have doomed : Runs Disk.view window (Begun digest name) (revise fun record => { record with mode := .destroying })
      (fun _ v => Begun digest name v ∧ ∀ record, v.draft = some record → ¬record.mode.live)
      (Begun digest name) (Begun digest name) := by
    refine revise_runs fun v begun => ⟨⟨begun.sound.setDraft _, begun.unclaimed⟩, ?_⟩
    intro record drafted
    obtain ⟨old, known, rfl⟩ := Option.map_eq_some_iff.mp drafted
    exact id
  refine Runs.bind doomed fun _ => ?_
  have idles : ∀ v, Idle digest name v → Begun digest name v := fun v held => held.toBegun
  have written : Runs Disk.view window
      (fun v => Begun digest name v ∧ ∀ record, v.draft = some record → ¬record.mode.live)
      (writeDraft false name) (fun _ => Idle digest name) (Begun digest name) (Begun digest name) := by
    refine writeDraft_runs (fun _ => And.left) idles ?_
    rintro v record ⟨begun, idle⟩ drafted
    refine begun.idleRecord fun other same => ?_
    cases same
    exact idle record drafted
  refine Runs.bind written fun _ => ?_
  refine Runs.silent_bind unmount_silent idles idles fun _ => ?_
  have removed : Runs Disk.view window (Idle digest name)
      (onlyIf found.isSome (SnapshotStore.remove (digest.active name))) (fun _ => Idle digest name)
      (Begun digest name) (Begun digest name) := by
    refine Runs.onlyIf (fun _ => ?_) fun _ _ => id
    exact (remove_runs fun v held => held.erase apart (.inr (.inl rfl))).weaken (fun _ => id) (fun _ _ =>
      id) idles idles
  refine Runs.bind removed fun _ => ?_
  have collected : Runs Disk.view window (Idle digest name) (collectBase parentKey) (fun _ => Idle digest name)
      (Begun digest name) (Begun digest name) := by
    have sounds : ∀ v, Idle digest name v → Sound digest v := fun v held => held.sound
    refine (collectBase_runs sounds ?_).weaken (fun _ => id) (fun _ _ => id) idles idles
    exact fun original v held => held.erase apart (.inl original)
  refine Runs.bind collected fun _ => ?_
  exact retireDraft_runs idles (fun _ => id) fun v held => held.dropRecord.toBegun

/-- The publication with its rollback. -/
theorem attemptPublication_runs (apart : Function.Injective digest.lane) :
    Runs Disk.view window (Preparing digest name parentKey)
      (handle (publish name (digest.active name) parentKey) fun error => do
        handle (rollBack name (digest.active name) parentKey) fun _ => do
          revise fun record => { record with mode := .failed }
          writeDraft false name
          raise .rollbackRefused
        SnapshotStore.stopIfEmpty
        raise error)
      (fun _ => Sound digest) (Sound digest) (Sound digest) := by
  have sounds : ∀ v, Begun digest name v → Sound digest v := fun v held => held.sound
  have published : Runs Disk.view window (Preparing digest name parentKey)
      (publish name (digest.active name) parentKey) (fun _ => Begun digest name) (Begun digest name)
      (Begun digest name) := publish_runs apart
  refine Runs.handle (Begun digest name) (published.weaken (fun _ => id) (fun _ => sounds) (fun _ => id) sounds) ?_
  intro error
  have failed : Runs Disk.view window (Begun digest name) (revise fun record => { record with mode := .failed })
      (fun _ v => Begun digest name v ∧ ∀ record, v.draft = some record → ¬record.mode.live)
      (Sound digest) (Sound digest) := by
    refine revise_runs fun v begun => ⟨⟨begun.sound.setDraft _, begun.unclaimed⟩, ?_⟩
    intro record drafted
    obtain ⟨old, known, rfl⟩ := Option.map_eq_some_iff.mp drafted
    exact id
  have written : Runs Disk.view window
      (fun v => Begun digest name v ∧ ∀ record, v.draft = some record → ¬record.mode.live)
      (writeDraft false name) (fun _ => Begun digest name) (Sound digest) (Sound digest) := by
    refine writeDraft_runs (fun v held => sounds v held.1) sounds ?_
    rintro v record ⟨begun, idle⟩ drafted
    refine (begun.idleRecord fun other same => ?_).toBegun
    cases same
    exact idle record drafted
  have rolled : Runs Disk.view window (Begun digest name)
      (handle (rollBack name (digest.active name) parentKey) fun _ => do
        revise fun record => { record with mode := .failed }
        writeDraft false name
        raise .rollbackRefused)
      (fun _ => Begun digest name) (Sound digest) (Sound digest) := by
    refine Runs.handle (Begun digest name) ((rollBack_runs apart).weaken (fun _ => id) (fun _ _ =>
      id) (fun _ => id) sounds)
      fun _ => ?_
    exact Runs.bind failed fun _ => Runs.bind written fun _ => Runs.raise sounds
  refine Runs.bind rolled fun _ => Runs.silent_bind stopIfEmpty_silent sounds sounds fun _ => Runs.raise sounds

theorem createLane_runs (apart : Function.Injective digest.lane) {request : Request} :
    Runs Disk.view window (Sound digest) (createLane digest request) (fun _ => Sound digest) (Sound digest)
      (Sound digest) := by
  refine Runs.silent_bind Silent.disk (fun _ => id) (fun _ => id) fun d => ?_
  refine Runs.silent_bind (Silent.onlyIf requireRetiredLane_silent) (fun _ => id) (fun _ => id) fun _ => ?_
  refine Runs.silent_bind (Silent.bind Silent.disk fun _ => Silent.demand) (fun _ => id) (fun _ => id) fun _ => ?_
  refine Runs.silent_bind inspect_silent (fun _ => id) (fun _ => id) fun _ => ?_
  refine locked_runs (Sound.stable apart) ?_
  refine Runs.bind (reserve_runs fun _ => And.left) fun _ => ?_
  have reserved : ∀ v, (v.records request.name = none ∧ Sound digest v ∧ v.intent = none) → Sound digest v :=
    fun v held => held.2.1
  refine Runs.bind (info_runs reserved reserved) fun own => ?_
  refine Runs.bind (Runs.demand fun v held => reserved v held.2) fun _ => ?_
  refine Runs.bind (info_runs (fun v held => reserved v held.2.2) fun v held => reserved v held.2.2) fun committed => ?_
  refine Runs.bind (Runs.demand fun v held => reserved v held.2.2.2) fun _ => ?_
  have vacant : ∀ v, (committed = none ∧ v.snapshots.lookup (digest.committed request.name) = committed ∧ own = none ∧
      v.snapshots.lookup (digest.active request.name) = own ∧ v.records request.name = none ∧ Sound digest v ∧
      v.intent = none) → Vacant digest request.name v := by
    rintro v ⟨rfl, committed, rfl, own, unrecorded, sound, calm⟩
    refine ⟨sound, unrecorded, own, committed, fun pending => ?_⟩
    rw [calm] at pending
    cases pending
  have sounds : ∀ v, Vacant digest request.name v → Sound digest v := fun v held => held.sound
  refine Runs.strengthen ?_ vacant
  refine Runs.bind ((selectParent_runs apart).weaken (fun _ => id) (fun _ _ => id) sounds sounds) fun parentKey => ?_
  have drafted : Runs Disk.view window
      (fun v => Vacant digest request.name v ∧ parentKey.permanent ∧ ∃ snapshot, v.snapshots.lookup parentKey =
        some snapshot)
      (assign fun d => { d with draft := some (request.record digest parentKey) } : LaneM Unit)
      (fun _ => Preparing digest request.name parentKey) (Sound digest) (Sound digest) := by
    refine Runs.assign ?_
    rintro d ⟨held, permanent, above⟩
    refine ⟨⟨⟨held.sound.setDraft _, ?_⟩, ?_⟩, held.own, held.committed, permanent, above, ?_⟩
    · intro intent pending same
      obtain ⟨token, active, _⟩ := held.importing pending
      cases active.symm.trans same
    · intro record recorded
      cases recorded.symm.trans held.record
    · intro record same
      cases same
      exact ⟨rfl, rfl, id⟩
  exact Runs.bind drafted fun _ => attemptPublication_runs apart

end Creating

section Freezing

variable {digest : Digest} {window : Point → Prop} {name : String} {record : Record}

/-- The lane is being frozen on the recorded parent. -/
structure Freezing (digest : Digest) (name : String) (record : Record) (v : View) : Prop where
  sound : Sound digest v
  recorded : v.records name = some { record with mode := .freezing }

theorem Freezing.stable (apart : Function.Injective digest.lane) : Stable (Freezing digest name record) where
  commit freezing pending found fresh := ⟨freezing.sound.commit apart pending found fresh, freezing.recorded⟩
  relabel freezing found linked kind :=
    ⟨(Sound.stable apart).relabel freezing.sound found linked kind, freezing.recorded⟩
  drop freezing := ⟨freezing.sound.drop, freezing.recorded⟩
  labelled freezing := (Sound.stable apart).labelled freezing.sound

theorem Freezing.intends {v : View} (freezing : Freezing digest name record v) {snapshot : Snapshot}
    (found : v.snapshots.lookup (digest.active name) = some snapshot) :
    Freezing digest name record
      { v with intent := some ⟨digest.committed name, digest.active name, snapshot.parent, snapshot.labels⟩ } where
  recorded := freezing.recorded
  sound := by
    refine freezing.sound.intend (.inr ⟨name, rfl, rfl, ?_, ?_⟩)
    · exact fun base => freezing.sound.grown.bases found base
    · intro other recorded
      cases recorded.symm.trans freezing.recorded
      exact ⟨nofun, nofun⟩

/-- The commit of a freeze, from its label to the finished intent. -/
theorem freezeCommit_runs (apart : Function.Injective digest.lane) {committed : Option Snapshot} :
    Runs Disk.view window
      (fun v => v.snapshots.lookup (digest.committed name) = committed ∧ v.intent = none ∧
        Freezing digest name record v)
      (onlyIf (committed = none) do
        inspect
        act .labelFrozen fun d => d.label (digest.active name)
          { kind := some .frozen, tree := record.recipe.map fun recipe => d.trees recipe.upper }
        SnapshotStore.commit .freezing (digest.committed name) (digest.active name))
      (fun _ v => Freezing digest name record v ∧ v.intent = none ∧
        ∃ snapshot, v.snapshots.lookup (digest.committed name) = some snapshot)
      (Freezing digest name record) (Freezing digest name record) := by
  refine Runs.onlyIf (fun _ => ?_) ?_
  · refine Runs.strengthen ?_ fun v held => held.2.2
    refine Runs.silent_bind inspect_silent (fun _ => id) (fun _ => id) fun _ => ?_
    have labelled : Runs Disk.view window (Freezing digest name record) (act .labelFrozen fun d =>
        d.label (digest.active name)
          { kind := some .frozen, tree := record.recipe.map fun recipe => d.trees recipe.upper })
        (fun _ => Freezing digest name record) (Freezing digest name record) (Freezing digest name record) := by
      refine Runs.act (fun _ => id) (fun _ _ => id) ?_ fun _ _ held _ => held
      intro d value d' freezing changed
      obtain ⟨snapshot, found, rfl⟩ := label_ok changed
      exact ⟨freezing.sound.relabel found rfl nofun, freezing.recorded⟩
    refine Runs.bind labelled fun _ => ?_
    exact commit_runs (Freezing.stable apart) fun v snapshot held => held.intends
  · rintro present v ⟨found, calm, freezing⟩
    refine ⟨freezing, calm, ?_⟩
    rw [found]
    exact Option.ne_none_iff_exists'.mp (of_decide_eq_false present)

theorem freezeLane_runs (apart : Function.Injective digest.lane) :
    Runs Disk.view window (Sound digest) (freezeLane digest name) (fun _ => Sound digest) (Sound digest)
      (Sound digest) := by
  refine locked_runs (Sound.stable apart) (Runs.disk_bind fun d => ?_)
  cases found : d.record name with
  | none => exact Runs.raise fun v held => held.2.1
  | some record =>
    have start : ∀ v, (d.view = v ∧ Sound digest v ∧ v.intent = none) →
        v.records name = some record ∧ Sound digest v ∧ v.intent = none := by
      rintro v ⟨rfl, held⟩
      exact ⟨found, held⟩
    have sounds : ∀ v, (v.records name = some record ∧ Sound digest v ∧ v.intent = none) → Sound digest v :=
      fun v held => held.2.1
    refine Runs.strengthen ?_ start
    refine Runs.silent_bind recordProblems_silent sounds sounds fun _ => ?_
    refine Runs.ite (fun _ => ?_) fun _ => ?_
    · exact (Runs.silent checkSnapshotLayers_silent sounds sounds).weaken (fun _ => id) (fun _ => sounds)
        (fun _ => id) (fun _ => id)
    refine Runs.bind (Runs.demand sounds) fun _ => ?_
    have enters : ∀ v, ((record.mode = .active ∨ record.mode = .freezing) ∧ v.records name = some record ∧
        Sound digest v ∧ v.intent = none) → Sound digest v := fun v held => held.2.2.1
    refine Runs.silent_bind inspect_silent enters enters fun _ => ?_
    refine Runs.silent_bind claim_silent enters enters fun _ => ?_
    refine Runs.silent_bind inspect_silent enters enters fun _ => ?_
    refine Runs.silent_bind checkSnapshotLayers_silent enters enters fun _ => ?_
    have ends : ∀ v, Freezing digest name record v → Sound digest v := fun v held => held.sound
    have barred : Runs Disk.view window
        (fun v => (record.mode = .active ∨ record.mode = .freezing) ∧ v.records name = some record ∧
          Sound digest v ∧ v.intent = none)
        (writeRecord false name { record with mode := .freezing })
        (fun _ v => v.intent = none ∧ Freezing digest name record v) (Sound digest) (Sound digest) := by
      refine writeRecord_runs enters (fun v held => ends v held.2) ?_
      rintro v ⟨mode, recorded, sound, calm⟩
      have live : record.mode.live := by
        rcases mode with mode | mode
        · rw [mode]
          exact True.intro
        · rw [mode]
          exact True.intro
      have held := sound.held recorded
      refine ⟨calm, sound.setRecord ?_ (.inr ?_), by simp [View.setRecord]⟩
      · intro other same
        cases same
        exact ⟨nofun, nofun, fun _ => held.own live, fun _ => held.kept live⟩
      · intro other same
        cases same
        exact ⟨nofun, nofun⟩
    refine Runs.bind barred fun _ => ?_
    refine Runs.bind (info_runs (fun v held => ends v held.2) fun v held => ends v held.2) fun committed => ?_
    refine Runs.bind ((freezeCommit_runs apart).weaken (fun _ => id) (fun _ _ => id) ends ends) fun _ => ?_
    refine Runs.silent_bind checkSnapshotLayers_silent (fun v held => ends v held.1) (fun v held => ends v held.1)
      fun _ => ?_
    refine writeRecord_runs (fun v held => ends v held.1) (fun _ => id) ?_
    rintro v ⟨freezing, calm, present⟩
    have held := freezing.sound.held freezing.recorded
    refine freezing.sound.setRecord ?_ (.inl ?_)
    · intro other same
      cases same
      exact ⟨nofun, fun _ => ⟨rfl, present⟩, fun _ => held.own True.intro, fun _ => held.kept True.intro⟩
    · intro intent pending
      cases pending.symm.trans calm

end Freezing

section Destroying

variable {digest : Digest} {window : Point → Prop} {name : String} {record : Record}

theorem selectKey_runs {pre fails : View → Prop} (safe : ∀ v, pre v → fails v) :
    Runs Disk.view window pre (selectKey digest name record)
      (fun key v => (key = record.key ∨ key = digest.committed name) ∧ pre v) fails fails := by
  unfold selectKey
  refine Runs.ite (fun _ => ?_) fun _ => Runs.pure fun v held => ⟨.inl rfl, held⟩
  refine Runs.silent_bind info_silent safe safe fun committed => Runs.pure fun v held => ⟨?_, held⟩
  split
  · exact .inr rfl
  · exact .inl rfl

theorem checkDoomed_silent {parentKey : Key} {found : Option Snapshot} :
    Silent Disk.view (checkDoomed record parentKey found) := by
  cases found with
  | none => exact Silent.demand
  | some snapshot => exact Silent.demand

/-- The part of `destroy_lane` after its record is published. -/
theorem dismantle_runs (apart : Function.Injective digest.lane) {key parentKey : Key} {found : Option Snapshot}
    {doomed : Record} :
    Runs Disk.view window
      (fun v => (key = digest.active name ∨ key = digest.committed name) ∧ Idle digest name v)
      (do
        inspect
        unmount name
        onlyIf found.isSome (SnapshotStore.remove key)
        collectBase parentKey
        retireLane name doomed
        SnapshotStore.stopIfEmpty)
      (fun _ => Sound digest) (Sound digest) (Sound digest) := by
  have sounds : ∀ v, ((key = digest.active name ∨ key = digest.committed name) ∧ Idle digest name v) →
      Sound digest v := fun v held => held.2.sound
  refine Runs.silent_bind inspect_silent sounds sounds fun _ => ?_
  refine Runs.silent_bind unmount_silent sounds sounds fun _ => ?_
  have removed : Runs Disk.view window
      (fun v => (key = digest.active name ∨ key = digest.committed name) ∧ Idle digest name v)
      (SnapshotStore.remove key)
      (fun _ v => (key = digest.active name ∨ key = digest.committed name) ∧ Idle digest name v)
      (Sound digest) (Sound digest) := by
    refine (remove_runs ?_).weaken (fun _ => id) (fun _ _ => id) sounds sounds
    exact fun v held childless => ⟨held.1, held.2.erase apart (.inr held.1) childless⟩
  refine Runs.bind (Runs.onlyIf (fun _ => removed) fun _ _ => id) fun _ => ?_
  refine Runs.strengthen ?_ fun _ => And.right
  have ends : ∀ v, Idle digest name v → Sound digest v := fun v held => held.sound
  have collected : Runs Disk.view window (Idle digest name) (collectBase parentKey) (fun _ => Idle digest name)
      (Sound digest) (Sound digest) := by
    refine (collectBase_runs ends ?_).weaken (fun _ => id) (fun _ _ => id) ends ends
    exact fun original v held => held.erase apart (.inl original)
  refine Runs.bind collected fun _ => ?_
  refine Runs.bind (retireLane_runs ends (fun _ => id) fun v held => held.dropRecord.sound) fun _ => ?_
  exact Runs.silent stopIfEmpty_silent (fun _ => id) (fun _ => id)

theorem destroyLane_runs (apart : Function.Injective digest.lane) :
    Runs Disk.view window (Sound digest) (destroyLane digest name) (fun _ => Sound digest) (Sound digest)
      (Sound digest) := by
  refine Runs.silent_bind Silent.disk (fun _ => id) (fun _ => id) fun _ => ?_
  refine Runs.silent_bind Silent.demand (fun _ => id) (fun _ => id) fun _ => ?_
  refine locked_runs (Sound.stable apart) (Runs.silent_bind Silent.disk (fun _ => And.left) (fun _ =>
    And.left) fun d => ?_)
  cases d.record name with
  | none => exact Runs.raise fun _ => And.left
  | some record =>
    have start : ∀ v, (Sound digest v ∧ v.intent = none) → Begun digest name v := by
      rintro v ⟨sound, calm⟩
      refine ⟨sound, fun intent pending => ?_⟩
      cases pending.symm.trans calm
    have sounds : ∀ v, Begun digest name v → Sound digest v := fun v held => held.sound
    refine Runs.strengthen ?_ start
    refine Runs.silent_bind inspect_silent sounds sounds fun _ => ?_
    refine Runs.silent_bind Silent.demand sounds sounds fun _ => ?_
    refine Runs.bind (Runs.demand sounds) fun _ => ?_
    have shaped : ∀ v, ((record.key = digest.active name ∨ record.key = digest.committed name) ∧ Begun digest name v) →
        Sound digest v := fun v held => held.2.sound
    refine Runs.silent_bind laneNamespace_silent shaped shaped fun _ => ?_
    refine Runs.silent_bind Silent.demand shaped shaped fun _ => ?_
    refine Runs.bind (selectKey_runs shaped) fun key => ?_
    have chosen : ∀ v, ((key = record.key ∨ key = digest.committed name) ∧
        (record.key = digest.active name ∨ record.key = digest.committed name) ∧ Begun digest name v) →
        (key = digest.active name ∨ key = digest.committed name) ∧ Begun digest name v := by
      rintro v ⟨rfl | rfl, shape, begun⟩
      · exact ⟨shape, begun⟩
      · exact ⟨.inr rfl, begun⟩
    refine Runs.strengthen ?_ chosen
    have begins : ∀ v, ((key = digest.active name ∨ key = digest.committed name) ∧ Begun digest name v) →
        Sound digest v := fun v held => held.2.sound
    refine Runs.silent_bind info_silent begins begins fun found => ?_
    refine Runs.silent_bind checkDoomed_silent begins begins fun _ => ?_
    refine Runs.silent_bind info_silent begins begins fun _ => ?_
    refine Runs.silent_bind Silent.demand begins begins fun _ => ?_
    refine Runs.silent_bind children_silent begins begins fun _ => ?_
    refine Runs.silent_bind Silent.demand begins begins fun _ => ?_
    refine Runs.silent_bind Silent.disk begins begins fun _ => ?_
    refine Runs.silent_bind Silent.demand begins begins fun _ => ?_
    refine Runs.silent_bind inspect_silent begins begins fun _ => ?_
    refine Runs.silent_bind claim_silent begins begins fun _ => ?_
    refine Runs.silent_bind Silent.disk begins begins fun _ => ?_
    refine Runs.silent_bind Silent.demand begins begins fun _ => ?_
    have published : Runs Disk.view window
        (fun v => (key = digest.active name ∨ key = digest.committed name) ∧ Begun digest name v)
        (writeRecord false name { record with key, mode := .destroying })
        (fun _ v => (key = digest.active name ∨ key = digest.committed name) ∧ Idle digest name v)
        (Sound digest) (Sound digest) := by
      refine writeRecord_runs begins (fun v held => held.2.sound) ?_
      rintro v ⟨shape, begun⟩
      refine ⟨shape, begun.idleRecord fun other same => ?_⟩
      cases same
      exact id
    exact Runs.bind published fun _ => dismantle_runs apart

end Destroying

section System

/-- Between two calls the lanes' processes and the host may change everything but the snapshots, the
pending commit and the records. -/
def Outside (d d' : Disk) : Prop := d'.snapshots = d.snapshots ∧ d'.intent = d.intent ∧ d'.record = d.record

/-- The states of one lane root: calls one after another, each with any schedule of failures, a crash at
any step included. -/
inductive Reached (digest : Digest) : Disk → Prop
  | start : Reached digest {}
  | call {d : Disk} (reached : Reached digest d) (call : Call) (faults : Schedule LaneError) :
      Reached digest (finalState (call.program digest ⟨d, faults, []⟩)).disk
  | outside {d d' : Disk} (reached : Reached digest d) (changed : Outside d d') : Reached digest d'

variable {digest : Digest}

theorem Sound.start : Sound digest (Disk.view {}) where
  grown := Grown.empty
  held recorded := nomatch recorded
  awaited pending := nomatch pending

theorem program_runs (apart : Function.Injective digest.lane) (call : Call) :
    Runs Disk.view (fun _ => False) (Sound digest) (call.program digest) (fun _ => Sound digest) (Sound digest)
      (Sound digest) := by
  cases call with
  | create request => exact createLane_runs apart
  | freeze name => exact freezeLane_runs apart
  | destroy name => exact destroyLane_runs apart

theorem reached_sound (apart : Function.Injective digest.lane) {d : Disk} (reached : Reached digest d) :
    Sound digest d.view := by
  induction reached with
  | start => exact Sound.start
  | call _ call faults induction =>
    have result := program_runs apart call ⟨_, faults, []⟩ (.inl induction)
    cases ran : call.program digest ⟨_, faults, []⟩ with
    | ok value p =>
      rw [ran] at result
      exact result.resolve_right fun ⟨_, _, inside⟩ => inside
    | error stop p =>
      rw [ran] at result
      cases stop with
      | crash => exact result.resolve_right fun ⟨_, _, inside⟩ => inside
      | raised error => exact result.resolve_right fun ⟨_, _, inside⟩ => inside
  | outside _ changed induction =>
    obtain ⟨snapshots, intent, records⟩ := changed
    refine ⟨?_, ?_, ?_⟩
    · rw [view_snapshots, snapshots]
      exact induction.grown
    · intro name record recorded
      rw [view_snapshots, snapshots]
      rw [view_records, records] at recorded
      exact induction.held recorded
    · intro pending same
      rw [view_intent, intent] at same
      have awaited := induction.awaited same
      unfold Disk.view at awaited ⊢
      rwa [records]

/-- A lane in use, active or frozen, has its snapshot, its parent and every further ancestor up to an
imported base in the store. -/
theorem reached_ancestry (apart : Function.Injective digest.lane) {d : Disk} (reached : Reached digest d)
    {name : String} {record : Record} (recorded : d.record name = some record)
    (used : record.mode = .active ∨ record.mode = .frozen) :
    ∃ line token, Lineage Snapshot.parent d.snapshots record.key (record.key :: record.parentKey :: line) ∧
      (record.parentKey :: line).getLast? = some (.base token) := by
  have sound := reached_sound apart reached
  have held := sound.held recorded
  have found : ∃ snapshot, d.snapshots.lookup record.key = some snapshot ∧ snapshot.parent = some record.parentKey := by
    rcases used with mode | mode
    · obtain ⟨named, snapshot, found⟩ := held.active mode
      rw [named]
      exact ⟨snapshot, found, held.own (by rw [mode]; exact True.intro) found⟩
    · obtain ⟨named, snapshot, found⟩ := held.frozen mode
      rw [named]
      exact ⟨snapshot, found, held.kept (by rw [mode]; exact True.intro) found⟩
  obtain ⟨snapshot, found, linked⟩ := found
  obtain ⟨upper, above⟩ := sound.grown.above found linked
  obtain ⟨line, lineage⟩ := sound.grown.lineage above
  obtain ⟨token, last⟩ := sound.grown.ends lineage (sound.grown.parents found linked)
  have whole : Lineage Snapshot.parent d.snapshots record.key (record.key :: line) := .child found linked lineage
  cases lineage with
  | root present top => exact ⟨[], token, whole, last⟩
  | child present further rest => exact ⟨_, token, whole, last⟩

def plainDigest : Digest := ⟨id, Base.path⟩

theorem plainDigest_injective : Function.Injective plainDigest.lane := fun _ _ => id

/-- A lane on a base is frozen and a second lane is created on it. -/
def branched : Disk :=
  let base : Base := ⟨"/base", 1, 2, "tree"⟩
  let created :=
    (finalState ((Call.create { name := "first", base, copied := "tree" }).program plainDigest ⟨{}, [], []⟩)).disk
  let frozen := (finalState ((Call.freeze "first").program plainDigest ⟨created, [], []⟩)).disk
  (finalState ((Call.create { name := "second", base, parent := some "first" }).program plainDigest
    ⟨frozen, [], []⟩)).disk

theorem branched_reached : Reached plainDigest branched :=
  .call (.call (.call .start _ _) _ _) _ _

theorem branched_ancestry : ∃ record, branched.record "second" = some record ∧ record.mode = .active ∧
    ∃ line token, Lineage Snapshot.parent branched.snapshots record.key (record.key :: record.parentKey :: line) ∧
      (record.parentKey :: line).getLast? = some (.base token) := by
  have active : (branched.record "second").map Record.mode = some .active := by decide +kernel
  obtain ⟨record, recorded, mode⟩ := Option.map_eq_some_iff.mp active
  exact ⟨record, recorded, mode, reached_ancestry plainDigest_injective branched_reached recorded (.inl mode)⟩

end System

end Darling.Lanes
