import Darling.Lanes.Creation

/-! `destroy_lane` and `freeze_lane` on a healthy lane root. A crash strands the lane only while the
socket of a stopped service is unlinked. -/
namespace Darling.Lanes

variable {regime : Regime LaneError} {refused : Disk → Prop} {digest : Digest} {d d' : Disk} {name : String}
  {lane : Lane} {record : Record} {snapshot : Snapshot} {key : Key}

section Doomed

/-- No snapshot stands on the active one of a lane. -/
theorem Good.active_childless (good : Good digest d) : Childless Snapshot.parent d.snapshots (digest.active name) := by
  intro other child found linked
  have shelved := good.stored.shelved found
  rw [linked] at shelved
  generalize child.lowers = lowers at shelved
  cases shelved with
  | layer stands committed _ _ _ =>
    have lanes := good.lanes name
    have unclear : ¬Clear digest d.snapshots name := fun clear => nomatch clear.1.symm.trans stands
    cases entry : d.lanes name with
    | none =>
      rw [entry] at lanes
      exact unclear lanes
    | some lane =>
      rw [entry] at lanes
      cases recorded : lane.record with
      | none => exact unclear ((laneGood_unrecorded recorded).mp lanes).1
      | some record =>
        have active := (((laneGood_recorded recorded).mp lanes).kept.own stands).1
        cases active.symm.trans committed

/-- The snapshot that `destroy_lane` selects for a record. -/
structure Doomed (digest : Digest) (snapshots : Snapshots) (name : String) (record : Record) (key : Key) : Prop where
  shaped : key = digest.active name ∨ key = digest.committed name
  held : ∀ {snapshot}, snapshots.lookup key = some snapshot →
    snapshot.labels.owned = true ∧ snapshot.parent = some record.parentKey
  missing : snapshots.lookup key = none → ¬record.mode.live
  elsewhere : ∀ {other}, other = digest.active name ∨ other = digest.committed name → other ≠ key →
    snapshots.lookup other = none

theorem Doomed.clear {snapshots : Snapshots} (doomed : Doomed digest snapshots name record key)
    (gone : snapshots.lookup key = none) : Clear digest snapshots name := by
  have each {other : Key} (shape : other = digest.active name ∨ other = digest.committed name) :
      snapshots.lookup other = none := by
    by_cases same : other = key
    · rw [same, gone]
    · exact doomed.elsewhere shape same
  exact ⟨each (.inl rfl), each (.inr rfl)⟩

theorem Good.held (good : Good digest d) (found : d.lanes name = some lane) (recorded : lane.record = some record)
    (shaped : key = digest.active name ∨ key = digest.committed name) (stands : d.snapshots.lookup key =
      some snapshot) :
    snapshot.labels.owned = true ∧ snapshot.parent = some record.parentKey := by
  have kept := (good.recorded found recorded).kept
  rcases shaped with rfl | rfl
  · obtain ⟨_, owned, parent, _⟩ := kept.own stands
    exact ⟨owned, parent⟩
  · exact ⟨(good.stored.permanent stands True.intro).2.1, (kept.committed stands).1⟩

/-- A record that is not being frozen names the snapshot of its lane. -/
theorem Good.doomed (good : Good digest d) (found : d.lanes name = some lane) (recorded : lane.record = some record)
    (mode : record.mode ≠ .freezing) : Doomed digest d.snapshots name record record.key where
  shaped := (good.recorded found recorded).shaped
  held := good.held found recorded (good.recorded found recorded).shaped
  elsewhere := (good.recorded found recorded).kept.elsewhere mode
  missing gone live := by
    have kept := (good.recorded found recorded).kept
    have none {other : Key} (shape : other = digest.active name ∨ other = digest.committed name) :
        d.snapshots.lookup other = none := by
      by_cases same : other = record.key
      · rw [same, gone]
      · exact kept.elsewhere mode shape same
    rcases kept.present live with ⟨snapshot, stands⟩ | ⟨snapshot, stands⟩
    · cases (none (.inl rfl)).symm.trans stands
    · cases (none (.inr rfl)).symm.trans stands

/-- A lane that is being frozen has one of its two snapshots. -/
theorem Good.doomed_freezing (good : Good digest d) (found : d.lanes name = some lane)
    (recorded : lane.record = some record) (mode : record.mode = .freezing) :
    Doomed digest d.snapshots name record
      (if (d.snapshots.lookup (digest.committed name)).isSome then digest.committed name else record.key) := by
  have kept := (good.recorded found recorded).kept
  have live : record.mode.live := by
    rw [mode]
    exact True.intro
  cases committed : d.snapshots.lookup (digest.committed name) with
  | some frozen =>
    rw [if_pos (Option.isSome_some)]
    refine ⟨.inr rfl, good.held found recorded (.inr rfl), fun gone => (nomatch gone.symm.trans committed), ?_⟩
    intro other shape apart
    rcases shape with rfl | rfl
    · exact kept.single.resolve_right fun gone => nomatch gone.symm.trans committed
    · exact absurd rfl apart
  | none =>
    rw [if_neg (by simp), kept.freezing mode]
    refine ⟨.inl rfl, good.held found recorded (.inl rfl), fun gone _ => ?_, ?_⟩
    · rcases kept.present live with ⟨snapshot, stands⟩ | ⟨snapshot, stands⟩
      · cases gone.symm.trans stands
      · cases committed.symm.trans stands
    · intro other shape apart
      rcases shape with rfl | rfl
      · exact absurd rfl apart
      · exact committed

theorem selectKey_course (mute : regime.Mute) {cut : Point → Disk → Prop} (good : Good digest d)
    (found : d.lanes name = some lane) (recorded : lane.record = some record) (during : cut .info d) :
    Course regime (· = d) (selectKey digest name record)
      (fun key reached => Doomed digest d.snapshots name record key ∧ reached = d) cut refused := by
  refine Course.ite (fun mode => ?_) fun mode => ?_
  · refine Course.act_bind mute rfl during (Course.pure fun reached same => ⟨?_, same⟩)
    exact good.doomed_freezing found recorded mode
  · exact Course.pure fun reached same => ⟨good.doomed found recorded mode, same⟩

theorem Mode.idle_cases {mode : Mode} (idle : ¬mode.live) : mode = .creating ∨ mode = .failed ∨ mode = .destroying := by
  cases mode with
  | creating => exact .inl rfl
  | failed => exact .inr (.inl rfl)
  | destroying => exact .inr (.inr rfl)
  | active => exact absurd True.intro idle
  | freezing => exact absurd True.intro idle
  | frozen => exact absurd True.intro idle

theorem checkDoomed_course {cut : Point → Disk → Prop} (doomed : Doomed digest d.snapshots name record key) :
    Course regime (· = d) (checkDoomed record record.parentKey (d.snapshots.lookup key)) (fun _ reached => reached = d)
      cut refused := by
  cases stands : d.snapshots.lookup key with
  | none =>
    have idle := doomed.missing stands
    exact Course.demand_met (Mode.idle_cases idle)
  | some snapshot => exact Course.demand_met (doomed.held stands)

end Doomed

section Demolition

/-- The keys of a lane that is not in use are spare. -/
theorem spare_keys (apart : Function.Injective digest.lane) (written : d.record name = some record)
    (idle : ¬record.mode.live) (shaped : key = digest.active name ∨ key = digest.committed name) (other : String)
    (kept : Record) (recorded : d.record other = some kept) (live : kept.mode.live) :
    key ≠ digest.active other ∧ key ≠ digest.committed other := by
  have different : name ≠ other := by
    rintro rfl
    cases written.symm.trans recorded
    exact idle live
  obtain ⟨active, committed⟩ := other_keys apart different
  rcases shaped with rfl | rfl
  · exact ⟨active, committed_ne_active.symm⟩
  · exact ⟨committed_ne_active, committed⟩

/-- The snapshot of the lane goes, if it is there. -/
theorem removeKey_course (mute : regime.Mute) (apart : Function.Injective digest.lane) (good : Good digest d)
    (written : d.record name = some record) (idle : ¬record.mode.live)
    (doomed : Doomed digest d.snapshots name record key)
    (childless : Childless Snapshot.parent d.snapshots key) :
    Course regime (· = d) (onlyIf (d.snapshots.lookup key).isSome (SnapshotStore.remove key))
      (fun _ reached => Good digest reached ∧ Clear digest reached.snapshots name ∧
        reached = { d with snapshots := reached.snapshots }) (Spared digest) refused := by
  have erased := good.erase childless (spare_keys apart written idle doomed.shaped)
  refine Course.onlyIf (fun present => ?_) fun absent reached same => ?_
  · obtain ⟨snapshot, stands⟩ := Option.isSome_iff_exists.mp present
    refine (remove_course mute stands (doomed.held stands).1 childless ⟨good.spared, good.spared⟩).weaken
      (fun _ => id) ?_
      (fun _ _ => id) (fun _ => id)
    intro _ reached same
    subst same
    have gone {other : Key} (shape : other = digest.active name ∨ other = digest.committed name) :
        (d.snapshots.erase key).lookup other = none := by
      by_cases same : other = key
      · rw [same, Finmap.lookup_erase]
      · rw [Finmap.lookup_erase_ne same, doomed.elsewhere shape same]
    exact ⟨erased, ⟨gone (.inl rfl), gone (.inr rfl)⟩, rfl⟩
  · subst same
    exact ⟨good, doomed.clear (by simpa using absent), rfl⟩

/-- A base that nothing stands on goes with its last lane. -/
theorem collectParent_course (mute : regime.Mute) (good : Good digest d) (permanent : key.permanent)
    (clear : Clear digest d.snapshots name) :
    Course regime (· = d) (collectBase key)
      (fun _ reached => Good digest reached ∧ Clear digest reached.snapshots name ∧
        reached = { d with snapshots := reached.snapshots }) (Spared digest) refused := by
  refine (collectBase_course mute (fun snapshot stands => (good.stored.permanent stands permanent).2.1)
    ⟨good.spared, good.spared, good.spared⟩).weaken (fun _ => id) ?_ (fun _ _ => id) (fun _ => id)
  rintro _ reached (same | ⟨childless, ⟨snapshot, stands, base⟩, same⟩)
  · subst same
    exact ⟨good, clear, rfl⟩
  · subst same
    -- only an imported base carries the label of one
    have shape : ∃ token, key = .base token := by
      cases key with
      | base token => exact ⟨token, rfl⟩
      | frozen token => exact absurd base (good.stored.frozen stands)
      | lane token => exact permanent.elim
      | imported token => exact permanent.elim
    obtain ⟨token, rfl⟩ := shape
    refine ⟨good.erase childless fun other record _ _ => ⟨nofun, nofun⟩, ⟨?_, ?_⟩, rfl⟩
    · have apart : digest.active name ≠ .base token := nofun
      rw [Finmap.lookup_erase_ne apart, clear.1]
    · have apart : digest.committed name ≠ .base token := nofun
      rw [Finmap.lookup_erase_ne apart, clear.2]

theorem record_of_lane (found : d.lanes name = some lane) : d.record name = lane.record := by
  rw [Disk.record, found, Option.bind_some]

/-- From the record of a lane that is being destroyed to its retired directory. -/
theorem demolish_course (mute : regime.Mute) (apart : Function.Injective digest.lane) (good : Good digest d)
    (found : d.lanes name = some lane) (written : lane.record = some record) (idle : ¬record.mode.live)
    (locked : lane.executionLock = true ∧ lane.prefixLease = true) (doomed : Doomed digest d.snapshots name record key)
    (childless : Childless Snapshot.parent d.snapshots key) :
    Course regime (· = d) (do
        unmount name
        onlyIf (d.snapshots.lookup key).isSome (SnapshotStore.remove key)
        collectBase record.parentKey
        retireLane name record
        SnapshotStore.stopIfEmpty)
      (fun _ reached => Good digest reached ∧ reached.record name = none ∧ Others name d reached)
      (Spared digest) refused := by
  have recorded := good.recorded found written
  have permanent : record.parentKey.permanent := by
    rw [recorded.parent]
    exact expectedParent_permanent
  refine Course.bind (unmount_course mute found ?_) fun _ => ?_
  · intro lane' sameRecord sameRetired sameInode mount
    have still : Good digest (d.setLane name lane') := by
      refine good.relane found written sameRecord ?_ ?_
      · rw [sameRetired, sameInode]
        exact recorded.retired
      · rcases mount with none | same
        · exact .inl none
        · rw [same]
          exact recorded.mount
    exact ⟨still.spared, still.spared, still.spared⟩
  have unmounted : Good digest (d.setLane name lane.unmounted) :=
    good.relane found written rfl recorded.retired (.inl rfl)
  have known : (d.setLane name lane.unmounted).record name = some record := by
    rw [record_of_lane (setLane_lanes _)]
    exact written
  refine Course.bind (removeKey_course mute apart unmounted known idle doomed childless) fun _ => Course.from_each ?_
  intro e ⟨removed, clear, same⟩
  refine Course.bind (collectParent_course mute removed permanent clear) fun _ => Course.from_each ?_
  intro f ⟨collected, cleared, same'⟩
  have lanes : f.lanes = (d.setLane name lane.unmounted).lanes := by rw [same', same]
  have present : f.lanes name = some lane.unmounted := by rw [lanes, setLane_lanes]
  have last : Good digest (f.setLane name lane.unmounted.retire) := by
    refine collected.setLane ((laneGood_unrecorded rfl).mpr ⟨cleared, ?_⟩) fun record none => ?_
    · exact ⟨⟨rfl, rfl, rfl, rfl⟩, rfl, locked.1, locked.2, rfl, rfl⟩
    · cases none
  refine Course.bind (retireLane_course mute present written rfl recorded.retired ?_ last.spared) fun _ => ?_
  · intro point lane' _ retiring
    have still : Good digest (f.setLane name lane') := by
      refine collected.relane present written retiring.record ?_ (.inl retiring.mount)
      rw [retiring.inode]
      rcases retiring.retired with same | marked
      · rw [same]
        exact recorded.retired
      · exact .inr marked
    exact still.spared
  have stopped : Course regime (· = f.setLane name lane.unmounted.retire) SnapshotStore.stopIfEmpty
      (fun _ reached => Serves (f.setLane name lane.unmounted.retire) reached) (Spared digest) refused :=
    stopIfEmpty_course mute last.served (fun point g _ serves => (last.serves serves).spared) fun _ =>
      stranded True.intro
  refine stopped.weaken (fun _ => id) ?_ (fun _ _ => id) (fun _ => id)
  intro _ g serves
  have final : g.lanes = (f.setLane name lane.unmounted.retire).lanes := by rw [serves.same]
  refine ⟨last.serves serves, ?_, ?_⟩
  · rw [Disk.record, final, setLane_lanes]
    rfl
  · intro other different
    rw [final]
    exact (Function.update_of_ne different _ _).trans
      ((congrFun lanes other).trans (Function.update_of_ne different _ _))

/-- The record of the lane becomes the one of a lane that is being destroyed. -/
theorem condemn_course (mute : regime.Mute) (apart : Function.Injective digest.lane) (good : Good digest d)
    (found : d.lanes name = some lane) (written : lane.record = some record)
    (doomed : Doomed digest d.snapshots name record key) (childless : Childless Snapshot.parent d.snapshots key) :
    Course regime (· = d) (do
        claim true name
        demand ((← disk).record name = some record) .recordChanged
        writeRecord false name { record with key, mode := .destroying }
        inspect
        unmount name
        onlyIf (d.snapshots.lookup key).isSome (SnapshotStore.remove key)
        collectBase record.parentKey
        retireLane name { record with key, mode := .destroying }
        SnapshotStore.stopIfEmpty)
      (fun _ reached => Good digest reached ∧ reached.record name = none ∧ Others name d reached)
      (Spared digest) refused := by
  have recorded := good.recorded found written
  have relaned (lane' : Lane) (same : lane'.record = lane.record) (retired : lane'.retired = lane.retired)
      (inode : lane'.inode = lane.inode) (mount : lane'.mount = lane.mount) : Good digest (d.setLane name lane') := by
    refine good.relane found written same ?_ ?_
    · rw [retired, inode]
      exact recorded.retired
    · rw [mount]
      exact recorded.mount
  have claimed := relaned lane.claimed rfl rfl rfl rfl
  refine Course.bind (claim_course mute found good.spared
    (relaned { lane with executionLock := true } rfl rfl rfl rfl).spared
    claimed.spared) fun _ => Course.read_bind (Course.demand_bind ?_ ?_)
  · rw [record_of_lane (setLane_lanes _)]
    exact written
  let condemned : Record := { record with key, mode := .destroying }
  have last : Good digest (d.setLane name { lane.claimed with record := some condemned, recordNew := false }) := by
    refine good.setRecord (good.marked (record_of_lane found |>.trans written)) rfl
      ⟨recorded.named, doomed.shaped, recorded.parent, recorded.retired, recorded.mount, ?_⟩
    exact recorded.kept.shelve id rfl doomed.elsewhere
  refine Course.bind (writeRecord_course mute (setLane_lanes _) claimed.spared ?_ ?_) fun _ => ?_
  · rw [setLane_setLane]
    exact (relaned { lane.claimed with recordNew := true } rfl rfl rfl rfl).spared
  · rw [setLane_setLane]
    exact last.spared
  rw [setLane_setLane]
  refine Course.sync_bind mute last.spared ?_
  have idle : ¬condemned.mode.live := id
  have ready : Doomed digest d.snapshots name condemned key :=
    ⟨doomed.shaped, doomed.held, fun _ => idle, doomed.elsewhere⟩
  refine (demolish_course mute apart last (setLane_lanes _) rfl idle ⟨rfl, rfl⟩ ready childless).weaken (fun _ => id) ?_
    (fun _ _ => id) (fun _ => id)
  intro _ reached ⟨good, gone, others⟩
  refine ⟨good, gone, fun other different => (others other different).trans ?_⟩
  exact Function.update_of_ne different _ _

end Demolition

section Destroy

/-- On a healthy root `destroy_lane` retires a recorded lane on which no other one stands. -/
theorem destroyLane_course (mute : regime.Mute) (apart : Function.Injective digest.lane) (finishes : Finishes d d')
    (good : Good digest d')
    (stop : ¬((d'.record name).isSome = true ∧ Solo digest name d') → ∀ e, Healthy digest e → refused e) :
    Course regime (· = d) (destroyLane digest name)
      (fun _ reached => Good digest reached ∧ reached.record name = none ∧ Others name d' reached)
      (Spared digest) refused := by
  have framed := finishes.frame
  have lanes : d.lanes = d'.lanes := by rw [framed]
  have records : d.record = d'.record := by
    unfold Disk.record
    rw [lanes]
  refine Course.read_bind ?_
  cases recorded : d'.record name with
  | none =>
    have lost : Course regime (· = d) (demand ((d.record name).isSome = true) .recordMissing : LaneM Unit)
        (fun _ _ => False) (Spared digest) refused := by
      rw [records, recorded]
      refine (Course.demand ?_).weaken (fun _ => id) (fun _ _ held => nomatch held.1) (fun _ _ => id) (fun _ => id)
      intro _ e same
      rw [same]
      exact stop (fun both => by rw [recorded] at both; cases both.1) d ⟨d', finishes, good⟩
    exact lost.stuck
  | some record =>
    refine Course.demand_bind (by rw [records, recorded]; rfl) ?_
    refine locked_course mute finishes ?_ ?_ ?_ ?_
    · have served := good.served
      rw [framed] at served
      exact ⟨served.unmarked, served.rooted, served.socket⟩
    · exact fun point e e' finished serves => finished.spared (good.serves serves)
    · intro _ unmarked
      have marked := good.marked recorded
      rw [framed] at marked
      cases unmarked.symm.trans marked
    · intro e serves _
      have good' := good.serves serves
      have still : e.lanes = d'.lanes := by rw [serves.same]
      obtain ⟨lane, found, written⟩ := Option.bind_eq_some_iff.mp recorded
      rw [← still] at found
      have known := good'.recorded found written
      refine Course.read_bind ?_
      rw [record_of_lane found, written]
      refine Course.sync_bind mute good'.spared (Course.demand_bind known.named (Course.demand_bind known.shaped ?_))
      refine Course.bind (laneNamespace_course mute found (.inl rfl) known.retired good'.spared) fun _ =>
        Course.from_each ?_
      intro f ⟨_, same⟩
      subst same
      refine Course.demand_bind known.parent ?_
      rw [← known.parent]
      refine Course.bind (selectKey_course mute good' found written good'.spared) fun key => Course.from_each ?_
      intro g ⟨doomed, same⟩
      subst same
      refine Course.act_bind mute rfl good'.spared (Course.bind (checkDoomed_course doomed) fun _ => ?_)
      refine Course.act_bind mute rfl good'.spared (Course.demand_bind ?_ ?_)
      · intro snapshot stands
        have permanent : record.parentKey.permanent := by
          rw [known.parent]
          exact expectedParent_permanent
        exact (good'.stored.permanent stands permanent).2.1
      refine Course.act_bind mute rfl good'.spared ?_
      by_cases used : g.snapshots.hasChildren key
      · refine Course.stuck ((Course.demand ?_).weaken (fun _ => id) ?_ (fun _ _ => id) (fun _ => id))
        · intro _ e same
          rw [same]
          refine stop (fun both => ?_) g good'.healthy
          obtain ⟨other, _, child, stands, linked⟩ := used
          have same : g.snapshots = d'.snapshots := by rw [serves.same]
          rcases doomed.shaped with rfl | rfl
          · exact good'.active_childless other child stands linked
          · rw [same] at stands
            exact both.2 other child stands linked
        · intro _ e held
          exact absurd used (by simpa using held.1)
      · refine Course.demand_bind (by simpa using used) (Course.read_bind (Course.demand_bind ?_ ?_))
        · rw [found]
          exact known.mount
        refine Course.sync_bind mute good'.spared ?_
        refine (condemn_course mute apart good' found written doomed (childless_of_not_hasChildren used)).weaken
          (fun _ => id) ?_ (fun _ _ => id) (fun _ => id)
        intro _ reached ⟨ends, gone, others⟩
        refine ⟨ends, gone, fun other different => (others other different).trans ?_⟩
        rw [still]

end Destroy

section Freeze

/-- What a freeze works on: a lane whose record says that it is being frozen. -/
structure Thawed (digest : Digest) (name : String) (d : Disk) (lane : Lane) (record : Record) : Prop where
  good : Good digest d
  found : d.lanes name = some lane
  written : lane.record = some { record with mode := .freezing }

theorem Thawed.recorded (thawed : Thawed digest name d lane record) :
    Recorded digest d.snapshots name lane { record with mode := .freezing } :=
  thawed.good.recorded thawed.found thawed.written

/-- The active snapshot of the lane is labelled and committed. -/
theorem freezeSnapshot_course (mute : regime.Mute) (apart : Function.Injective digest.lane)
    (thawed : Thawed digest name d lane record) (absent : d.snapshots.lookup (digest.committed name) = none) :
    Course regime (· = d) (do
        inspect
        act .labelFrozen fun d => d.label (digest.active name)
          { kind := some .frozen, tree := record.recipe.map fun recipe => d.trees recipe.upper }
        SnapshotStore.commit .freezing (digest.committed name) (digest.active name))
      (fun _ reached => Thawed digest name reached lane record ∧
        ∃ snapshot, reached.snapshots.lookup (digest.committed name) = some snapshot) (Spared digest) refused := by
  have good := thawed.good
  have kept := thawed.recorded.kept
  obtain ⟨snapshot, stands⟩ : ∃ snapshot, d.snapshots.lookup (digest.active name) = some snapshot := by
    rcases kept.present True.intro with active | ⟨snapshot, stands⟩
    · exact active
    · cases absent.symm.trans stands
  obtain ⟨active, owned, parent, recipe⟩ := kept.own stands
  have written : record.recipe = some ⟨snapshot.layer, snapshot.lowers⟩ := recipe True.intro
  let labels : Labels := ⟨true, some .frozen, some (d.trees snapshot.layer)⟩
  let e : Disk := { d with snapshots := d.snapshots.insert (digest.active name) { snapshot with labels } }
  have relabelled : Good digest e := good.relabelActive apart stands active rfl
  have labelling : d.label (digest.active name)
      { kind := some .frozen, tree := record.recipe.map fun recipe => d.trees recipe.upper } = .ok ((), e) := by
    simp only [Disk.label, stands, Labels.update, owned, written, e, labels]
    rfl
  refine Course.sync_bind mute good.spared (Course.act_bind mute labelling good.spared ?_)
  have fresh : e.snapshots.lookup (digest.committed name) = none :=
    (Finmap.lookup_insert_of_ne _ committed_ne_active).trans absent
  have purpose : some Purpose.frozen ≠ some .base := by decide
  have renamed : Good digest (e.renamed (digest.committed name) (digest.active name) { snapshot with labels }) := by
    refine relabelled.commitLane apart thawed.found thawed.written rfl (Finmap.lookup_insert _) active rfl
      rfl purpose ?_
      (Finmap.lookup_insert _) ?_
    · rw [Finmap.lookup_insert_of_ne _ committed_ne_active.symm, Finmap.lookup_erase]
    · intro other first second
      rw [Finmap.lookup_insert_of_ne _ second, Finmap.lookup_erase_ne first]
  have committed : Course regime (· = e) (SnapshotStore.commit .freezing (digest.committed name) (digest.active name))
      (fun _ reached => reached = e.renamed (digest.committed name) (digest.active name) { snapshot with labels })
      (Spared digest) refused :=
    commit_course mute good.calm (Finmap.lookup_insert _) active rfl fresh
      ⟨relabelled.spared, relabelled.spared, relabelled.spared⟩ fun point f finishes => finishes.spared renamed
  refine committed.weaken (fun _ => id) ?_ (fun _ _ => id) (fun _ => id)
  intro _ reached same
  subst same
  exact ⟨⟨renamed, thawed.found, thawed.written⟩, _, Finmap.lookup_insert _⟩

/-- The record of a committed lane becomes frozen. -/
theorem settleFrozen_course (mute : regime.Mute) (thawed : Thawed digest name d lane record)
    (stands : d.snapshots.lookup (digest.committed name) = some snapshot) :
    Course regime (· = d) (do
        checkSnapshotLayers { record with key := digest.committed name, mode := .frozen }
        writeRecord false name { record with key := digest.committed name, mode := .frozen })
      (fun _ => Good digest) (Spared digest) refused := by
  have good := thawed.good
  have recorded := thawed.recorded
  obtain ⟨parent, recipe⟩ := recorded.kept.committed stands
  have written : record.recipe = some ⟨snapshot.layer, snapshot.lowers⟩ := recipe True.intro
  have shelved := good.stored.shelved stands
  rw [parent] at shelved
  obtain ⟨committed, owned, tree⟩ := good.stored.permanent stands True.intro
  refine Course.bind (checkSnapshotLayers_course mute written shelved (fun _ => ⟨snapshot, stands, committed, tree⟩)
    good.spared) fun _ => ?_
  have gone : d.snapshots.lookup (digest.active name) = none :=
    recorded.kept.single.resolve_right fun none => nomatch none.symm.trans stands
  let frozen : Record := { record with key := digest.committed name, mode := .frozen }
  have last : Good digest (d.setLane name { lane with record := some frozen, recordNew := false }) := by
    refine good.setRecord (good.marked ((record_of_lane thawed.found).trans thawed.written)) rfl
      ⟨recorded.named, .inr rfl, recorded.parent, recorded.retired, recorded.mount, ?_⟩
    refine { own := fun found => (nomatch gone.symm.trans found), committed := ?_, single := .inl gone, elsewhere := ?_,
             active := nofun, freezing := nofun, frozen := fun _ => rfl, present := fun _ => .inr ⟨snapshot, stands⟩ }
    · intro other found
      exact ⟨(recorded.kept.committed found).1, (recorded.kept.committed found).2⟩
    · intro _ key shape other
      rcases shape with rfl | rfl
      · exact gone
      · exact absurd rfl other
  refine (writeRecord_course mute thawed.found good.spared ?_ last.spared).weaken (fun _ => id) ?_ (fun _ _ =>
    id) (fun _ => id)
  · have renewed : Good digest (d.setLane name { lane with recordNew := true }) :=
      good.relane thawed.found thawed.written rfl recorded.retired recorded.mount
    exact renewed.spared
  · intro _ reached same
    rw [same]
    exact last

/-- The record says that the lane is being frozen. -/
theorem thaw_course (mute : regime.Mute) {next : LaneM Unit} {post : Unit → Disk → Prop} (good : Good digest d)
    (found : d.lanes name = some lane) (written : lane.record = some record)
    (mode : record.mode = .active ∨ record.mode = .freezing)
    (rest : ∀ e lane', Thawed digest name e lane' record → Course regime (· = e) next post (Spared digest) refused) :
    Course regime (· = d) (do
        claim true name
        inspect
        checkSnapshotLayers record
        writeRecord false name { record with mode := .freezing }
        next) post (Spared digest) refused := by
  have recorded := good.recorded found written
  have kept := recorded.kept
  have live : record.mode.live := by
    rcases mode with mode | mode
    · rw [mode]
      exact True.intro
    · rw [mode]
      exact True.intro
  have keyed : record.key = digest.active name := by
    rcases mode with mode | mode
    · exact kept.active mode
    · exact kept.freezing mode
  have relaned (lane' : Lane) (same : lane'.record = lane.record) (retired : lane'.retired = lane.retired)
      (inode : lane'.inode = lane.inode) (mount : lane'.mount = lane.mount) : Good digest (d.setLane name lane') := by
    refine good.relane found written same ?_ ?_
    · rw [retired, inode]
      exact recorded.retired
    · rw [mount]
      exact recorded.mount
  have claimed := relaned lane.claimed rfl rfl rfl rfl
  refine Course.bind (claim_course mute found good.spared
    (relaned { lane with executionLock := true } rfl rfl rfl rfl).spared
    claimed.spared) fun _ => Course.sync_bind mute claimed.spared ?_
  refine Course.bind (claimed.checks mute (setLane_lanes _) written live claimed.spared) fun _ => ?_
  let freezing : Record := { record with mode := .freezing }
  have last : Good digest (d.setLane name { lane.claimed with record := some freezing, recordNew := false }) := by
    refine good.setRecord (good.marked ((record_of_lane found).trans written)) rfl
      ⟨recorded.named, recorded.shaped, recorded.parent, recorded.retired, recorded.mount, ?_⟩
    refine { own := ?_, committed := ?_, single := kept.single, elsewhere := fun other => absurd rfl other,
             active := nofun, freezing := fun _ => keyed, frozen := nofun, present := fun _ => kept.present live }
    · intro snapshot stands
      obtain ⟨kind, owned, parent, recipe⟩ := kept.own stands
      exact ⟨kind, owned, parent, fun _ => recipe live⟩
    · intro snapshot stands
      obtain ⟨parent, recipe⟩ := kept.committed stands
      exact ⟨parent, fun _ => recipe live⟩
  refine Course.bind (writeRecord_course mute (setLane_lanes _) claimed.spared ?_ ?_) fun _ => ?_
  · rw [setLane_setLane]
    exact (relaned { lane.claimed with recordNew := true } rfl rfl rfl rfl).spared
  · rw [setLane_setLane]
    exact last.spared
  rw [setLane_setLane]
  exact rest _ _ ⟨last, setLane_lanes _, rfl⟩

/-- On a healthy root `freeze_lane` leaves a healthy one, wherever it ends. -/
theorem freezeLane_course (mute : regime.Mute) (apart : Function.Injective digest.lane) (finishes : Finishes d d')
    (good : Good digest d') (stop : ∀ e, Healthy digest e → refused e) :
    Course regime (· = d) (freezeLane digest name) (fun _ => Good digest) (Spared digest) refused := by
  have framed := finishes.frame
  refine locked_course mute finishes ?_ ?_ ?_ ?_
  · have served := good.served
    rw [framed] at served
    exact ⟨served.unmarked, served.rooted, served.socket⟩
  · exact fun point e e' finished serves => finished.spared (good.serves serves)
  · exact fun _ _ => stop d ⟨d', finishes, good⟩
  · intro e serves _
    have good' := good.serves serves
    have refuses {f : Disk} (same : f = e) : refused f := by
      rw [same]
      exact stop e good'.healthy
    refine Course.read_bind ?_
    cases recorded : e.record name with
    | none => exact Course.raise fun f same => refuses same
    | some record =>
      obtain ⟨lane, found, written⟩ := Option.bind_eq_some_iff.mp recorded
      have known := good'.recorded found written
      refine Course.bind (recordProblems_course mute found known.named known.shaped (fun _ => refuses rfl) good'.spared)
        fun _ => Course.from_each ?_
      intro f ⟨same, _⟩
      subst same
      refine Course.ite (fun frozen => ?_) fun unfrozen => ?_
      · have live : record.mode.live := by
          rw [frozen]
          exact True.intro
        refine (good'.checks mute found written live good'.spared).weaken (fun _ => id) ?_ (fun _ _ => id) (fun _ => id)
        intro _ reached same
        rw [same]
        exact good'
      · refine Course.bind (Course.demand fun _ g same => refuses same) fun _ => Course.from_each ?_
        intro g ⟨mode, same⟩
        subst same
        refine Course.sync_bind mute good'.spared (thaw_course mute good' found written mode ?_)
        intro h lane' thawed
        refine Course.act_bind mute rfl thawed.good.spared ?_
        have committing : Course regime (· = h)
            (onlyIf (h.snapshots.lookup (digest.committed name) = none) do
              inspect
              act .labelFrozen fun d => d.label (digest.active name)
                { kind := some .frozen, tree := record.recipe.map fun recipe => d.trees recipe.upper }
              SnapshotStore.commit .freezing (digest.committed name) (digest.active name))
            (fun _ reached => Thawed digest name reached lane' record ∧
              ∃ snapshot, reached.snapshots.lookup (digest.committed name) =
                some snapshot) (Spared digest) refused := by
          refine Course.onlyIf (fun absent => ?_) fun present reached same => ?_
          · exact freezeSnapshot_course mute apart thawed (of_decide_eq_true absent)
          · subst same
            exact ⟨thawed, Option.ne_none_iff_exists'.mp (of_decide_eq_false present)⟩
        refine Course.bind committing fun _ => Course.from_each ?_
        intro i ⟨thawed, snapshot, stands⟩
        exact settleFrozen_course mute thawed stands

end Freeze

end Darling.Lanes
