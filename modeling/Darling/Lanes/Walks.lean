import Darling.Lanes.Health

/-! The functions under the three operations, run step by step on a given disk where nothing stands in
their way: what they leave, and on which disk the process is at each step where it may die. -/
namespace Darling.Lanes

variable {regime : Regime LaneError} {cut : Point → Disk → Prop} {refused : Disk → Prop} {d : Disk} {name : String}
  {lane : Lane} {record : Record} {key : Key} {snapshot : Snapshot}

@[simp] theorem setLane_lanes (lane : Lane) : (d.setLane name lane).lanes name = some lane := Function.update_self _ _ _

@[simp] theorem setLane_setLane (lane lane' : Lane) :
    (d.setLane name lane).setLane name lane' = d.setLane name lane' := by
  unfold Disk.setLane
  simp

theorem setLane_self (found : d.lanes name = some lane) : d.setLane name lane = d := by
  unfold Disk.setLane
  rw [← found, Function.update_eq_self]

theorem onLane_found (found : d.lanes name = some lane) (change : Lane → Lane) :
    d.onLane name change = .ok ((), d.setLane name (change lane)) := by
  unfold Disk.onLane
  rw [found]

section Files

theorem writeRecord_course (mute : regime.Mute) {first : Bool} (found : d.lanes name = some lane)
    (before : cut (.writeRecord first) d)
    (during : cut (.publishRecord first) (d.setLane name { lane with recordNew := true }))
    (after : cut .inspect (d.setLane name { lane with record := some record, recordNew := false })) :
    Course regime (· = d) (writeRecord first name record)
      (fun _ reached => reached = d.setLane name { lane with record := some record, recordNew := false })
      cut refused := by
  refine Course.act_bind mute (onLane_found found _) before ?_
  refine Course.sync_bind mute during ?_
  refine Course.act_bind mute (onLane_found (setLane_lanes _) _) during ?_
  rw [setLane_setLane]
  exact Course.sync_last mute after rfl

theorem writeRetired_course (mute : regime.Mute) {retired : Bool} (found : d.lanes name = some lane)
    (before : cut (.writeRetired retired) d)
    (during : cut (.publishRetired retired) (d.setLane name { lane with retiredNew := true }))
    (after : cut .inspect (d.setLane name { lane with retired := some lane.inode, retiredNew := false })) :
    Course regime (· = d) (writeRetired retired name)
      (fun _ reached => reached = d.setLane name { lane with retired := some lane.inode, retiredNew := false })
      cut refused := by
  refine Course.act_bind mute (onLane_found found _) before ?_
  refine Course.sync_bind mute during ?_
  refine Course.act_bind mute (onLane_found (setLane_lanes _) _) during ?_
  rw [setLane_setLane]
  exact Course.sync_last mute after rfl

/-- The lane with its two coordination files. -/
def Lane.claimed (lane : Lane) : Lane := { lane with executionLock := true, prefixLease := true }

theorem claim_course (mute : regime.Mute) {retired : Bool} (found : d.lanes name = some lane)
    (before : cut (.claim retired) d) (during : cut (.claim retired)
      (d.setLane name { lane with executionLock := true }))
    (after : cut (.claim retired) (d.setLane name lane.claimed)) :
    Course regime (· = d) (claim retired name) (fun _ reached => reached = d.setLane name lane.claimed)
      cut refused := by
  refine Course.sync_bind mute before ?_
  refine Course.act_bind mute (onLane_found found _) before ?_
  refine Course.sync_bind mute during ?_
  refine Course.act_bind mute (onLane_found (setLane_lanes _) _) during ?_
  rw [setLane_setLane]
  exact Course.sync_last mute after rfl

theorem laneNamespace_course (mute : regime.Mute) {point : Point} {withData : Bool} (found : d.lanes name = some lane)
    (allowed : withData = true ∨ lane.bare) (retired : lane.retired = none ∨ lane.retired = some lane.inode)
    (during : cut point d) :
    Course regime (· = d) (laneNamespace point name withData) (fun seen reached => seen = lane ∧ reached = d)
      cut refused := by
  refine Course.sync_bind mute during (Course.read_bind ?_)
  rw [found]
  refine Course.demand_bind allowed (Course.demand_bind retired ?_)
  exact Course.pure fun _ same => ⟨rfl, same⟩

theorem requireRetiredLane_course (mute : regime.Mute) (found : d.lanes name = some lane) (retired : Retired lane)
    (during : cut .inspect d) :
    Course regime (· = d) (requireRetiredLane name) (fun _ reached => reached = d) cut refused := by
  refine Course.bind (laneNamespace_course mute found (.inr retired.bare) (.inr retired.retired) during) fun _ => ?_
  refine Course.from_each ?_
  rintro _ ⟨rfl, rfl⟩
  exact Course.demand_bind retired.retired (Course.demand_met ⟨retired.executionLock, retired.prefixLease⟩)

end Files

section Checks

/-- The layers of a shelf pass the check. -/
theorem checkLayers_course (mute : regime.Mute) {start : Option Key} {layers : List Nat}
    (shelved : Shelved d.snapshots d.trees start layers) (during : cut .info d) :
    Course regime (· = d) (checkLayers layers start) (fun above reached => above = none ∧ reached = d) cut refused := by
  induction shelved with
  | top => exact Course.pure fun _ same => ⟨rfl, same⟩
  | layer found committed owned tree above induction =>
    refine Course.act_bind mute rfl during ?_
    rw [found]
    exact Course.read_bind (Course.demand_bind ⟨committed, owned, tree⟩ induction)

theorem checkSnapshotLayers_course (mute : regime.Mute) {recipe : Recipe} (written : record.recipe = some recipe)
    (shelved : Shelved d.snapshots d.trees (some record.parentKey) recipe.lower)
    (frozen : record.mode = .frozen → ∃ snapshot, d.snapshots.lookup record.key = some snapshot ∧
      snapshot.kind = .committed ∧ snapshot.labels.tree = some (d.trees recipe.upper)) (during : cut .info d) :
    Course regime (· = d) (checkSnapshotLayers record) (fun _ reached => reached = d) cut refused := by
  unfold checkSnapshotLayers
  rw [written]
  refine Course.bind (checkLayers_course mute shelved during) fun above => Course.from_each ?_
  rintro _ ⟨rfl, rfl⟩
  refine Course.demand_bind rfl (Course.onlyIf (fun isFrozen => ?_) fun _ _ => id)
  obtain ⟨snapshot, found, committed, tree⟩ := frozen (of_decide_eq_true isFrozen)
  exact Course.act_bind mute rfl during (Course.read_bind (Course.demand_met ⟨snapshot, found, committed, tree⟩))

end Checks

section Snapshots

/-- The disk with a prepared snapshot, before and after it is labelled as owned. -/
def Disk.prepared (d : Disk) (key : Key) (parent : Option Key) (labels : Labels) : Disk :=
  let snapshot := ⟨.active, parent, labels, d.next, d.snapshots.lowers parent⟩
  { d with snapshots := d.snapshots.insert key snapshot, next := d.next + 1 }

theorem prepare_course (mute : regime.Mute) {owner : Owner} {parent : Option Key}
    (fresh : d.snapshots.lookup key = none) (before : cut (.prepare owner) d)
    (during : cut (.recipe owner) (d.prepared key parent {}) ∧ cut (.own owner) (d.prepared key parent {})) :
    Course regime (· = d) (SnapshotStore.prepare owner key parent)
      (fun recipe reached => recipe = ⟨d.next, d.snapshots.lowers parent⟩ ∧
        reached = d.prepared key parent { owned := true }) cut refused := by
  have prepares : d.prepare key parent = .ok (⟨d.next, d.snapshots.lowers parent⟩, d.prepared key parent {}) := by
    unfold Disk.prepare
    rw [if_pos fresh]
    rfl
  refine Course.act_bind mute prepares before ?_
  refine Course.sync_bind mute during.1 ?_
  have labels : (d.prepared key parent {}).label key { owned := true } =
      .ok ((), d.prepared key parent { owned := true }) := by
    unfold Disk.label Disk.prepared
    simp only [Finmap.lookup_insert, Finmap.insert_insert]
    rfl
  exact Course.act_bind mute labels during.2 (Course.pure fun _ same => ⟨rfl, same⟩)

theorem remove_course (mute : regime.Mute) (found : d.snapshots.lookup key = some snapshot)
    (owned : snapshot.labels.owned = true) (childless : Childless Snapshot.parent d.snapshots key)
    (during : cut .info d ∧ cut .remove d) :
    Course regime (· = d) (SnapshotStore.remove key)
      (fun _ reached => reached = { d with snapshots := d.snapshots.erase key }) cut refused := by
  refine Course.act_bind mute rfl during.1 (Course.demand_bind ⟨snapshot, found, owned⟩ ?_)
  have removes : d.remove key = .ok ((), { d with snapshots := d.snapshots.erase key }) := by
    unfold Disk.remove
    rw [if_neg]
    rintro (missing | ⟨other, _, child, stands, linked⟩)
    · cases found.symm.trans missing
    · exact childless other child stands linked
  exact Course.act_last mute removes during.2 rfl

/-- The disk on which the active key has become the new name of its snapshot. -/
def Disk.renamed (d : Disk) (name active : Key) (snapshot : Snapshot) : Disk :=
  { d with snapshots := (d.snapshots.erase active).insert name { snapshot with kind := .committed } }

theorem commit_course (mute : regime.Mute) {stage : Stage} {name active : Key} (calm : d.intent = none)
    (found : d.snapshots.lookup active = some snapshot) (kind : snapshot.kind = .active)
    (owned : snapshot.labels.owned = true) (fresh : d.snapshots.lookup name = none)
    (before : cut (.beforeIntent stage) d ∧ cut (.writeIntent stage) d ∧ cut (.publishIntent stage) d)
    (during : ∀ point e, Finishes e (d.renamed name active snapshot) → cut point e) :
    Course regime (· = d) (SnapshotStore.commit stage name active)
      (fun _ reached => reached = d.renamed name active snapshot) cut refused := by
  let pending : Intent := ⟨name, active, snapshot.parent, snapshot.labels⟩
  have finishes : Finishes { d with intent := some pending } (d.renamed name active snapshot) := by
    have ready : Finishes { d with intent := some pending } _ := .ready rfl owned fresh found kind rfl rfl
    have same : (({ d with intent := some pending }.transferred pending snapshot).relabelled pending
        snapshot.settled).dropIntent = d.renamed name active snapshot := by
      have labels : Labels.update {} snapshot.labels = snapshot.labels := by simp [Labels.update]
      simp only [Disk.transferred, Disk.relabelled, Disk.dropIntent, Disk.renamed, Snapshots.commit, Snapshot.settled,
        Finmap.insert_insert, calm, pending, labels]
    rwa [same] at ready
  refine Course.act_bind mute rfl before.1 ?_
  rw [found]
  refine Course.demand_bind ⟨kind, owned⟩ (Course.act_bind mute rfl before.1 (Course.demand_bind fresh ?_))
  refine Course.sync_bind mute before.2.1 (Course.write_bind mute before.2.2 ?_)
  refine Course.sync_bind mute (during _ _ finishes) ?_
  exact (finishCommit_course mute finishes).weaken (fun _ => id) (fun _ _ => id) during (fun _ => False.elim)

/-- `_collect_base` removes the key or leaves the disk alone. -/
theorem collectBase_course (mute : regime.Mute)
    (owned : ∀ snapshot, d.snapshots.lookup key = some snapshot → snapshot.labels.owned = true)
    (during : cut .info d ∧ cut .list d ∧ cut .remove d) :
    Course regime (· = d) (collectBase key)
      (fun _ reached => reached = d ∨ (Childless Snapshot.parent d.snapshots key ∧
        (∃ snapshot, d.snapshots.lookup key = some snapshot ∧ snapshot.labels.kind = some .base) ∧
        reached = { d with snapshots := d.snapshots.erase key })) cut refused := by
  refine Course.act_bind mute rfl during.1 ?_
  cases found : d.snapshots.lookup key with
  | none => exact Course.pure fun _ same => .inl same
  | some snapshot =>
    refine Course.onlyIf (fun base => ?_) fun _ _ same => .inl same
    refine Course.act_bind mute rfl during.2.1 (Course.onlyIf (fun unused => ?_) fun _ _ same => .inl same)
    have childless : Childless Snapshot.parent d.snapshots key := by
      apply childless_of_not_hasChildren
      simpa using unused
    refine (remove_course mute found (owned snapshot found) childless ⟨during.1, during.2.2⟩).weaken (fun _ => id) ?_
      (fun _ _ => id) (fun _ => id)
    intro _ reached same
    exact .inr ⟨childless, ⟨snapshot, rfl, of_decide_eq_true base⟩, same⟩

end Snapshots

section Views

theorem mount_course (mute : regime.Mute) (found : d.lanes name = some lane) (free : lane.view = false)
    (before : cut .inspect d ∧ cut .mount d) :
    Course regime (· = d) (mount name)
      (fun _ reached =>
        reached = { d.setLane name { lane with mount := some d.next, view := true } with next := d.next + 1 })
      cut refused := by
  refine Course.sync_bind mute before.1 (Course.read_bind ?_)
  rw [found]
  refine Course.demand_bind free ?_
  have mounts : ({ d with next := d.next + 1 } : Disk).onLane name
      (fun lane => { lane with mount := some d.next, view := true }) =
        .ok ((), { d.setLane name { lane with mount := some d.next, view := true } with next := d.next + 1 }) := by
    unfold Disk.onLane
    simp only [found]
    rfl
  exact Course.act_last mute mounts before.2 rfl

/-- The lane without its view. -/
def Lane.unmounted (lane : Lane) : Lane := { lane with mount := none, view := false }

theorem unmount_course (mute : regime.Mute) (found : d.lanes name = some lane)
    (during : ∀ lane', lane'.record = lane.record → lane'.retired = lane.retired → lane'.inode = lane.inode →
      (lane'.mount = none ∨ lane'.mount = lane.mount) →
      cut .inspect (d.setLane name lane') ∧ cut .unmount (d.setLane name lane') ∧ cut .release (d.setLane name lane')) :
    Course regime (· = d) (unmount name) (fun _ reached => reached = d.setLane name lane.unmounted) cut refused := by
  have start := during lane rfl rfl rfl (.inr rfl)
  rw [setLane_self found] at start
  refine Course.sync_bind mute start.1 (Course.read_bind ?_)
  have detached : Course regime (· = d)
      (onlyIf ((d.lanes name).bind Lane.mount).isSome
        (act .unmount (Disk.onLane name fun lane => { lane with mount := none })))
      (fun _ reached => reached = d.setLane name { lane with mount := none }) cut refused := by
    rw [found]
    refine Course.onlyIf (fun _ => ?_) fun free reached same => ?_
    · exact Course.act_last mute (onLane_found found _) start.2.1 rfl
    · subst reached
      have gone : lane.mount = none := by simpa using free
      have same : { lane with mount := none } = lane := by rw [← gone]
      rw [same, setLane_self found]
  refine Course.bind detached fun _ => ?_
  have middle := during { lane with mount := none } rfl rfl rfl (.inl rfl)
  refine Course.sync_bind mute middle.1 (Course.read_bind ?_)
  have released : Course regime (· = d.setLane name { lane with mount := none })
      (onlyIf (((d.setLane name { lane with mount := none }).lanes name).elim false Lane.view)
        (act .release (Disk.onLane name fun lane => { lane with view := false })))
      (fun _ reached => reached = d.setLane name lane.unmounted) cut refused := by
    rw [setLane_lanes]
    refine Course.onlyIf (fun _ => ?_) fun free reached same => ?_
    · refine Course.act_last mute (onLane_found (setLane_lanes _) _) middle.2.2 ?_
      rw [setLane_setLane]
      rfl
    · subst reached
      have gone : lane.view = false := free
      have same : { lane with mount := none } = lane.unmounted := by
        unfold Lane.unmounted
        rw [gone]
      rw [same]
  refine Course.bind released fun _ => ?_
  exact Course.sync_last mute (during lane.unmounted rfl rfl rfl (.inl rfl)).1 rfl

end Views

section Retirement

/-- The lane with its data and temporary files removed. -/
def Lane.swept (lane : Lane) : Lane := { lane with data := [], recordNew := false, retiredNew := false }

/-- The lane as `_retire_lane` leaves it. -/
def Lane.retire (lane : Lane) : Lane := { lane.swept with retired := some lane.inode, record := none }

/-- The directories on the way from a lane to its retirement. -/
structure Retiring (lane lane' : Lane) : Prop where
  record : lane'.record = lane.record
  mount : lane'.mount = lane.mount
  inode : lane'.inode = lane.inode
  retired : lane'.retired = lane.retired ∨ lane'.retired = some lane.inode

/-- The loop over the data directories. -/
theorem sweepData_course (mute : regime.Mute) (found : d.lanes name = some lane)
    (during : ∀ data, cut .removeData (d.setLane name { lane with data })) :
    Course regime (· = d)
      (lane.data.forM fun subdir => act .removeData (Disk.onLane name fun lane =>
        { lane with data := lane.data.erase subdir }))
      (fun _ reached => reached = d.setLane name { lane with data := [] }) cut refused := by
  -- the directories that are left after a part of the list
  let holds (done : List Subdir) (reached : Disk) : Prop :=
    ∃ rest, done ++ rest = lane.data ∧ reached = d.setLane name { lane with data := rest }
  have looped : Course regime (holds []) (lane.data.forM fun subdir => act .removeData (Disk.onLane name fun lane =>
      { lane with data := lane.data.erase subdir })) (fun _ => holds lane.data) cut refused := by
    refine Course.forM holds fun done item rest whole => Course.from_each ?_
    intro reached ⟨left, split, same⟩
    have shape : left = item :: rest := List.append_cancel_left (split.trans whole.symm)
    subst same shape
    refine Course.act_last mute (onLane_found (setLane_lanes _) _) (during _) ⟨rest, ?_, ?_⟩
    · rw [List.append_assoc]
      exact whole
    · rw [setLane_setLane, List.erase_cons_head]
  refine looped.weaken ?_ ?_ (fun _ _ => id) (fun _ => id)
  · intro reached same
    subst same
    exact ⟨lane.data, rfl, (setLane_self found).symm⟩
  · rintro _ reached ⟨rest, whole, same⟩
    have nothing : rest = [] := by simpa using whole
    rw [same, nothing]

/-- A file of the lane that is removed if it is there. -/
theorem dropFile_course (mute : regime.Mute) {present : Bool} {change : Lane → Lane} (found : d.lanes name = some lane)
    (absent : present = false → change lane = lane) (during : cut .removeData d) :
    Course regime (· = d) (onlyIf present (act .removeData (Disk.onLane name change)))
      (fun _ reached => reached = d.setLane name (change lane)) cut refused := by
  refine Course.onlyIf (fun _ => Course.act_last mute (onLane_found found _) during rfl) fun off reached same => ?_
  rw [same, absent off, setLane_self found]

theorem retireLane_course (mute : regime.Mute) (found : d.lanes name = some lane) (recorded : lane.record = some record)
    (unmounted : lane.mount = none) (retired : lane.retired = none ∨ lane.retired = some lane.inode)
    (during : ∀ point lane', point = .inspect ∨ point = .removeData ∨ point = .writeRetired true ∨
      point = .publishRetired true ∨ point = .dropRecord → Retiring lane lane' → cut point (d.setLane name lane'))
    (after : cut .inspect (d.setLane name lane.retire)) :
    Course regime (· = d) (retireLane name record) (fun _ reached => reached = d.setLane name lane.retire)
      cut refused := by
  have start := during .inspect lane (.inl rfl) ⟨rfl, rfl, rfl, .inl rfl⟩
  rw [setLane_self found] at start
  refine Course.bind (laneNamespace_course mute found (.inl rfl) retired start) fun seen => Course.from_each ?_
  intro reached ⟨seenLane, same⟩
  subst seenLane same
  refine Course.demand_bind recorded (Course.demand_bind unmounted ?_)
  have removing : ∀ lane', Retiring seen lane' → cut .removeData (reached.setLane name lane') :=
    fun lane' => during .removeData lane' (.inr (.inl rfl))
  refine Course.bind (sweepData_course mute found fun data => removing _ ⟨rfl, rfl, rfl, .inl rfl⟩) fun _ => ?_
  refine Course.bind (dropFile_course mute (setLane_lanes _) ?_ (removing _ ⟨rfl, rfl, rfl, .inl rfl⟩)) fun _ => ?_
  · intro off
    rw [← off]
  rw [setLane_setLane]
  refine Course.bind (dropFile_course mute (setLane_lanes _) ?_ (removing _ ⟨rfl, rfl, rfl, .inl rfl⟩)) fun _ => ?_
  · intro off
    rw [← off]
  rw [setLane_setLane]
  refine Course.bind (writeRetired_course mute (setLane_lanes _) ?_ ?_ ?_) fun _ => ?_
  · exact during _ _ (.inr (.inr (.inl rfl))) ⟨rfl, rfl, rfl, .inl rfl⟩
  · rw [setLane_setLane]
    exact during _ _ (.inr (.inr (.inr (.inl rfl)))) ⟨rfl, rfl, rfl, .inl rfl⟩
  · rw [setLane_setLane]
    exact during _ _ (.inl rfl) ⟨rfl, rfl, rfl, .inr rfl⟩
  rw [setLane_setLane]
  refine Course.act_bind mute (onLane_found (setLane_lanes _) _) ?_ ?_
  · exact during _ _ (.inr (.inr (.inr (.inr rfl)))) ⟨rfl, rfl, rfl, .inr rfl⟩
  rw [setLane_setLane]
  exact Course.sync_last mute after rfl

end Retirement

section Service

/-- Another state of the store's directory, record and service, which keeps the record. -/
structure Serves (d e : Disk) : Prop where
  same : e = { d with root := e.root, marker := e.marker, data := e.data, running := e.running, socket := e.socket }
  served : Served e
  marked : d.marker = true → e.marker = true

theorem Serves.refl (served : Served d) : Serves d d := ⟨rfl, served, id⟩

theorem Finishes.frame {d' : Disk} (finishes : Finishes d d') :
    d' = { d with snapshots := d'.snapshots, intent := none } := by
  cases finishes with
  | calm calm => rw [← calm]
  | done => rfl
  | ready => rfl

/-- Finishing depends on the snapshots and the intent only. -/
theorem Finishes.carry {d' e : Disk} (finishes : Finishes d d') (snapshots : e.snapshots = d.snapshots)
    (intent : e.intent = d.intent) : Finishes e { e with snapshots := d'.snapshots, intent := none } := by
  cases finishes with
  | calm calm =>
    have same : { e with snapshots := d.snapshots, intent := none } = e := by rw [← snapshots, ← calm, ← intent]
    rw [same]
    exact .calm (intent.trans calm)
  | done same owned found committed parent =>
    rw [← snapshots] at found
    have finished := Finishes.done (intent.trans same) owned found committed parent
    unfold Disk.relabelled Disk.dropIntent at finished ⊢
    rwa [snapshots] at finished
  | ready same owned fresh found active parent labels =>
    rw [← snapshots] at fresh found
    have finished := Finishes.ready (intent.trans same) owned fresh found active parent labels
    unfold Disk.transferred Disk.relabelled Disk.dropIntent at finished ⊢
    rwa [snapshots] at finished

theorem Finishes.serves {d' e : Disk} (finishes : Finishes d d') (serves : Serves d e) :
    ∃ e', Finishes e e' ∧ Serves d' e' := by
  obtain ⟨same, served, marked⟩ := serves
  have framed := finishes.frame
  refine ⟨_, finishes.carry (by rw [same]) (by rw [same]), ?_, ?_, ?_⟩
  · rw [framed, same]
  · exact ⟨served.unmarked, served.rooted, served.socket⟩
  · intro present
    rw [framed] at present
    exact marked present

theorem Good.serves {digest : Digest} {d e : Disk} (good : Good digest d) (serves : Serves d e) : Good digest e := by
  have same := serves.same
  exact good.serve serves.served (by rw [same]) (by rw [same]) (by rw [same]) (by rw [same])
    (by rw [same]) serves.marked

/-- The store's directory and record, on the way to a running service. -/
theorem adopt_course (mute : regime.Mute) {create : Bool} (served : Served d) (rooted : d.root = true)
    (allowed : create = true ∨ d.marker = true) (during : ∀ point e, Serves d e → cut point e) :
    Course regime (· = d) (SnapshotStore.adopt create)
      (fun _ reached => Serves d reached ∧ reached.marker = true ∧ reached.root = true) cut refused := by
  have here : ∀ point, cut point d := fun point => during point d (.refl served)
  refine Course.read_bind ?_
  by_cases marked : d.marker = true
  · rw [if_pos marked]
    exact Course.sync_last mute (here _) ⟨.refl served, marked, rooted⟩
  · have unmarked : d.marker = false := by simpa using marked
    have created : create = true := allowed.resolve_right marked
    rw [if_neg marked, if_pos (by rw [created, served.unmarked unmarked]; rfl)]
    have adopted : Serves d { d with marker := true } := ⟨rfl, ⟨nofun, fun _ => rooted, served.socket⟩, fun _ => rfl⟩
    refine Course.sync_bind mute (here _) (Course.write_bind mute (here _) ?_)
    exact Course.sync_last mute (during _ _ adopted) ⟨adopted, rfl, rooted⟩

theorem launch_course (mute : regime.Mute) (served : Served d) (rooted : d.root = true) (marked : d.marker = true)
    (during : ∀ point, cut point d) :
    Course regime (· = d) SnapshotStore.launch (fun _ reached => Serves d reached) cut refused := by
  refine Course.read_bind (Course.ite (fun _ => ?_) fun stopped => ?_)
  · exact Course.sync_last mute (during _) (.refl served)
  · have free : d.socket = false := served.socket (by simpa using stopped)
    refine Course.demand_bind free ?_
    exact Course.act_last mute rfl (during _) ⟨rfl, ⟨fun off => absurd off (by rw [marked]; nofun), fun _ =>
      rooted, nofun⟩, id⟩

theorem Serves.trans {e f : Disk} (first : Serves d e) (second : Serves e f) : Serves d f := by
  refine ⟨?_, second.served, second.marked ∘ first.marked⟩
  rw [second.same, first.same]

/-- `_locked` starts the service and finishes a pending commit before the body runs. -/
theorem locked_course (mute : regime.Mute) {create : Bool} {α : Type} {body : LaneM α}
    {post : α → Disk → Prop} {d' : Disk}
    (finishes : Finishes d d') (served : Served d)
    (during : ∀ point e e', Finishes e e' → Serves d' e' → cut point e)
    (lost : create = false → d.marker = false → refused d)
    (rest : ∀ e, Serves d' e → e.marker = true → Course regime (· = e) body post cut refused) :
    Course regime (· = d) (SnapshotStore.locked create body) post cut refused := by
  have cuts : ∀ point e, Serves d e → cut point e := by
    intro point e serves
    obtain ⟨e', finished, served'⟩ := finishes.serves serves
    exact during point e e' finished served'
  by_cases allowed : create = true ∨ d.marker = true
  · have opened : Course regime (· = d) (SnapshotStore.openRoot create)
        (fun _ reached => Serves d reached ∧ reached.root = true ∧ reached.marker = d.marker) cut refused := by
      refine Course.ite (fun _ => ?_) fun off => Course.read_bind ?_
      · refine Course.act_last mute rfl (cuts _ _ (.refl served))
          ⟨⟨rfl, ⟨served.unmarked, fun _ => rfl, served.socket⟩, id⟩, rfl, rfl⟩
      · have rooted := served.rooted (allowed.resolve_left off)
        exact (Course.demand_met rooted).weaken (fun _ => id)
          (fun _ reached same => by subst same; exact ⟨.refl served, rooted, rfl⟩) (fun _ _ => id) (fun _ => id)
    refine Course.bind opened fun _ => Course.from_each ?_
    intro e ⟨serves, rooted, marker⟩
    refine Course.sync_bind mute (cuts _ _ serves) ?_
    have started : Course regime (· = e) (SnapshotStore.start create)
        (fun _ reached => Serves d reached ∧ reached.marker = true) cut refused := by
      refine Course.bind (adopt_course mute serves.served rooted (by rwa [marker])
        fun point f next => cuts point f (serves.trans next)) fun _ => Course.from_each ?_
      intro f ⟨next, marked, still⟩
      have reached := serves.trans next
      refine Course.sync_bind mute (cuts _ _ reached) ?_
      refine (launch_course mute reached.served still marked fun point => cuts point f reached).weaken (fun _ => id) ?_
        (fun _ _ => id) (fun _ => id)
      exact fun _ g last => ⟨reached.trans last, last.marked marked⟩
    refine Course.bind started fun _ => Course.from_each ?_
    intro f ⟨reached, marked⟩
    obtain ⟨f', finished, served'⟩ := finishes.serves reached
    have ends : Course regime (· = f) (SnapshotStore.finishCommit .resumed) (fun _ reached =>
        reached = f') cut refused :=
      (finishCommit_course mute finished).weaken (fun _ => id) (fun _ _ => id)
        (fun point e pending => during point e f' pending served') (fun _ => False.elim)
    refine Course.bind ends fun _ => rest f' served' ?_
    rw [finished.frame]
    exact marked
  · have off : create = false := by simpa using fun on => allowed (.inl on)
    have unmarked : d.marker = false := by simpa using fun on => allowed (.inr on)
    have gives : refused d := lost off unmarked
    subst off
    have entered : Course regime (· = d) (SnapshotStore.openRoot false) (fun _ reached => reached = d) cut refused :=
      Course.read_bind (Course.weaken (Course.demand fun _ e same => by rw [same]; exact gives) (fun _ => id)
        (fun _ _ => And.right) (fun _ _ => id) (fun _ => id))
    refine Course.bind entered fun _ => Course.sync_bind mute (cuts _ _ (.refl served)) ?_
    have adopts : Course regime (· = d) (SnapshotStore.adopt false) (fun _ _ => False) cut refused := by
      refine Course.read_bind ?_
      rw [if_neg (by rw [unmarked]; nofun), if_neg (by simp)]
      exact Course.raise fun f same => by rw [same]; exact gives
    have starts : Course regime (· = d) (SnapshotStore.start false) (fun _ _ => False) cut refused := adopts.stuck
    exact starts.stuck

/-- `stop_if_empty` leaves the service running or stopped, and the snapshots as they were. -/
theorem stopIfEmpty_course (mute : regime.Mute) (served : Served d)
    (during : ∀ point e, point ≠ .unlinkSocket → Serves d e → cut point e) (unlinked : ∀ e, cut .unlinkSocket e) :
    Course regime (· = d) SnapshotStore.stopIfEmpty (fun _ reached => Serves d reached) cut refused := by
  refine Course.act_bind mute rfl (during _ _ nofun (.refl served)) (Course.onlyIf (fun _ => ?_) ?_)
  · refine Course.sync_bind mute (during _ _ nofun (.refl served)) ?_
    refine Course.write_bind mute (during _ _ nofun (.refl served)) ?_
    exact Course.act_last mute rfl (unlinked _) ⟨rfl, ⟨served.unmarked, served.rooted, fun _ => rfl⟩, id⟩
  · intro _ reached same
    subst same
    exact .refl served

end Service

end Darling.Lanes
