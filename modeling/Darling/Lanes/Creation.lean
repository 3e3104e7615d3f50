import Darling.Lanes.Walks

/-! `create_lane` on a healthy lane root: at every step but the stranding ones a crash leaves a healthy
root again, and the call refuses only a lane that is recorded or a parent that is not frozen and mounted. -/
namespace Darling.Lanes

/-- The steps before which a crash leaves something that no later call accepts: a directory without a
marker, a record without its name, an import without its intent, a snapshot without its label, a socket
without its service. -/
def Stranding : Point → Prop
  | .claim retired => retired = false
  | .writeRetired retired => retired = false
  | .publishRetired retired => retired = false
  | .publishRecord first => first = true
  | .recipe _ => True
  | .own _ => True
  | .copyBase => True
  | .labelBase => True
  | .beforeIntent stage => stage = .importing
  | .writeIntent stage => stage = .importing
  | .publishIntent stage => stage = .importing
  | .unlinkSocket => True
  | _ => False

instance : DecidablePred Stranding := fun point => by
  cases point <;> unfold Stranding <;> infer_instance

/-- What a crash at the step may leave. -/
def Spared (digest : Digest) (point : Point) (d : Disk) : Prop := ¬Stranding point → Healthy digest d

/-- The frozen lane is mounted where its record says. -/
def Available (parent : String) (d : Disk) : Prop :=
  ∃ lane record, d.lanes parent = some lane ∧ lane.record = some record ∧ record.mode = .frozen ∧
    lane.mount ≠ none ∧ lane.mount = record.mountIdentity

/-- The lane can be created. -/
def Accepts (request : Request) (d : Disk) : Prop :=
  d.record request.name = none ∧ ∀ parent ∈ request.parent, Available parent d

/-- The other lanes are as they were, and the store is still recorded. -/
structure Beside (name : String) (d e : Disk) : Prop where
  others : Others name d e
  marker : e.marker = d.marker

theorem Beside.refl {name : String} {d : Disk} : Beside name d d := ⟨fun _ _ => rfl, rfl⟩

theorem Beside.available {name parent : String} {d e : Disk} (beside : Beside name d e) (apart : parent ≠ name)
    (available : Available parent d) : Available parent e := by
  obtain ⟨lane, record, found, rest⟩ := available
  exact ⟨lane, record, (beside.others parent apart).trans found, rest⟩

theorem setLane_beside {name : String} {d : Disk} {lane : Lane} : Beside name d (d.setLane name lane) :=
  ⟨fun _ apart => Function.update_of_ne apart _ _, rfl⟩

section Spared

variable {digest : Digest} {point : Point} {d : Disk}

theorem Good.spared (good : Good digest d) : Spared digest point d := fun _ => good.healthy

theorem Finishes.spared {d' : Disk} (finishes : Finishes d d') (good : Good digest d') : Spared digest point d :=
  fun _ => ⟨d', finishes, good⟩

theorem stranded (stranding : Stranding point) : Spared digest point d := fun spared => absurd stranding spared

end Spared

variable {regime : Regime LaneError} {refused : Disk → Prop} {digest : Digest} {d : Disk} {name : String}
  {lane : Lane} {record : Record} {snapshot : Snapshot}

section Reservation

/-- The marker of a new directory makes it a retired lane. -/
theorem Good.addRetired (good : Good digest d) (absent : d.lanes name = none) :
    Good digest ({ d with next := d.next + 1 }.setLane name
      { inode := d.next, retired := some d.next, executionLock := true, prefixLease := true }) := by
  have clear := good.clear (by rw [Disk.record, absent, Option.bind_none])
  refine (good.setNext (Nat.le_succ _)).setLane ((laneGood_unrecorded rfl).mpr ⟨clear, ?_⟩) fun record written => ?_
  · exact ⟨⟨rfl, rfl, rfl, rfl⟩, rfl, rfl, rfl, rfl, rfl⟩
  · cases written

/-- The steps of the reservation before the marker. -/
theorem reserveNew_course (mute : regime.Mute) (good : Good digest d) (absent : d.lanes name = none) :
    Course regime (· = d) (do
        enter false name
        claim false name
        settle false name)
      (fun _ reached => reached = { d with next := d.next + 1 }.setLane name
        { inode := d.next, retired := some d.next, executionLock := true, prefixLease := true })
      (Spared digest) refused := by
  have entered : Course regime (· = d) (enter false name)
      (fun _ reached => reached = { d with next := d.next + 1 }.setLane name { inode := d.next })
      (Spared digest) refused := by
    unfold enter
    rw [if_neg Bool.false_ne_true]
    exact Course.act_last mute rfl good.spared rfl
  refine Course.bind entered fun _ => ?_
  refine Course.bind (claim_course mute (setLane_lanes _) (stranded rfl) (stranded rfl) (stranded rfl)) fun _ => ?_
  refine Course.bind (laneNamespace_course mute (setLane_lanes _) (.inr ⟨rfl, rfl, rfl, rfl⟩) (.inl rfl) (stranded rfl))
    fun _ => Course.from_each ?_
  intro reached ⟨_, same⟩
  subst same
  have last : Good digest _ := good.addRetired absent
  refine (writeRetired_course mute (setLane_lanes _) (stranded rfl) (stranded rfl) ?_).weaken (fun _ => id) ?_
    (fun _ _ => id) (fun _ => id)
  · simp only [setLane_setLane]
    exact last.spared
  · intro _ reached same
    simp only [same, setLane_setLane]
    rfl

theorem reserve_course (mute : regime.Mute) (good : Good digest d) (unrecorded : d.record name = none) :
    Course regime (· = d) (reserve name)
      (fun _ reached => Good digest reached ∧ Beside name d reached ∧ reached.snapshots = d.snapshots ∧
        ∃ lane, reached.lanes name = some lane ∧ Retired lane) (Spared digest) refused := by
  refine Course.read_bind ?_
  cases found : d.lanes name with
  | some lane =>
    have lanes := good.lanes name
    rw [found] at lanes
    rw [Disk.record, found] at unrecorded
    obtain ⟨_, retired⟩ := (laneGood_unrecorded unrecorded).mp lanes
    have locked : ({ lane with executionLock := true } : Lane) = lane := by rw [← retired.executionLock]
    have claimed : lane.claimed = lane := (congrArg (fun lane => { lane with prefixLease := true }) locked).trans (by
      rw [← retired.prefixLease])
    refine Course.bind (requireRetiredLane_course mute found retired good.spared) fun _ => ?_
    refine Course.bind (claim_course mute found good.spared ?_ ?_) fun _ => ?_
    · rw [locked, setLane_self found]
      exact good.spared
    · rw [claimed, setLane_self found]
      exact good.spared
    rw [claimed, setLane_self found]
    refine (requireRetiredLane_course mute found retired good.spared).weaken (fun _ => id) ?_ (fun _ _ =>
      id) (fun _ => id)
    intro _ reached same
    subst same
    exact ⟨good, .refl, rfl, lane, found, retired⟩
  | none =>
    refine (reserveNew_course mute good found).weaken (fun _ => id) ?_ (fun _ _ => id) (fun _ => id)
    intro _ reached same
    subst same
    refine ⟨good.addRetired found, ⟨setLane_beside.others, rfl⟩, rfl, _, setLane_lanes _, ?_⟩
    exact ⟨⟨rfl, rfl, rfl, rfl⟩, rfl, rfl, rfl, rfl, rfl⟩

end Reservation

section Import

/-- The snapshot of an import before its commit, with the digest of the copy. -/
def copiedBase (layer : Nat) (copied : String) : Snapshot := ⟨.active, none, ⟨true, some .base, some copied⟩, layer, []⟩

/-- The disk with a labelled copy of the base. -/
def Disk.copied (d : Disk) (token copied : String) : Disk :=
  { d with snapshots := d.snapshots.insert (.imported token) (copiedBase d.next copied)
           trees := Function.update d.trees d.next copied, next := d.next + 1 }

theorem label_copied {token copied : String} :
    Disk.label (.imported token)
      { kind := some .base, tree := some (Function.update d.trees d.next copied d.next) }
      { d.prepared (.imported token) none { owned := true } with trees := Function.update d.trees d.next copied } =
        .ok ((), d.copied token copied) := by
  unfold Disk.label Disk.prepared Disk.copied copiedBase
  simp only [Finmap.lookup_insert, Finmap.insert_insert, Function.update_self]
  rfl

theorem Good.imported (good : Good digest d) {token copied : String} (fresh : d.snapshots.lookup (.base token) = none) :
    Good digest ((d.copied token copied).renamed (.base token) (.imported token) (copiedBase d.next copied)) := by
  apply good.addBase fresh rfl rfl (Finmap.lookup_insert _)
  intro other apart
  rw [Finmap.lookup_insert_of_ne _ apart]
  by_cases same : other = .imported token
  · rw [same, Finmap.lookup_erase, good.stored.imports]
  · rw [Finmap.lookup_erase_ne same]
    exact Finmap.lookup_insert_of_ne _ same

/-- A copied base is committed under its own key. -/
theorem commitBase_course (mute : regime.Mute) {token copied : String} (good : Good digest d)
    (fresh : d.snapshots.lookup (.base token) = none) :
    Course regime (· = d.copied token copied) (SnapshotStore.commit .importing (.base token) (.imported token))
      (fun _ reached =>
        reached = (d.copied token copied).renamed (.base token) (.imported token) (copiedBase d.next copied))
      (Spared digest) refused := by
  refine commit_course mute good.calm (Finmap.lookup_insert _) rfl rfl ?_ ⟨stranded rfl, stranded rfl, stranded rfl⟩ ?_
  · have apart : Key.base token ≠ .imported token := nofun
    exact (Finmap.lookup_insert_of_ne _ apart).trans fresh
  · exact fun point e finishes => finishes.spared (good.imported fresh)

theorem importBase_course (mute : regime.Mute) {request : Request} (good : Good digest d) :
    Course regime (· = d) (importBase digest request)
      (fun key reached => key = .base (digest.base request.base) ∧ Good digest reached ∧ reached.lanes = d.lanes ∧
        reached.marker = d.marker ∧ ∃ snapshot, reached.snapshots.lookup key = some snapshot)
      (Spared digest) refused := by
  refine Course.act_bind mute rfl good.spared ?_
  cases found : d.snapshots.lookup (.base (digest.base request.base)) with
  | some existing =>
    obtain ⟨committed, owned, _⟩ := good.stored.permanent found True.intro
    refine Course.demand_bind ⟨committed, owned⟩ (Course.pure ?_)
    intro reached same
    subst same
    exact ⟨rfl, good, rfl, rfl, existing, found⟩
  | none =>
    refine Course.bind (prepare_course mute (good.stored.imports _) good.spared
      ⟨stranded True.intro, stranded True.intro⟩) fun recipe => Course.from_each ?_
    intro prepared ⟨written, same⟩
    subst written same
    have imported : Course regime (· = d.prepared (.imported (digest.base request.base)) none { owned := true })
        (do
          write .copyBase fun e => { e with trees := Function.update e.trees d.next request.copied }
          sync .copyBase
          act .labelBase fun e =>
            e.label (.imported (digest.base request.base)) { kind := some .base, tree := some (e.trees d.next) }
          SnapshotStore.commit .importing (.base (digest.base request.base)) (.imported (digest.base request.base)))
        (fun _ reached => reached = (d.copied (digest.base request.base) request.copied).renamed
          (.base (digest.base request.base)) (.imported (digest.base request.base)) (copiedBase d.next request.copied))
        (Spared digest) (fun _ => False) := by
      refine Course.write_bind mute (stranded True.intro) (Course.sync_bind mute (stranded True.intro) ?_)
      exact Course.act_bind mute label_copied (stranded True.intro) (commitBase_course mute good found)
    refine Course.bind (Course.unhandled imported) fun _ => Course.pure ?_
    intro reached same
    subst same
    exact ⟨rfl, good.imported found, rfl, rfl, _, Finmap.lookup_insert _⟩

end Import

section Parents

/-- The layers of a lane in use pass the check. -/
theorem Good.checks (good : Good digest d) (mute : regime.Mute) {cut : Point → Disk → Prop}
    (found : d.lanes name = some lane) (recorded : lane.record = some record) (live : record.mode.live)
    (during : cut .info d) :
    Course regime (· = d) (checkSnapshotLayers record) (fun _ reached => reached = d) cut refused := by
  have kept := (good.recorded found recorded).kept
  rcases kept.present live with ⟨snapshot, stands⟩ | ⟨snapshot, stands⟩
  · obtain ⟨_, _, parent, recipe⟩ := kept.own stands
    have shelved := good.stored.shelved stands
    rw [parent] at shelved
    refine checkSnapshotLayers_course mute (recipe live) shelved (fun frozen => ?_) during
    cases (kept.frozen_gone frozen).symm.trans stands
  · obtain ⟨parent, recipe⟩ := kept.committed stands
    have shelved := good.stored.shelved stands
    rw [parent] at shelved
    obtain ⟨committed, _, tree⟩ := good.stored.permanent stands True.intro
    refine checkSnapshotLayers_course mute (recipe live) shelved (fun frozen => ?_) during
    rw [kept.frozen frozen]
    exact ⟨snapshot, stands, committed, tree⟩

theorem recordProblems_course (mute : regime.Mute) {cut : Point → Disk → Prop} (found : d.lanes name = some lane)
    (named : record.name = name) (shaped : record.key = digest.active name ∨ record.key = digest.committed name)
    (stop : ¬(lane.mount ≠ none ∧ lane.mount = record.mountIdentity) → refused d) (during : cut .inspect d) :
    Course regime (· = d) (recordProblems digest name record)
      (fun _ reached => reached = d ∧ lane.mount ≠ none ∧ lane.mount = record.mountIdentity) cut refused := by
  refine Course.demand_bind named (Course.demand_bind shaped (Course.read_bind ?_))
  rw [found]
  by_cases mounted : lane.mount ≠ none ∧ lane.mount = record.mountIdentity
  · exact Course.demand_bind mounted (Course.sync_last mute during ⟨rfl, mounted⟩)
  · refine Course.bind (Course.demand fun _ e same => by rw [same]; exact stop mounted) fun _ => Course.from_each ?_
    intro e ⟨holds, _⟩
    exact absurd holds mounted

theorem frozenParent_course (mute : regime.Mute) {parent : String} (good : Good digest d)
    (stop : ¬Available parent d → refused d) :
    Course regime (· = d) (frozenParent digest parent)
      (fun key reached => key = digest.committed parent ∧ reached = d ∧ ∃ snapshot, d.snapshots.lookup key =
        some snapshot)
      (Spared digest) refused := by
  refine Course.read_bind ?_
  cases recorded : d.record parent with
  | none =>
    refine Course.raise fun e same => ?_
    rw [same]
    apply stop
    rintro ⟨lane, record, found, present, _⟩
    rw [Disk.record, found, Option.bind_some, present] at recorded
    cases recorded
  | some record =>
    obtain ⟨lane, found, present⟩ := Option.bind_eq_some_iff.mp recorded
    have known := good.recorded found present
    have lacks (missing : ¬(record.mode = .frozen ∧ lane.mount ≠ none ∧ lane.mount = record.mountIdentity)) :
        refused d := by
      apply stop
      rintro ⟨lane', record', found', present', rest⟩
      cases found.symm.trans found'
      cases present.symm.trans present'
      exact missing rest
    by_cases frozen : record.mode = .frozen
    · refine Course.demand_bind frozen ?_
      refine Course.bind (recordProblems_course mute found known.named known.shaped
        (fun lost => lacks fun all => lost all.2) good.spared) fun _ => Course.from_each ?_
      rintro e ⟨same, -⟩
      subst same
      have live : record.mode.live := by
        rw [frozen]
        exact True.intro
      refine Course.sync_bind mute good.spared
        (Course.bind (good.checks mute found present live good.spared) fun _ => ?_)
      refine Course.pure fun e same => ⟨known.kept.frozen frozen, same, ?_⟩
      rw [known.kept.frozen frozen]
      rcases known.kept.present live with ⟨snapshot, stands⟩ | committed
      · cases (known.kept.frozen_gone frozen).symm.trans stands
      · exact committed
    · refine Course.bind (Course.demand fun _ e same => by rw [same]; exact lacks fun all => frozen all.1) fun _ =>
        Course.from_each ?_
      rintro e ⟨holds, -⟩
      exact absurd holds frozen

/-- The parent that `create_lane` works on is in the store. -/
theorem selectParent_course (mute : regime.Mute) {request : Request} (good : Good digest d)
    (stop : ∀ parent, request.parent = some parent → ¬Available parent d → refused d) :
    Course regime (· = d) (selectParent digest request)
      (fun key reached => key = digest.expectedParent (request.record digest key) ∧ Good digest reached ∧
        reached.lanes = d.lanes ∧ reached.marker = d.marker ∧ ∃ snapshot, reached.snapshots.lookup key = some snapshot)
      (Spared digest) refused := by
  refine Course.sync_bind mute good.spared ?_
  cases chosen : request.parent with
  | none =>
    refine Course.sync_bind mute good.spared ?_
    refine (importBase_course mute good).weaken (fun _ => id) ?_ (fun _ _ => id) (fun _ => id)
    intro key reached ⟨same, rest⟩
    refine ⟨?_, rest⟩
    simp only [same, Digest.expectedParent, Request.record, chosen]
  | some parent =>
    refine (frozenParent_course mute good (stop parent chosen)).weaken (fun _ => id) ?_ (fun _ _ => id) (fun _ => id)
    intro key reached ⟨same, still, present⟩
    subst still
    refine ⟨?_, good, rfl, rfl, present⟩
    simp only [same, Digest.expectedParent, Request.record, chosen]

end Parents

section Publication

theorem expectedParent_permanent : (digest.expectedParent record).permanent := by
  unfold Digest.expectedParent
  cases record.parent with
  | none => exact True.intro
  | some parent => exact True.intro

/-- A record that is written for a lane. -/
theorem Good.setRecord (good : Good digest d) (marked : d.marker = true) {lane : Lane}
    (written : lane.record = some record)
    (recorded : Recorded digest d.snapshots name lane record) : Good digest (d.setLane name lane) :=
  good.setLane ((laneGood_recorded written).mpr recorded) fun _ _ => marked

/-- The record in memory replaces the one in the lane's directory. -/
theorem writeDraft_course (mute : regime.Mute) {first : Bool} {cut : Point → Disk → Prop}
    (draft : d.draft = some record)
    (found : d.lanes name = some lane) (before : cut (.writeRecord first) d)
    (during : cut (.publishRecord first) (d.setLane name { lane with recordNew := true }))
    (after : cut .inspect (d.setLane name { lane with record := some record, recordNew := false })) :
    Course regime (· = d) (writeDraft first name)
      (fun _ reached => reached = d.setLane name { lane with record := some record, recordNew := false })
      cut refused := by
  refine Course.read_bind ?_
  rw [draft]
  exact writeRecord_course mute found before during after

/-- The lane's directory gets all its parts. -/
theorem makeSubdirs_course (mute : regime.Mute) {cut : Point → Disk → Prop} (found : d.lanes name = some lane)
    (empty : lane.data = []) (during : ∀ data, cut .makeSubdir (d.setLane name { lane with data })) :
    Course regime (· = d) (subdirs.forM (makeSubdir name))
      (fun _ reached => reached = d.setLane name { lane with data := subdirs }) cut refused := by
  have looped : Course regime (fun reached => reached = d.setLane name { lane with data := [] })
      (subdirs.forM (makeSubdir name)) (fun _ reached => reached = d.setLane name { lane with data := subdirs })
      cut refused := by
    refine Course.forM (fun done reached => reached = d.setLane name { lane with data := done }) ?_
    intro done item rest whole
    have fresh : item ∉ done := by
      have distinct : (done ++ item :: rest).Nodup := by
        rw [whole]
        decide
      exact fun member => (List.nodup_append.mp distinct).2.2 item member item List.mem_cons_self rfl
    refine Course.act mute ?_ ?_ ?_
    · intro reached same
      rw [same]
      exact during done
    · intro reached value reached' same changed
      simp only [same, setLane_lanes, if_neg fresh, setLane_setLane] at changed
      cases changed
      rfl
    · intro reached error same changed
      simp only [same, setLane_lanes, if_neg fresh] at changed
      cases changed
  have start : ({ lane with data := [] } : Lane) = lane := by rw [← empty]
  rw [start, setLane_self found] at looped
  exact looped

/-- A lane on its way from a reserved directory to a mounted view. -/
structure Founding (digest : Digest) (name : String) (d : Disk) (lane : Lane) (record : Record) : Prop where
  good : Good digest d
  marked : d.marker = true
  found : d.lanes name = some lane
  draft : d.draft = some record
  named : record.name = name
  keyed : record.key = digest.active name
  creating : record.mode = .creating
  unmounted : record.mountIdentity = none
  expected : record.parentKey = digest.expectedParent record
  above : ∃ snapshot, d.snapshots.lookup record.parentKey = some snapshot
  mount : lane.mount = none
  view : lane.view = false

theorem Founding.idle (founding : Founding digest name d lane record) : ¬record.mode.live := by
  rw [founding.creating]
  exact id

theorem Founding.unfreezing (founding : Founding digest name d lane record) : record.mode ≠ .freezing := by
  rw [founding.creating]
  nofun

/-- From the reserved directory to the parts of the lane. -/
theorem establish_course (mute : regime.Mute) {next : LaneM Unit} {post : Unit → Disk → Prop}
    (founding : Founding digest name d lane record) (retired : Retired lane)
    (rest : ∀ reached lane', lane'.record = some record → lane'.retired = none →
      Clear digest reached.snapshots name → Founding digest name reached lane' record →
      Course regime (· = reached) next post (Spared digest) refused) :
    Course regime (· = d) (do
        writeDraft true name
        act .dropRetired (Disk.onLane name fun lane => { lane with retired := none })
        subdirs.forM (makeSubdir name)
        inspect
        next) post (Spared digest) refused := by
  have good := founding.good
  have clear : Clear digest d.snapshots name := good.clear (by
    rw [Disk.record, founding.found, Option.bind_some, retired.bare.1])
  have kept : Kept digest d.snapshots name record := .clear clear founding.idle
  have recorded {lane' : Lane} (free : lane'.retired = none ∨ lane'.retired = some lane'.inode) :
      Recorded digest d.snapshots name lane' record :=
    ⟨founding.named, .inl founding.keyed, founding.expected, free, .inr (.inl founding.unmounted), kept⟩
  have written (lane' : Lane) (holds : lane'.record = some record)
      (free : lane'.retired = none ∨ lane'.retired = some lane'.inode) : Good digest (d.setLane name lane') :=
    good.setRecord founding.marked holds (recorded free)
  have named := written { lane with record := some record, recordNew := false } rfl (.inr retired.retired)
  refine Course.bind (writeDraft_course mute founding.draft founding.found good.spared (stranded rfl)
    named.spared) fun _ => ?_
  refine Course.act_bind mute (onLane_found (setLane_lanes _) _) named.spared ?_
  rw [setLane_setLane]
  refine Course.bind (makeSubdirs_course mute (setLane_lanes _) retired.bare.2.2.2 ?_) fun _ => ?_
  · intro data
    rw [setLane_setLane]
    exact (written { lane with record := some record, recordNew := false, retired := none, data } rfl (.inl rfl)).spared
  rw [setLane_setLane]
  have last := written { lane with record := some record, recordNew := false, retired := none, data := subdirs } rfl
    (.inl rfl)
  exact Course.sync_bind mute last.spared (rest _ _ rfl rfl clear
    { founding with good := last, found := setLane_lanes _ })

/-- The snapshot of the lane is prepared and its recipe recorded. -/
theorem prepareLane_course (mute : regime.Mute) (apart : Function.Injective digest.lane) {next : LaneM Unit}
    {post : Unit → Disk → Prop} (founding : Founding digest name d lane record) (written : lane.record = some record)
    (unretired : lane.retired = none) (clear : Clear digest d.snapshots name)
    (rest : ∀ reached lane' record' snapshot, lane'.record = some record' → lane'.retired = none →
      reached.snapshots.lookup (digest.active name) = some snapshot →
      record'.recipe = some ⟨snapshot.layer, snapshot.lowers⟩ → Founding digest name reached lane' record' →
      Course regime (· = reached) next post (Spared digest) refused) :
    Course regime (· = d) (do
        let recipe ← SnapshotStore.prepare .lane (digest.active name) (some record.parentKey)
        revise fun record => { record with recipe := some recipe }
        writeDraft false name
        checkDraft
        next) post (Spared digest) refused := by
  have good := founding.good
  obtain ⟨above, stands⟩ := founding.above
  have permanent : record.parentKey.permanent := by
    rw [founding.expected]
    exact expectedParent_permanent
  have lowers : d.snapshots.lowers (some record.parentKey) = above.layer :: above.lowers := by
    simp only [Snapshots.lowers, stands]
  have shelved := good.unshelve stands permanent
  rw [← lowers] at shelved
  refine Course.bind (prepare_course mute clear.1 good.spared ⟨stranded True.intro, stranded True.intro⟩) fun recipe =>
    Course.from_each ?_
  intro prepared ⟨same, reached⟩
  subst same reached
  have added : Good digest (d.prepared (digest.active name) (some record.parentKey) { owned := true }) :=
    good.addLane apart founding.found written founding.idle founding.keyed clear rfl shelved (Finmap.lookup_insert _)
      fun other different => Finmap.lookup_insert_of_ne _ different
  have present := (added.recorded founding.found written).kept
  let revised : Record := { record with recipe := some ⟨d.next, d.snapshots.lowers (some record.parentKey)⟩ }
  let e : Disk :=
    { d.prepared (digest.active name) (some record.parentKey) { owned := true } with draft := some revised }
  have drafted : (d.prepared (digest.active name) (some record.parentKey) { owned := true }).draft = some record :=
    founding.draft
  refine Course.assign_bind ?_
  rw [drafted]
  show Course regime (· = e) _ _ _ _
  have good' : Good digest e := added.setDraft _
  have named : Good digest (e.setLane name { lane with record := some revised, recordNew := false }) := by
    refine good'.setRecord founding.marked rfl
      ⟨founding.named, .inl founding.keyed, founding.expected, .inl unretired, .inl founding.mount, ?_⟩
    exact present.shelve founding.idle rfl fun shape other => present.elsewhere founding.unfreezing shape other
  refine Course.bind (writeDraft_course mute rfl founding.found good'.spared ?_ named.spared) fun _ => ?_
  · have renewed : Good digest (e.setLane name { lane with recordNew := true }) :=
      good'.relane founding.found written rfl (.inl unretired) (.inl founding.mount)
    exact renewed.spared
  refine Course.bind (Course.read_bind (checkSnapshotLayers_course mute rfl ?_ ?_ named.spared)) fun _ => ?_
  · exact good'.stored.shelved (Finmap.lookup_insert _)
  · intro frozen
    cases founding.creating.symm.trans frozen
  refine rest _ { lane with record := some revised, recordNew := false } revised _ rfl unretired
    (Finmap.lookup_insert _) rfl ?_
  refine { founding with good := named, found := setLane_lanes _, draft := rfl, above := ⟨above, ?_⟩ }
  have other : record.parentKey ≠ digest.active name := by
    intro same
    rw [same] at permanent
    exact permanent
  exact (Finmap.lookup_insert_of_ne _ other).trans stands

/-- The view of the lane is mounted and the record becomes active. -/
theorem mountLane_course (mute : regime.Mute) (founding : Founding digest name d lane record)
    (written : lane.record = some record) (unretired : lane.retired = none)
    (stands : d.snapshots.lookup (digest.active name) = some snapshot)
    (recipe : record.recipe = some ⟨snapshot.layer, snapshot.lowers⟩) :
    Course regime (· = d) (do
        mount name
        inspect
        adoptMount name
        writeDraft false name) (fun _ => Good digest) (Spared digest) refused := by
  have good := founding.good
  have kept := (good.recorded founding.found written).kept
  refine Course.bind (mount_course mute founding.found founding.view ⟨good.spared, good.spared⟩) fun _ => ?_
  let mounted : Lane := { lane with mount := some d.next, view := true }
  let e : Disk := ({ d with next := d.next + 1 } : Disk).setLane name mounted
  show Course regime (· = e) _ _ _ _
  have good' : Good digest e :=
    (good.setNext (Nat.le_succ _)).relane founding.found written rfl (.inl unretired) (.inr (.inl founding.unmounted))
  refine Course.sync_bind mute good'.spared ?_
  let revised : Record := { record with mountIdentity := some d.next, mode := .active }
  have adopted : Course regime (· = e) (adoptMount name) (fun _ reached => reached = { e with draft := some revised })
      (Spared digest) refused := by
    refine Course.read_bind ?_
    have seen : (e.lanes name).bind Lane.mount = some d.next := by
      rw [setLane_lanes]
      rfl
    rw [seen]
    refine Course.assign fun reached same => ?_
    subst same
    have draft : e.draft = some record := founding.draft
    rw [draft]
    rfl
  refine Course.bind adopted fun _ => ?_
  have good'' := good'.setDraft (some revised)
  have last : Good digest ({ e with draft := some revised }.setLane name
      { mounted with record := some revised, recordNew := false }) := by
    refine good''.setRecord founding.marked rfl
      ⟨founding.named, .inl founding.keyed, founding.expected, .inl unretired, .inr (.inr rfl), ?_⟩
    have gone := kept.elsewhere founding.unfreezing (.inr rfl) (by rw [founding.keyed]; exact committed_ne_active)
    refine { own := ?_, committed := ?_, single := .inr gone, elsewhere := ?_, active := ?_, freezing := nofun,
             frozen := nofun, present := fun _ => .inl ⟨snapshot, stands⟩ }
    · intro other found
      cases stands.symm.trans found
      obtain ⟨kind, owned, parent, _⟩ := kept.own stands
      exact ⟨kind, owned, parent, fun _ => recipe⟩
    · intro other found
      cases gone.symm.trans found
    · exact fun _ _ shape other => kept.elsewhere founding.unfreezing shape other
    · exact fun _ => founding.keyed
  have found : ({ e with draft := some revised } : Disk).lanes name = some mounted := setLane_lanes _
  refine (writeDraft_course mute rfl found good''.spared ?_ ?_).weaken (fun _ => id) ?_ (fun _ _ => id) (fun _ => id)
  · have renewed : Good digest ({ e with draft := some revised }.setLane name { mounted with recordNew := true }) :=
      good''.relane found written rfl (.inl unretired) (.inr (.inl founding.unmounted))
    exact renewed.spared
  · exact last.spared
  · intro _ reached same
    rw [same]
    exact last

theorem publish_course (mute : regime.Mute) (apart : Function.Injective digest.lane) {parentKey : Key}
    (founding : Founding digest name d lane record) (retired : Retired lane) (parent : record.parentKey = parentKey) :
    Course regime (· = d) (publish name (digest.active name) parentKey) (fun _ =>
      Good digest) (Spared digest) refused := by
  subst parent
  unfold publish
  refine establish_course mute founding retired ?_
  intro _ _ written unretired clear founding
  refine prepareLane_course mute apart founding written unretired clear ?_
  intro _ _ _ _ written unretired stands recipe founding
  exact mountLane_course mute founding written unretired stands recipe

end Publication

section Create

variable {request : Request} {d' : Disk}

/-- A recorded lane is not created again. -/
theorem requireRetiredLane_refuses (mute : regime.Mute) {cut : Point → Disk → Prop} (found : d.lanes name = some lane)
    (recorded : lane.record ≠ none) (during : cut .inspect d) (stop : refused d) :
    Course regime (· = d) (requireRetiredLane name) (fun _ _ => False) cut refused := by
  have looked : Course regime (· = d) (laneNamespace .inspect name false) (fun _ _ => False) cut refused := by
    refine Course.sync_bind mute during (Course.read_bind ?_)
    rw [found]
    refine Course.bind (Course.demand fun _ e same => by rw [same]; exact stop) fun _ => Course.from_each ?_
    intro e ⟨allowed, _⟩
    rcases allowed with never | bare
    · cases never
    · exact absurd bare.1 recorded
  exact looked.stuck

/-- The part of `create_lane` under the store's lock. -/
theorem createLocked_course (mute : regime.Mute) (apart : Function.Injective digest.lane) (good : Good digest d)
    (marked : d.marker = true) (unrecorded : d.record request.name = none)
    (stop : ∀ parent e, request.parent = some parent → Beside request.name d e → ¬Available parent e → Good digest e →
      refused e) {failing : Key → LaneError → LaneM Unit} :
    Course regime (· = d) (do
        reserve request.name
        demand ((← info .info (digest.active request.name)) = none) .snapshotState
        demand ((← info .info (digest.committed request.name)) = none) .snapshotState
        let parentKey ← selectParent digest request
        assign fun d => { d with draft := some (request.record digest parentKey) }
        handle (publish request.name (digest.active request.name) parentKey) (failing parentKey))
      (fun _ => Good digest) (Spared digest) refused := by
  refine Course.bind (reserve_course mute good unrecorded) fun _ => Course.from_each ?_
  intro e ⟨reserved, beside, same, lane, found, retired⟩
  have clear := good.clear unrecorded
  rw [← same] at clear
  refine Course.act_bind mute rfl reserved.spared (Course.demand_bind clear.1 ?_)
  refine Course.act_bind mute rfl reserved.spared (Course.demand_bind clear.2 ?_)
  refine Course.bind (selectParent_course mute reserved fun parent chosen missing =>
    stop parent e chosen beside missing reserved) fun parentKey => Course.from_each ?_
  intro f ⟨expected, selected, lanes, marker, present⟩
  have founding : Founding digest request.name { f with draft := some (request.record digest parentKey) } lane
      (request.record digest parentKey) :=
    { good := selected.setDraft _
      marked := (marker.trans beside.marker).trans marked
      found := (congrFun lanes _).trans found
      draft := rfl
      named := rfl
      keyed := rfl
      creating := rfl
      unmounted := rfl
      expected := expected
      above := present
      mount := retired.mount
      view := retired.view }
  exact Course.assign_bind (Course.unhandled (publish_course mute apart founding retired rfl))

/-- On a healthy root `create_lane` makes the lane it accepts, and a crash strands it at the stranding steps only. -/
theorem createLane_course (mute : regime.Mute) (apart : Function.Injective digest.lane) (finishes : Finishes d d')
    (good : Good digest d') (stop : ¬Accepts request d' → ∀ e, Healthy digest e → refused e) :
    Course regime (· = d) (createLane digest request) (fun _ => Good digest) (Spared digest) refused := by
  have framed := finishes.frame
  have lanes : d.lanes = d'.lanes := by rw [framed]
  have records : d.record = d'.record := by
    unfold Disk.record
    rw [lanes]
  have healthy : Healthy digest d := ⟨d', finishes, good⟩
  refine Course.read_bind ?_
  by_cases unrecorded : d'.record request.name = none
  · have entered : Course regime (· = d) (onlyIf (d.lanes request.name).isSome (requireRetiredLane request.name))
        (fun _ reached => reached = d) (Spared digest) refused := by
      refine Course.onlyIf (fun present => ?_) fun _ _ => id
      obtain ⟨lane, found⟩ := Option.isSome_iff_exists.mp present
      have lanesGood := good.lanes request.name
      rw [← lanes, found] at lanesGood
      rw [Disk.record, ← lanes, found] at unrecorded
      exact requireRetiredLane_course mute found ((laneGood_unrecorded unrecorded).mp lanesGood).2
        (finishes.spared good)
    refine Course.bind entered fun _ => ?_
    have parented : Course regime (· = d) (requireParent request.parent)
        (fun _ reached => reached = d ∧ ∀ parent ∈ request.parent, (d'.record parent).isSome = true)
        (Spared digest) refused := by
      refine Course.read_bind ((Course.demand ?_).weaken (fun _ => id) ?_ (fun _ _ => id) (fun _ => id))
      · intro missing e same
        rw [same]
        refine stop (fun accepts => missing fun parent chosen => ?_) d healthy
        obtain ⟨lane, record, found, present, _⟩ := accepts.2 parent chosen
        rw [records, Disk.record, found, Option.bind_some, present]
        rfl
      · rintro _ e ⟨known, same⟩
        rw [← records]
        exact ⟨same, known⟩
    refine Course.bind parented fun _ => Course.from_each ?_
    rintro e ⟨same, known⟩
    subst same
    refine Course.sync_bind mute (finishes.spared good) ?_
    refine locked_course mute finishes ?_ ?_ (by simp) ?_
    · have served := good.served
      rw [framed] at served
      exact ⟨served.unmarked, served.rooted, served.socket⟩
    · exact fun point e e' finished serves => finished.spared (good.serves serves)
    · intro e serves marked
      have still : e.lanes = d'.lanes := by rw [serves.same]
      refine createLocked_course mute apart (good.serves serves) marked ?_ ?_
      · rw [Disk.record, still]
        exact unrecorded
      · intro parent f chosen beside missing selected
        refine stop (fun accepts => missing (beside.available ?_ ?_)) f selected.healthy
        · rintro rfl
          have recorded := known request.name chosen
          rw [unrecorded] at recorded
          cases recorded
        · have available := accepts.2 parent chosen
          unfold Available at available ⊢
          rwa [still]
  · have present : ∃ lane, d.lanes request.name = some lane ∧ lane.record ≠ none := by
      obtain ⟨record, recorded⟩ := Option.ne_none_iff_exists'.mp unrecorded
      obtain ⟨lane, found, written⟩ := Option.bind_eq_some_iff.mp recorded
      rw [lanes]
      refine ⟨lane, found, ?_⟩
      rw [written]
      simp
    obtain ⟨lane, found, recorded⟩ := present
    have stuck : Course regime (· = d) (onlyIf (d.lanes request.name).isSome (requireRetiredLane request.name))
        (fun _ _ => False) (Spared digest) refused := by
      rw [found]
      refine Course.onlyIf (fun _ => ?_) (by simp)
      exact requireRetiredLane_refuses mute found recorded (finishes.spared good)
        (stop (fun accepts => unrecorded accepts.1) d healthy)
    exact stuck.stuck

end Create

end Darling.Lanes
