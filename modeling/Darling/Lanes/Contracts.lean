import Darling.Lanes.Forest
import Darling.Lanes.Views

/-! What the methods of the store and the writers of a lane's files do to the view, whatever fails. -/
namespace Darling.Lanes

section Store

variable {window : Point → Prop} {kept raised crashed : View → Prop}

/-- Properties that survive the completion of a commit. -/
structure Stable (kept : View → Prop) : Prop where
  commit : ∀ {v intent snapshot}, kept v → v.intent = some intent →
    v.snapshots.lookup intent.active = some snapshot → v.snapshots.lookup intent.name = none →
    kept { v with snapshots := v.snapshots.commit intent.name intent.active snapshot }
  relabel : ∀ {v key old new}, kept v → v.snapshots.lookup key = some old → new.parent = old.parent →
    (new.labels.kind = some .base → old.labels.kind = some .base ∨ key.original) →
    kept { v with snapshots := v.snapshots.insert key new }
  drop : ∀ {v}, kept v → kept { v with intent := none }
  labelled : ∀ {v intent}, kept v → v.intent = some intent → intent.labels.kind = some .base → intent.name.original

theorem info_runs_windowed {point : Point} {key : Key} {pre : View → Prop}
    (raises : ¬window point → ∀ v, pre v → raised v) (crashes : ∀ v, pre v → crashed v) :
    Runs Disk.view window pre (info point key)
      (fun found v => v.snapshots.lookup key = found ∧ pre v) raised crashed := by
  refine Runs.act crashes raises ?_ fun _ _ _ changed => nomatch changed
  intro d found d' held changed
  cases changed
  exact ⟨rfl, held⟩

theorem info_runs {point : Point} {key : Key} {pre : View → Prop} (raises : ∀ v, pre v → raised v)
    (crashes : ∀ v, pre v → crashed v) :
    Runs Disk.view window pre (info point key)
      (fun found v => v.snapshots.lookup key = found ∧ pre v) raised crashed :=
  info_runs_windowed (fun _ => raises) crashes

theorem label_ok {key : Key} {labels : Labels} {d d' : Disk} {value : Unit}
    (changed : d.label key labels = .ok (value, d')) :
    ∃ snapshot, d.snapshots.lookup key = some snapshot ∧
      d' = { d with snapshots := d.snapshots.insert key { snapshot with labels := snapshot.labels.update labels } } :=
        by
  unfold Disk.label at changed
  split at changed
  · cases changed
  · rename_i snapshot found
    cases changed
    exact ⟨snapshot, found, rfl⟩

theorem commit_ok {name active : Key} {d d' : Disk} {value : Unit} (changed : d.commit name active = .ok (value, d')) :
    ∃ snapshot, d.snapshots.lookup active = some snapshot ∧ snapshot.kind = .active ∧ d.snapshots.lookup name = none ∧
      d' = { d with snapshots := d.snapshots.commit name active snapshot } := by
  unfold Disk.commit at changed
  split at changed
  · cases changed
  · rename_i snapshot found
    split at changed
    · rename_i ready
      cases changed
      exact ⟨snapshot, found, ready.1, ready.2, rfl⟩
    · cases changed

theorem remove_ok {key : Key} {d d' : Disk} {value : Unit} (changed : d.remove key = .ok (value, d')) :
    (∃ snapshot, d.snapshots.lookup key = some snapshot) ∧ Childless Snapshot.parent d.snapshots key ∧
      d' = { d with snapshots := d.snapshots.erase key } := by
  unfold Disk.remove at changed
  split at changed
  · cases changed
  · rename_i free
    cases changed
    obtain ⟨found, childless⟩ := not_or.mp free
    exact ⟨Option.ne_none_iff_exists'.mp found, childless_of_not_hasChildren childless, rfl⟩

theorem update_kind {old new : Labels} (base : (old.update new).kind = some .base) :
    old.kind = some .base ∨ new.kind = some .base := by
  unfold Labels.update at base
  cases kind : new.kind with
  | none =>
    left
    simpa [kind] using base
  | some purpose =>
    right
    simpa [kind] using base

/-- The last part of `_finish_commit`. -/
theorem finishLabels_runs {stage : Stage} {pending : Intent} {wanted : Key → Prop} (stable : Stable kept) :
    Runs Disk.view window
      (fun v => kept v ∧ v.intent = some pending ∧ ∀ key, wanted key → pending.name = key)
      (do
        act (.finishIntent stage) (Disk.label pending.name pending.labels)
        write (.finishIntent stage) fun d => { d with intent := none }
        sync (.finishIntent stage) : LaneM Unit)
      (fun _ v => kept v ∧ v.intent = none ∧ ∀ key, wanted key → ∃ snapshot, v.snapshots.lookup key = some snapshot)
      kept kept := by
  have labelled : Runs Disk.view window
      (fun v => kept v ∧ v.intent = some pending ∧ ∀ key, wanted key → pending.name = key)
      (act (.finishIntent stage) (Disk.label pending.name pending.labels))
      (fun _ v => kept v ∧ ∀ key, wanted key → ∃ snapshot, v.snapshots.lookup key = some snapshot) kept kept := by
    refine Runs.act (fun _ held => held.1) (fun _ _ held => held.1) ?_ fun _ _ held _ => held.1
    rintro d value d' ⟨held, same, named⟩ changed
    obtain ⟨snapshot, found, rfl⟩ := label_ok changed
    refine ⟨stable.relabel held found rfl fun base => ?_, ?_⟩
    · exact (update_kind base).imp_right (stable.labelled held same)
    · intro key asked
      cases named key asked
      exact ⟨_, Finmap.lookup_insert _⟩
  refine Runs.bind labelled fun _ => ?_
  have dropped : Runs Disk.view window
      (fun v => kept v ∧ ∀ key, wanted key → ∃ snapshot, v.snapshots.lookup key = some snapshot)
      (write (.finishIntent stage) fun d => { d with intent := none } : LaneM Unit)
      (fun _ v => kept v ∧ v.intent = none ∧ ∀ key, wanted key → ∃ snapshot, v.snapshots.lookup key = some snapshot)
      kept kept :=
    Runs.write (fun _ held => held.1) (fun _ _ held => held.1) fun d held => ⟨stable.drop held.1, rfl, held.2⟩
  exact Runs.bind dropped fun _ => Runs.sync (fun _ held => held.1) fun _ _ held => held.1

/-- `_finish_commit` keeps what survives a commit, and on return nothing is pending. -/
theorem finishCommit_runs {stage : Stage} {wanted : Key → Prop} (stable : Stable kept) :
    Runs Disk.view window
      (fun v => kept v ∧ ∀ key, wanted key → ∃ pending, v.intent = some pending ∧ pending.name = key)
      (SnapshotStore.finishCommit stage)
      (fun _ v => kept v ∧ v.intent = none ∧ ∀ key, wanted key → ∃ snapshot, v.snapshots.lookup key = some snapshot)
      kept kept := by
  refine Runs.disk_bind fun d => ?_
  cases expected : d.intent with
  | none =>
    refine Runs.pure ?_
    rintro v ⟨rfl, held, asked⟩
    refine ⟨held, expected, fun key wants => ?_⟩
    obtain ⟨pending, same, _⟩ := asked key wants
    cases same.symm.trans expected
  | some pending =>
    have start : ∀ v, (d.view = v ∧ kept v ∧ ∀ key, wanted key → ∃ pending, v.intent = some pending ∧
        pending.name = key) →
        kept v ∧ v.intent = some pending ∧ ∀ key, wanted key → pending.name = key := by
      rintro v ⟨rfl, held, asked⟩
      refine ⟨held, expected, fun key wants => ?_⟩
      obtain ⟨other, same, named⟩ := asked key wants
      cases same.symm.trans expected
      exact named
    refine Runs.strengthen ?_ start
    refine Runs.bind (Runs.sync (fun _ held => held.1) fun _ _ held => held.1) fun _ => ?_
    refine Runs.bind (Runs.silent Silent.demand (fun _ held => held.1) fun _ held => held.1) fun _ => ?_
    refine Runs.bind (Runs.silent info_silent (fun _ held => held.1) fun _ held => held.1) fun found => ?_
    have committed : Runs Disk.view window
        (fun v => kept v ∧ v.intent = some pending ∧ ∀ key, wanted key → pending.name = key)
        (act (.commit stage) (Disk.commit pending.name pending.active))
        (fun _ v => kept v ∧ v.intent = some pending ∧ ∀ key, wanted key → pending.name = key) kept kept := by
      refine Runs.act (fun _ held => held.1) (fun _ _ held => held.1) ?_ fun _ _ held _ => held.1
      rintro d value d' ⟨held, same, named⟩ changed
      obtain ⟨snapshot, present, _, fresh, rfl⟩ := commit_ok changed
      exact ⟨stable.commit held same present fresh, same, named⟩
    have transition : Runs Disk.view window
        (fun v => kept v ∧ v.intent = some pending ∧ ∀ key, wanted key → pending.name = key)
        (SnapshotStore.commitPending stage pending found)
        (fun _ v => kept v ∧ v.intent = some pending ∧ ∀ key, wanted key → pending.name = key) kept kept := by
      cases found with
      | some snapshot => exact Runs.pure fun _ => id
      | none =>
        refine Runs.bind (Runs.silent info_silent (fun _ held => held.1) fun _ held => held.1) fun _ => ?_
        refine Runs.bind (Runs.silent Silent.demand (fun _ held => held.1) fun _ held => held.1) fun _ => ?_
        refine Runs.bind committed fun _ => ?_
        exact Runs.silent info_silent (fun _ held => held.1) fun _ held => held.1
    refine Runs.bind transition fun _ => ?_
    refine Runs.bind (Runs.silent Silent.demand (fun _ held => held.1) fun _ held => held.1) fun _ => ?_
    exact finishLabels_runs stable

theorem remove_runs {key : Key} (erased : ∀ v, kept v → Childless Snapshot.parent v.snapshots key →
      kept { v with snapshots := v.snapshots.erase key }) :
    Runs Disk.view window kept (SnapshotStore.remove key) (fun _ => kept) kept kept := by
  refine Runs.silent_bind info_silent (fun _ => id) (fun _ => id) fun _ => ?_
  refine Runs.silent_bind Silent.demand (fun _ => id) (fun _ => id) fun _ => ?_
  refine Runs.act (fun _ => id) (fun _ _ => id) ?_ fun _ _ held _ => held
  intro d value d' held changed
  obtain ⟨_, childless, rfl⟩ := remove_ok changed
  exact erased d.view held childless

/-- A finished commit leaves its name in the store. -/
theorem commit_runs {stage : Stage} {name active : Key} (stable : Stable kept)
    (intend : ∀ v snapshot, kept v → v.snapshots.lookup active = some snapshot →
      kept { v with intent := some { name, active, parent := snapshot.parent, labels := snapshot.labels } }) :
    Runs Disk.view window kept (SnapshotStore.commit stage name active)
      (fun _ v => kept v ∧ v.intent = none ∧ ∃ snapshot, v.snapshots.lookup name = some snapshot) kept kept := by
  refine Runs.bind (info_runs (fun _ => id) fun _ => id) fun found => ?_
  cases found with
  | none => exact Runs.raise fun _ => And.right
  | some snapshot =>
    refine Runs.silent_bind Silent.demand (fun _ => And.right) (fun _ => And.right) fun _ => ?_
    refine Runs.silent_bind info_silent (fun _ => And.right) (fun _ => And.right) fun _ => ?_
    refine Runs.silent_bind Silent.demand (fun _ => And.right) (fun _ => And.right) fun _ => ?_
    refine Runs.silent_bind Silent.sync (fun _ => And.right) (fun _ => And.right) fun _ => ?_
    have published : Runs Disk.view window (fun v => v.snapshots.lookup active = some snapshot ∧ kept v)
        (write (.publishIntent stage) fun d =>
          { d with intent := some { name, active, parent := snapshot.parent, labels := snapshot.labels } } : LaneM Unit)
        (fun _ v => kept v ∧ ∀ key, key = name → ∃ pending, v.intent = some pending ∧ pending.name = key)
        kept kept := by
      refine Runs.write (fun _ => And.right) (fun _ _ => And.right) fun d held => ⟨intend _ _ held.2 held.1, ?_⟩
      rintro key rfl
      exact ⟨_, rfl, rfl⟩
    refine Runs.bind published fun _ => ?_
    refine Runs.silent_bind Silent.sync (fun _ => And.left) (fun _ => And.left) fun _ => ?_
    refine (finishCommit_runs stable).weaken (fun _ => id) ?_ (fun _ => id) (fun _ => id)
    rintro _ v ⟨held, none, found⟩
    exact ⟨held, none, found name rfl⟩

/-- `locked` runs its body with nothing pending. -/
theorem locked_runs {α : Type} {create : Bool} {body : LaneM α} {post : α → View → Prop} (stable : Stable kept)
    (inside : Runs Disk.view window (fun v => kept v ∧ v.intent = none) body post kept kept) :
    Runs Disk.view window kept (SnapshotStore.locked create body) post kept kept := by
  refine Runs.silent_bind openRoot_silent (fun _ => id) (fun _ => id) fun _ => ?_
  refine Runs.silent_bind inspect_silent (fun _ => id) (fun _ => id) fun _ => ?_
  refine Runs.silent_bind start_silent (fun _ => id) (fun _ => id) fun _ => ?_
  have finished : Runs Disk.view window kept (SnapshotStore.finishCommit .resumed)
      (fun _ v => kept v ∧ v.intent = none) kept kept := by
    refine (finishCommit_runs stable).weaken (fun v held => ⟨held, fun key (impossible : False) => impossible.elim⟩)
      ?_ (fun _ => id) (fun _ => id)
    rintro _ v ⟨held, none, _⟩
    exact ⟨held, none⟩
  exact Runs.bind finished fun _ => inside

theorem prepare_runs {kept' fails : View → Prop} {owner : Owner} {key : Key} {parent : Option Key}
    (prepared : ∀ v layer lowers, kept v → v.snapshots.lookup key = none →
      kept' { v with snapshots := v.snapshots.insert key ⟨.active, parent, {}, layer, lowers⟩ })
    (relabelled : ∀ v old new, kept' v → v.snapshots.lookup key = some old → new.parent = old.parent →
      new.labels.kind = old.labels.kind → kept' { v with snapshots := v.snapshots.insert key new })
    (safe : ∀ v, kept v → fails v) (safe' : ∀ v, kept' v → fails v) :
    Runs Disk.view window kept (SnapshotStore.prepare owner key parent) (fun _ => kept') fails fails := by
  have first : Runs Disk.view window kept (act (.prepare owner) (Disk.prepare key parent)) (fun _ => kept')
      fails fails := by
    refine Runs.act safe (fun _ => safe) ?_ fun _ _ held _ => safe _ held
    intro d recipe d' held changed
    unfold Disk.prepare at changed
    split at changed
    · rename_i fresh
      cases changed
      exact prepared d.view _ _ held fresh
    · cases changed
  refine Runs.bind first fun recipe => Runs.silent_bind Silent.sync safe' safe' fun _ => ?_
  have labelled : Runs Disk.view window kept' (act (.own owner) (Disk.label key { owned := true })) (fun _ => kept')
      fails fails := by
    refine Runs.act safe' (fun _ => safe') ?_ fun _ _ held _ => safe' _ held
    intro d value d' held changed
    obtain ⟨snapshot, found, rfl⟩ := label_ok changed
    exact relabelled d.view snapshot _ held found rfl rfl
  exact Runs.bind labelled fun _ => Runs.pure fun _ => id

end Store

section Files

variable {window : Point → Prop} {pre post fails : View → Prop} {name : String}

theorem writeRecord_runs {first : Bool} {record : Record} (safe : ∀ v, pre v → fails v)
    (safe' : ∀ v, post v → fails v) (done : ∀ v, pre v → post (v.setRecord name (some record))) :
    Runs Disk.view window pre (writeRecord first name record) (fun _ => post) fails fails := by
  refine Runs.silent_bind (onLane_silent fun _ => rfl) safe safe fun _ => ?_
  refine Runs.silent_bind Silent.sync safe safe fun _ => ?_
  have published : Runs Disk.view window pre (act (.publishRecord first) (Disk.onLane name fun lane =>
      { lane with record := some record, recordNew := false })) (fun _ => post) fails fails := by
    refine Runs.act safe (fun _ => safe) ?_ fun _ _ held _ => safe _ held
    intro d value d' held changed
    rw [view_record changed fun _ => rfl]
    exact done d.view held
  exact Runs.bind published fun _ => Runs.silent inspect_silent safe' safe'

theorem writeDraft_runs {first : Bool} (safe : ∀ v, pre v → fails v) (safe' : ∀ v, post v → fails v)
    (done : ∀ v record, pre v → v.draft = some record → post (v.setRecord name (some record))) :
    Runs Disk.view window pre (writeDraft first name) (fun _ => post) fails fails := by
  refine Runs.disk_bind fun d => ?_
  cases drafted : d.draft with
  | none => exact Runs.raise fun v held => safe v held.2
  | some record =>
    refine writeRecord_runs (fun v held => safe v held.2) safe' ?_
    rintro v ⟨rfl, held⟩
    exact done _ record held drafted

theorem retireLane_runs {record : Record} (safe : ∀ v, pre v → fails v) (safe' : ∀ v, post v → fails v)
    (done : ∀ v, pre v → post (v.setRecord name none)) :
    Runs Disk.view window pre (retireLane name record) (fun _ => post) fails fails := by
  refine Runs.silent_bind laneNamespace_silent safe safe fun lane => ?_
  refine Runs.silent_bind Silent.demand safe safe fun _ => ?_
  refine Runs.silent_bind Silent.demand safe safe fun _ => ?_
  refine Runs.silent_bind (Silent.forM fun _ => onLane_silent fun _ => rfl) safe safe fun _ => ?_
  refine Runs.silent_bind (Silent.onlyIf (onLane_silent fun _ => rfl)) safe safe fun _ => ?_
  refine Runs.silent_bind (Silent.onlyIf (onLane_silent fun _ => rfl)) safe safe fun _ => ?_
  refine Runs.silent_bind writeRetired_silent safe safe fun _ => ?_
  have dropped : Runs Disk.view window pre (act .dropRecord (Disk.onLane name fun lane =>
      { lane with record := none })) (fun _ => post) fails fails := by
    refine Runs.act safe (fun _ => safe) ?_ fun _ _ held _ => safe _ held
    intro d value d' held changed
    rw [view_record changed fun _ => rfl]
    exact done d.view held
  exact Runs.bind dropped fun _ => Runs.silent inspect_silent safe' safe'

theorem retireDraft_runs (safe : ∀ v, pre v → fails v) (safe' : ∀ v, post v → fails v)
    (done : ∀ v, pre v → post (v.setRecord name none)) :
    Runs Disk.view window pre (retireDraft name) (fun _ => post) fails fails := by
  refine Runs.disk_bind fun d => ?_
  cases d.draft with
  | none => exact Runs.raise fun v held => safe v held.2
  | some record =>
    exact (retireLane_runs safe safe' done).strengthen fun _ => And.right

theorem revise_runs {change : Record → Record} (done : ∀ v, pre v → post { v with draft := v.draft.map change }) :
    Runs Disk.view window pre (revise change) (fun _ => post) fails fails :=
  Runs.assign fun d => done d.view

/-- A retired lane has no record. -/
theorem laneNamespace_runs {point : Point} (safe : ∀ v, pre v → fails v) :
    Runs Disk.view window pre (laneNamespace point name false) (fun _ v => v.records name = none ∧ pre v)
      fails fails := by
  refine Runs.silent_bind Silent.sync safe safe fun _ => Runs.disk_bind fun d => ?_
  cases found : d.lanes name with
  | none => exact Runs.raise fun v held => safe v held.2
  | some lane =>
    refine Runs.bind (Runs.demand fun v held => safe v held.2) fun _ => ?_
    have bare : ∀ v, ((false = true ∨ lane.bare) ∧ d.view = v ∧ pre v) → v.records name = none ∧ pre v := by
      rintro v ⟨bare, rfl, held⟩
      refine ⟨?_, held⟩
      rw [view_records, Disk.record, found]
      exact (bare.resolve_left Bool.false_ne_true).1
    refine Runs.strengthen ?_ bare
    refine Runs.silent_bind Silent.demand (fun v held => safe v held.2) (fun v held => safe v held.2) fun _ => ?_
    exact Runs.pure fun _ => id

theorem requireRetiredLane_runs (safe : ∀ v, pre v → fails v) :
    Runs Disk.view window pre (requireRetiredLane name) (fun _ v => v.records name = none ∧ pre v) fails fails := by
  refine Runs.bind (laneNamespace_runs safe) fun _ => ?_
  refine Runs.silent_bind Silent.demand (fun v held => safe v held.2) (fun v held => safe v held.2) fun _ => ?_
  exact Runs.silent Silent.demand (fun v held => safe v held.2) (fun v held => safe v held.2)

theorem enter_silent_fresh {v : View} {d : Disk} (unrecorded : d.record name = none) (same : d.view = v) :
    ({ d.setLane name { inode := d.next } with next := d.next + 1 } : Disk).view = v := by
  subst v
  have kept : (d.setLane name { inode := d.next }).record = d.record := by
    rw [record_setLane, Function.update_eq_self_iff, unrecorded]
  show View.mk _ _ (d.setLane name { inode := d.next }).record _ = View.mk _ _ _ _
  rw [kept]
  rfl

/-- After the reservation the lane has no record. -/
theorem reserve_runs (safe : ∀ v, pre v → fails v) :
    Runs Disk.view window pre (reserve name) (fun _ v => v.records name = none ∧ pre v) fails fails := by
  refine Runs.disk_bind fun d => ?_
  have entered : Runs Disk.view window (fun v => d.view = v ∧ pre v) (enter (d.lanes name).isSome name)
      (fun _ v => pre v) fails fails := by
    cases found : d.lanes name with
    | some lane =>
      have quiet : Runs Disk.view window pre (requireRetiredLane name) (fun _ => pre) fails fails :=
        Runs.silent requireRetiredLane_silent safe safe
      exact quiet.strengthen fun _ => And.right
    | none =>
      have safely : ∀ v, (d.view = v ∧ pre v) → fails v := fun v held => safe v held.2
      unfold enter
      refine Runs.ite nofun fun _ => Runs.write safely (fun _ => safely) ?_
      rintro d' ⟨same, held⟩
      have unrecorded : d'.record name = none := by
        have records := congrArg (fun v => v.records name) same
        rw [view_records, view_records, Disk.record, found] at records
        exact records.symm
      rw [enter_silent_fresh unrecorded rfl]
      exact held
  refine Runs.bind entered fun _ => Runs.silent_bind claim_silent safe safe fun _ => ?_
  cases (d.lanes name).isSome with
  | true => exact requireRetiredLane_runs safe
  | false =>
    refine Runs.bind (laneNamespace_runs safe) fun _ => ?_
    refine Runs.silent writeRetired_silent ?_ ?_
    · exact fun v held => safe v held.2
    · exact fun v held => safe v held.2

end Files

end Darling.Lanes
