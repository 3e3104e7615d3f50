import Darling.Lanes.Operations
import Darling.Library.Guards

/-! What the lanes' records and snapshots have to do with each other depends on a part of the disk
only. The steps that change nothing of it are dealt with here once. -/
namespace Darling.Lanes

/-- The snapshots, the pending commit, the records of the lanes and the record a call holds. -/
structure View where
  snapshots : Snapshots
  intent : Option Intent
  records : String → Option Record
  draft : Option Record

def Disk.view (d : Disk) : View := ⟨d.snapshots, d.intent, d.record, d.draft⟩

@[simp] theorem view_snapshots (d : Disk) : d.view.snapshots = d.snapshots := rfl

@[simp] theorem view_intent (d : Disk) : d.view.intent = d.intent := rfl

@[simp] theorem view_records (d : Disk) (name : String) : d.view.records name = d.record name := rfl

@[simp] theorem view_draft (d : Disk) : d.view.draft = d.draft := rfl

theorem record_setLane (name : String) (lane : Lane) (d : Disk) :
    (d.setLane name lane).record = Function.update d.record name lane.record := by
  funext other
  unfold Disk.record Disk.setLane
  by_cases same : other = name
  · subst other
    simp
  · simp [same]

theorem onLane_ok {name : String} {change : Lane → Lane} {d d' : Disk} {value : Unit}
    (changed : d.onLane name change = .ok (value, d')) :
    ∃ lane, d.lanes name = some lane ∧ d' = d.setLane name (change lane) := by
  unfold Disk.onLane at changed
  split at changed
  · rename_i lane found
    cases changed
    exact ⟨lane, found, rfl⟩
  · cases changed

theorem view_setLane {name : String} {lane lane' : Lane} {d : Disk} (found : d.lanes name = some lane)
    (same : lane'.record = lane.record) : (d.setLane name lane').view = d.view := by
  have kept : (d.setLane name lane').record = d.record := by
    rw [record_setLane, same, Function.update_eq_self_iff, Disk.record, found]
    rfl
  unfold Disk.view
  rw [kept]
  rfl

/-- A change of a lane that leaves its record alone. -/
theorem view_onLane {name : String} {change : Lane → Lane} (same : ∀ lane, (change lane).record = lane.record)
    {d d' : Disk} {value : Unit} (changed : d.onLane name change = .ok (value, d')) : d'.view = d.view := by
  obtain ⟨lane, found, rfl⟩ := onLane_ok changed
  exact view_setLane found (same lane)

/-- The view after a record was replaced. -/
def View.setRecord (v : View) (name : String) (record : Option Record) : View :=
  { v with records := Function.update v.records name record }

theorem view_record {name : String} {change : Lane → Lane} {record : Option Record} {d d' : Disk} {value : Unit}
    (changed : d.onLane name change = .ok (value, d')) (new : ∀ lane, (change lane).record = record) :
    d'.view = d.view.setRecord name record := by
  obtain ⟨lane, _, rfl⟩ := onLane_ok changed
  show View.mk _ _ _ _ = View.mk _ _ _ _
  rw [record_setLane, new]
  rfl

section Silent

theorem inspect_silent : Silent Disk.view inspect := Silent.sync

theorem onLane_silent {point : Point} {name : String} {change : Lane → Lane}
    (same : ∀ lane, (change lane).record = lane.record) : Silent Disk.view (act point (Disk.onLane name change)) :=
  Silent.act fun _ _ _ => view_onLane same

theorem info_silent {point : Point} {key : Key} : Silent Disk.view (info point key) := by
  refine Silent.act fun d value d' changed => ?_
  cases changed
  rfl

theorem children_silent {key : Key} : Silent Disk.view (children key) := by
  refine Silent.act fun d value d' changed => ?_
  cases changed
  rfl

theorem adopt_silent {create : Bool} : Silent Disk.view (SnapshotStore.adopt create) := by
  refine Silent.bind Silent.disk fun d => Silent.ite inspect_silent (Silent.ite ?_ Silent.raise)
  exact Silent.bind Silent.sync fun _ => Silent.bind (Silent.write fun _ => rfl) fun _ => Silent.sync

theorem launch_silent : Silent Disk.view SnapshotStore.launch := by
  refine Silent.bind Silent.disk fun d => Silent.ite inspect_silent ?_
  exact Silent.bind Silent.demand fun _ => Silent.write fun _ => rfl

theorem start_silent {create : Bool} : Silent Disk.view (SnapshotStore.start create) :=
  Silent.bind adopt_silent fun _ => Silent.bind inspect_silent fun _ => launch_silent

theorem openRoot_silent {create : Bool} : Silent Disk.view (SnapshotStore.openRoot create) :=
  Silent.ite (Silent.write fun _ => rfl) (Silent.bind Silent.disk fun _ => Silent.demand)

theorem claim_silent {retired : Bool} {name : String} : Silent Disk.view (claim retired name) := by
  refine Silent.bind Silent.sync fun _ => Silent.bind (onLane_silent fun _ => rfl) fun _ => ?_
  exact Silent.bind Silent.sync fun _ => Silent.bind (onLane_silent fun _ => rfl) fun _ => Silent.sync

theorem laneNamespace_silent {point : Point} {name : String} {withData : Bool} :
    Silent Disk.view (laneNamespace point name withData) := by
  refine Silent.bind Silent.sync fun _ => Silent.bind Silent.disk fun d => ?_
  cases d.lanes name with
  | none => exact Silent.raise
  | some lane => exact Silent.bind Silent.demand fun _ => Silent.bind Silent.demand fun _ => Silent.pure

theorem requireRetiredLane_silent {name : String} : Silent Disk.view (requireRetiredLane name) :=
  Silent.bind laneNamespace_silent fun _ => Silent.bind Silent.demand fun _ => Silent.demand

theorem writeRetired_silent {retired : Bool} {name : String} : Silent Disk.view (writeRetired retired name) := by
  refine Silent.bind (onLane_silent fun _ => rfl) fun _ => Silent.bind Silent.sync fun _ => ?_
  exact Silent.bind (onLane_silent fun _ => rfl) fun _ => inspect_silent

theorem checkLayers_silent {layers : List Nat} {key : Option Key} : Silent Disk.view (checkLayers layers key) := by
  induction layers generalizing key with
  | nil => exact Silent.pure
  | cons layer rest induction =>
    cases key with
    | none => exact Silent.raise
    | some key =>
      refine Silent.bind info_silent fun found => ?_
      cases found with
      | none => exact Silent.raise
      | some snapshot => exact Silent.bind Silent.disk fun _ => Silent.bind Silent.demand fun _ => induction

theorem checkSnapshotLayers_silent {record : Record} : Silent Disk.view (checkSnapshotLayers record) := by
  unfold checkSnapshotLayers
  cases record.recipe with
  | none => exact Silent.raise
  | some recipe =>
    refine Silent.bind checkLayers_silent fun _ => Silent.bind Silent.demand fun _ => Silent.onlyIf ?_
    exact Silent.bind info_silent fun _ => Silent.bind Silent.disk fun _ => Silent.demand

theorem recordProblems_silent {digest : Digest} {name : String} {record : Record} :
    Silent Disk.view (recordProblems digest name record) := by
  refine Silent.bind Silent.demand fun _ => Silent.bind Silent.demand fun _ => Silent.bind Silent.disk fun _ => ?_
  exact Silent.bind Silent.demand fun _ => inspect_silent

theorem mount_silent {name : String} : Silent Disk.view (mount name) := by
  refine Silent.bind inspect_silent fun _ => Silent.bind Silent.disk fun _ => Silent.bind Silent.demand fun _ => ?_
  refine Silent.act fun d value d' changed => ?_
  obtain ⟨lane, found, rfl⟩ := onLane_ok changed
  refine (view_setLane found ?_).trans ?_
  · rfl
  · rfl

theorem unmount_silent {name : String} : Silent Disk.view (unmount name) := by
  refine Silent.bind inspect_silent fun _ => Silent.bind Silent.disk fun _ => ?_
  refine Silent.bind (Silent.onlyIf (onLane_silent fun _ => rfl)) fun _ => ?_
  refine Silent.bind inspect_silent fun _ => Silent.bind Silent.disk fun _ => ?_
  exact Silent.bind (Silent.onlyIf (onLane_silent fun _ => rfl)) fun _ => inspect_silent

theorem makeSubdir_silent {name : String} {subdir : Subdir} : Silent Disk.view (makeSubdir name subdir) := by
  refine Silent.act fun d value d' changed => ?_
  cases found : d.lanes name with
  | none => simp [found] at changed
  | some lane =>
    simp only [found] at changed
    split at changed
    · cases changed
    · cases changed
      exact view_setLane found rfl

theorem stopIfEmpty_silent : Silent Disk.view SnapshotStore.stopIfEmpty := by
  refine Silent.bind (Silent.act ?_) fun _ => Silent.onlyIf (Silent.bind inspect_silent fun _ => ?_)
  · intro d value d' changed
    cases changed
    rfl
  · exact Silent.bind (Silent.write fun _ => rfl) fun _ => Silent.write fun _ => rfl

end Silent

end Darling.Lanes
