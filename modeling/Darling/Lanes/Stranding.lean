import Darling.Lanes.Removal

/-! A crash strands a lane or its base at the stranding steps only: from every other state that the calls
reach, `destroy_lane` of a recorded lane and then `create_lane` bring the lane back. -/
namespace Darling.Lanes

section Passing

/-- What happens to a lane root between two calls. The lanes in use write to their own layers, views
are lost with the machine, and the service ends with its socket. -/
structure Passes (d d' : Disk) : Prop where
  root : d'.root = d.root
  marker : d'.marker = d.marker
  data : d'.data = d.data
  service : d'.running = d.running ∧ d'.socket = d.socket ∨ d'.running = false ∧ d'.socket = false
  snapshots : d'.snapshots = d.snapshots
  intent : d'.intent = d.intent
  next : d'.next = d.next
  lanes : ∀ name, d'.lanes name = d.lanes name ∨ d'.lanes name = (d.lanes name).map Lane.unmounted
  trees : ∀ key snapshot, d.snapshots.lookup key = some snapshot →
    (snapshot.kind = .committed ∨ ∃ pending ∈ d.intent, pending.active = key) →
    d'.trees snapshot.layer = d.trees snapshot.layer

variable {digest : Digest} {d d' e : Disk} {name : String}

/-- Where a committed snapshot of the finished disk comes from. -/
theorem Finishes.committed (finishes : Finishes d d') {key : Key} {snapshot : Snapshot}
    (found : d'.snapshots.lookup key = some snapshot) (kind : snapshot.kind = .committed) :
    ∃ key' snapshot', d.snapshots.lookup key' = some snapshot' ∧ snapshot'.layer = snapshot.layer ∧
      (snapshot'.kind = .committed ∨ ∃ pending ∈ d.intent, pending.active = key') := by
  cases finishes with
  | calm => exact ⟨key, snapshot, found, rfl, .inl kind⟩
  | done same owned stands committed parent =>
    rcases lookup_insert_cases found with ⟨rfl, rfl⟩ | ⟨_, old⟩
    · exact ⟨_, _, stands, rfl, .inl committed⟩
    · exact ⟨key, snapshot, old, rfl, .inl kind⟩
  | @ready pending waiting same owned fresh stands active parent labels =>
    rcases lookup_insert_cases found with ⟨rfl, rfl⟩ | ⟨other, old⟩
    · exact ⟨_, _, stands, rfl, .inr ⟨pending, same, rfl⟩⟩
    · rcases lookup_insert_cases old with ⟨rfl, _⟩ | ⟨_, old⟩
      · exact absurd rfl other
      · exact ⟨key, snapshot, (lookup_erase_cases old).2, rfl, .inl kind⟩

/-- Finishing a commit puts no snapshot on another parent. -/
theorem Finishes.childless (finishes : Finishes d d') {key : Key}
    (childless : Childless Snapshot.parent d.snapshots key) :
    Childless Snapshot.parent d'.snapshots key := by
  intro other snapshot found linked
  cases finishes with
  | calm => exact childless other snapshot found linked
  | done same owned stands committed parent =>
    rcases lookup_insert_cases found with ⟨rfl, rfl⟩ | ⟨_, old⟩
    · exact childless _ _ stands linked
    · exact childless other snapshot old linked
  | ready same owned fresh stands active parent labels =>
    rcases lookup_insert_cases found with ⟨rfl, rfl⟩ | ⟨apart, old⟩
    · exact childless _ _ stands linked
    · rcases lookup_insert_cases old with ⟨rfl, _⟩ | ⟨_, old⟩
      · exact absurd rfl apart
      · exact childless other snapshot (lookup_erase_cases old).2 linked

theorem LaneGood.unmounted {snapshots : Snapshots} {entry : Option Lane} (good : LaneGood digest snapshots name entry) :
    LaneGood digest snapshots name (entry.map Lane.unmounted) := by
  cases entry with
  | none => exact good
  | some lane =>
    cases recorded : lane.record with
    | none =>
      obtain ⟨clear, retired⟩ := (laneGood_unrecorded recorded).mp good
      have still : lane.unmounted.record = none := recorded
      refine (laneGood_unrecorded still).mpr ⟨clear, ?_⟩
      exact ⟨retired.bare, retired.retired, retired.executionLock, retired.prefixLease, rfl, rfl⟩
    | some record =>
      have old := (laneGood_recorded recorded).mp good
      have still : lane.unmounted.record = some record := recorded
      exact (laneGood_recorded still).mpr ⟨old.named, old.shaped, old.parent, old.retired, .inl rfl, old.kept⟩

theorem Passes.record (passes : Passes d e) : e.record = d.record := by
  funext name
  unfold Disk.record
  rcases passes.lanes name with same | lost
  · rw [same]
  · rw [lost]
    cases d.lanes name with
    | none => rfl
    | some lane => rfl

/-- Time that passes keeps a lane root healthy. -/
theorem Healthy.passes (healthy : Healthy digest d) (passes : Passes d e) : Healthy digest e := by
  obtain ⟨d', finishes, good⟩ := healthy
  have framed := finishes.frame
  refine ⟨_, finishes.carry passes.snapshots passes.intent, ?_⟩
  have trees {key : Key} {snapshot : Snapshot} (found : d'.snapshots.lookup key = some snapshot)
      (kind : snapshot.kind = .committed) : e.trees snapshot.layer = d'.trees snapshot.layer := by
    obtain ⟨key', snapshot', stands, layer, reason⟩ := finishes.committed found kind
    have same := passes.trees key' snapshot' stands reason
    rw [layer] at same
    rw [framed]
    exact same
  refine ⟨rfl, ?_, ?_, ?_, ?_⟩
  · have served := good.served
    rw [framed] at served
    refine ⟨?_, ?_, ?_⟩
    · show e.marker = false → e.data = false
      rw [passes.marker, passes.data]
      exact served.unmarked
    · show e.marker = true → e.root = true
      rw [passes.marker, passes.root]
      exact served.rooted
    · show e.running = false → e.socket = false
      rcases passes.service with ⟨running, socket⟩ | ⟨_, socket⟩
      · rw [running, socket]
        exact served.socket
      · exact fun _ => socket
  · have next : d'.next = e.next := by
      rw [framed]
      exact passes.next.symm
    refine ⟨good.stored.imports, ?_, ?_, ?_, good.stored.frozen⟩
    · intro key snapshot found
      exact Nat.lt_of_lt_of_eq (good.stored.layer found) next
    · intro key snapshot found
      exact (good.stored.shelved found).grow fun other present stands kind => ⟨stands, trees stands kind⟩
    · intro key snapshot found permanent
      obtain ⟨committed, owned, tree⟩ := good.stored.permanent found permanent
      exact ⟨committed, owned, tree.trans (congrArg some (trees found committed).symm)⟩
  · intro name record recorded
    have old : d'.record name = some record := by
      have same : e.record name = some record := recorded
      rw [passes.record] at same
      rw [framed]
      exact same
    have marked := good.marked old
    rw [framed] at marked
    exact passes.marker.trans marked
  · intro name
    have lanes := good.lanes name
    have still : d'.lanes name = d.lanes name := by rw [framed]
    rw [still] at lanes
    show LaneGood digest d'.snapshots name (e.lanes name)
    rcases passes.lanes name with same | lost
    · rw [same]
      exact lanes
    · rw [lost]
      exact lanes.unmounted

end Passing

section Runs

/-- The states of one lane root whose calls meet working commands and die at most at other steps. -/
inductive Undisturbed (digest : Digest) : Disk → Prop
  | start : Undisturbed digest {}
  | call {d : Disk} (reached : Undisturbed digest d) (call : Call) (faults : Schedule LaneError)
      (crashing : faults.Crashing)
      (spared : ∀ point ∈ (finalState (call.program digest ⟨d, faults, []⟩)).struck, ¬Stranding point) :
      Undisturbed digest (finalState (call.program digest ⟨d, faults, []⟩)).disk
  | passes {d d' : Disk} (reached : Undisturbed digest d) (passes : Passes d d') : Undisturbed digest d'

variable {digest : Digest} {d : Disk}

theorem Good.empty : Good digest {} where
  calm := rfl
  served := ⟨fun _ => rfl, nofun, fun _ => rfl⟩
  stored := by
    constructor <;> intros <;> simp_all
  marked recorded := nomatch recorded
  lanes _ := ⟨Finmap.lookup_empty _, Finmap.lookup_empty _⟩

/-- Every call on a healthy root leaves one, or dies at a stranding step. -/
theorem call_course {regime : Regime LaneError} (mute : regime.Mute) (apart : Function.Injective digest.lane)
    (healthy : Healthy digest d) (call : Call) :
    Course regime (· = d) (call.program digest) (fun _ => Healthy digest) (Spared digest) (Healthy digest) := by
  obtain ⟨d', finishes, good⟩ := healthy
  cases call with
  | create request =>
    exact (createLane_course mute apart finishes good fun _ _ => id).weaken (fun _ => id) (fun _ _ => Good.healthy)
      (fun _ _ => id) (fun _ => id)
  | freeze name =>
    exact (freezeLane_course mute apart finishes good fun _ => id).weaken (fun _ => id) (fun _ _ => Good.healthy)
      (fun _ _ => id) (fun _ => id)
  | destroy name =>
    exact (destroyLane_course mute apart finishes good fun _ _ => id).weaken (fun _ => id) (fun _ _ ends =>
      ends.1.healthy)
      (fun _ _ => id) (fun _ => id)

theorem undisturbed_healthy (apart : Function.Injective digest.lane) (run : Undisturbed digest d) :
    Healthy digest d := by
  induction run with
  | start => exact Good.empty.healthy
  | call _ call faults crashing spared induction =>
    exact (call_course Regime.crashing_mute apart induction call).settles rfl crashing spared
  | passes _ passes induction => exact induction.passes passes

end Runs

section Recovery

/-- `destroy_lane` of a lane that has a record, and then `create_lane`. -/
def recover (digest : Digest) (request : Request) : LaneM Unit := do
  let d ← disk
  onlyIf (d.record request.name).isSome (destroyLane digest request.name)
  createLane digest request

variable {digest : Digest} {d : Disk} {request : Request}

theorem recover_course {regime : Regime LaneError} (mute : regime.Mute) (apart : Function.Injective digest.lane)
    (healthy : Healthy digest d) (solo : Solo digest request.name d)
    (available : ∀ parent ∈ request.parent, parent ≠ request.name ∧ Available parent d) :
    Course regime (· = d) (recover digest request) (fun _ => Good digest) (Spared digest) fun _ => False := by
  obtain ⟨d', finishes, good⟩ := healthy
  have framed := finishes.frame
  have lanes : d.lanes = d'.lanes := by rw [framed]
  have records : d.record = d'.record := by
    unfold Disk.record
    rw [lanes]
  refine Course.read_bind ?_
  -- the lane is retired, and the frozen parent is where it was
  have destroyed : Course regime (· = d) (onlyIf (d.record request.name).isSome (destroyLane digest request.name))
      (fun _ reached => ∃ e, Finishes reached e ∧ Good digest e ∧ e.record request.name = none ∧
        Others request.name d e)
      (Spared digest) fun _ => False := by
    refine Course.onlyIf (fun recorded => ?_) fun unrecorded reached same => ?_
    · have sole : Solo digest request.name d' := finishes.childless solo
      refine (destroyLane_course mute apart finishes good fun other => ?_).weaken (fun _ => id) ?_ (fun _ _ => id)
        (fun _ => id)
      · rw [← records] at other
        exact absurd ⟨recorded, sole⟩ other
      · rintro _ reached ⟨ends, gone, others⟩
        refine ⟨reached, .calm ends.calm, ends, gone, fun other different => ?_⟩
        rw [others other different, lanes]
    · subst same
      refine ⟨d', finishes, good, ?_, fun other _ => by rw [lanes]⟩
      rw [← records]
      simpa using unrecorded
  refine Course.bind destroyed fun _ => Course.from_each ?_
  rintro reached ⟨e, finished, good', gone, others⟩
  refine createLane_course mute apart finished good' fun other => absurd ⟨gone, fun parent chosen => ?_⟩ other
  obtain ⟨different, lane, record, found, rest⟩ := available parent chosen
  exact ⟨lane, record, (others parent different).trans found, rest⟩

/-- In every state that such calls reach, with working commands, a lane on which no other one stands can be
destroyed, if it is recorded, and created again on the same base. -/
theorem undisturbed_recovers (apart : Function.Injective digest.lane) (run : Undisturbed digest d)
    (solo : Solo digest request.name d)
    (available : ∀ parent ∈ request.parent, parent ≠ request.name ∧ Available parent d) :
    ∃ p, recover digest request ⟨d, [], []⟩ = .ok () p := by
  have course : Course Regime.quiet _ (recover digest request) _ _ fun _ => False :=
    recover_course Regime.quiet_mute apart (undisturbed_healthy apart run) solo available
  obtain ⟨_, p, ran, _⟩ := course.returns rfl
  exact ⟨p, ran⟩

/-- The lane whose freeze died with its commit pending is destroyed and created again. -/
theorem interruptedFreeze_recovers : ∃ p, recover plainDigest importRequest ⟨interruptedFreeze, [], []⟩ = .ok () p := by
  have injective : Function.Injective plainDigest.lane := fun _ _ same => same
  have reached : Undisturbed plainDigest interruptedFreeze := by
    refine .call (.call .start (.create importRequest) [] ?_ ?_) (.freeze "first") (crashAfter 28)
      (crashAfter_crashing 28) ?_
    · exact fun _ member => absurd member List.not_mem_nil
    · decide +kernel
    · decide +kernel
  have solo : Solo plainDigest "first" interruptedFreeze := by
    apply childless_of_not_hasChildren
    decide +kernel
  exact undisturbed_recovers injective reached solo fun _ chosen => nomatch chosen

/-- A first lane whose creation died after its directory was made. -/
def unmarkedLane : Disk := (finalState ((Call.create importRequest).program plainDigest ⟨{}, crashAfter 9, []⟩)).disk

/-- The lane has no record to destroy, and its directory without a marker cannot be reserved again. -/
theorem unmarkedLane_stranded : unmarkedLane.record "first" = none ∧ Solo plainDigest "first" unmarkedLane ∧
    outcome (recover plainDigest importRequest ⟨unmarkedLane, [], []⟩) = .error (.raised .unretired) := by
  refine ⟨by decide +kernel, ?_, by decide +kernel⟩
  apply childless_of_not_hasChildren
  decide +kernel

end Recovery

end Darling.Lanes
