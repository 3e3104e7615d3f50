import Darling.Lanes.Intents

/-! The states of a lane root from which every lane can be destroyed and created again. They are
described once a pending commit is finished, lane by lane. -/
namespace Darling.Lanes

/-- The layers that the checks of a recipe accept above a key. -/
inductive Shelved (snapshots : Snapshots) (trees : Nat → String) : Option Key → List Nat → Prop
  | top : Shelved snapshots trees none []
  | layer {key : Key} {snapshot : Snapshot} {rest : List Nat} (found : snapshots.lookup key = some snapshot)
      (committed : snapshot.kind = .committed) (owned : snapshot.labels.owned = true)
      (tree : snapshot.labels.tree = some (trees snapshot.layer))
      (above : Shelved snapshots trees snapshot.parent rest) :
      Shelved snapshots trees (some key) (snapshot.layer :: rest)

/-- Nothing of the lane is in the store. -/
def Clear (digest : Digest) (snapshots : Snapshots) (name : String) : Prop :=
  snapshots.lookup (digest.active name) = none ∧ snapshots.lookup (digest.committed name) = none

/-- A retired lane: only its coordination files are left. -/
structure Retired (lane : Lane) : Prop where
  bare : lane.bare
  retired : lane.retired = some lane.inode
  executionLock : lane.executionLock = true
  prefixLease : lane.prefixLease = true
  mount : lane.mount = none
  view : lane.view = false

/-- The snapshots of a recorded lane. Only the key of the record is there, or either key of a lane that is
being frozen. -/
structure Kept (digest : Digest) (snapshots : Snapshots) (name : String) (record : Record) : Prop where
  own : ∀ {snapshot}, snapshots.lookup (digest.active name) = some snapshot →
    snapshot.kind = .active ∧ snapshot.labels.owned = true ∧ snapshot.parent = some record.parentKey ∧
      (record.mode.live → record.recipe = some ⟨snapshot.layer, snapshot.lowers⟩)
  committed : ∀ {snapshot}, snapshots.lookup (digest.committed name) = some snapshot →
    snapshot.parent = some record.parentKey ∧
      (record.mode.live → record.recipe = some ⟨snapshot.layer, snapshot.lowers⟩)
  single : snapshots.lookup (digest.active name) = none ∨ snapshots.lookup (digest.committed name) = none
  elsewhere : record.mode ≠ .freezing → ∀ {key}, key = digest.active name ∨ key = digest.committed name →
    key ≠ record.key → snapshots.lookup key = none
  active : record.mode = .active → record.key = digest.active name
  freezing : record.mode = .freezing → record.key = digest.active name
  frozen : record.mode = .frozen → record.key = digest.committed name
  present : record.mode.live →
    (∃ snapshot, snapshots.lookup (digest.active name) = some snapshot) ∨
    (∃ snapshot, snapshots.lookup (digest.committed name) = some snapshot)

structure Recorded (digest : Digest) (snapshots : Snapshots) (name : String) (lane : Lane)
    (record : Record) : Prop where
  named : record.name = name
  shaped : record.key = digest.active name ∨ record.key = digest.committed name
  parent : record.parentKey = digest.expectedParent record
  retired : lane.retired = none ∨ lane.retired = some lane.inode
  mount : lane.mount = none ∨ record.mountIdentity = none ∨ lane.mount = record.mountIdentity
  kept : Kept digest snapshots name record

def LaneGood (digest : Digest) (snapshots : Snapshots) (name : String) : Option Lane → Prop
  | none => Clear digest snapshots name
  | some lane => match lane.record with
    | none => Clear digest snapshots name ∧ Retired lane
    | some record => Recorded digest snapshots name lane record

/-- The snapshots of the store. -/
structure Stored (d : Disk) : Prop where
  imports : ∀ token, d.snapshots.lookup (.imported token) = none
  layer : ∀ {key snapshot}, d.snapshots.lookup key = some snapshot → snapshot.layer < d.next
  shelved : ∀ {key snapshot}, d.snapshots.lookup key = some snapshot →
    Shelved d.snapshots d.trees snapshot.parent snapshot.lowers
  permanent : ∀ {key snapshot}, d.snapshots.lookup key = some snapshot → key.permanent →
    snapshot.kind = .committed ∧ snapshot.labels.owned = true ∧ snapshot.labels.tree = some (d.trees snapshot.layer)
  frozen : ∀ {token snapshot}, d.snapshots.lookup (.frozen token) = some snapshot → snapshot.labels.kind ≠ some .base

/-- The store's directory, its record and its service. -/
structure Served (d : Disk) : Prop where
  unmarked : d.marker = false → d.data = false
  rooted : d.marker = true → d.root = true
  socket : d.running = false → d.socket = false

structure Good (digest : Digest) (d : Disk) : Prop where
  calm : d.intent = none
  served : Served d
  stored : Stored d
  marked : ∀ {name record}, d.record name = some record → d.marker = true
  lanes : ∀ name, LaneGood digest d.snapshots name (d.lanes name)

/-- A pending commit leads to a good state. -/
def Healthy (digest : Digest) (d : Disk) : Prop := ∃ d', Finishes d d' ∧ Good digest d'

/-- No snapshot stands on the frozen lane. -/
def Solo (digest : Digest) (name : String) (d : Disk) : Prop :=
  Childless Snapshot.parent d.snapshots (digest.committed name)

/-- The other lanes' directories are as they were. -/
def Others (name : String) (d d' : Disk) : Prop := ∀ other, other ≠ name → d'.lanes other = d.lanes other

theorem Good.healthy {digest : Digest} {d : Disk} (good : Good digest d) : Healthy digest d :=
  ⟨d, .calm good.calm, good⟩

section Shelves

variable {snapshots snapshots' : Snapshots} {trees trees' : Nat → String} {key : Option Key} {layers : List Nat}

theorem Shelved.transfer (shelved : Shelved snapshots trees key layers)
    (same : ∀ key snapshot, snapshots.lookup key = some snapshot → snapshot.kind = .committed →
      ∃ snapshot', snapshots'.lookup key = some snapshot' ∧ snapshot'.kind = .committed ∧
        snapshot'.parent = snapshot.parent ∧ snapshot'.layer = snapshot.layer ∧
        (snapshot.labels.owned = true → snapshot'.labels.owned = true) ∧
        (snapshot.labels.tree = some (trees snapshot.layer) → snapshot'.labels.tree = some (trees' snapshot.layer))) :
    Shelved snapshots' trees' key layers := by
  induction shelved with
  | top => exact .top
  | @layer key snapshot rest found committed owned tree above induction =>
    obtain ⟨snapshot', found', committed', parent', layer', owned', tree'⟩ := same key snapshot found committed
    rw [← parent'] at induction
    rw [← layer']
    refine .layer found' committed' (owned' owned) ?_ induction
    rw [layer']
    exact tree' tree

/-- A change that leaves every committed snapshot and its layer as it was. -/
theorem Shelved.grow (shelved : Shelved snapshots trees key layers)
    (same : ∀ key snapshot, snapshots.lookup key = some snapshot → snapshot.kind = .committed →
      snapshots'.lookup key = some snapshot ∧ trees' snapshot.layer = trees snapshot.layer) :
    Shelved snapshots' trees' key layers := by
  apply shelved.transfer
  intro key snapshot found committed
  obtain ⟨found', tree⟩ := same key snapshot found committed
  exact ⟨snapshot, found', committed, rfl, rfl, id, by rw [tree]; exact id⟩

theorem Shelved.erase (shelved : Shelved snapshots trees key layers) {gone : Key}
    (childless : Childless Snapshot.parent snapshots gone) (apart : key ≠ some gone) :
    Shelved (snapshots.erase gone) trees key layers := by
  induction shelved with
  | top => exact .top
  | @layer key snapshot rest found committed owned tree above induction =>
    have other : key ≠ gone := fun same => apart (congrArg some same)
    refine .layer ?_ committed owned tree (induction (childless key snapshot found))
    rw [Finmap.lookup_erase_ne other, found]

end Shelves

section Lanes

variable {digest : Digest} {snapshots snapshots' : Snapshots} {name : String} {record : Record} {d : Disk} {lane : Lane}

theorem Kept.same (kept : Kept digest snapshots name record)
    (own : snapshots'.lookup (digest.active name) = snapshots.lookup (digest.active name))
    (committed : snapshots'.lookup (digest.committed name) = snapshots.lookup (digest.committed name)) :
    Kept digest snapshots' name record where
  own found := kept.own (own.symm.trans found)
  committed found := kept.committed (committed.symm.trans found)
  single := by
    rw [own, committed]
    exact kept.single
  elsewhere mode key shape other := by
    have gone := kept.elsewhere mode shape other
    rcases shape with rfl | rfl
    · rw [own, gone]
    · rw [committed, gone]
  active := kept.active
  freezing := kept.freezing
  frozen := kept.frozen
  present live := by
    rw [own, committed]
    exact kept.present live

theorem Kept.clear (clear : Clear digest snapshots name) (idle : ¬record.mode.live) :
    Kept digest snapshots name record where
  own found := nomatch clear.1.symm.trans found
  committed found := nomatch clear.2.symm.trans found
  single := .inl clear.1
  elsewhere _ key shape _ := by
    rcases shape with rfl | rfl
    · exact clear.1
    · exact clear.2
  active mode := by
    rw [mode] at idle
    exact absurd True.intro idle
  freezing mode := by
    rw [mode] at idle
    exact absurd True.intro idle
  frozen mode := by
    rw [mode] at idle
    exact absurd True.intro idle
  present live := absurd live idle

/-- A record that is no longer in use, with the key that is left. -/
theorem Kept.shelve {record' : Record} (kept : Kept digest snapshots name record) (idle : ¬record'.mode.live)
    (parent : record'.parentKey = record.parentKey)
    (elsewhere : ∀ {key}, key = digest.active name ∨ key = digest.committed name → key ≠ record'.key →
      snapshots.lookup key = none) : Kept digest snapshots name record' where
  own found := by
    obtain ⟨kind, owned, linked, _⟩ := kept.own found
    exact ⟨kind, owned, linked.trans (congrArg some parent.symm), (absurd · idle)⟩
  committed found := ⟨(kept.committed found).1.trans (congrArg some parent.symm), (absurd · idle)⟩
  single := kept.single
  elsewhere _ := elsewhere
  active mode := by
    rw [mode] at idle
    exact absurd True.intro idle
  freezing mode := by
    rw [mode] at idle
    exact absurd True.intro idle
  frozen mode := by
    rw [mode] at idle
    exact absurd True.intro idle
  present live := absurd live idle

/-- A frozen lane has no active snapshot left. -/
theorem Kept.frozen_gone (kept : Kept digest snapshots name record) (frozen : record.mode = .frozen) :
    snapshots.lookup (digest.active name) = none := by
  apply kept.elsewhere
  · rw [frozen]
    nofun
  · exact .inl rfl
  · rw [kept.frozen frozen]
    exact committed_ne_active.symm

/-- The directory of a lane goes with its two keys. -/
theorem LaneGood.same {entry : Option Lane} (good : LaneGood digest snapshots name entry)
    (own : snapshots'.lookup (digest.active name) = snapshots.lookup (digest.active name))
    (committed : snapshots'.lookup (digest.committed name) = snapshots.lookup (digest.committed name)) :
    LaneGood digest snapshots' name entry := by
  have cleared (clear : Clear digest snapshots name) : Clear digest snapshots' name :=
    ⟨own.trans clear.1, committed.trans clear.2⟩
  cases entry with
  | none => exact cleared good
  | some lane =>
    unfold LaneGood at good ⊢
    cases recorded : lane.record with
    | none =>
      simp only [recorded] at good ⊢
      exact ⟨cleared good.1, good.2⟩
    | some record =>
      simp only [recorded] at good ⊢
      exact { good with kept := good.kept.same own committed }

theorem laneGood_recorded (recorded : lane.record = some record) :
    LaneGood digest snapshots name (some lane) ↔ Recorded digest snapshots name lane record := by
  simp only [LaneGood, recorded]

theorem laneGood_unrecorded (unrecorded : lane.record = none) :
    LaneGood digest snapshots name (some lane) ↔ Clear digest snapshots name ∧ Retired lane := by
  simp only [LaneGood, unrecorded]

theorem Good.recorded (good : Good digest d) (found : d.lanes name = some lane) (recorded : lane.record = some record) :
    Recorded digest d.snapshots name lane record := by
  have lanes := good.lanes name
  rw [found] at lanes
  exact (laneGood_recorded recorded).mp lanes

/-- A lane without a record has nothing in the store. -/
theorem Good.clear (good : Good digest d) (unrecorded : d.record name = none) : Clear digest d.snapshots name := by
  have lanes := good.lanes name
  cases found : d.lanes name with
  | none =>
    rw [found] at lanes
    exact lanes
  | some lane =>
    rw [found] at lanes
    rw [Disk.record, found] at unrecorded
    exact ((laneGood_unrecorded unrecorded).mp lanes).1

theorem Good.setLane (good : Good digest d) (lanes : LaneGood digest d.snapshots name (some lane))
    (marked : ∀ record, lane.record = some record → d.marker = true) : Good digest (d.setLane name lane) where
  calm := good.calm
  served := ⟨good.served.unmarked, good.served.rooted, good.served.socket⟩
  stored := ⟨good.stored.imports, good.stored.layer, good.stored.shelved, good.stored.permanent, good.stored.frozen⟩
  marked {other record} recorded := by
    rw [record_setLane] at recorded
    by_cases same : other = name
    · subst other
      rw [Function.update_self] at recorded
      exact marked record recorded
    · rw [Function.update_of_ne same] at recorded
      exact good.marked recorded
  lanes other := by
    show LaneGood digest d.snapshots other (Function.update d.lanes name (some lane) other)
    by_cases same : other = name
    · subst other
      rw [Function.update_self]
      exact lanes
    · rw [Function.update_of_ne same]
      exact good.lanes other

/-- Another version of a recorded lane's directory. -/
theorem Good.relane (good : Good digest d) {lane' : Lane} (found : d.lanes name = some lane)
    (recorded : lane.record = some record) (same : lane'.record = lane.record)
    (retired : lane'.retired = none ∨ lane'.retired = some lane'.inode)
    (mount : lane'.mount = none ∨ record.mountIdentity = none ∨ lane'.mount = record.mountIdentity) :
    Good digest (d.setLane name lane') := by
  have old := good.recorded found recorded
  refine good.setLane ((laneGood_recorded (same.trans recorded)).mpr { old with retired, mount }) fun _ _ => ?_
  have recordedNow : d.record name = some record := by
    rw [Disk.record, found]
    exact recorded
  exact good.marked recordedNow

theorem Good.setDraft (good : Good digest d) (draft : Option Record) : Good digest { d with draft } :=
  ⟨good.calm, ⟨good.served.unmarked, good.served.rooted, good.served.socket⟩,
    ⟨good.stored.imports, good.stored.layer, good.stored.shelved, good.stored.permanent, good.stored.frozen⟩,
      good.marked, good.lanes⟩

theorem Good.setNext (good : Good digest d) {next : Nat} (grows : d.next ≤ next) : Good digest { d with next } where
  calm := good.calm
  served := ⟨good.served.unmarked, good.served.rooted, good.served.socket⟩
  stored := ⟨good.stored.imports, fun found => Nat.lt_of_lt_of_le (good.stored.layer found) grows,
    good.stored.shelved, good.stored.permanent, good.stored.frozen⟩
  marked := good.marked
  lanes := good.lanes

/-- A change of the store's own files and service. -/
theorem Good.serve (good : Good digest d) {d' : Disk} (served : Served d') (snapshots : d'.snapshots = d.snapshots)
    (intent : d'.intent = d.intent) (lanes : d'.lanes = d.lanes) (trees : d'.trees = d.trees) (next : d'.next = d.next)
    (marked : d.marker = true → d'.marker = true) : Good digest d' where
  calm := intent.trans good.calm
  served := served
  stored := by
    constructor
    · rw [snapshots]
      exact good.stored.imports
    · rw [snapshots, next]
      exact good.stored.layer
    · rw [snapshots, trees]
      exact good.stored.shelved
    · rw [snapshots, trees]
      exact good.stored.permanent
    · rw [snapshots]
      exact good.stored.frozen
  marked {name record} recorded := by
    rw [Disk.record, lanes] at recorded
    exact marked (good.marked recorded)
  lanes name := by
    rw [snapshots, lanes]
    exact good.lanes name

end Lanes

section Snapshots

variable {digest : Digest} {d : Disk} {name : String} {record : Record} {lane : Lane} {snapshots : Snapshots}
  {trees : Nat → String} {next : Nat} {key : Key} {snapshot : Snapshot}

theorem Good.restock (good : Good digest d) (stored : Stored { d with snapshots, trees, next })
    (lanes : ∀ name, LaneGood digest snapshots name (d.lanes name)) :
    Good digest { d with snapshots, trees, next } where
  calm := good.calm
  served := ⟨good.served.unmarked, good.served.rooted, good.served.socket⟩
  stored := stored
  marked := good.marked
  lanes := lanes

/-- A new key whose snapshot stands on a shelf of the store. -/
theorem Stored.add (stored : Stored d) (fresh : d.snapshots.lookup key = none)
    (new : snapshots.lookup key = some snapshot)
    (others : ∀ other, other ≠ key → snapshots.lookup other = d.snapshots.lookup other)
    (kept : ∀ layer, layer < d.next → trees layer = d.trees layer) (grows : d.next ≤ next)
    (bounded : snapshot.layer < next) (finished : ∀ token, key ≠ .imported token)
    (unfrozen : ∀ token, key ≠ .frozen token)
    (shelved : Shelved d.snapshots d.trees snapshot.parent snapshot.lowers)
    (permanent : key.permanent → snapshot.kind = .committed ∧ snapshot.labels.owned = true ∧
      snapshot.labels.tree = some (trees snapshot.layer)) :
    Stored { d with snapshots, trees, next } := by
  have old : ∀ {other present}, snapshots.lookup other = some present →
      (other = key ∧ present = snapshot) ∨ d.snapshots.lookup other = some present := by
    intro other present found
    by_cases same : other = key
    · subst other
      exact .inl ⟨rfl, Option.some.inj (found.symm.trans new)⟩
    · exact .inr ((others other same).symm.trans found)
  have moves : ∀ {above layers}, Shelved d.snapshots d.trees above layers → Shelved snapshots trees above layers := by
    intro above layers shelf
    refine shelf.grow fun other present found _ => ⟨?_, kept _ (stored.layer found)⟩
    rw [others other ?_, found]
    rintro rfl
    cases fresh.symm.trans found
  refine ⟨?_, ?_, ?_, ?_, fun found => stored.frozen ((others _ (unfrozen _).symm).symm.trans found)⟩
  · intro token
    exact (others _ (finished token).symm).trans (stored.imports token)
  · intro other present found
    rcases old found with ⟨rfl, rfl⟩ | found
    · exact bounded
    · exact Nat.lt_of_lt_of_le (stored.layer found) grows
  · intro other present found
    rcases old found with ⟨rfl, rfl⟩ | found
    · exact moves shelved
    · exact moves (stored.shelved found)
  · intro other present found stays
    rcases old found with ⟨rfl, rfl⟩ | found
    · exact permanent stays
    · obtain ⟨committed, owned, tree⟩ := stored.permanent found stays
      refine ⟨committed, owned, tree.trans ?_⟩
      show _ = some (trees present.layer)
      rw [kept _ (stored.layer found)]

/-- An imported base. -/
theorem Good.addBase (good : Good digest d) {token : String} {labels : Labels} {copied : String}
    (fresh : d.snapshots.lookup (.base token) = none) (owned : labels.owned = true) (tree : labels.tree = some copied)
    (new : snapshots.lookup (.base token) = some ⟨.committed, none, labels, d.next, []⟩)
    (others : ∀ other, other ≠ .base token → snapshots.lookup other = d.snapshots.lookup other) :
    Good digest
      { d with snapshots, trees := Function.update d.trees d.next copied, next := d.next + 1 } := by
  apply good.restock
  · refine good.stored.add fresh new others ?_ (Nat.le_succ _) (Nat.lt_succ_self _) nofun nofun .top ?_
    · intro layer below
      exact Function.update_of_ne (Nat.ne_of_lt below) _ _
    · intro _
      refine ⟨rfl, owned, ?_⟩
      show labels.tree = some (Function.update d.trees d.next copied d.next)
      rw [Function.update_self, tree]
  · exact fun name => (good.lanes name).same (others _ nofun) (others _ nofun)

theorem Good.unshelve (good : Good digest d) {parentKey : Key} (found : d.snapshots.lookup parentKey = some snapshot)
    (permanent : parentKey.permanent) :
    Shelved d.snapshots d.trees (some parentKey) (snapshot.layer :: snapshot.lowers) := by
  obtain ⟨committed, owned, tree⟩ := good.stored.permanent found permanent
  exact .layer found committed owned tree (good.stored.shelved found)

/-- The keys of different lanes differ. -/
theorem other_keys (apart : Function.Injective digest.lane) {other : String} (different : other ≠ name) :
    digest.active other ≠ digest.active name ∧ digest.committed other ≠ digest.committed name :=
  ⟨fun same => different (apart (Key.lane.inj same)), fun same => different (apart (Key.frozen.inj same))⟩

/-- A change of one lane's keys and directory. -/
theorem Good.relane_keys (apart : Function.Injective digest.lane) (good : Good digest d)
    (stored : Stored { d with snapshots, trees, next })
    (others : ∀ other, other ≠ digest.active name → other ≠ digest.committed name →
      snapshots.lookup other = d.snapshots.lookup other)
    (own : LaneGood digest snapshots name (d.lanes name)) : Good digest { d with snapshots, trees, next } := by
  refine good.restock stored fun other => ?_
  by_cases same : other = name
  · subst other
    exact own
  · obtain ⟨active, committed⟩ := other_keys apart same
    exact (good.lanes other).same (others _ active nofun) (others _ nofun committed)

/-- The prepared and labelled snapshot of a lane that is being created. -/
theorem Good.addLane (apart : Function.Injective digest.lane) (good : Good digest d) {labels : Labels}
    {lowers : List Nat}
    (found : d.lanes name = some lane) (recorded : lane.record = some record) (idle : ¬record.mode.live)
    (keyed : record.key = digest.active name) (clear : Clear digest d.snapshots name)
    (owned : labels.owned = true) (shelved : Shelved d.snapshots d.trees (some record.parentKey) lowers)
    (new : snapshots.lookup (digest.active name) = some ⟨.active, some record.parentKey, labels, d.next, lowers⟩)
    (others : ∀ other, other ≠ digest.active name → snapshots.lookup other = d.snapshots.lookup other) :
    Good digest { d with snapshots, trees := d.trees, next := d.next + 1 } := by
  refine good.relane_keys apart ?_ (fun other active _ => others other active) ?_
  · exact good.stored.add clear.1 new others (fun _ _ => rfl) (Nat.le_succ _) (Nat.lt_succ_self _) nofun
      nofun shelved nofun
  · rw [found]
    have old := good.recorded found recorded
    have unfrozen : snapshots.lookup (digest.committed name) = none := (others _ committed_ne_active).trans clear.2
    refine (laneGood_recorded recorded).mpr { old with kept := ?_ }
    refine { own := ?_, committed := ?_, single := .inr unfrozen, elsewhere := ?_, active := old.kept.active,
             freezing := old.kept.freezing, frozen := old.kept.frozen, present := (absurd · idle) }
    · intro snapshot present
      cases new.symm.trans present
      exact ⟨rfl, owned, rfl, (absurd · idle)⟩
    · intro snapshot present
      cases unfrozen.symm.trans present
    · intro _ key shape other
      rcases shape with rfl | rfl
      · exact absurd keyed.symm other
      · exact unfrozen

/-- A key without children goes, unless a record in use needs it. -/
theorem Good.erase (good : Good digest d)
    (childless : Childless Snapshot.parent d.snapshots key)
    (spare : ∀ name record, d.record name = some record → record.mode.live →
      key ≠ digest.active name ∧ key ≠ digest.committed name) :
    Good digest { d with snapshots := d.snapshots.erase key } := by
  have lookups : ∀ {other present}, (d.snapshots.erase key).lookup other = some present →
      d.snapshots.lookup other = some present := fun found => (lookup_erase_cases found).2
  have vanishes : ∀ {other}, d.snapshots.lookup other = none → (d.snapshots.erase key).lookup other = none := by
    intro other gone
    by_cases same : other = key
    · rw [same, Finmap.lookup_erase]
    · rw [Finmap.lookup_erase_ne same, gone]
  have stored : Stored { d with snapshots := d.snapshots.erase key } := by
    refine ⟨fun token => vanishes (good.stored.imports token), fun found => good.stored.layer (lookups found), ?_,
      fun found => good.stored.permanent (lookups found), fun found => good.stored.frozen (lookups found)⟩
    intro other present found
    exact (good.stored.shelved (lookups found)).erase childless (childless other present (lookups found))
  refine good.restock stored fun name => ?_
  have lanes := good.lanes name
  cases found : d.lanes name with
  | none =>
    rw [found] at lanes
    exact ⟨vanishes lanes.1, vanishes lanes.2⟩
  | some lane =>
    rw [found] at lanes
    cases recorded : lane.record with
    | none =>
      obtain ⟨clear, retired⟩ := (laneGood_unrecorded recorded).mp lanes
      exact (laneGood_unrecorded recorded).mpr ⟨⟨vanishes clear.1, vanishes clear.2⟩, retired⟩
    | some record =>
      by_cases live : record.mode.live
      · have known : d.record name = some record := by rw [Disk.record, found, Option.bind_some, recorded]
        obtain ⟨active, committed⟩ := spare name record known live
        exact lanes.same (Finmap.lookup_erase_ne active.symm) (Finmap.lookup_erase_ne committed.symm)
      · have old := (laneGood_recorded recorded).mp lanes
        refine (laneGood_recorded recorded).mpr { old with kept := ?_ }
        exact { own := fun present => old.kept.own (lookups present)
                committed := fun present => old.kept.committed (lookups present)
                single := old.kept.single.imp vanishes vanishes
                elsewhere := fun mode _ shape other => vanishes (old.kept.elsewhere mode shape other)
                active := old.kept.active
                freezing := old.kept.freezing
                frozen := old.kept.frozen
                present := (absurd · live) }

/-- New labels for the active snapshot of a lane. -/
theorem Good.relabelActive (apart : Function.Injective digest.lane) (good : Good digest d) {labels : Labels}
    (found : d.snapshots.lookup (digest.active name) = some snapshot) (active : snapshot.kind = .active)
    (owned : labels.owned = true) :
    Good digest { d with snapshots := d.snapshots.insert (digest.active name) { snapshot with labels } } := by
  have cases : ∀ {other present},
      (d.snapshots.insert (digest.active name) { snapshot with labels }).lookup other = some present →
      (other = digest.active name ∧ present = { snapshot with labels }) ∨ d.snapshots.lookup other = some present :=
    fun present => (lookup_insert_cases present).imp_right And.right
  have moves : ∀ {above layers}, Shelved d.snapshots d.trees above layers →
      Shelved (d.snapshots.insert (digest.active name) { snapshot with labels }) d.trees above layers := by
    intro above layers shelf
    refine shelf.grow fun other present stands committed => ⟨?_, rfl⟩
    rw [Finmap.lookup_insert_of_ne, stands]
    rintro rfl
    cases found.symm.trans stands
    rw [active] at committed
    cases committed
  have stored : Stored { d with snapshots := d.snapshots.insert (digest.active name) { snapshot with labels } } := by
    refine ⟨?_, ?_, ?_, ?_, ?_⟩
    · intro token
      have apart : Key.imported token ≠ digest.active name := nofun
      exact (Finmap.lookup_insert_of_ne _ apart).trans (good.stored.imports token)
    · intro other present stands
      rcases cases stands with ⟨rfl, rfl⟩ | stands
      · have bounded := good.stored.layer found
        exact bounded
      · exact good.stored.layer stands
    · intro other present stands
      rcases cases stands with ⟨rfl, rfl⟩ | stands
      · have shelved := moves (good.stored.shelved found)
        exact shelved
      · exact moves (good.stored.shelved stands)
    · intro other present stands permanent
      rcases cases stands with ⟨rfl, rfl⟩ | stands
      · exact permanent.elim
      · exact good.stored.permanent stands permanent
    · intro token present stands
      have apart : Key.frozen token ≠ digest.active name := nofun
      exact good.stored.frozen ((Finmap.lookup_insert_of_ne _ apart).symm.trans stands)
  refine good.relane_keys apart stored (fun other active _ => Finmap.lookup_insert_of_ne _ active) ?_
  have lanes := good.lanes name
  have unclear : ¬Clear digest d.snapshots name := fun clear => nomatch clear.1.symm.trans found
  cases entry : d.lanes name with
  | none =>
    rw [entry] at lanes
    exact absurd lanes unclear
  | some lane =>
    rw [entry] at lanes
    cases recorded : lane.record with
    | none => exact absurd ((laneGood_unrecorded recorded).mp lanes).1 unclear
    | some record =>
      have old := (laneGood_recorded recorded).mp lanes
      have kept := old.kept
      have same : (d.snapshots.insert (digest.active name) { snapshot with labels }).lookup (digest.committed name) =
          d.snapshots.lookup (digest.committed name) := Finmap.lookup_insert_of_ne _ committed_ne_active
      have absent : d.snapshots.lookup (digest.committed name) = none :=
        kept.single.resolve_left fun gone => nomatch gone.symm.trans found
      refine (laneGood_recorded recorded).mpr { old with kept := ?_ }
      refine { own := ?_, committed := ?_, single := .inr (same.trans absent), elsewhere := ?_, active := kept.active,
               freezing := kept.freezing, frozen := kept.frozen, present := fun _ => .inl ⟨_, Finmap.lookup_insert _⟩ }
      · intro present stands
        cases (Finmap.lookup_insert _).symm.trans stands
        obtain ⟨_, _, parent, recipe⟩ := kept.own found
        exact ⟨active, owned, parent, recipe⟩
      · exact fun stands => kept.committed (same.symm.trans stands)
      · intro mode key shape other
        have gone := kept.elsewhere mode shape other
        have apart : key ≠ digest.active name := by
          rintro rfl
          cases gone.symm.trans found
        exact (Finmap.lookup_insert_of_ne _ apart).trans gone

/-- The committed snapshot of a lane that is being frozen. -/
theorem Good.commitLane (apart : Function.Injective digest.lane) (good : Good digest d) {labels : Labels}
    (entry : d.lanes name = some lane) (recorded : lane.record = some record) (mode : record.mode = .freezing)
    (found : d.snapshots.lookup (digest.active name) = some snapshot) (active : snapshot.kind = .active)
    (owned : labels.owned = true) (tree : labels.tree = some (d.trees snapshot.layer))
    (purpose : labels.kind ≠ some .base)
    (gone : snapshots.lookup (digest.active name) = none)
    (new : snapshots.lookup (digest.committed name) = some { snapshot with kind := .committed, labels })
    (others : ∀ other, other ≠ digest.active name → other ≠ digest.committed name →
      snapshots.lookup other = d.snapshots.lookup other) :
    Good digest { d with snapshots } := by
  have kept := (good.recorded entry recorded).kept
  have fresh : d.snapshots.lookup (digest.committed name) = none :=
    kept.single.resolve_left fun none => nomatch none.symm.trans found
  have cases : ∀ {other present}, snapshots.lookup other = some present →
      (other = digest.committed name ∧ present = { snapshot with kind := .committed, labels }) ∨
        d.snapshots.lookup other = some present := by
    intro other present stands
    by_cases first : other = digest.active name
    · subst other
      cases gone.symm.trans stands
    · by_cases second : other = digest.committed name
      · subst other
        exact .inl ⟨rfl, Option.some.inj (stands.symm.trans new)⟩
      · exact .inr ((others other first second).symm.trans stands)
  have moves : ∀ {above layers}, Shelved d.snapshots d.trees above layers → Shelved snapshots d.trees above layers := by
    intro above layers shelf
    refine shelf.grow fun other present stands committed => ⟨?_, rfl⟩
    rw [others other ?_ ?_, stands]
    · rintro rfl
      cases found.symm.trans stands
      cases active.symm.trans committed
    · rintro rfl
      cases fresh.symm.trans stands
  have stored : Stored { d with snapshots } := by
    refine ⟨?_, ?_, ?_, ?_, ?_⟩
    · exact fun token => (others (.imported token) nofun nofun).trans (good.stored.imports token)
    · intro other present stands
      rcases cases stands with ⟨rfl, rfl⟩ | stands
      · have bounded := good.stored.layer found
        exact bounded
      · exact good.stored.layer stands
    · intro other present stands
      rcases cases stands with ⟨rfl, rfl⟩ | stands
      · have shelved := moves (good.stored.shelved found)
        exact shelved
      · exact moves (good.stored.shelved stands)
    · intro other present stands permanent
      rcases cases stands with ⟨rfl, rfl⟩ | stands
      · exact ⟨rfl, owned, tree⟩
      · exact good.stored.permanent stands permanent
    · intro token present stands
      rcases cases stands with ⟨_, rfl⟩ | stands
      · exact purpose
      · exact good.stored.frozen stands
  refine good.relane_keys apart stored others ?_
  rw [entry]
  have old := good.recorded entry recorded
  refine (laneGood_recorded recorded).mpr { old with kept := ?_ }
  refine { own := fun stands => (nomatch gone.symm.trans stands), committed := ?_, single := .inl gone, elsewhere := ?_,
           active := kept.active, freezing := kept.freezing, frozen := kept.frozen, present := fun _ => .inr ⟨_, new⟩ }
  · intro present stands
    cases new.symm.trans stands
    obtain ⟨_, _, parent, recipe⟩ := kept.own found
    exact ⟨parent, recipe⟩
  · exact fun other => absurd mode other

end Snapshots

end Darling.Lanes
