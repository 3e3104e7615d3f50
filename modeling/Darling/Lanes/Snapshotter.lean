import Darling.Library.Forests
import Darling.Library.Interruptions

/-! `lane_snapshotter.py`: the adapter to the snapshot store of the lanes. The store itself is the
snapshotter's: it prepares an active snapshot under a new key, commits an active key to a new one
with the same parent, and removes a key without children. A commit takes two commands, so the
adapter keeps an intent, `commit.json`, from which the next caller finishes it. -/
namespace Darling.Lanes

/-- Snapshot keys. The token is the hexadecimal SHA-256 the code appends to the fixed part. -/
inductive Key where
  | lane (token : String)
  | frozen (token : String)
  | base (token : String)
  | imported (token : String)
  deriving DecidableEq, Repr

inductive Kind where
  | active
  | committed
  deriving DecidableEq, Repr

/-- The values of `KIND_LABEL`. -/
inductive Purpose where
  | base
  | frozen
  deriving DecidableEq, Repr

/-- The labels of a snapshot; `owned` says that `STORE_LABEL` names this store. -/
structure Labels where
  owned : Bool := false
  kind : Option Purpose := none
  tree : Option String := none
  deriving DecidableEq, Repr

/-- What the label command leaves: the given labels are set, the others stay. -/
def Labels.update (old new : Labels) : Labels where
  owned := old.owned || new.owned
  kind := new.kind.or old.kind
  tree := new.tree.or old.tree

/-- `layer` numbers the snapshot's own directory, `lowers` the directories of its ancestors. -/
structure Snapshot where
  kind : Kind
  parent : Option Key
  labels : Labels
  layer : Nat
  lowers : List Nat
  deriving DecidableEq, Repr

abbrev Snapshots := Finmap fun _ : Key => Snapshot

structure Recipe where
  upper : Nat
  lower : List Nat
  deriving DecidableEq, Repr

/-- `commit.json`. -/
structure Intent where
  name : Key
  active : Key
  parent : Option Key
  labels : Labels
  deriving DecidableEq, Repr

inductive Mode where
  | creating
  | active
  | freezing
  | frozen
  | failed
  | destroying
  deriving DecidableEq, Repr

/-- `_base_identity`. -/
structure Base where
  path : String
  device : Nat
  inode : Nat
  identity : String
  deriving DecidableEq, Repr

/-- `lane.json`. The last two fields are absent until the snapshot is prepared and its view mounted. -/
structure Record where
  name : String
  mode : Mode
  base : Base
  parent : Option String
  key : Key
  parentKey : Key
  recipe : Option Recipe := none
  mountIdentity : Option Nat := none
  deriving DecidableEq, Repr

/-- `LANE_SUBDIRS`. -/
inductive Subdir where
  | merged
  | state
  | tmp
  | run
  | build
  | logs
  | cores
  | receipts
  deriving DecidableEq, Repr

/-- The directory of a lane. `retired` is the inode that the retired marker names; the two flags that
end in `New` are the temporary files of the two markers. -/
structure Lane where
  inode : Nat
  retired : Option Nat := none
  retiredNew : Bool := false
  record : Option Record := none
  recordNew : Bool := false
  executionLock : Bool := false
  prefixLease : Bool := false
  data : List Subdir := []
  mount : Option Nat := none
  view : Bool := false
  deriving DecidableEq, Repr

/-- The lane root with its snapshot store. `root`, `marker` and `data` are the store's directory,
`store.json` and the service's data; `draft` is the record as the running call holds it. -/
structure Disk where
  root : Bool := false
  marker : Bool := false
  data : Bool := false
  running : Bool := false
  socket : Bool := false
  snapshots : Snapshots := ∅
  intent : Option Intent := none
  lanes : String → Option Lane := fun _ => none
  trees : Nat → String := fun _ => ""
  next : Nat := 0
  draft : Option Record := none

/-- Who finishes a commit: the next caller, an import or a freeze. -/
inductive Stage where
  | resumed
  | importing
  | freezing
  deriving DecidableEq, Repr

/-- Whose snapshot a command prepares. -/
inductive Owner where
  | base
  | lane
  deriving DecidableEq, Repr

/-- The steps of the three operations. A step that only looks, at the host or at a snapshot, can be
refused as any other one. -/
inductive Point where
  | inspect
  | storeRoot
  | storeMarker
  | start
  | stop
  | unlinkSocket
  | info
  | list
  | prepare (owner : Owner)
  | recipe (owner : Owner)
  | own (owner : Owner)
  | copyBase
  | labelBase
  | labelFrozen
  | beforeIntent (stage : Stage)
  | writeIntent (stage : Stage)
  | publishIntent (stage : Stage)
  | pendingIntent (stage : Stage)
  | commit (stage : Stage)
  | finishIntent (stage : Stage)
  | remove
  | reserve
  | claim (retired : Bool)
  | writeRetired (retired : Bool)
  | publishRetired (retired : Bool)
  | dropRetired
  | writeRecord (first : Bool)
  | publishRecord (first : Bool)
  | dropRecord
  | makeSubdir
  | removeData
  | mount
  | unmount
  | release
  deriving DecidableEq, Repr

inductive LaneError where
  | os
  | command
  | storeMissing
  | unrecordedStore
  | orphanedSocket
  | notActive
  | destinationExists
  | foreignIntent
  | activeChanged
  | destinationChanged
  | absent
  | unexpectedContents
  | unretired
  | lostCoordination
  | recordMissing
  | recordChanged
  | notOwned
  | snapshotState
  | notFrozen
  | wrongMode
  | lostView
  | layerChanged
  | baseForeign
  | missingSnapshot
  | descendants
  | mounted
  | viewExists
  | rollbackRefused
  deriving DecidableEq, Repr

abbrev LaneM := Program Point LaneError Disk

/-- A look at the host that may be refused. -/
def inspect : LaneM Unit := sync .inspect

section Commands

def info (point : Point) (key : Key) : LaneM (Option Snapshot) := act point fun d => .ok (d.snapshots.lookup key, d)

def Snapshots.hasChildren (snapshots : Snapshots) (key : Key) : Prop :=
  ∃ other ∈ snapshots.keys, ∃ snapshot ∈ snapshots.lookup other, snapshot.parent = some key

instance (snapshots : Snapshots) (key : Key) : Decidable (snapshots.hasChildren key) := by
  unfold Snapshots.hasChildren
  infer_instance

/-- Whether `children` returns any key. -/
def children (key : Key) : LaneM Bool := act .list fun d => .ok (d.snapshots.hasChildren key, d)

/-- The directories below a new snapshot. -/
def Snapshots.lowers (snapshots : Snapshots) : Option Key → List Nat
  | none => []
  | some parent => match snapshots.lookup parent with
    | some snapshot => snapshot.layer :: snapshot.lowers
    | none => []

def Disk.prepare (key : Key) (parent : Option Key) (d : Disk) : Except LaneError (Recipe × Disk) :=
  if d.snapshots.lookup key = none then
    let lower := d.snapshots.lowers parent
    let snapshot := { kind := .active, parent, labels := {}, layer := d.next, lowers := lower }
    .ok (⟨d.next, lower⟩, { d with snapshots := d.snapshots.insert key snapshot, next := d.next + 1 })
  else .error .command

def Disk.label (key : Key) (labels : Labels) (d : Disk) : Except LaneError (Unit × Disk) :=
  match d.snapshots.lookup key with
  | none => .error .command
  | some snapshot =>
    let relabelled := { snapshot with labels := snapshot.labels.update labels }
    .ok ((), { d with snapshots := d.snapshots.insert key relabelled })

/-- The active key becomes the new name of its snapshot. The snapshotter replaces the labels by its own. -/
def Snapshots.commit (snapshots : Snapshots) (name active : Key) (snapshot : Snapshot) : Snapshots :=
  (snapshots.erase active).insert name { snapshot with kind := .committed, labels := {} }

def Disk.commit (name active : Key) (d : Disk) : Except LaneError (Unit × Disk) :=
  match d.snapshots.lookup active with
  | none => .error .command
  | some snapshot =>
    if snapshot.kind = .active ∧ d.snapshots.lookup name = none then
      .ok ((), { d with snapshots := d.snapshots.commit name active snapshot })
    else .error .command

def Disk.remove (key : Key) (d : Disk) : Except LaneError (Unit × Disk) :=
  if d.snapshots.lookup key = none ∨ d.snapshots.hasChildren key then .error .command
  else .ok ((), { d with snapshots := d.snapshots.erase key })

end Commands

namespace SnapshotStore

/-- The first part of `_start`: the store is the recorded one, or a new one that gets its record. -/
def adopt (create : Bool) : LaneM Unit := do
  let d ← disk
  if d.marker then inspect
  else if create && !d.data then do
    sync .storeMarker
    write .storeMarker fun d => { d with marker := true }
    sync .storeMarker
  else raise .unrecordedStore

/-- The second part of `_start`: the service runs, or it is started. -/
def launch : LaneM Unit := do
  let d ← disk
  if d.running then inspect
  else do
    demand (d.socket = false) .orphanedSocket
    write .start fun d => { d with data := true, running := true, socket := true }

/-- `_start`. -/
def start (create : Bool) : LaneM Unit := do
  adopt create
  inspect
  launch

/-- The snapshot under the intent's name, which is committed unless it was `found`. -/
def commitPending (stage : Stage) (pending : Intent) (found : Option Snapshot) : LaneM (Option Snapshot) :=
  match found with
  | some snapshot => pure (some snapshot)
  | none => do
    let active ← info (.pendingIntent stage) pending.active
    demand (∃ snapshot ∈ active, snapshot.kind = .active ∧ snapshot.parent = pending.parent ∧
      snapshot.labels = pending.labels) .activeChanged
    act (.commit stage) (Disk.commit pending.name pending.active)
    info (.finishIntent stage) pending.name

/-- `_finish_commit`. -/
def finishCommit (stage : Stage) : LaneM Unit := do
  match (← disk).intent with
  | none => pure ()
  | some pending => do
    sync (.pendingIntent stage)
    demand (pending.labels.owned = true) .foreignIntent
    let found ← info (.pendingIntent stage) pending.name
    let committed ← commitPending stage pending found
    demand (∃ snapshot ∈ committed, snapshot.kind = .committed ∧ snapshot.parent = pending.parent)
      .destinationChanged
    act (.finishIntent stage) (Disk.label pending.name pending.labels)
    write (.finishIntent stage) fun d => { d with intent := none }
    sync (.finishIntent stage)

/-- The directory of the store. -/
def openRoot (create : Bool) : LaneM Unit := do
  if create then write .storeRoot fun d => { d with root := true }
  else do
    let d ← disk
    demand (d.root = true) .storeMissing

def locked {α : Type} (create : Bool) (body : LaneM α) : LaneM α := do
  openRoot create
  inspect
  start create
  finishCommit .resumed
  body

/-- `prepare`, with the checks of the returned recipe as one step. -/
def prepare (owner : Owner) (key : Key) (parent : Option Key) : LaneM Recipe := do
  let recipe ← act (.prepare owner) (Disk.prepare key parent)
  sync (.recipe owner)
  act (.own owner) (Disk.label key { owned := true })
  return recipe

def commit (stage : Stage) (name active : Key) : LaneM Unit := do
  match ← info (.beforeIntent stage) active with
  | none => raise .notActive
  | some snapshot => do
    demand (snapshot.kind = .active ∧ snapshot.labels.owned = true) .notActive
    demand ((← info (.beforeIntent stage) name) = none) .destinationExists
    sync (.writeIntent stage)
    write (.publishIntent stage) fun d =>
      { d with intent := some { name, active, parent := snapshot.parent, labels := snapshot.labels } }
    sync (.pendingIntent stage)
    finishCommit stage

def remove (key : Key) : LaneM Unit := do
  let found ← info .info key
  demand (∃ snapshot ∈ found, snapshot.labels.owned = true) .absent
  act .remove (Disk.remove key)

/-- `stop_if_empty`. -/
def stopIfEmpty : LaneM Unit := do
  let empty ← act .list fun d => .ok (decide (d.snapshots = ∅), d)
  onlyIf empty do
    inspect
    write .stop fun d => { d with running := false }
    write .unlinkSocket fun d => { d with socket := false }

end SnapshotStore

end Darling.Lanes
