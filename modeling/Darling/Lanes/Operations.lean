import Darling.Lanes.Snapshotter

/-! `lane.py`: `create_lane`, `freeze_lane` and `destroy_lane` over the snapshot store, with the files
by which a lane directory is reserved, recorded and retired. -/
namespace Darling.Lanes

/-- The SHA-256 of a lane's path and of the JSON text of a base identity. -/
structure Digest where
  lane : String → String
  base : Base → String

/-- The arguments of `create_lane`: `base` is the identity of the prefix that is cloned, `copied` the
identity of the copy an import makes of it. -/
structure Request where
  name : String
  base : Base
  parent : Option String := none
  copied : String := ""
  deriving DecidableEq, Repr

/-- `_snapshot_keys`. -/
def Digest.active (digest : Digest) (name : String) : Key := .lane (digest.lane name)

def Digest.committed (digest : Digest) (name : String) : Key := .frozen (digest.lane name)

def Disk.setLane (name : String) (lane : Lane) (d : Disk) : Disk :=
  { d with lanes := Function.update d.lanes name (some lane) }

/-- A change of a file in the lane's directory. -/
def Disk.onLane (name : String) (change : Lane → Lane) (d : Disk) : Except LaneError (Unit × Disk) :=
  match d.lanes name with
  | some lane => .ok ((), d.setLane name (change lane))
  | none => .error .os

/-- `read_record`. -/
def Disk.record (d : Disk) (name : String) : Option Record := (d.lanes name).bind Lane.record

section Namespace

/-- The entries that are only expected beside a lane's data. -/
def Lane.bare (lane : Lane) : Prop :=
  lane.record = none ∧ lane.recordNew = false ∧ lane.retiredNew = false ∧ lane.data = []

instance (lane : Lane) : Decidable lane.bare := by
  unfold Lane.bare
  infer_instance

/-- `_lane_namespace`. -/
def laneNamespace (point : Point) (name : String) (withData : Bool) : LaneM Lane := do
  sync point
  match (← disk).lanes name with
  | none => raise .os
  | some lane => do
    demand (withData = true ∨ lane.bare) .unexpectedContents
    demand (lane.retired = none ∨ lane.retired = some lane.inode) .unretired
    return lane

/-- `_require_retired_lane`. -/
def requireRetiredLane (name : String) : LaneM Unit := do
  let lane ← laneNamespace .inspect name false
  demand (lane.retired = some lane.inode) .unretired
  demand (lane.executionLock = true ∧ lane.prefixLease = true) .lostCoordination

/-- `write_json` of the retired marker. -/
def writeRetired (retired : Bool) (name : String) : LaneM Unit := do
  act (.writeRetired retired) (Disk.onLane name fun lane => { lane with retiredNew := true })
  sync (.publishRetired retired)
  act (.publishRetired retired) (Disk.onLane name fun lane =>
    { lane with retired := some lane.inode, retiredNew := false })
  inspect

/-- `write_json` of the record. -/
def writeRecord (first : Bool) (name : String) (record : Record) : LaneM Unit := do
  act (.writeRecord first) (Disk.onLane name fun lane => { lane with recordNew := true })
  sync (.publishRecord first)
  act (.publishRecord first) (Disk.onLane name fun lane =>
    { lane with record := some record, recordNew := false })
  inspect

/-- `_lane_admission` and `prefix_lease` of the lane's own prefix. -/
def claim (retired : Bool) (name : String) : LaneM Unit := do
  sync (.claim retired)
  act (.claim retired) (Disk.onLane name fun lane => { lane with executionLock := true })
  sync (.claim retired)
  act (.claim retired) (Disk.onLane name fun lane => { lane with prefixLease := true })
  sync (.claim retired)

/-- `_retire_lane`. -/
def retireLane (name : String) (record : Record) : LaneM Unit := do
  let lane ← laneNamespace .inspect name true
  demand (lane.record = some record) .recordChanged
  demand (lane.mount = none) .mounted
  lane.data.forM fun subdir => act .removeData (Disk.onLane name fun lane =>
    { lane with data := lane.data.erase subdir })
  onlyIf lane.recordNew (act .removeData (Disk.onLane name fun lane => { lane with recordNew := false }))
  onlyIf lane.retiredNew (act .removeData (Disk.onLane name fun lane => { lane with retiredNew := false }))
  writeRetired true name
  act .dropRecord (Disk.onLane name fun lane => { lane with record := none })
  inspect

end Namespace

section Layers

/-- The loop of `_check_snapshot_layers`; it returns the key above the last layer. -/
def checkLayers : List Nat → Option Key → LaneM (Option Key)
  | [], key => pure key
  | _ :: _, none => raise .layerChanged
  | layer :: rest, some key => do
    match ← info .info key with
    | none => raise .layerChanged
    | some snapshot => do
      let tree := (← disk).trees layer
      demand (snapshot.kind = .committed ∧ snapshot.labels.owned = true ∧ snapshot.labels.tree = some tree)
        .layerChanged
      checkLayers rest snapshot.parent

/-- `_check_snapshot_layers`. -/
def checkSnapshotLayers (record : Record) : LaneM Unit := do
  match record.recipe with
  | none => raise .os
  | some recipe => do
    let above ← checkLayers recipe.lower (some record.parentKey)
    demand (above = none) .layerChanged
    onlyIf (record.mode = .frozen) do
      let found ← info .info record.key
      let tree := (← disk).trees recipe.upper
      demand (∃ snapshot ∈ found, snapshot.kind = .committed ∧ snapshot.labels.tree = some tree) .layerChanged

/-- `record_problems`, raised as one error by every caller. -/
def recordProblems (digest : Digest) (name : String) (record : Record) : LaneM Unit := do
  demand (record.name = name) .notOwned
  demand (record.key = digest.active name ∨ record.key = digest.committed name) .notOwned
  let mount := (← disk).lanes name |>.bind Lane.mount
  demand (mount ≠ none ∧ mount = record.mountIdentity) .lostView
  inspect

/-- `_import_base`. -/
def importBase (digest : Digest) (request : Request) : LaneM Key := do
  let token := digest.base request.base
  match ← info .info (.base token) with
  | some existing => do
    demand (existing.kind = .committed ∧ existing.labels.owned = true) .baseForeign
    return .base token
  | none => do
    let recipe ← SnapshotStore.prepare .base (.imported token) none
    handle (do
      write .copyBase fun d => { d with trees := Function.update d.trees recipe.upper request.copied }
      -- the owner of the copy, and that the base did not change meanwhile
      sync .copyBase
      act .labelBase fun d =>
        d.label (.imported token) { kind := some .base, tree := some (d.trees recipe.upper) }
      SnapshotStore.commit .importing (.base token) (.imported token)) fun error => do
        SnapshotStore.remove (.imported token)
        raise error
    return .base token

/-- `_collect_base`. -/
def collectBase (key : Key) : LaneM Unit := do
  match ← info .info key with
  | none => pure ()
  | some snapshot =>
    onlyIf (snapshot.labels.kind = some .base) do
      let used ← children key
      onlyIf (!used) (SnapshotStore.remove key)

end Layers

section View

/-- `store.mount`. -/
def mount (name : String) : LaneM Unit := do
  inspect
  let view := (← disk).lanes name |>.elim false Lane.view
  demand (view = false) .viewExists
  act .mount fun d =>
    { d with next := d.next + 1 }.onLane name fun lane => { lane with mount := some d.next, view := true }

/-- `fuse_unmount` and `release_mount_service`. -/
def unmount (name : String) : LaneM Unit := do
  inspect
  let mounted := (← disk).lanes name |>.bind Lane.mount
  onlyIf mounted.isSome (act .unmount (Disk.onLane name fun lane => { lane with mount := none }))
  inspect
  let view := (← disk).lanes name |>.elim false Lane.view
  onlyIf view (act .release (Disk.onLane name fun lane => { lane with view := false }))
  inspect

end View

section Create

def subdirs : List Subdir := [.merged, .state, .tmp, .run, .build, .logs, .cores, .receipts]

def makeSubdir (name : String) (subdir : Subdir) : LaneM Unit := act .makeSubdir fun d =>
  match d.lanes name with
  | none => .error .os
  | some lane =>
    if subdir ∈ lane.data then .error .os
    else .ok ((), d.setLane name { lane with data := lane.data ++ [subdir] })

/-- A change of the record in memory. -/
def revise (change : Record → Record) : LaneM Unit := assign fun d => { d with draft := d.draft.map change }

/-- `write_json(lane / LANE_MARKER, record)` with the record in memory. -/
def writeDraft (first : Bool) (name : String) : LaneM Unit := do
  match (← disk).draft with
  | none => raise .os
  | some record => writeRecord first name record

def checkDraft : LaneM Unit := do
  match (← disk).draft with
  | none => raise .os
  | some record => checkSnapshotLayers record

/-- The record takes the identity of the mounted view and becomes active. -/
def adoptMount (name : String) : LaneM Unit := do
  match (← disk).lanes name |>.bind Lane.mount with
  | none => raise .lostView
  | some identity => revise fun record => { record with mountIdentity := some identity, mode := .active }

/-- The body of the inner `try` of `create_lane`. -/
def publish (name : String) (active parentKey : Key) : LaneM Unit := do
  writeDraft true name
  act .dropRetired (Disk.onLane name fun lane => { lane with retired := none })
  subdirs.forM (makeSubdir name)
  -- the mode of the run directory and the manifest of the runtime
  inspect
  let recipe ← SnapshotStore.prepare .lane active (some parentKey)
  revise fun record => { record with recipe := some recipe }
  writeDraft false name
  checkDraft
  mount name
  -- the product's bind-clone
  inspect
  adoptMount name
  writeDraft false name

/-- The snapshot that a rollback may remove. -/
def checkRollback (active parentKey : Key) (found : Option Snapshot) : LaneM Unit := do
  match found with
  | none => pure ()
  | some snapshot => do
    demand (snapshot.labels.owned = true ∧ snapshot.parent = some parentKey) .notOwned
    let used ← children active
    demand (used = false) .descendants

def retireDraft (name : String) : LaneM Unit := do
  match (← disk).draft with
  | none => raise .os
  | some record => retireLane name record

/-- The rollback of `create_lane`. -/
def rollBack (name : String) (active parentKey : Key) : LaneM Unit := do
  let _ ← laneNamespace .inspect name true
  let found ← info .info active
  checkRollback active parentKey found
  inspect
  revise fun record => { record with mode := .destroying }
  writeDraft false name
  unmount name
  onlyIf found.isSome (SnapshotStore.remove active)
  collectBase parentKey
  retireDraft name

/-- The key of a frozen parent lane. -/
def frozenParent (digest : Digest) (parent : String) : LaneM Key := do
  match (← disk).record parent with
  | none => raise .notFrozen
  | some record => do
    demand (record.mode = .frozen) .notFrozen
    recordProblems digest parent record
    inspect
    checkSnapshotLayers record
    return record.key

/-- The part of `create_lane` that looks at its source and returns the parent's key. -/
def selectParent (digest : Digest) (request : Request) : LaneM Key := do
  inspect
  match request.parent with
  | none => do
    inspect
    importBase digest request
  | some parent => frozenParent digest parent

/-- The reservation of the lane's directory, which exists when the lane is a retired one. -/
def enter (retired : Bool) (name : String) : LaneM Unit :=
  if retired then requireRetiredLane name
  else write .reserve fun d => { d.setLane name { inode := d.next } with next := d.next + 1 }

/-- What stands in the directory once it is claimed. -/
def settle (retired : Bool) (name : String) : LaneM Unit :=
  if retired then requireRetiredLane name
  else do
    let _ ← laneNamespace (.claim retired) name false
    writeRetired retired name

def reserve (name : String) : LaneM Unit := do
  let d ← disk
  let retired := (d.lanes name).isSome
  enter retired name
  claim retired name
  settle retired name

/-- A parent lane that is named must be recorded. -/
def requireParent (parent : Option String) : LaneM Unit := do
  let d ← disk
  demand (∀ name ∈ parent, (d.record name).isSome = true) .recordMissing

/-- The record of a lane that is being created. -/
def Request.record (digest : Digest) (request : Request) (parentKey : Key) : Record where
  name := request.name
  mode := .creating
  base := request.base
  parent := request.parent
  key := digest.active request.name
  parentKey := parentKey

def createLane (digest : Digest) (request : Request) : LaneM Unit := do
  let name := request.name
  onlyIf ((← disk).lanes name).isSome (requireRetiredLane name)
  requireParent request.parent
  inspect
  SnapshotStore.locked true do
    reserve name
    let active := digest.active name
    demand ((← info .info active) = none) .snapshotState
    demand ((← info .info (digest.committed name)) = none) .snapshotState
    let parentKey ← selectParent digest request
    assign fun d => { d with draft := some (request.record digest parentKey) }
    handle (publish name active parentKey) fun error => do
      handle (rollBack name active parentKey) fun _ => do
        revise fun record => { record with mode := .failed }
        writeDraft false name
        raise .rollbackRefused
      SnapshotStore.stopIfEmpty
      raise error

end Create

section Freeze

def freezeLane (digest : Digest) (name : String) : LaneM Unit := do
  SnapshotStore.locked false do
    match (← disk).record name with
    | none => raise .recordMissing
    | some record => do
      recordProblems digest name record
      if record.mode = .frozen then checkSnapshotLayers record
      else do
        demand (record.mode = .active ∨ record.mode = .freezing) .wrongMode
        -- the lane's scope
        inspect
        claim true name
        -- the owners of the prefix
        inspect
        checkSnapshotLayers record
        writeRecord false name { record with mode := .freezing }
        let committed ← info .info (digest.committed name)
        onlyIf (committed = none) do
          -- `sync -f`
          inspect
          act .labelFrozen fun d => d.label (digest.active name)
            { kind := some .frozen, tree := record.recipe.map fun recipe => d.trees recipe.upper }
          SnapshotStore.commit .freezing (digest.committed name) (digest.active name)
        let frozen := { record with key := digest.committed name, mode := .frozen }
        checkSnapshotLayers frozen
        writeRecord false name frozen

end Freeze

section Destroy

/-- The parent that the record's own source stands for. -/
def Digest.expectedParent (digest : Digest) (record : Record) : Key :=
  match record.parent with
  | none => .base (digest.base record.base)
  | some parent => digest.committed parent

/-- The snapshot to remove. -/
def selectKey (digest : Digest) (name : String) (record : Record) : LaneM Key := do
  if record.mode = .freezing then do
    let committed ← info .info (digest.committed name)
    return if committed.isSome then digest.committed name else record.key
  else return record.key

/-- What the store must hold for a lane that is destroyed. -/
def checkDoomed (record : Record) (parentKey : Key) (found : Option Snapshot) : LaneM Unit :=
  match found with
  | none => demand (record.mode = .creating ∨ record.mode = .failed ∨ record.mode = .destroying) .missingSnapshot
  | some snapshot => demand (snapshot.labels.owned = true ∧ snapshot.parent = some parentKey) .notOwned

def destroyLane (digest : Digest) (name : String) : LaneM Unit := do
  demand (((← disk).record name).isSome = true) .recordMissing
  SnapshotStore.locked false do
    match (← disk).record name with
    | none => raise .recordMissing
    | some record => do
      inspect
      demand (record.name = name) .notOwned
      demand (record.key = digest.active name ∨ record.key = digest.committed name) .notOwned
      let _ ← laneNamespace .inspect name true
      let parentKey := digest.expectedParent record
      demand (record.parentKey = parentKey) .notOwned
      let key ← selectKey digest name record
      let found ← info .info key
      checkDoomed record parentKey found
      let above ← info .info parentKey
      demand (∀ snapshot ∈ above, snapshot.labels.owned = true) .baseForeign
      let used ← children key
      demand (used = false) .descendants
      let mounted := (← disk).lanes name |>.bind Lane.mount
      demand (mounted = none ∨ record.mountIdentity = none ∨ mounted = record.mountIdentity) .lostView
      -- the lane's scope
      inspect
      claim true name
      demand ((← disk).record name = some record) .recordChanged
      let doomed := { record with key, mode := .destroying }
      writeRecord false name doomed
      -- the processes of the prefix
      inspect
      unmount name
      onlyIf found.isSome (SnapshotStore.remove key)
      collectBase parentKey
      retireLane name doomed
      SnapshotStore.stopIfEmpty

end Destroy

/-- The calls of the workspace on its lanes. -/
inductive Call where
  | create (request : Request)
  | freeze (name : String)
  | destroy (name : String)

def Call.program (digest : Digest) : Call → LaneM Unit
  | .create request => createLane digest request
  | .freeze name => freezeLane digest name
  | .destroy name => destroyLane digest name

end Darling.Lanes
