import Darling.Start.Journal

/-! The transaction of `west dev start`: it builds the checkout in a staging directory, publishes it with
one rename, and takes everything back through a private quarantine. -/
namespace Darling.Start

/-- A git command: what it leaves in the tree, and whether it fails then. -/
structure Command where
  leaves : List Nat := []
  failure : Option Failure := none

/-- What the transaction meets outside its two directories. -/
structure Setting where
  accepts : Inputs → Bool
  commands : Nat → List Command := fun _ => []
  sources : Option Failure := none
  closure : Option Failure := none

def Area.entry (area : Area) : Place → Option Nat
  | .destination => area.destination
  | .staging => area.staging
  | .quarantine => area.quarantine

namespace World

def folder? (w : World) (place : Place) : Option Folder := (w.area.entry place).bind w.area.folders

def setStaging (w : World) (entry : Option Nat) : World := { w with area := { w.area with staging := entry } }

def setDestination (w : World) (entry : Option Nat) : World := { w with area := { w.area with destination := entry } }

def setQuarantine (w : World) (entry : Option Nat) : World := { w with area := { w.area with quarantine := entry } }

def dropFolder (w : World) (inode : Nat) : World :=
  { w with area := { w.area with folders := Function.update w.area.folders inode none } }

/-- The directory with the inode is edited, if it is there. -/
def editFolder (w : World) (inode : Nat) (edit : Folder → Folder) : World :=
  match w.area.folders inode with
  | some folder => w.setFolder inode (edit folder)
  | none => w

end World

attribute [simp] World.setStaging World.setDestination World.setQuarantine World.dropFolder

def Artifact.mark (a : Artifact) : Mark := ⟨a.transaction, a.inputs.texts⟩

def optional (failure : Option Failure) : Except Failure Unit :=
  match failure with
  | none => return ()
  | some failure => throw failure

section Markers

/-- `os.open` of the marker: the directory and the new file. -/
def createMarker (place : Place) : StartM (Nat × Nat) :=
  step (.createMarker place) fun w =>
    match w.area.entry place with
    | none => throw .fileNotFound
    | some inode =>
      match w.area.folders inode with
      | none => throw .os
      | some folder => do
        require (folder.marker = none) .fileExists
        return ((inode, w.fresh), w.allocate.setFolder inode { folder with marker := some { inode := w.fresh } })

/-- The data goes through the descriptor. -/
def fillMarker (place : Place) (inode descriptor : Nat) (mark : Mark) : StartM Unit :=
  change (.fillMarker place) fun w => w.editFolder inode fun folder =>
    { folder with marker := folder.marker.map fun marker =>
        if marker.inode = descriptor then { marker with mark := some mark } else marker }

/-- `_write_marker`. -/
def writeMarker (place : Place) : StartM Unit := do
  let a ← payload
  let (inode, descriptor) ← createMarker place
  fillMarker place inode descriptor a.mark
  settle (.syncMarker place)
  settle (.syncMarker place)

/-- `_marker_proves_ownership`. -/
def markerProves (w : World) (place : Place) (a : Artifact) : Bool :=
  match w.folder? place with
  | none => false
  | some folder =>
    folder.owned = none && folder.entries = [] && (folder.marker.bind Marker.mark) = some a.mark

/-- `_reserved_empty_staging`. -/
def reservedEmpty (w : World) (a : Artifact) : Bool :=
  a.createdPaths = [.staging] && match w.folder? .staging with
    | none => false
    | some folder => folder.restricted && folder.marker = none && folder.owned = none && folder.entries = []

end Markers

section Rollback

variable (accepts : Inputs → Bool)

def rollbackWrite : StartM Unit := durableWrite accepts (.journal .rollback)

/-- `_validate_private_quarantine`. -/
def validateQuarantine (identity : Nat) : StartM Unit :=
  look .checkQuarantine fun w =>
    match w.area.quarantine with
    | none => throw (.start .quarantineMissing)
    | some inode =>
      require (inode = identity ∧ ((w.area.folders inode).any (·.restricted)) = true) (.start .quarantineChanged)

def addCreated (place : Place) (paths : List Place) : List Place :=
  if place ∈ paths then paths else paths ++ [place]

/-- A quarantine the journal does not know is taken over when its marker proves it. -/
def adoptQuarantine : StartM Nat := do
  let a ← payload
  let proved ← look .survey fun w => return markerProves w .quarantine a
  demand (proved = true) (.start .unrecordedQuarantine)
  let identity ← look .statAdopted fun w =>
    match w.area.quarantine with
    | none => throw .fileNotFound
    | some inode => return inode
  revise fun a => { a with
    quarantineIdentity := some identity, createdPaths := addCreated .quarantine a.createdPaths }
  rollbackWrite accepts
  return identity

/-- The quarantine the rollback starts from. -/
def findQuarantine : StartM (Option Nat) := do
  let a ← payload
  let there ← look .survey fun w => return w.area.quarantine.isSome
  if there then
    match a.quarantineIdentity with
    | some identity => do
      validateQuarantine identity
      return some identity
    | none => do
      let identity ← adoptQuarantine accepts
      validateQuarantine identity
      return some identity
  else do
    revise fun a => if a.quarantineIdentity = none then a else { a with
      quarantineIdentity := none, createdPaths := a.createdPaths.filter (· ≠ .quarantine) }
    return none

/-- `public_present` and `inside_present`. -/
structure Present where
  staging : Bool
  destination : Bool
  inside : Bool
  deriving DecidableEq

def present (w : World) : Present where
  staging := w.area.staging.isSome
  destination := w.area.destination.isSome
  inside := ((w.folder? .quarantine).bind Folder.owned).isSome

/-- The tree to remove: recorded, or proved by what stands at the staging path. -/
def findTree (quarantine : Option Nat) (seen : Present) : StartM (Option Nat) := do
  let a ← payload
  match a.destinationIdentity with
  | some identity => return some identity
  | none =>
    if seen.staging && !seen.destination then do
      let proved ← look .survey fun w => return markerProves w .staging a || reservedEmpty w a
      demand (proved = true) (.start .noOwnership)
      let identity ← look .statStaging fun w =>
        match w.area.staging with
        | none => throw .fileNotFound
        | some inode => return inode
      revise fun a => { a with
        destinationIdentity := some identity
        createdPaths := .staging :: (if quarantine.isSome then [.quarantine] else []) }
      rollbackWrite accepts
      return some identity
    else do
      demand (seen.staging = false ∧ seen.destination = false ∧ seen.inside = false) (.start .noOwnership)
      demand (quarantine = none) .assertion
      return none

/-- Where the tree is: at a public path, or in the quarantine. -/
structure Located where
  source : Option Place
  foreign : Bool
  inside : Bool

def locate (seen : Present) (identity : Nat) (w : World) : Except Failure Located := do
  let staging := seen.staging && w.sameFolder w.area.staging identity
  let destination := seen.destination && w.sameFolder w.area.destination identity
  let inside := seen.inside && w.sameFolder ((w.folder? .quarantine).bind Folder.owned) identity
  require (seen.inside = true → inside = true) (.start .foreignQuarantined)
  require (staging.toNat + destination.toNat + inside.toNat ≤ 1) (.start .manyTrees)
  return {
    source := if staging then some .staging else if destination then some .destination else none
    foreign := (seen.staging && !staging) || (seen.destination && !destination)
    inside }

def clearClaims (a : Artifact) : Artifact := { a with createdPaths := [], destinationIdentity := none }

/-- `os.mkdir(quarantine, 0o700)`. -/
def makeQuarantine : StartM Unit :=
  step .makeQuarantine fun w => do
    require (w.area.quarantine = none) (.start .quarantineAppeared)
    return ((), (w.allocate.setFolder w.fresh {}).setQuarantine (some w.fresh))

def chmodQuarantine : StartM Unit :=
  step .chmodQuarantine fun w =>
    match w.area.quarantine with
    | none => throw .fileNotFound
    | some inode => return ((), w.editFolder inode fun folder => { folder with restricted := true })

/-- A new quarantine with its marker, recorded. -/
def createQuarantine : StartM Nat := do
  makeQuarantine
  chmodQuarantine
  let identity ← look .statQuarantine fun w =>
    match w.area.quarantine with
    | none => throw .fileNotFound
    | some inode => return inode
  writeMarker .quarantine
  settle .syncQuarantine
  revise fun a => { a with
    quarantineIdentity := some identity, createdPaths := addCreated .quarantine a.createdPaths }
  rollbackWrite accepts
  return identity

/-- `_rename_noreplace(source, quarantined_tree)`. -/
def moveTree (source : Place) : StartM Unit :=
  step .move fun w =>
    match w.area.entry source, w.area.quarantine with
    | some tree, some inode =>
      match w.area.folders inode with
      | none => throw (.start .nameExists)
      | some folder => do
        require (folder.owned = none) (.start .nameExists)
        let moved := (w.replacing folder.owned).setFolder inode { folder with owned := some tree }
        return ((), match source with
          | .staging => moved.setStaging none
          | .destination => moved.setDestination none
          | .quarantine => moved.setQuarantine none)
    | _, _ => throw (.start .nameExists)

def quarantineTree (source : Place) (quarantine identity : Nat) : StartM Unit := do
  moveTree source
  settle .syncMove
  settle .syncMove
  let verified ← look .checkMove fun w =>
    return w.sameFolder w.area.quarantine quarantine &&
      w.sameFolder ((w.folder? .quarantine).bind Folder.owned) identity
  demand (verified = true) (.start .quarantinedTree)
  revise fun a => { a with createdPaths := [.quarantine] }
  rollbackWrite accepts

/-- A part of the tree is gone. -/
@[simp] def World.pruned (w : World) (tree : Nat) : World := w.removed (.tree tree w.payload.destinationIdentity)

/-- `shutil.rmtree("owned", dir_fd=quarantine_fd)`, an entry a step: the entries go through a descriptor of
what is opened at the name, the directory itself by the name. -/
def removeTree (quarantine : Nat) : StartM Unit := do
  let (tree, entries) ← look .removeEntry fun w =>
    match (w.area.folders quarantine).bind Folder.owned with
    | none => throw .fileNotFound
    | some tree =>
      match w.area.folders tree with
      | none => throw .os
      | some folder => return (tree, folder.entries)
  entries.forM fun entry => change .removeEntry fun w =>
    (w.editFolder tree fun folder => { folder with entries := folder.entries.erase entry }).pruned tree
  change .removeEntry fun w => (w.editFolder tree fun folder => { folder with marker := none }).pruned tree
  step .removeTree fun w =>
    match (w.area.folders quarantine).bind Folder.owned with
    | none => throw .fileNotFound
    | some left =>
      return ((), ((w.editFolder quarantine fun folder => { folder with owned := none }).dropFolder left).pruned left)

/-- The quarantine is opened and holds what it should. -/
def openQuarantine (quarantine : Nat) (inside : Bool) : StartM Unit :=
  look .openQuarantine fun w =>
    match w.area.quarantine with
    | none => throw .fileNotFound
    | some inode => do
      require (inode = quarantine) (.start .quarantineChanged)
      match w.area.folders inode with
      | none => throw .os
      | some folder =>
        require (folder.marker.isSome ∧ folder.owned.isSome = inside ∧ folder.entries = []) (.start .unexpectedPaths)

def removeOwned (quarantine identity : Nat) : StartM Unit := do
  let same ← look .removeTree fun w =>
    return w.sameFolder ((w.area.folders quarantine).bind Folder.owned) identity
  demand (same = true) (.start .quarantinedTree)
  removeTree quarantine
  settle .syncTree

/-- The marker is read, found to be the transaction's, and unlinked. -/
def dropMarker (quarantine : Nat) : StartM Unit := do
  let a ← payload
  let seen ← look .readMarker fun w =>
    match (w.area.folders quarantine).bind Folder.marker with
    | some marker => do
      require (marker.mark.isSome = true) (.start .unreadableEvidence)
      require (marker.mark = some a.mark) (.start .markerChanged)
      return marker.inode
    | none => throw .fileNotFound
  step .dropMarker fun w =>
    match (w.area.folders quarantine).bind Folder.marker with
    | some marker => do
      require (marker.inode = seen) (.start .markerChanged)
      return ((), (w.editFolder quarantine fun folder => { folder with marker := none }).removed (.file marker.inode))
    | none => throw .fileNotFound
  settle .syncDrop

/-- `os.rmdir` of the quarantine, if its name is still that of the open directory. -/
def dropQuarantine (quarantine : Nat) : StartM Unit := do
  look .checkEmpty fun w =>
    match w.area.folders quarantine with
    | some folder => require (folder.marker = none ∧ folder.owned = none ∧ folder.entries = []) (.start .notEmpty)
    | none => throw .os
  step .dropQuarantine fun w => do
    require (w.area.quarantine = some quarantine) (.start .quarantineChanged)
    match w.area.folders quarantine with
    | some folder => do
      require (folder.marker = none ∧ folder.owned = none ∧ folder.entries = []) .os
      return ((), (w.dropFolder quarantine).setQuarantine none)
    | none => throw .os
  settle .syncQuarantine

def emptyQuarantine (quarantine identity : Nat) (inside : Bool) : StartM Unit := do
  openQuarantine quarantine inside
  onlyIf inside (removeOwned quarantine identity)
  dropMarker quarantine
  dropQuarantine quarantine

/-- The rollback of a tree that was found, through the quarantine. -/
def removeLocated (quarantine : Option Nat) (identity : Nat) (located : Located) : StartM Unit := do
  let private_ ← match quarantine with
    | some known => pure known
    | none => createQuarantine accepts
  validateQuarantine private_
  match located.source with
  | some source => quarantineTree accepts source private_ identity
  | none => pure ()
  emptyQuarantine private_ identity (located.inside || located.source.isSome)
  revise fun a => { clearClaims a with quarantineIdentity := none }
  rollbackWrite accepts
  demand (located.foreign = false) (.start .foreignRemains)

def rollbackTree (quarantine : Option Nat) (seen : Present) (identity : Nat) : StartM Unit := do
  let located ← look .survey (locate seen identity)
  if located.source = none ∧ located.inside = false ∧ quarantine = none then do
    revise clearClaims
    rollbackWrite accepts
    demand (located.foreign = false) (.start .foreignRemains)
  else removeLocated accepts quarantine identity located

/-- `_rollback`. -/
def rollback : StartM Unit := do
  look .parents fun w =>
    require (w.payload.inputs.destinationParent = w.destinationParent) (.start .parentChanged)
  let quarantine ← findQuarantine accepts
  let seen ← look .survey fun w => return present w
  match ← findTree accepts quarantine seen with
  | none => return ()
  | some identity => rollbackTree accepts quarantine seen identity

end Rollback

section Forward

variable (setting : Setting)

def workWrite : StartM Unit := durableWrite setting.accepts (.journal .working)

/-- `_assert_parent_identities`. -/
def assertParents : StartM Unit :=
  look .parents fun w =>
    require (w.payload.inputs.destinationParent = w.destinationParent ∧
      w.payload.inputs.evidenceParent = w.evidenceParent) (.start .parentChanged)

/-- `os.mkdir(staging, 0o700)`. -/
def makeStaging : StartM Unit :=
  step .makeStaging fun w => do
    require (w.area.staging = none) .fileExists
    return ((), (w.allocate.setFolder w.fresh {}).setStaging (some w.fresh))

def reserveStaging : StartM Unit := do
  revise fun a => { a with createdPaths := [.staging] }
  workWrite setting
  handle makeStaging fun failure =>
    if failure = .fileExists then do
      revise fun a => { a with createdPaths := [] }
      workWrite setting
      raise (.start .stagingAppeared)
    else raise failure

/-- `marker.unlink()`, by its path. -/
def unlinkMarker : StartM Unit :=
  step .unlinkMarker fun w =>
    match w.area.staging with
    | none => throw .fileNotFound
    | some inode =>
      match w.area.folders inode with
      | none => throw .os
      | some folder =>
        match folder.marker with
        | none => throw .fileNotFound
        | some marker =>
          return ((), (w.setFolder inode { folder with marker := none }).removed (.file marker.inode))

/-- The staging directory is made, marked and claimed. -/
def claimStaging : StartM Nat := do
  reserveStaging setting
  let claimed ← look .statStaging fun w =>
    match w.area.staging with
    | none => throw .fileNotFound
    | some inode => return inode
  revise fun a => { a with createdPaths := [.staging], destinationIdentity := some claimed }
  settle .syncParent
  writeMarker .staging
  workWrite setting
  unlinkMarker
  settle (.syncMarker .staging)
  return claimed

/-- A git command in the staging tree. -/
def runCommand (number : Nat) (command : Command) : StartM Unit := do
  step (.command number) fun w =>
    match w.area.staging with
    | none => throw .os
    | some inode => return ((), w.editFolder inode fun folder =>
        { folder with entries := folder.entries ++ command.leaves })
  revise fun a => a.append (.command number) (command.failure.elim 0 Failure.returncode)
  match command.failure with
  | none => pure ()
  | some failure => raise failure

/-- `_materialize_repository`, then its journal update. -/
def materialize (repository : Nat) : StartM Unit := do
  (setting.commands repository).forM (runCommand repository)
  workWrite setting

/-- `_rename_noreplace(staging, destination)`. -/
def publishStaging : StartM Unit :=
  step .publish fun w =>
    match w.area.staging with
    | none => throw (.start .nameExists)
    | some inode => do
      require (w.area.destination = none) (.start .nameExists)
      return ((), ((w.replacing w.area.destination).setStaging none).setDestination (some inode))

def publishDestination (claimed : Nat) : StartM Unit := do
  look .beforePublish fun w => do
    require (w.area.destination = none) (.start .destinationAppeared)
    require (w.sameFolder w.area.staging claimed = true) (.start .stagingChanged)
  publishStaging
  settle .syncParent
  look .afterPublish fun w =>
    require (w.sameFolder w.area.destination claimed = true) (.start .destinationChanged)
  revise fun a => { a with createdPaths := [.destination] }
  workWrite setting

def commitPayload (a : Artifact) : Artifact :=
  { a.append .startTransaction 0 with
    state := .committed, returncode := some 0, nextSafeAction := .useDestination }

/-- The `try` block of `execute_start`. -/
def forward : StartM Artifact := do
  look .sources fun _ => optional setting.sources
  let claimed ← claimStaging setting
  let a ← payload
  a.inputs.repositories.forM (materialize setting)
  look .closure fun _ => optional setting.closure
  workWrite setting
  publishDestination setting claimed
  revise commitPayload
  durableWrite setting.accepts (.journal .commit)
  payload

def rolledBackPayload (name : ResultName) (returncode : Int) (a : Artifact) : Artifact :=
  { a.append name returncode with
    state := .rolledBack, returncode := some returncode, createdPaths := [], destinationIdentity := none
    quarantineIdentity := none, nextSafeAction := .buildNewPlan }

def failedPayload (name : ResultName) (returncode : Int) (next : NextAction) (a : Artifact) : Artifact :=
  { a.append name returncode with state := .failed, returncode := some returncode, nextSafeAction := next }

/-- How the rollback ended. -/
def tryRollback : StartM (Option Failure) :=
  handle (do
    rollback setting.accepts
    return none)
    fun failure => return some failure

/-- The handler of `execute_start`. -/
def abandon (failure : Failure) : StartM Artifact := do
  match ← tryRollback setting with
  | none => revise (rolledBackPayload .startTransaction failure.returncode)
  | some _ => revise (failedPayload .startTransaction failure.returncode .inspectOwnership)
  durableWrite setting.accepts (.journal .ending)
  if failure.handled then payload else raise failure

def precheck (w : World) : Except Failure Unit := do
  require (w.journal.evidence = none) (.start .evidenceExists)
  require (w.journal.temporary = none) (.start .temporaryExists)
  require (w.area.destination = none ∧ w.area.staging = none ∧ w.area.quarantine = none) (.start .pathsExist)

/-- `execute_start`; the payload is the plan. -/
def executeStart : StartM Artifact := do
  let plan ← payload
  demand (plan.Valid setting.accepts) (.start .invalidArtifact)
  demand (plan.state = .planned ∧ plan.createdPaths = [] ∧ plan.destinationIdentity = none) (.start .notPlanned)
  assertParents
  settle .lock
  look .precheck precheck
  durableWrite setting.accepts (.journal .opening)
  revise fun a => { a with state := .active, nextSafeAction := .recoverStart }
  durableWrite setting.accepts (.journal .opening)
  handle (forward setting) (abandon setting)

end Forward

section Recovery

variable (setting : Setting)

/-- What is recorded after a rollback that failed. -/
def refusedPayload (failure : Failure) (a : Artifact) : Artifact :=
  if failure = .interrupt ∧ a.owns = false then
    { failedPayload .recoverStart failure.returncode .buildNewPlan a with state := .rolledBack }
  else failedPayload .recoverStart failure.returncode
    (if a.owns then .recoverStart else .inspectOwnership) a

def rollBackRecovered (a : Artifact) : StartM Artifact := do
  let returncode := if a.state = .failed then a.returncode.getD 0 else 0
  match ← tryRollback setting with
  | none => do
    revise (rolledBackPayload .recoverStart returncode)
    durableWrite setting.accepts (.journal .ending)
    payload
  | some failure => do
    revise (refusedPayload failure)
    durableWrite setting.accepts (.journal .ending)
    if failure.handled then payload else raise failure

/-- `recover_start`. -/
def recoverStart : StartM Artifact := do
  settle .lock
  let a ← loadRecoverable setting.accepts
  revise fun _ => a
  assertParents
  match a.state with
  | .committed => do
    look .committed fun w =>
      require ((a.destinationIdentity.any fun identity => w.sameFolder w.area.destination identity) = true)
        (.start .committedChanged)
    return a
  | .rolledBack => return a
  | .failed => if a.owns then rollBackRecovered setting a else return a
  | .planned | .active => rollBackRecovered setting a

end Recovery

end Darling.Start
