import Darling.Start.World

/-! The journal of a transaction. An update writes a temporary, exchanges it with the evidence and removes
the displaced file; a reader finds either order of the pair. -/
namespace Darling.Start

variable (accepts : Inputs → Bool)

section Bins

/-- `os.mkdir(trash_name, 0o700)`; the UUID of the name is the new inode. -/
def makeBin (label : JournalStep → Point) : StartM Nat :=
  step (label .makeBin) fun w =>
    return (w.fresh, (w.allocate.setBin w.fresh (some none)).setBinName w.fresh (some w.fresh))

/-- The directory that is opened at the name. -/
def openBin (label : JournalStep → Point) (name : Nat) : StartM Nat :=
  look (label .openBin) fun w =>
    match w.journal.binNames name with
    | none => throw .fileNotFound
    | some bin => do
      require (w.bins bin).isSome .os
      return bin

/-- `_rename_noreplace_at(parent_fd, path.name, trash_fd, "victim")`. -/
def moveIn (label : JournalStep → Point) (bin : Nat) : StartM Unit :=
  step (label .moveIn) fun w =>
    match w.journal.temporary with
    | none => throw (.start .nameExists)
    | some inode => do
      require (w.bins bin = some none) (.start .nameExists)
      return ((), ((w.replacing (w.bins bin).join).setTemporary none).setBin bin (some (some inode)))

/-- The victim is moved back where nothing stands in its place. -/
def moveBack (label : JournalStep → Point) (bin : Nat) : StartM Unit :=
  step (label .moveBack) fun w =>
    match w.bins bin with
    | some (some inode) => do
      require (w.journal.temporary = none) (.start .nameExists)
      return ((), ((w.replacing w.journal.temporary).setTemporary (some inode)).setBin bin (some none))
    | _ => throw (.start .nameExists)

def dropVictim (label : JournalStep → Point) (bin : Nat) : StartM Unit :=
  step (label .drop) fun w =>
    match w.bins bin with
    | some (some inode) => return ((), (w.setBin bin (some none)).removed (.file inode))
    | _ => throw .fileNotFound

/-- `os.rmdir(trash_name, dir_fd=parent_fd)`. -/
def dropBin (label : JournalStep → Point) (name : Nat) : StartM Unit :=
  step (label .dropBin) fun w =>
    match w.journal.binNames name with
    | none => throw .fileNotFound
    | some bin => do
      require (w.bins bin = some none) .os
      return ((), (w.setBin bin none).setBinName name none)

def binStands (label : JournalStep → Point) (name bin : Nat) : StartM Bool :=
  look (label .checkIn) fun w => return w.journal.binNames name = some bin

/-- The victim's inode is checked again where nobody else can act. -/
def unlinkInBin (label : JournalStep → Point) (name bin identity : Nat) : StartM Bool := do
  moveIn label bin
  let same ← look (label .checkIn) fun w =>
    return w.bins bin = some (some identity) && (w.journal.files identity).isSome
  if same then do
    dropVictim label bin
    settle (label .sync)
    let stands ← binStands label name bin
    demand (stands = true) (.start .binChanged)
    dropBin label name
    settle (label .sync)
    return true
  else do
    moveBack label bin
    return false

def Failure.isOs : Failure → Bool
  | .fileNotFound | .fileExists | .os => true
  | _ => false

/-- `finally`: the private directory goes if it is still the one that was made. -/
def cleanBin (label : JournalStep → Point) (name bin : Nat) : StartM Unit :=
  handle (do
    let stands ← binStands label name bin
    onlyIf stands do
      dropBin label name
      settle (label .sync))
    fun failure => if failure.isOs then return () else raise failure

/-- `_unlink_if_identity` for the temporary. -/
def unlinkIfIdentity (label : JournalStep → Point) (identity : Nat) : StartM Bool := do
  let same ← look (label .compare) fun w => return w.sameFile w.journal.temporary identity
  if same then do
    let name ← makeBin label
    let bin ← openBin label name
    let gone ← handle (unlinkInBin label name bin identity) fun failure => do
      cleanBin label name bin
      raise failure
    if gone then return true
    else do
      cleanBin label name bin
      return false
  else return false

end Bins

/-- `_safe_read_json_with_identity`, then `_validate_artifact`. -/
def readJournal (w : World) (inode : Nat) : Except Failure Artifact :=
  match w.journal.files inode with
  | some (some a) => do
    require (a.Valid accepts) (.start .invalidArtifact)
    require (a.evidenceIdentity = some inode) (.start .evidenceIdentity)
    return a
  | _ => throw (.start .unreadableEvidence)

/-- The payload may follow what stands in the journal. -/
def Follows (inode : Nat) (old new : Artifact) : Prop :=
  new.evidenceIdentity = some inode ∧ old.transaction = new.transaction ∧
    new.evidenceGeneration = old.evidenceGeneration ∧ old.inputs = new.inputs ∧
    (old.state = new.state ∨ validTransition old.state new.state = true)

instance (inode : Nat) (old new : Artifact) : Decidable (Follows inode old new) :=
  inferInstanceAs (Decidable (_ ∧ _))

/-- The checks of `_durable_write`: the inode of the evidence it updates, if there is one. -/
def inspectJournal (w : World) : Except Failure (Option Nat) := do
  require (w.payload.Valid accepts) (.start .invalidArtifact)
  match w.journal.evidence with
  | some inode => do
    let old ← readJournal accepts w inode
    require (Follows inode old w.payload) (.start .unrelatedUpdate)
    require (w.journal.temporary = none) (.start .temporaryExists)
    return some inode
  | none => do
    require (w.payload.evidenceIdentity = none ∧ w.payload.evidenceGeneration = 0) (.start .evidenceDisappeared)
    require (w.journal.temporary = none) (.start .temporaryExists)
    return none

section Writing

variable (label : JournalStep → Point)

/-- `os.open` of the temporary: the descriptor. -/
def createTemporary : StartM Nat :=
  step (label .create) fun w => do
    require (w.journal.temporary = none) .fileExists
    return (w.fresh, (w.allocate.setFile w.fresh none).setTemporary (some w.fresh))

/-- `_identity(temporary)`. -/
def statTemporary : StartM Nat :=
  look (label .stat) fun w =>
    match w.journal.temporary with
    | some inode => return inode
    | none => throw .fileNotFound

/-- The payload is written through the descriptor. -/
def fillTemporary (descriptor : Nat) : StartM Unit := do
  change (label .fill) fun w => w.setFile descriptor (some w.payload)
  settle (label .flush)

/-- `_rename_noreplace(temporary, evidence)`. -/
def publishTemporary : StartM Unit :=
  step (label .publish) fun w =>
    match w.journal.temporary with
    | none => throw (.start .nameExists)
    | some inode => do
      require (w.journal.evidence = none) (.start .nameExists)
      return ((), ((w.replacing w.journal.evidence).setTemporary none).setEvidence (some inode))

/-- `_rename_exchange(evidence, temporary)`. -/
def exchange (point : Point) : StartM Unit :=
  step point fun w =>
    match w.journal.evidence, w.journal.temporary with
    | some old, some new => return ((), (w.setEvidence (some new)).setTemporary (some old))
    | _, _ => throw (.start .nameExists)

def pairStands (evidence temporary : Nat) : StartM Bool :=
  look (label .verify) fun w =>
    return w.sameFile w.journal.evidence evidence && w.sameFile w.journal.temporary temporary

/-- The exchange is taken back; the caller raises in every case. -/
def restoreExchange (existing identity : Nat) : StartM Unit := do
  handle (exchange (label .restore)) fun _ => raise (.start .exchangeNotRestored)
  let stands ← pairStands label existing identity
  demand (stands = true) (.start .exchangeNotRestored)
  raise (.start .exchangeRestored)

def unlinkTemporary : StartM Unit :=
  step (label .unlink) fun w =>
    match w.journal.temporary with
    | none => throw .fileNotFound
    | some inode => return ((), (w.setTemporary none).removed (.file inode))

def publishFirst (identity : Nat) : StartM Unit := do
  publishTemporary label
  let stands ← look (label .verify) fun w => return w.sameFile w.journal.evidence identity
  demand (stands = true) (.start .firstPublication)
  settle (label .sync)

def publishUpdate (existing identity : Nat) : StartM Unit := do
  let stands ← look (label .recheck) fun w => return w.sameFile w.journal.evidence existing
  demand (stands = true) (.start .substitutedEvidence)
  exchange (label .exchange)
  let exchanged ← pairStands label identity existing
  onlyIf (!exchanged) (restoreExchange label existing identity)
  let displaced ← look (label .verify) fun w => return w.sameFile w.journal.temporary existing
  onlyIf (!displaced) (restoreExchange label existing identity)
  unlinkTemporary label
  settle (label .sync)

/-- The handler: what was not published is taken back, in memory and on the disk. -/
def undoWrite (before : Artifact) (identity : Nat) : StartM Unit := do
  let published ← look (label .undo) fun w => return w.sameFile w.journal.evidence identity
  onlyIf (!published) do
    revise fun a =>
      { a with evidenceIdentity := before.evidenceIdentity, evidenceGeneration := before.evidenceGeneration }
    handle (do
      let _ ← unlinkIfIdentity label identity
      return ())
      fun failure => if failure = .fileNotFound then return () else raise failure

/-- The payload is stamped with the new inode, written and published. -/
def writeAndPublish (existing : Option Nat) (descriptor identity : Nat) : StartM Unit := do
  revise fun a => a.stamped identity
  let stamped ← payload
  demand (stamped.Valid accepts) (.start .invalidArtifact)
  fillTemporary label descriptor
  match existing with
  | none => publishFirst label identity
  | some old => publishUpdate label old identity

/-- `_durable_write`. -/
def durableWrite : StartM Unit := do
  let existing ← look (label .inspect) (inspectJournal accepts)
  let before ← payload
  let descriptor ← createTemporary label
  let identity ← statTemporary label
  handle (writeAndPublish accepts label existing descriptor identity) fun failure => do
    undoWrite label before identity
    raise failure

end Writing

/-- The journal file at a name, if something stands there. -/
def readEntry (w : World) (entry : Option Nat) : Except Failure (Option (Artifact × Nat)) :=
  match entry with
  | none => return none
  | some inode => do
    let a ← readJournal accepts w inode
    return some (a, inode)

/-- The temporary follows the evidence: it takes its place. -/
def promote (main new : Artifact × Nat) : StartM Artifact := do
  exchange (.load .exchange)
  let stands ← pairStands .load new.2 main.2
  if stands then do
    let gone ← unlinkIfIdentity .load main.2
    demand (gone = true) (.start .displacedChanged)
    return new.1
  else do
    exchange (.load .restore)
    raise (.start .unverifiedExchange)

def discard (main old : Artifact × Nat) : StartM Artifact := do
  let gone ← unlinkIfIdentity .load old.2
  demand (gone = true) (.start .displacedChanged)
  return main.1

def choosePair (main temporary : Artifact × Nat) : StartM Artifact := do
  demand (temporary.1.transaction = main.1.transaction ∧ temporary.1.inputs = main.1.inputs)
    (.start .otherTransaction)
  if temporary.1.evidenceGeneration = main.1.evidenceGeneration + 1 ∧
      validTransition main.1.state temporary.1.state = true then
    promote main temporary
  else if main.1.evidenceGeneration = temporary.1.evidenceGeneration + 1 ∧
      validTransition temporary.1.state main.1.state = true then
    discard main temporary
  else raise (.start .inconsistentGenerations)

/-- `_load_recoverable_evidence`. -/
def loadRecoverable : StartM Artifact := do
  let main ← look (.load .inspect) fun w => readEntry accepts w w.journal.evidence
  let temporary ← look (.load .stat) fun w => readEntry accepts w w.journal.temporary
  match main, temporary with
  | none, none => raise (.start .noEvidence)
  | some main, none => return main.1
  | none, some new => do
    publishFirst .load new.2
    return new.1
  | some main, some new => choosePair main new

end Darling.Start
