import Darling.Library.Interruptions

/-! `execute_package` from the point where the active evidence stands: a review package is built in an owned
staging directory, renamed to its output path, and the evidence is written again before and after. -/
namespace Darling.Review

/-- Device and inode of a file or directory. -/
abbrev Identity := Nat

inductive RunState where
  | active
  | committed
  | failed
  | interrupted
  deriving DecidableEq, Repr

/-- The fields of the record that the claim of a receipt rests on: its state and `package.output_identity`. -/
structure Record where
  state : RunState
  package : Option Identity
  deriving DecidableEq, Repr

/-- A JSON file in the evidence directory. A temporary has no record before it is filled. -/
structure Evidence where
  identity : Identity
  record : Record
  deriving DecidableEq, Repr

inductive Failure where
  | os
  | devCheck
  | stepFailure (returncode : Int)
  | keyboardInterrupt
  deriving DecidableEq, Repr

/-- The steps of `_atomic_json`, with those of its `finally`. -/
inductive WriteStep where
  | parent
  | create
  | fill
  | flush
  | abandon
  | stat
  | current
  | parentAgain
  | replace
  | sync
  | verify
  | parentAfter
  | close
  | unlink
  deriving DecidableEq, Repr

/-- The steps of `_create_package_marker`. -/
inductive MarkerStep where
  | mkdir
  | openRoot
  | statRoot
  | create
  | stat
  | fill
  | flush
  | syncRoot
  | syncParent
  | look
  | unlink
  | close
  | rmdir
  deriving DecidableEq, Repr

/-- The steps of `_cleanup_package_staging`. -/
inductive CleanupStep where
  | parent
  | marker
  | staging
  | remove
  | unlink
  | rmdir
  | sync
  deriving DecidableEq, Repr

inductive Point where
  | runProcess
  | results (step : WriteStep)
  | outcome
  | snapshot
  | receipt
  | marker (step : MarkerStep)
  | mkdir
  | stat
  | openPackage
  | pin
  | payload (path : String)
  | syncTree
  | verifyTree
  | treeIdentity
  | outputFree
  | publish
  | statOutput
  | syncOutput
  | treeAgain
  | commit (step : WriteStep)
  | checkOutput
  | confirm (step : WriteStep)
  | sameOutput
  | stagingFree
  | restore
  | restoreSync
  | restoreSyncRoot
  | report (step : WriteStep)
  | closePackage
  | cleanup (step : CleanupStep)
  | closeRoot
  | closeParent
  | closeEvidence
  deriving DecidableEq, Repr

/-- The evidence directory, and whether the descriptor of a temporary is open. -/
structure Journal where
  evidence : Evidence
  temporary : Option Evidence := none
  opened : Bool := false
  fresh : Identity

/-- The output parent: the staging root with its marker and the package in it, and the output path. -/
structure Site where
  root : Option Identity := none
  marker : Option Identity := none
  staging : Option Identity := none
  files : List String := []
  output : Option Identity := none

/-- The local variables of `execute_package`, and of `_create_package_marker` while it runs. -/
structure Memory where
  record : Record
  evidenceIdentity : Identity
  rootFd : Option Identity := none
  newRoot : Option Identity := none
  markerIdentity : Option Identity := none
  markerCreated : Bool := false
  stagingIdentity : Option Identity := none
  stagingOwned : Bool := false
  packageFd : Option Identity := none
  tree : List String := []
  published : Option Identity := none
  receiptCommitted : Bool := false

structure World where
  journal : Journal
  site : Site
  memory : Memory

/-- What the run meets outside of both directories: the exit code of the planned step, whether the source snapshot
and the check receipt are still those of the plan, and the files of the package. -/
structure Host where
  returncode : Int
  snapshotSame : Bool
  receiptSame : Bool
  payloads : List String

abbrev ReviewM := Program Point Failure World

def onJournal (change : Journal → Journal) (w : World) : World := { w with journal := change w.journal }

def onSite (change : Site → Site) (w : World) : World := { w with site := change w.site }

/-- An assignment to local variables. -/
def remember (change : Memory → Memory) : ReviewM Unit := assign fun w => { w with memory := change w.memory }

/-- A step that reads, and raises unless what it read is as it should be. -/
def check (point : Point) (failure : Failure) (holds : World → Bool) : ReviewM Unit :=
  act point fun w => if holds w then .ok ((), w) else .error failure

/-- A step that reads. -/
def look (point : Point) (see : World → α) : ReviewM α := act point fun w => .ok (see w, w)

section Evidence

variable (label : WriteStep → Point)

/-- `_write_json_temp`. -/
def writeJsonTemp : ReviewM Unit := do
  write (label .create) (onJournal fun j =>
    { j with temporary := some ⟨j.fresh, ⟨.active, none⟩⟩, fresh := j.fresh + 1 })
  handle (do
    write (label .fill) fun w => { w with journal := { w.journal with
      temporary := w.journal.temporary.map fun file => { file with record := w.memory.record } } }
    sync (label .flush)) fun failure => do
    sync (label .abandon)
    raise failure
  assign (onJournal fun j => { j with opened := true })

/-- The `try` block of `_atomic_json`. -/
def replaceJson : ReviewM Identity := do
  assign (onJournal fun j => { j with opened := false })
  sync (label .parent)
  writeJsonTemp label
  let identity ← look (label .stat) fun w => (w.journal.temporary.map (·.identity)).getD 0
  check (label .current) .devCheck fun w => w.journal.evidence.identity = w.memory.evidenceIdentity
  sync (label .parentAgain)
  write (label .replace) (onJournal fun j =>
    { j with evidence := j.temporary.getD j.evidence, temporary := none })
  sync (label .sync)
  check (label .verify) .devCheck fun w => w.journal.evidence.identity = identity
  sync (label .parentAfter)
  return identity

/-- Its `finally` block. A temporary that is gone is passed over. -/
def dropTemporary : ReviewM Unit := do
  onlyIf (← disk).journal.opened (sync (label .close))
  write (label .unlink) (onJournal fun j => { j with temporary := none })

/-- `_atomic_json`. The path of the evidence keeps its parent, as nobody else writes. -/
def atomicJson : ReviewM Identity := cleaning (replaceJson label) (dropTemporary label)

/-- `evidence_identity = _atomic_json(…)`. -/
def updateEvidence : ReviewM Unit := do
  let identity ← atomicJson label
  remember fun m => { m with evidenceIdentity := identity }

end Evidence

section Staging

/-- The handler of `_create_package_marker`: what was made goes, as far as it can. -/
def undoMarker (failure : Failure) : ReviewM Unit := do
  let m := (← disk).memory
  onlyIf m.newRoot.isSome do
    onlyIf m.markerIdentity.isSome do
      let same ← look (.marker .look) fun w => w.site.marker == m.markerIdentity
      onlyIf same (write (.marker .unlink) (onSite fun s => { s with marker := none }))
    sync (.marker .close)
  handle (act (.marker .rmdir) fun w =>
    if w.site.marker.isSome then .error .os else .ok ((), onSite (fun s => { s with root := none }) w)) fun
    | .os => pure ()
    | other => raise other
  raise failure

/-- `_create_package_marker`. -/
def createPackageMarker : ReviewM Unit := do
  handle (do
    act (.marker .mkdir) fun w =>
      if w.site.root.isSome then .error .os
      else .ok ((), { w with site := { w.site with root := some w.journal.fresh }
                             journal := { w.journal with fresh := w.journal.fresh + 1 } })
    let root ← look (.marker .openRoot) (·.site.root)
    remember fun m => { m with newRoot := root }
    sync (.marker .statRoot)
    write (.marker .create) fun w =>
      { w with site := { w.site with marker := some w.journal.fresh }
               journal := { w.journal with fresh := w.journal.fresh + 1 } }
    let marker ← look (.marker .stat) (·.site.marker)
    remember fun m => { m with markerIdentity := marker }
    sync (.marker .fill)
    sync (.marker .flush)
    sync (.marker .syncRoot)
    sync (.marker .syncParent)) undoMarker
  remember fun m => { m with rootFd := m.newRoot, markerCreated := true }

/-- The package directory is made and pinned. -/
def createStaging : ReviewM Unit := do
  write .mkdir fun w =>
    { w with site := { w.site with staging := some w.journal.fresh, files := [] }
             journal := { w.journal with fresh := w.journal.fresh + 1 } }
  let identity ← look .stat (·.site.staging)
  remember fun m => { m with stagingIdentity := identity, stagingOwned := true }
  let opened ← look .openPackage (·.site.staging)
  remember fun m => { m with packageFd := opened }
  check .pin .devCheck fun w => w.memory.packageFd = w.memory.stagingIdentity

/-- `_write_package_contents`, `_fsync_package_tree` and `_verify_owned_package_integrity`. -/
def writePackage (host : Host) : ReviewM Unit := do
  host.payloads.forM fun path => write (.payload path) (onSite fun s => { s with files := s.files ++ [path] })
  sync .syncTree
  check .verifyTree .devCheck fun w => w.site.files = host.payloads
  let tree ← look .treeIdentity (·.site.files)
  remember fun m => { m with tree }

/-- `_rename_noreplace` from the staging root to the output parent. -/
def publish : ReviewM Unit :=
  act .publish fun w =>
    if w.site.output.isSome ∨ w.site.staging = none then .error .devCheck
    else .ok ((), onSite (fun s => { s with output := s.staging, staging := none }) w)

/-- And back. -/
def restore : ReviewM Unit :=
  act .restore fun w =>
    if w.site.staging.isSome ∨ w.site.output = none then .error .devCheck
    else .ok ((), onSite (fun s => { s with staging := s.output, output := none }) w)

end Staging

section Publication

variable (host : Host)

/-- The `try` block of `execute_package`. -/
def publishPackage : ReviewM Unit := do
  sync .runProcess
  updateEvidence .results
  check .outcome (.stepFailure host.returncode) fun _ => host.returncode = 0
  check .snapshot .devCheck fun _ => host.snapshotSame
  check .receipt .devCheck fun _ => host.receiptSame
  createPackageMarker
  createStaging
  writePackage host
  check .outputFree .devCheck fun w => w.site.output = none
  publish
  let identity ← look .statOutput (·.site.output)
  remember fun m => { m with published := identity }
  sync .syncOutput
  check .treeAgain .devCheck fun w => w.site.files = w.memory.tree
  remember fun m => { m with record := ⟨.committed, m.published⟩ }
  updateEvidence .commit
  remember fun m => { m with receiptCommitted := true }
  check .checkOutput .devCheck fun w => w.site.output = w.memory.published
  updateEvidence .confirm

/-- The package goes back into the staging root if it was published and its receipt is not committed. -/
def takeBack : ReviewM Unit := do
  let m := (← disk).memory
  onlyIf (!m.receiptCommitted && m.published.isSome && m.rootFd.isSome) do
    let same ← handle (look .sameOutput fun w => w.site.output == m.published) fun
      | .os => pure false
      | other => raise other
    onlyIf same do
      let free ← look .stagingFree fun w => w.site.staging.isNone
      onlyIf free (handle (do
        restore
        sync .restoreSync
        sync .restoreSyncRoot) fun _ => pure ())

def finishState : Failure → RunState
  | .keyboardInterrupt => .interrupted
  | _ => .failed

/-- The handler of `execute_package`. -/
def recordFailure (failure : Failure) : ReviewM Unit := do
  takeBack
  remember fun m => { m with record := { m.record with state := finishState failure } }
  let _ ← atomicJson .report

/-- `_cleanup_package_staging`. -/
def cleanupPackageStaging : ReviewM Unit := do
  sync (.cleanup .parent)
  check (.cleanup .marker) .devCheck fun w => w.site.marker.isSome && w.site.root == w.memory.rootFd
  let standing ← look (.cleanup .staging) (·.site.staging)
  onlyIf standing.isSome do
    let m := (← disk).memory
    demand (m.stagingOwned ∧ m.stagingIdentity.isSome ∧ standing = m.stagingIdentity) .devCheck
    write (.cleanup .remove) (onSite fun s => { s with staging := none, files := [] })
  write (.cleanup .unlink) (onSite fun s => { s with marker := none })
  write (.cleanup .rmdir) (onSite fun s => { s with root := none })
  sync (.cleanup .sync)

/-- The `finally` block of `execute_package`. -/
def closePackage : ReviewM Unit := do
  let m := (← disk).memory
  onlyIf m.packageFd.isSome (sync .closePackage)
  onlyIf (m.markerCreated && m.rootFd.isSome) (handle cleanupPackageStaging fun _ => pure ())
  onlyIf m.rootFd.isSome (sync .closeRoot)
  sync .closeParent
  sync .closeEvidence

/-- `execute_package` after the active evidence was written. -/
def executePackage : ReviewM Unit := cleaning (handle (publishPackage host) recordFailure) closePackage

end Publication

end Darling.Review
