import Mathlib.Logic.Function.Basic
import Darling.Library.Interruptions
import Darling.Start.Artifact

/-! The two directories a transaction works in, the process's own payload, and another writer who may
visit between any two steps. -/
namespace Darling.Start

/-- What an ownership marker says. -/
structure Mark where
  transaction : Nat
  texts : Nat
  deriving DecidableEq, Repr

/-- A marker file: its inode, and what can be read in it. -/
structure Marker where
  inode : Nat
  mark : Option Mark := none
  deriving DecidableEq, Repr

/-- A directory: its owner-only mode, a marker, a tree moved into it, and everything else. -/
structure Folder where
  restricted : Bool := true
  marker : Option Marker := none
  owned : Option Nat := none
  entries : List Nat := []
  deriving DecidableEq, Repr

/-- The evidence directory. A file that is being written holds nothing readable. -/
structure Journal where
  evidence : Option Nat := none
  temporary : Option Nat := none
  files : Nat → Option (Option Artifact) := fun _ => none
  binNames : Nat → Option Nat := fun _ => none

/-- The directory of the destination. -/
structure Area where
  staging : Option Nat := none
  destination : Option Nat := none
  quarantine : Option Nat := none
  folders : Nat → Option Folder := fun _ => none

/-- What the transaction took away: a file, a part of a tree with the tree recorded then, or an entry that
a rename replaced. -/
inductive Removal where
  | file (inode : Nat)
  | tree (inode : Nat) (recorded : Option Nat)
  | replaced (inode : Nat)
  deriving DecidableEq, Repr

/-- What another writer leaves. -/
structure Visit where
  journal : Journal
  area : Area
  bins : Nat → Option (Option Nat)
  fresh : Nat

structure World where
  journal : Journal := {}
  area : Area := {}
  /-- The private unlink directories and what was moved into them. -/
  bins : Nat → Option (Option Nat) := fun _ => none
  fresh : Nat := 1
  destinationParent : Nat
  evidenceParent : Nat
  payload : Artifact
  created : List Nat := []
  removals : List Removal := []
  /-- What another writer does before each of the next steps; `none` where there is none. -/
  visits : Option (List (Option Visit)) := none
  /-- At each step so far, nobody had put anything else under a name the step trusts. -/
  undisturbed : Bool := true

namespace World

/-- Another writer changes names and its own files, not what the transaction created. -/
def meet (w : World) (visit : Visit) : World :=
  let fresh := max w.fresh visit.fresh
  let known (entry : Option Nat) : Option Nat := entry.filter (· < fresh)
  let content {α : Type} (inode : Nat) (own other : Option α) : Option α :=
    if inode ∈ w.created then own else if inode < fresh then other else none
  { w with
    fresh
    bins := fun inode => content inode (w.bins inode) (visit.bins inode)
    journal :=
      { evidence := known visit.journal.evidence
        temporary := known visit.journal.temporary
        files := fun inode => content inode (w.journal.files inode) (visit.journal.files inode)
        binNames := fun bin => known (visit.journal.binNames bin) }
    area :=
      { staging := known visit.area.staging
        destination := known visit.area.destination
        quarantine := known visit.area.quarantine
        folders := fun inode => content inode (w.area.folders inode) (visit.area.folders inode) } }

/-- A new inode of the transaction. -/
@[simp] def allocate (w : World) : World := { w with fresh := w.fresh + 1, created := w.fresh :: w.created }

@[simp] def removed (w : World) (removal : Removal) : World := { w with removals := w.removals ++ [removal] }

/-- What a rename does to the entry at its target. -/
@[simp] def replacing (w : World) (target : Option Nat) : World :=
  match target with
  | none => w
  | some inode => w.removed (.replaced inode)

/-- `_same_regular_identity`. -/
def sameFile (w : World) (entry : Option Nat) (identity : Nat) : Bool :=
  entry = some identity && (w.journal.files identity).isSome

/-- `_same_identity`. -/
def sameFolder (w : World) (entry : Option Nat) (identity : Nat) : Bool :=
  entry = some identity && (w.area.folders identity).isSome

@[simp] def setFile (w : World) (inode : Nat) (text : Option Artifact) : World :=
  { w with journal := { w.journal with files := Function.update w.journal.files inode (some text) } }

@[simp] def setBin (w : World) (inode : Nat) (content : Option (Option Nat)) : World :=
  { w with bins := Function.update w.bins inode content }

@[simp] def setBinName (w : World) (name : Nat) (entry : Option Nat) : World :=
  { w with journal := { w.journal with binNames := Function.update w.journal.binNames name entry } }

@[simp] def setTemporary (w : World) (entry : Option Nat) : World :=
  { w with journal := { w.journal with temporary := entry } }

@[simp] def setEvidence (w : World) (entry : Option Nat) : World :=
  { w with journal := { w.journal with evidence := entry } }

@[simp] def setFolder (w : World) (inode : Nat) (folder : Folder) : World :=
  { w with area := { w.area with folders := Function.update w.area.folders inode (some folder) } }

end World

/-- The journal writes, by their place in the transaction. -/
inductive Write where
  | opening
  | working
  | commit
  | rollback
  | ending
  deriving DecidableEq, Repr

inductive JournalStep where
  | inspect
  | compare
  | create
  | stat
  | fill
  | flush
  | publish
  | recheck
  | exchange
  | verify
  | restore
  | unlink
  | sync
  | undo
  | makeBin
  | openBin
  | moveIn
  | checkIn
  | moveBack
  | drop
  | dropBin
  deriving DecidableEq, Repr

inductive Point where
  | journal (write : Write) (step : JournalStep)
  | load (step : JournalStep)
  | lock
  | parents
  | precheck
  | sources
  | makeStaging
  | statStaging
  | syncParent
  | createMarker (place : Place)
  | fillMarker (place : Place)
  | syncMarker (place : Place)
  | unlinkMarker
  | command (number : Nat)
  | closure
  | beforePublish
  | publish
  | afterPublish
  | committed
  | survey
  | statAdopted
  | makeQuarantine
  | chmodQuarantine
  | statQuarantine
  | checkQuarantine
  | move
  | syncMove
  | checkMove
  | openQuarantine
  | removeEntry
  | removeTree
  | syncTree
  | readMarker
  | dropMarker
  | syncDrop
  | checkEmpty
  | dropQuarantine
  | syncQuarantine
  deriving DecidableEq, Repr

namespace World

/-- The entry is nothing, or something the transaction created. -/
def Own (w : World) (entry : Option Nat) : Prop := ∀ inode ∈ entry, inode ∈ w.created

/-- A journal file at the entry that names itself is one the transaction created. -/
def Genuine (w : World) (entry : Option Nat) : Prop :=
  ∀ inode ∈ entry, ∀ a ∈ (w.journal.files inode).join, a.evidenceIdentity = some inode → inode ∈ w.created

instance (w : World) (entry : Option Nat) : Decidable (w.Own entry) :=
  inferInstanceAs (Decidable (∀ inode ∈ entry, inode ∈ w.created))

instance (w : World) (entry : Option Nat) : Decidable (w.Genuine entry) :=
  inferInstanceAs (Decidable (∀ inode ∈ entry, ∀ a ∈ (w.journal.files inode).join,
    a.evidenceIdentity = some inode → inode ∈ w.created))

/-- The steps that take what stands under a name for the transaction's own. -/
def trusted (w : World) : Point → Bool
  | .journal _ .stat | .journal _ .unlink => w.Own w.journal.temporary
  | .journal _ .openBin | .load .openBin => ∀ name ∈ w.created, w.Own (w.journal.binNames name)
  | .load .inspect => w.Genuine w.journal.evidence
  | .load .stat => w.Genuine w.journal.temporary
  | .unlinkMarker => w.Own w.area.staging
  | .statQuarantine | .statAdopted => w.Own w.area.quarantine
  | _ => true

def visited (point : Point) (w : World) : World :=
  match w.visits with
  | none => w
  | some visits =>
    let met := visits.head?.join.elim w w.meet
    { met with visits := some visits.tail, undisturbed := w.undisturbed && met.trusted point }

theorem visited_alone {w : World} {point : Point} (alone : w.visits = none) : w.visited point = w := by
  unfold visited
  rw [alone]

end World

abbrev StartM := Program Point Failure World

/-- One step, after whatever another writer did before it. -/
def step {α : Type} (point : Point) (change : World → Except Failure (α × World)) : StartM α := do
  assign (World.visited point)
  act point change

/-- Where nobody else writes a step is the process's own. -/
theorem step_alone {α : Type} {point : Point} {change : World → Except Failure (α × World)}
    {p : Process Point Failure World} (alone : p.disk.visits = none) : step point change p = act point change p := by
  have same : assign (World.visited point) p = (.ok () p : EStateM.Result (Stop Failure) _ Unit) := by
    unfold assign
    rw [World.visited_alone alone]
  exact bind_run_ok same

theorem step_triple {α : Type} {point : Point} {change : World → Except Failure (α × World)}
    {pre : Assertion (Process Point Failure World)} {post : α → Assertion (Process Point Failure World)}
    {fails : Stop Failure → Assertion (Process Point Failure World)} (alone : ∀ p, pre p → p.disk.visits = none)
    (contract : Triple pre (act point change) post fails) : Triple pre (step point change) post fails := by
  intro p holds
  rw [step_alone (alone p holds)]
  exact contract p holds

/-- A step that only looks. -/
def look {α : Type} (point : Point) (see : World → Except Failure α) : StartM α :=
  step point fun w => do
    let value ← see w
    return (value, w)

def change (point : Point) (apply : World → World) : StartM Unit := step point fun w => return ((), apply w)

/-- A step that leaves everything, such as `fsync`. -/
def settle (point : Point) : StartM Unit := change point id

/-- The process changes its payload. -/
def revise (edit : Artifact → Artifact) : StartM Unit := assign fun w => { w with payload := edit w.payload }

def payload : StartM Artifact := do
  let w ← disk
  return w.payload

end Darling.Start
