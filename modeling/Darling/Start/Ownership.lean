import Darling.Start.Transaction
import Darling.Start.JournalAtomicity

/-! What the journal says about the destination's directory, for every state a transaction can be
stopped in, and what a reader of the journal makes of it. -/
namespace Darling.Start

variable {accepts : Inputs → Bool}

/-- The directory a rollback moves the tree into. -/
structure Vault where
  inode : Nat
  marker : Nat

def Vault.folder (vault : Vault) (mark : Mark) (owned : Option Nat) : Folder :=
  { marker := some ⟨vault.marker, some mark⟩, owned }

/-- Where the transaction's tree is. -/
inductive Spot where
  | staging
  | destination
  | inside
  | gone
  deriving DecidableEq

/-- Nothing of the transaction stands. -/
structure Area.Vacant (area : Area) : Prop where
  staging : area.staging = none
  destination : area.destination = none
  quarantine : area.quarantine = none

/-- The tree is at the spot, and the quarantine holds its marker and nothing else. -/
structure Placed (area : Area) (bound : Nat) (mark : Mark) (tree : Nat) (spot : Spot) (vault : Option Vault) :
    Prop where
  staging : area.staging = if spot = .staging then some tree else none
  destination : area.destination = if spot = .destination then some tree else none
  quarantine : area.quarantine = vault.map Vault.inode
  there : spot ≠ .gone → (area.folders tree).isSome
  content : ∀ v ∈ vault, area.folders v.inode = some (v.folder mark (if spot = .inside then some tree else none)) ∧
    v.inode ≠ tree ∧ v.inode < bound
  inside : spot = .inside → vault.isSome
  bounded : tree < bound

/-- The artifact claims the tree, and the quarantine once it is recorded. -/
structure Claims (a : Artifact) (tree : Nat) (spot : Spot) (vault : Option Vault) : Prop where
  state : a.state = .active
  tree : a.destinationIdentity = some tree
  some : a.createdPaths ≠ []
  quarantine : (a.quarantineIdentity = none ∧ .quarantine ∉ a.createdPaths ∧ (spot = .staging ∨ spot = .destination)) ∨
    (.quarantine ∈ a.createdPaths ∧ ∃ q, a.quarantineIdentity = Option.some q ∧
      ((∃ v, vault = Option.some v ∧ v.inode = q) ∨ (vault = none ∧ spot = .gone)))

/-- An empty directory, or one with nothing but the transaction's marker. -/
def Unworked (mark : Mark) (folder : Folder) : Prop :=
  folder = {} ∨ ∃ marker, folder = { marker := some ⟨marker, some mark⟩ }

/-- The artifact describes what stands in the destination's directory. -/
inductive Owned (a : Artifact) (area : Area) (bound : Nat) : Prop where
  | nothing (state : a.state = .planned ∨ a.state = .active ∨ a.state = .rolledBack) (unclaimed : a.Unclaimed)
      (vacant : area.Vacant)
  | reserved (state : a.state = .active) (reserved : a.Reserved) (vacant : area.Vacant)
  | made (state : a.state = .active) (reserved : a.Reserved) (tree : Nat) (folder : Folder)
      (staging : area.staging = some tree) (content : area.folders tree = some folder)
      (unworked : Unworked a.mark folder) (destination : area.destination = none)
      (quarantine : area.quarantine = none) (bounded : tree < bound)
  | claimed (tree : Nat) (spot : Spot) (vault : Option Vault) (claims : Claims a tree spot vault)
      (placed : Placed area bound a.mark tree spot vault)
  | committed (state : a.state = .committed) (tree : Nat) (identity : a.destinationIdentity = some tree)
      (destination : area.destination = some tree) (content : (area.folders tree).isSome)

theorem Placed.mono {area : Area} {bound bound' : Nat} {mark : Mark} {tree : Nat} {spot : Spot}
    {vault : Option Vault} (more : bound ≤ bound') (placed : Placed area bound mark tree spot vault) :
    Placed area bound' mark tree spot vault where
  staging := placed.staging
  destination := placed.destination
  quarantine := placed.quarantine
  there := placed.there
  content v member := by
    obtain ⟨content, apart, small⟩ := placed.content v member
    exact ⟨content, apart, Nat.lt_of_lt_of_le small more⟩
  inside := placed.inside
  bounded := Nat.lt_of_lt_of_le placed.bounded more

theorem Owned.mono {a : Artifact} {area : Area} {bound bound' : Nat} (more : bound ≤ bound')
    (owned : Owned a area bound) : Owned a area bound' := by
  cases owned with
  | nothing state unclaimed vacant => exact .nothing state unclaimed vacant
  | reserved state reserved vacant => exact .reserved state reserved vacant
  | made state reserved tree folder staging content unworked destination quarantine bounded =>
    exact .made state reserved tree folder staging content unworked destination quarantine
      (Nat.lt_of_lt_of_le bounded more)
  | claimed tree spot vault claims placed => exact .claimed tree spot vault claims (placed.mono more)
  | committed state tree identity destination content => exact .committed state tree identity destination content

/-- The inode and the number of a journal file do not matter. -/
theorem Owned.stamped {a : Artifact} {area : Area} {bound inode : Nat} (owned : Owned a area bound) :
    Owned (a.stamped inode) area bound := by
  cases owned with
  | nothing state unclaimed vacant => exact .nothing state unclaimed vacant
  | reserved state reserved vacant => exact .reserved state reserved vacant
  | made state reserved tree folder staging content unworked destination quarantine bounded =>
    exact .made state reserved tree folder staging content unworked destination quarantine bounded
  | claimed tree spot vault claims placed =>
    exact .claimed tree spot vault ⟨claims.state, claims.tree, claims.some, claims.quarantine⟩ placed
  | committed state tree identity destination content => exact .committed state tree identity destination content

/-- A reader of the journal gets the artifact. -/
inductive Loadable (accepts : Inputs → Bool) (w : World) (a : Artifact) : Prop where
  | single (inode : Nat) (evidence : w.journal.evidence = some inode) (temporary : w.journal.temporary = none)
      (stands : Stands accepts w inode a) (bounded : inode < w.fresh)
  | unpublished (inode : Nat) (evidence : w.journal.evidence = none)
      (temporary : w.journal.temporary = some inode) (stands : Stands accepts w inode a) (bounded : inode < w.fresh)
  | waiting (first second : Nat) (old : Artifact) (evidence : w.journal.evidence = some first)
      (temporary : w.journal.temporary = some second) (oldStands : Stands accepts w first old)
      (stands : Stands accepts w second a) (succeeds : Succeeds old a)
      (valid : validTransition old.state a.state = true) (bounded : second < w.fresh)
  | displaced (first second : Nat) (old : Artifact) (evidence : w.journal.evidence = some second)
      (temporary : w.journal.temporary = some first) (oldStands : Stands accepts w first old)
      (stands : Stands accepts w second a) (succeeds : Succeeds old a)
      (valid : validTransition old.state a.state = true) (bounded : second < w.fresh)

/-- The two directories are those of the plan. -/
def Parents (w : World) (a : Artifact) : Prop :=
  a.inputs.destinationParent = w.destinationParent ∧ a.inputs.evidenceParent = w.evidenceParent

/-- A transaction that a recovery can finish. -/
structure Recoverable (accepts : Inputs → Bool) (w : World) : Prop where
  alone : w.visits = none
  journal : ∃ a, Loadable accepts w a ∧ Owned a w.area w.fresh ∧ Parents w a

/-- The steps in front of which a crash leaves what no recovery recognises: a journal file, or a marker,
that stands without its content, and a quarantine that has no marker yet or no marker any more. -/
def Point.window : Point → Bool
  | .journal _ .stat | .journal _ .fill => true
  | .fillMarker .staging | .fillMarker .quarantine | .createMarker .quarantine => true
  | .chmodQuarantine | .statQuarantine => true
  | .syncDrop | .checkEmpty | .dropQuarantine => true
  | _ => false

/-- Where the process can die, a crash outside the windows leaves a transaction that can be recovered. -/
def Outside (regime : Regime Failure) (accepts : Inputs → Bool) (struck : List Point) (w : World) : Prop :=
  regime.dies → (∀ point ∈ struck, point.window = false) → Recoverable accepts w

/-- The journal is at rest at the artifact, and the process's payload continues it. -/
structure Ready (accepts : Inputs → Bool) (w : World) (old : Artifact) (inode : Nat) : Prop where
  alone : w.visits = none
  parents : Parents w w.payload
  evidence : w.journal.evidence = some inode
  temporary : w.journal.temporary = none
  stands : Stands accepts w inode old
  bounded : inode < w.fresh
  identity : w.payload.evidenceIdentity = some inode
  transaction : old.transaction = w.payload.transaction
  generation : w.payload.evidenceGeneration = old.evidenceGeneration
  inputs : old.inputs = w.payload.inputs

/-- The world after a journal write of the payload. -/
structure Written (accepts : Inputs → Bool) (w w' : World) (inode : Nat) : Prop where
  ready : Ready accepts w' w'.payload inode
  payload : w'.payload = w.payload.stamped inode
  area : w'.area = w.area
  more : w.fresh ≤ w'.fresh

section Writing

variable {w : World} {old : Artifact} {inode : Nat}

theorem Ready.loadable (ready : Ready accepts w old inode) : Loadable accepts w old :=
  .single inode ready.evidence ready.temporary ready.stands ready.bounded

theorem Ready.oldParents (ready : Ready accepts w old inode) : Parents w old := by
  unfold Parents
  rw [ready.inputs]
  exact ready.parents

theorem Ready.recoverable (ready : Ready accepts w old inode) (owned : Owned old w.area w.fresh) :
    Recoverable accepts w :=
  ⟨ready.alone, old, ready.loadable, owned, ready.oldParents⟩

theorem Ready.mark (ready : Ready accepts w old inode) : old.mark = w.payload.mark := by
  unfold Artifact.mark
  rw [ready.transaction, ready.inputs]

/-- The payload changed in memory. -/
theorem Ready.revise (ready : Ready accepts w old inode) {a : Artifact}
    (identity : a.evidenceIdentity = w.payload.evidenceIdentity) (transaction : a.transaction = w.payload.transaction)
    (generation : a.evidenceGeneration = w.payload.evidenceGeneration) (inputs : a.inputs = w.payload.inputs) :
    Ready accepts { w with payload := a } old inode where
  alone := ready.alone
  parents := by
    unfold Parents
    rw [inputs]
    exact ready.parents
  evidence := ready.evidence
  temporary := ready.temporary
  stands := ⟨ready.stands.content, ready.stands.valid, ready.stands.identity⟩
  bounded := ready.bounded
  identity := identity.trans ready.identity
  transaction := ready.transaction.trans transaction.symm
  generation := generation.trans ready.generation
  inputs := ready.inputs.trans inputs.symm

/-- Only the destination's directory and the numbering of inodes changed. -/
theorem Ready.work (ready : Ready accepts w old inode) {w' : World} (journal : w'.journal = w.journal)
    (payload : w'.payload = w.payload) (visits : w'.visits = w.visits) (more : w.fresh ≤ w'.fresh)
    (parents : w'.destinationParent = w.destinationParent ∧ w'.evidenceParent = w.evidenceParent) :
    Ready accepts w' old inode where
  alone := visits.trans ready.alone
  parents := by
    unfold Parents
    rw [payload, parents.1, parents.2]
    exact ready.parents
  evidence := by rw [journal, ready.evidence]
  temporary := by rw [journal, ready.temporary]
  stands := ⟨by rw [journal, ready.stands.content], ready.stands.valid, ready.stands.identity⟩
  bounded := Nat.lt_of_lt_of_le ready.bounded more
  identity := by rw [payload, ready.identity]
  transaction := by rw [payload, ready.transaction]
  generation := by rw [payload, ready.generation]
  inputs := by rw [payload, ready.inputs]

theorem Ready.accepted (ready : Ready accepts w old inode) (valid : w.payload.Valid accepts)
    (transition : validTransition old.state w.payload.state = true) : Accepted accepts w inode old where
  alone := ready.alone
  evidence := ready.evidence
  content := ready.stands.content
  bounded := ready.bounded
  temporary := ready.temporary
  oldValid := ready.stands.valid
  oldIdentity := ready.stands.identity
  valid := valid
  follows := ⟨ready.identity, ready.transaction, ready.generation, ready.inputs, .inr transition⟩

/-- A journal write that stops outside the windows leaves the old or the new artifact to be loaded. -/
theorem UpdateLeft.recoverable (ready : Ready accepts w old inode) (valid : w.payload.Valid accepts)
    (transition : validTransition old.state w.payload.state = true) (ownedOld : Owned old w.area w.fresh)
    (ownedNew : Owned w.payload w.area w.fresh) {step : JournalStep} {d : World} (left : UpdateLeft w inode step d)
    (outside : step ≠ .stat ∧ step ≠ .fill) : Recoverable accepts d := by
  have accepted := ready.accepted valid transition
  have oldStands := accepted.oldStands
  have newStands := accepted.newStands
  have owned : Owned (w.payload.stamped w.fresh) w.area (w.fresh + 1) := (ownedNew.mono (Nat.le_succ _)).stamped
  cases left with
  | inspect => exact ready.recoverable ownedOld
  | create => exact ready.recoverable ownedOld
  | stat => exact absurd rfl outside.1
  | fill => exact absurd rfl outside.2
  | flush => exact ⟨ready.alone, _, .waiting inode w.fresh old ready.evidence rfl oldStands newStands
      accepted.succeeds transition (Nat.lt_succ_self _), owned, ready.parents⟩
  | recheck => exact ⟨ready.alone, _, .waiting inode w.fresh old ready.evidence rfl oldStands newStands
      accepted.succeeds transition (Nat.lt_succ_self _), owned, ready.parents⟩
  | exchange => exact ⟨ready.alone, _, .waiting inode w.fresh old ready.evidence rfl oldStands newStands
      accepted.succeeds transition (Nat.lt_succ_self _), owned, ready.parents⟩
  | verify => exact ⟨ready.alone, _, .displaced inode w.fresh old rfl rfl
      ⟨oldStands.content, oldStands.valid, oldStands.identity⟩
      ⟨newStands.content, newStands.valid, newStands.identity⟩
      accepted.succeeds transition (Nat.lt_succ_self _), owned, ready.parents⟩
  | unlink => exact ⟨ready.alone, _, .displaced inode w.fresh old rfl rfl
      ⟨oldStands.content, oldStands.valid, oldStands.identity⟩
      ⟨newStands.content, newStands.valid, newStands.identity⟩
      accepted.succeeds transition (Nat.lt_succ_self _), owned, ready.parents⟩
  | sync => exact ⟨ready.alone, _, .single w.fresh rfl rfl
      ⟨newStands.content, newStands.valid, newStands.identity⟩ (Nat.lt_succ_self _), owned, ready.parents⟩

theorem Ready.updated (ready : Ready accepts w old inode) (valid : w.payload.Valid accepts)
    (transition : validTransition old.state w.payload.state = true) :
    Written accepts w (w.updated inode) w.fresh := by
  have newStands := (ready.accepted valid transition).newStands
  exact ⟨⟨ready.alone, ready.parents, rfl, rfl, ⟨newStands.content, newStands.valid, rfl⟩, Nat.lt_succ_self _, rfl, rfl,
    rfl, rfl⟩, rfl, rfl, Nat.le_succ _⟩

variable {regime : Regime Failure} {past : List Point}

theorem durableWrite_written (silent : ∀ faults, ¬regime.after faults) (write : Write)
    (ready : Ready accepts w old inode) (valid : w.payload.Valid accepts)
    (transition : validTransition old.state w.payload.state = true)
    (ownedOld : regime.dies → Owned old w.area w.fresh)
    (ownedNew : regime.dies → Owned w.payload w.area w.fresh) :
    Triple (regime.exactly past w) (durableWrite accepts (.journal write))
      (fun _ p => ∃ w' inode', Written accepts w w' inode' ∧ regime.exactly past w' p)
      (regime.stops (Outside regime accepts)) := by
  have accepted := ready.accepted valid transition
  refine (durableWrite_runs accepted silent fun step d stopped dies outside => ?_).conclude
    (fun _ p under => ⟨w.updated inode, w.fresh, ready.updated valid transition, under⟩) fun _ _ => id
  · refine stopped.recoverable ready valid transition (ownedOld dies) (ownedNew dies) ?_
    have calm := outside (.journal write step) (List.mem_append_right _ (List.mem_singleton_self _))
    refine ⟨?_, ?_⟩
    · rintro rfl
      cases calm
    · rintro rfl
      cases calm

end Writing

end Darling.Start
