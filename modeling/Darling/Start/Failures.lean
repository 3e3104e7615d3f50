import Darling.Start.CrashRecovery

/-! One step of the forward path raises, and the handler rolls back what stands. -/
namespace Darling.Start

variable {accepts : Inputs → Bool} {past : List Point} {w : World} {left : List Point → World → Prop}
  {label : JournalStep → Point} {inode : Nat} {old : Artifact}

section Undoing

/-- The handler of a journal write took the temporary back, and the payload's number with it. -/
def World.undone (w : World) (before : Artifact) (inode : Nat) : World :=
  World.unlinked { w with payload := before } inode

variable {d : World}

end Undoing

section Sticking

/-- A temporary stands beside active evidence: no journal write gets past its checks. -/
structure Stuck (d : World) : Prop where
  alone : d.visits = none
  temporary : d.journal.temporary ≠ none
  active : ∃ inode a, d.journal.evidence = some inode ∧ d.journal.files inode = some (some a) ∧ a.state = .active

variable {α : Type} {point : Point}

end Sticking

section Overcommitting

variable {d : World} {tree : Nat}

/-- The payload says committed while the handler is about to take the destination back. -/
structure Overcommitted (accepts : Inputs → Bool) (d : World) (tree : Nat) : Prop where
  alone : d.visits = none
  parent : d.payload.inputs.destinationParent = d.destinationParent
  accepted : accepts d.payload.inputs = true
  state : d.payload.state = .committed
  paths : d.payload.createdPaths = [.destination]
  identity : d.payload.destinationIdentity = some tree
  unrecorded : d.payload.quarantineIdentity = none
  placed : Placed d.area d.fresh d.payload.mark tree .destination none

variable (excess : Overcommitted accepts d tree)

include excess

end Overcommitting

/-- The steps of the forward path after whose error the handler does not leave the transaction settled: the
temporary of a journal write is left behind, or the payload in memory says committed already. -/
def Point.spoils : Point → Bool
  | .journal .working .stat | .journal .working .verify | .journal .working .unlink => true
  | .journal .commit .verify | .journal .commit .unlink => false
  | .journal .commit _ => true
  | _ => false

section Handling

variable {setting : Setting} {d : World} {tree : Nat}

theorem Settled.closed {a : Artifact} (settled : Settled a d) : a.state = .committed ∨ a.state = .rolledBack := by
  rcases settled with ⟨state, -⟩ | ⟨state, -⟩
  · exact .inl state
  · exact .inr state

/-- What the handler finds in memory and on the disk, by the step that raised. -/
inductive Raised (accepts : Inputs → Bool) (point : Point) (d : World) : Prop where
  | rollable (spares : point.spoils = false) (old : Artifact) (inode : Nat)
      (rollable : Rollable Regime.quiet accepts d old inode)
  | stuck (spoils : point.spoils = true) (stuck : Stuck d)
  | unfinished (spoils : point.spoils = true) (tree : Nat) (excess : Overcommitted accepts d tree) (old : Artifact)
      (inode : Nat) (ready : Ready accepts d old inode) (state : old.state = .active ∨ old.state = .committed)
  | finished (spares : point.spoils = false) (tree : Nat) (excess : Overcommitted accepts d tree)
      (occupied : d.journal.temporary ≠ none) (inode : Nat) (a : Artifact) (evidence : d.journal.evidence = some inode)
      (content : d.journal.files inode = some (some a)) (state : a.state = .committed)
      (identity : a.destinationIdentity = some tree)

/-- The handler's last write, after a rollback that failed. -/
def recordFailure (setting : Setting) (failure : Failure) : StartM Artifact := do
  revise (failedPayload .startTransaction failure.returncode .inspectOwnership)
  durableWrite setting.accepts (.journal .ending)
  if failure.handled then payload else raise failure

/-- Where the process cannot die, what the payload says is enough for a rollback. -/
theorem Working.rollable {whole : Prop} (working : Working accepts d old inode whole) :
    Rollable Regime.quiet accepts d old inode := by
  have ready := working.ready
  have valid := working.valid
  cases working.owned with
  | nothing _ unclaimed vacant => exact .nothing ready valid unclaimed.2 vacant False.elim (.inr working.stateOld)
  | reserved _ reserved vacant => exact .nothing ready valid reserved.2 vacant False.elim (.inr working.stateOld)
  | made state reserved tree folder staging content unworked destination quarantine bounded =>
    exact .made ready valid working.stateOld False.elim state reserved tree folder staging content unworked destination
      quarantine bounded
  | claimed tree spot vault claims placed =>
    have stage : Stage Regime.quiet accepts d old inode tree spot vault :=
      ⟨ready, valid, working.stateOld, False.elim, claims, placed⟩
    rcases claims.quarantine with ⟨unrecorded, -, isPublic⟩ | ⟨listed, q, identity, ⟨v, rfl, rfl⟩ | ⟨rfl, rfl⟩⟩
    · cases vault with
      | none =>
        refine .claimed tree spot stage ?_
        rcases isPublic with rfl | rfl
        · nofun
        · nofun
      | some v => exact .vaulted tree spot v stage unrecorded
    · exact .recorded tree spot v stage False.elim ⟨identity, listed⟩
    · exact .gone tree stage
  | committed state => cases working.state.symm.trans state

/-- The journal is as before the write that was taken back. -/
theorem Ready.undone {d' : World} (ready : Ready accepts d old inode) (visits : d'.visits = d.visits)
    (evidence : d'.journal.evidence = d.journal.evidence) (temporary : d'.journal.temporary = none)
    (files : ∀ other, other ≠ d.fresh → d'.journal.files other = d.journal.files other)
    (more : d.fresh ≤ d'.fresh) (payload : d'.payload = d.payload)
    (parents : d'.destinationParent = d.destinationParent ∧ d'.evidenceParent = d.evidenceParent) :
    Ready accepts d' old inode where
  alone := visits.trans ready.alone
  parents := by
    unfold Parents
    rw [payload, parents.1, parents.2]
    exact ready.parents
  evidence := evidence.trans ready.evidence
  temporary := temporary
  stands := ⟨by rw [files inode (Nat.ne_of_lt ready.bounded), ready.stands.content], ready.stands.valid,
    ready.stands.identity⟩
  bounded := Nat.lt_of_lt_of_le ready.bounded more
  identity := by rw [payload, ready.identity]
  transaction := by rw [payload, ready.transaction]
  generation := by rw [payload, ready.generation]
  inputs := by rw [payload, ready.inputs]

theorem Working.undone {d' : World} (working : Working accepts d old inode True) (ready : Ready accepts d' old inode)
    (area : d'.area = d.area) (more : d.fresh ≤ d'.fresh) (payload : d'.payload = d.payload) :
    Working accepts d' old inode True := by
  refine ⟨ready, ?_, working.stateOld, ?_, fun holds => ?_, ?_⟩
  · rw [payload]
    exact working.valid
  · rw [payload]
    exact working.state
  · rw [area]
    exact (working.ownedOld holds).mono more
  · rw [area, payload]
    exact working.owned.mono more

end Handling

section Raising

variable {setting : Setting} {d : World} {tree : Nat}

end Raising

end Darling.Start
