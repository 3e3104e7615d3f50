import Darling.Start.JournalUpdate

/-! What a reader of the journal finds after an update was cut short. -/
namespace Darling.Start

variable {regime : Regime Failure} {past : List Point} {w : World} {left : List Point → World → Prop}
  {accepts : Inputs → Bool} {label : JournalStep → Point} {inode : Nat}

namespace World

/-- The private directory stands. -/
def binned (w : World) : World :=
  (w.allocate.setBin w.fresh (some none)).setBinName w.fresh (some w.fresh)

/-- The temporary was moved into it. -/
def caught (w : World) (inode : Nat) : World :=
  (w.binned.setTemporary none).setBin w.fresh (some (some inode))

def dropped (w : World) (inode : Nat) : World :=
  ((w.caught inode).setBin w.fresh (some none)).removed (.file inode)

def unlinked (w : World) (inode : Nat) : World :=
  ((w.dropped inode).setBin w.fresh none).setBinName w.fresh none

end World

/-- What the removal of the temporary leaves when it stops at the step. -/
inductive UnlinkLeft (w : World) (inode : Nat) : JournalStep → World → Prop where
  | compare : UnlinkLeft w inode .compare w
  | makeBin : UnlinkLeft w inode .makeBin w
  | openBin : UnlinkLeft w inode .openBin w.binned
  | moveIn : UnlinkLeft w inode .moveIn w.binned
  | checkIn : UnlinkLeft w inode .checkIn (w.caught inode)
  | drop : UnlinkLeft w inode .drop (w.caught inode)
  | sync : UnlinkLeft w inode .sync (w.dropped inode)
  | stands : UnlinkLeft w inode .checkIn (w.dropped inode)
  | dropBin : UnlinkLeft w inode .dropBin (w.dropped inode)
  | last : UnlinkLeft w inode .sync (w.unlinked inode)

section Unlinking

variable (alone : w.visits = none) (there : w.journal.temporary = some inode)
  (regular : (w.journal.files inode).isSome)
  (safe : ∀ step d, UnlinkLeft w inode step d → left (past ++ [label step]) d)

include alone there regular safe

theorem unlinkInBin_runs :
    Triple (regime.exactly past w.binned) (unlinkInBin label w.fresh w.fresh inode)
      (fun gone p => gone = true ∧ regime.exactly past (w.unlinked inode) p) (regime.stops left) := by
  refine exactly_step () (w.caught inode) alone ?_ (safe _ _ .moveIn) ?_
  · simp [World.caught, World.binned, there, require, bind, Except.bind, pure, Except.pure]
  refine exactly_look true alone ?_ (safe _ _ .checkIn) ?_
  · simp [World.caught, World.binned, regular, pure, Except.pure]
  refine exactly_step () (w.dropped inode) alone ?_ (safe _ _ .drop) ?_
  · simp [World.dropped, World.caught, World.binned, pure, Except.pure]
  refine exactly_settle alone (safe _ _ .sync) ?_
  refine exactly_look true alone ?_ (safe _ _ .stands) (Regime.exactly_demand rfl ?_)
  · simp [World.dropped, World.caught, World.binned, pure, Except.pure]
  refine exactly_step () (w.unlinked inode) alone ?_ (safe _ _ .dropBin) ?_
  · simp [World.unlinked, World.dropped, World.caught, World.binned, require, bind, Except.bind, pure, Except.pure]
  refine exactly_settle alone (safe _ _ .last) ?_
  exact Triple.pure fun _ under => ⟨rfl, under⟩

theorem unlinkIfIdentity_runs (silent : ∀ faults, ¬regime.after faults) :
    Triple (regime.exactly past w) (unlinkIfIdentity label inode)
      (fun gone p => gone = true ∧ regime.exactly past (w.unlinked inode) p) (regime.stops left) := by
  refine exactly_look true alone ?_ (safe _ _ .compare) ?_
  · simp [World.sameFile, there, regular, pure, Except.pure]
  refine exactly_step w.fresh w.binned alone rfl (safe _ _ .makeBin) ?_
  refine exactly_look w.fresh alone ?_ (safe _ _ .openBin) ?_
  · simp [World.binned, require, bind, Except.bind, pure, Except.pure]
  refine Triple.bind (Regime.unhandled silent (unlinkInBin_runs alone there regular safe)) fun gone => ?_
  refine Triple.assume fun same => ?_
  subst same
  exact Triple.pure fun _ under => ⟨rfl, under⟩

end Unlinking

/-- The file of the journal is complete and names its own inode. -/
structure Stands (accepts : Inputs → Bool) (w : World) (inode : Nat) (a : Artifact) : Prop where
  content : w.journal.files inode = some (some a)
  valid : a.Valid accepts
  identity : a.evidenceIdentity = some inode

theorem Stands.reads {a : Artifact} (stands : Stands accepts w inode a) : readJournal accepts w inode = .ok a := by
  unfold readJournal
  simp [stands.content, require, stands.valid, stands.identity, bind, Except.bind, pure, Except.pure]

theorem Stands.regular {a : Artifact} (stands : Stands accepts w inode a) : (w.journal.files inode).isSome := by
  rw [stands.content]
  rfl

theorem readEntry_some {a : Artifact} (stands : Stands accepts w inode a) :
    readEntry accepts w (some inode) = .ok (some (a, inode)) := by
  change (readJournal accepts w inode >>= fun a => pure (some (a, inode))) = _
  rw [stands.reads]
  rfl

/-- Two files of one transaction, the second written to follow the first. -/
structure Succeeds (old new : Artifact) : Prop where
  transaction : new.transaction = old.transaction
  inputs : new.inputs = old.inputs
  generation : new.evidenceGeneration = old.evidenceGeneration + 1

/-- The exchange of the pair. -/
def World.swapped (w : World) (first second : Nat) : World :=
  (w.setEvidence (some second)).setTemporary (some first)

section Loading

variable {old new : Artifact} {first second : Nat} (alone : w.visits = none)

include alone

theorem readPair (main temporary : Option (Artifact × Nat))
    {post : Artifact → Assertion (Process Point Failure World)}
    (mainRead : readEntry accepts w w.journal.evidence = .ok main)
    (temporaryRead : readEntry accepts w w.journal.temporary = .ok temporary)
    (safe : ∀ step, left (past ++ [Point.load step]) w)
    (rest : Triple (regime.exactly past w) (match main, temporary with
      | none, none => raise (.start .noEvidence)
      | some main, none => return main.1
      | none, some new => do
        publishFirst .load new.2
        return new.1
      | some main, some new => choosePair main new) post (regime.stops left)) :
    Triple (regime.exactly past w) (loadRecoverable accepts) post (regime.stops left) :=
  exactly_look main alone mainRead (safe _) (exactly_look temporary alone temporaryRead (safe _) rest)

theorem loadRecoverable_single (evidence : w.journal.evidence = some first)
    (temporary : w.journal.temporary = none) (stands : Stands accepts w first old)
    (safe : ∀ step, left (past ++ [Point.load step]) w) :
    Triple (regime.exactly past w) (loadRecoverable accepts)
      (fun a p => a = old ∧ regime.exactly past w p) (regime.stops left) := by
  apply readPair alone (some (old, first)) none
  · rw [evidence, readEntry_some stands]
  · rw [temporary]
    rfl
  · exact safe
  · exact Triple.pure fun _ under => ⟨rfl, under⟩

/-- A first evidence file that was written and not yet renamed. -/
theorem loadRecoverable_unpublished (evidence : w.journal.evidence = none)
    (temporary : w.journal.temporary = some first) (stands : Stands accepts w first new)
    (safe : ∀ step, left (past ++ [Point.load step]) w)
    (renamed : ∀ step, left (past ++ [Point.load step]) ((w.setTemporary none).setEvidence (some first))) :
    Triple (regime.exactly past w) (loadRecoverable accepts)
      (fun a p => a = new ∧ regime.exactly past ((w.setTemporary none).setEvidence (some first)) p)
      (regime.stops left) := by
  have regular := stands.regular
  apply readPair alone none (some (new, first))
  · rw [evidence]
    rfl
  · rw [temporary, readEntry_some stands]
  · exact safe
  · have published : Triple (regime.exactly past w) (publishFirst .load first)
        (fun _ => regime.exactly past ((w.setTemporary none).setEvidence (some first))) (regime.stops left) := by
      refine exactly_step () ((w.setTemporary none).setEvidence (some first)) alone ?_ (safe _) ?_
      · simp [temporary, evidence, require, bind, Except.bind, pure, Except.pure]
      refine exactly_look true alone ?_ (renamed _) (Regime.exactly_demand rfl ?_)
      · simp [World.sameFile, regular, pure, Except.pure]
      exact exactly_settled alone (renamed _)
    exact Triple.bind published fun _ => Triple.pure fun _ under => ⟨rfl, under⟩

variable (oldStands : Stands accepts w first old) (newStands : Stands accepts w second new)
  (succeeds : Succeeds old new)

include oldStands newStands succeeds

/-- The new file waits as the temporary: it is exchanged in. -/
theorem loadRecoverable_promotes (silent : ∀ faults, ¬regime.after faults)
    (evidence : w.journal.evidence = some first) (temporary : w.journal.temporary = some second)
    (valid : validTransition old.state new.state = true)
    (safe : ∀ step, left (past ++ [Point.load step]) w)
    (swapped : ∀ step, left (past ++ [Point.load step]) (w.swapped first second))
    (unlinking : ∀ step d, UnlinkLeft (w.swapped first second) first step d → left (past ++ [Point.load step]) d) :
    Triple (regime.exactly past w) (loadRecoverable accepts)
      (fun a p => a = new ∧ regime.exactly past ((w.swapped first second).unlinked first) p)
      (regime.stops left) := by
  apply readPair alone (some (old, first)) (some (new, second))
  · rw [evidence, readEntry_some oldStands]
  · rw [temporary, readEntry_some newStands]
  · exact safe
  refine Regime.exactly_demand ⟨succeeds.transaction, succeeds.inputs⟩ ?_
  rw [if_pos ⟨succeeds.generation, valid⟩]
  refine exactly_step () (w.swapped first second) alone ?_ (safe _) ?_
  · simp [World.swapped, evidence, temporary, pure, Except.pure]
  refine exactly_look true alone ?_ (swapped _) ?_
  · simp [World.swapped, World.sameFile, oldStands.regular, newStands.regular, pure, Except.pure]
  refine Triple.bind (unlinkIfIdentity_runs alone rfl oldStands.regular unlinking silent) fun gone => ?_
  refine Triple.assume fun same => ?_
  exact Regime.exactly_demand same (Triple.pure fun _ under => ⟨rfl, under⟩)

/-- The new file is in place: the displaced one is removed. -/
theorem loadRecoverable_discards (silent : ∀ faults, ¬regime.after faults)
    (evidence : w.journal.evidence = some second) (temporary : w.journal.temporary = some first)
    (valid : validTransition old.state new.state = true)
    (safe : ∀ step, left (past ++ [Point.load step]) w)
    (unlinking : ∀ step d, UnlinkLeft w first step d → left (past ++ [Point.load step]) d) :
    Triple (regime.exactly past w) (loadRecoverable accepts)
      (fun a p => a = new ∧ regime.exactly past (w.unlinked first) p) (regime.stops left) := by
  apply readPair alone (some (new, second)) (some (old, first))
  · rw [evidence, readEntry_some newStands]
  · rw [temporary, readEntry_some oldStands]
  · exact safe
  refine Regime.exactly_demand ⟨succeeds.transaction.symm, succeeds.inputs.symm⟩ ?_
  have generation := succeeds.generation
  rw [if_neg (by dsimp only; omega), if_pos ⟨succeeds.generation, valid⟩]
  refine Triple.bind (unlinkIfIdentity_runs alone temporary oldStands.regular unlinking silent) fun gone => ?_
  refine Triple.assume fun same => ?_
  exact Regime.exactly_demand same (Triple.pure fun _ under => ⟨rfl, under⟩)

/-- A pair whose states may not follow each other is refused. -/
theorem loadRecoverable_refuses (evidence : w.journal.evidence = some first)
    (temporary : w.journal.temporary = some second) (invalid : ¬validTransition old.state new.state = true) :
    Triple (Regime.any.exactly past w) (loadRecoverable accepts) (fun _ _ => False)
      (Regime.any.stops fun _ _ => True) := by
  apply readPair alone (some (old, first)) (some (new, second))
  · rw [evidence, readEntry_some oldStands]
  · rw [temporary, readEntry_some newStands]
  · exact fun _ => True.intro
  refine Regime.exactly_demand ⟨succeeds.transaction, succeeds.inputs⟩ ?_
  have generation := succeeds.generation
  rw [if_neg (fun both => invalid both.2), if_neg (by dsimp only; omega)]
  exact raise_triple fun _ _ => ⟨True.intro, True.intro⟩

end Loading

section Crashing

variable {p : Process Point Failure World} {point : Point}

theorem step_run {α : Type} {apply : World → Except Failure (α × World)} {value : α} {w' : World}
    (calm : p.faults.head?.join = none) (alone : p.disk.visits = none) (goes : apply p.disk = .ok (value, w')) :
    step point apply p = .ok value (p.step w') := by
  rw [step_alone alone]
  unfold act
  rw [calm]
  dsimp only
  rw [goes]

theorem look_run {α : Type} {see : World → Except Failure α} {value : α}
    (calm : p.faults.head?.join = none) (alone : p.disk.visits = none) (sees : see p.disk = .ok value) :
    look point see p = .ok value (p.step p.disk) := by
  apply step_run calm alone
  rw [sees]
  rfl

theorem change_run {apply : World → World} (calm : p.faults.head?.join = none) (alone : p.disk.visits = none) :
    change point apply p = .ok () (p.step (apply p.disk)) :=
  step_run calm alone rfl

theorem step_crash {α : Type} {apply : World → Except Failure (α × World)} (alone : p.disk.visits = none)
    (next : p.faults.head?.join = some .crash) : step point apply p = .error .crash (p.strike point) := by
  rw [step_alone alone]
  unfold act
  rw [next]
  rfl

theorem payload_run : payload p = .ok p.disk.payload p := rfl

theorem revise_run {edit : Artifact → Artifact} :
    revise edit p = .ok () { p with disk := { p.disk with payload := edit p.disk.payload } } := rfl

theorem demand_run {condition : Prop} [Decidable condition] {failure : Failure} (holds : condition) :
    demand condition failure p = .ok () p := by
  unfold demand ensure
  rw [if_pos holds]
  rfl

end Crashing

/-- An update that dies with both files complete and nothing exchanged. -/
theorem durableWrite_dies {old : Artifact} (accepted : Accepted accepts w inode old) :
    durableWrite accepts label { disk := w, faults := crashAfter 6 } =
      .error .crash { disk := w.filled, faults := [], struck := [label .exchange] } := by
  have alone := accepted.alone
  have apart : inode ≠ w.fresh := Nat.ne_of_lt accepted.bounded
  have begun : createTemporary label { disk := w, faults := List.replicate 5 none ++ [some .crash] } =
      .ok w.fresh { disk := w.begun, faults := List.replicate 4 none ++ [some .crash] } := by
    refine step_run rfl alone ?_
    simp [World.begun, require, accepted.temporary, bind, Except.bind, pure, Except.pure]
  have named : statTemporary label { disk := w.begun, faults := List.replicate 4 none ++ [some .crash] } =
      .ok w.fresh { disk := w.begun, faults := List.replicate 3 none ++ [some .crash] } :=
    look_run rfl alone rfl
  have filled : fillTemporary label w.fresh
      { disk := w.drafted, faults := List.replicate 3 none ++ [some .crash] } =
      .ok () { disk := w.filled, faults := List.replicate 1 none ++ [some .crash] } := by
    unfold fillTemporary
    rw [bind_run_ok (change_run rfl alone)]
    exact change_run rfl alone
  have rechecked : publishUpdate label inode w.fresh
      { disk := w.filled, faults := List.replicate 1 none ++ [some .crash] } =
      .error .crash { disk := w.filled, faults := [], struck := [label .exchange] } := by
    unfold publishUpdate
    have same : (return w.filled.sameFile w.filled.journal.evidence inode : Except Failure Bool) = .ok true := by
      simp [World.filled, World.drafted, World.begun, World.sameFile, accepted.evidence, pure, Except.pure,
        apart, accepted.content]
    refine (bind_run_ok (look_run rfl alone same)).trans ((bind_run_ok (demand_run rfl)).trans ?_)
    exact bind_run_error (step_crash alone rfl)
  have body : writeAndPublish accepts label (some inode) w.fresh w.fresh
      { disk := w.begun, faults := List.replicate 3 none ++ [some .crash] } =
      .error .crash { disk := w.filled, faults := [], struck := [label .exchange] } := by
    unfold writeAndPublish
    have valid : w.drafted.payload.Valid accepts := accepted.valid
    refine (bind_run_ok revise_run).trans ((bind_run_ok payload_run).trans ?_)
    exact (bind_run_ok (demand_run valid)).trans ((bind_run_ok filled).trans rechecked)
  unfold durableWrite
  refine (bind_run_ok (look_run rfl alone accepted.inspects)).trans ((bind_run_ok payload_run).trans ?_)
  refine (bind_run_ok begun).trans ((bind_run_ok named).trans ?_)
  exact rescue_run_error body

/-- The steps of an update that come after the temporary is complete and durable. -/
def JournalStep.afterFlush : JournalStep → Bool
  | .recheck | .exchange | .verify | .unlink | .sync => true
  | _ => false

/-- A reader finds the old or the new payload, and leaves it as the only file. -/
def Resolves (accepts : Inputs → Bool) (old new : Artifact) (w : World) : Prop :=
  ∃ a p, loadRecoverable accepts { disk := w } = .ok a p ∧ (a = old ∨ a = new) ∧
    ∃ inode, p.disk.journal.evidence = some inode ∧ p.disk.journal.files inode = some (some a) ∧
      p.disk.journal.temporary = none

/-- Wherever the update dies with its temporary complete, a reader resolves what it left. -/
def UpdateAtomic (accepts : Inputs → Bool) (write : Write) (old : Artifact) (w : World) : Prop :=
  ∀ (faults : Schedule Failure) p, Schedule.Crashing faults →
    durableWrite accepts (.journal write) { disk := w, faults } = .error .crash p →
    (∃ step, p.struck = [.journal write step] ∧ step.afterFlush = true) →
    Resolves accepts old (w.payload.stamped w.fresh) p.disk

theorem inspectJournal_accepted {old : Artifact} (alone : w.visits = none)
    (passed : inspectJournal accepts w = .ok (some inode)) (content : w.journal.files inode = some (some old))
    (bounded : inode < w.fresh) : Accepted accepts w inode old := by
  unfold inspectJournal at passed
  obtain ⟨valid, passed⟩ := require_bind_ok.mp passed
  split at passed
  case h_1 found evidence =>
    obtain ⟨read, readOk, passed⟩ := bind_ok.mp passed
    obtain ⟨follows, passed⟩ := require_bind_ok.mp passed
    obtain ⟨temporary, same⟩ := require_bind_ok.mp passed
    cases same
    unfold readJournal at readOk
    rw [content] at readOk
    obtain ⟨oldValid, readOk⟩ := require_bind_ok.mp readOk
    obtain ⟨oldIdentity, same⟩ := require_bind_ok.mp readOk
    cases same
    exact ⟨alone, evidence, content, bounded, temporary, oldValid, oldIdentity, valid, follows⟩
  case h_2 =>
    obtain ⟨-, passed⟩ := require_bind_ok.mp passed
    obtain ⟨-, same⟩ := require_bind_ok.mp passed
    cases same

section Atomic

variable {old : Artifact} (accepted : Accepted accepts w inode old)

include accepted

theorem Accepted.succeeds : Succeeds old (w.payload.stamped w.fresh) where
  transaction := accepted.follows.2.1.symm
  inputs := accepted.follows.2.2.2.1.symm
  generation := congrArg (· + 1) accepted.follows.2.2.1

theorem Accepted.oldStands : Stands accepts w.filled inode old := by
  refine ⟨?_, accepted.oldValid, accepted.oldIdentity⟩
  simp [World.filled, World.drafted, World.begun, Nat.ne_of_lt accepted.bounded, accepted.content]

theorem Accepted.newStands : Stands accepts w.filled w.fresh (w.payload.stamped w.fresh) := by
  refine ⟨?_, accepted.valid, rfl⟩
  simp [World.filled]

theorem resolves_filled (valid : validTransition old.state w.payload.state = true) :
    Resolves accepts old (w.payload.stamped w.fresh) w.filled := by
  have contract := @loadRecoverable_promotes Regime.quiet [] w.filled (fun _ _ => True) accepts old _ inode w.fresh
    accepted.alone accepted.oldStands accepted.newStands accepted.succeeds (fun _ => id) accepted.evidence rfl
    valid (fun _ => True.intro) (fun _ => True.intro) (fun _ _ _ => True.intro)
  obtain ⟨a, p, ran, rfl, -, -, reached⟩ := Regime.quiet_returns contract Schedule.Quiet.nil
  refine ⟨_, p, ran, .inr rfl, w.fresh, ?_⟩
  rw [reached]
  exact ⟨rfl, accepted.newStands.content, rfl⟩

theorem resolves_exchanged (valid : validTransition old.state w.payload.state = true) :
    Resolves accepts old (w.payload.stamped w.fresh) (w.exchanged inode) := by
  have oldStands := accepted.oldStands
  have newStands := accepted.newStands
  have contract := @loadRecoverable_discards Regime.quiet [] (w.exchanged inode) (fun _ _ => True) accepts old _
    inode w.fresh accepted.alone ⟨oldStands.content, oldStands.valid, oldStands.identity⟩
    ⟨newStands.content, newStands.valid, newStands.identity⟩ accepted.succeeds (fun _ => id) rfl rfl
    valid (fun _ => True.intro) (fun _ _ _ => True.intro)
  obtain ⟨a, p, ran, rfl, -, -, reached⟩ := Regime.quiet_returns contract Schedule.Quiet.nil
  refine ⟨_, p, ran, .inr rfl, w.fresh, ?_⟩
  rw [reached]
  exact ⟨rfl, newStands.content, rfl⟩

theorem resolves_updated : Resolves accepts old (w.payload.stamped w.fresh) (w.updated inode) := by
  have newStands := accepted.newStands
  have contract := @loadRecoverable_single Regime.quiet [] (w.updated inode) (fun _ _ => True) accepts _ w.fresh
    accepted.alone rfl rfl ⟨newStands.content, newStands.valid, newStands.identity⟩ (fun _ => True.intro)
  obtain ⟨a, p, ran, rfl, -, -, reached⟩ := Regime.quiet_returns contract Schedule.Quiet.nil
  refine ⟨_, p, ran, .inr rfl, w.fresh, ?_⟩
  rw [reached]
  exact ⟨rfl, newStands.content, rfl⟩

theorem updateAtomic_of_valid (write : Write) (valid : validTransition old.state w.payload.state = true) :
    UpdateAtomic accepts write old w := by
  intro faults p crashing died late
  have contract := @durableWrite_runs Regime.crashing [] w
    (fun struck d => ∃ step, struck = [.journal write step] ∧ UpdateLeft w inode step d) accepts (.journal write)
    inode old accepted (fun _ => id) (fun step d stopped => ⟨step, rfl, stopped⟩)
  have started : Regime.crashing.exactly [] w (⟨w, faults, []⟩ : Process Point Failure World) :=
    And.intro crashing (And.intro rfl rfl)
  obtain ⟨⟨step, struck, stopped⟩, -⟩ := contract.failed started died
  obtain ⟨other, same, after⟩ := late
  rw [struck] at same
  cases same
  generalize p.disk = d at stopped
  cases stopped with
  | inspect | create | stat | fill | flush => cases after
  | recheck | exchange => exact resolves_filled accepted valid
  | verify | unlink => exact resolves_exchanged accepted valid
  | sync => exact resolves_updated accepted

/-- Before the exchange the pair stands in the order that only a permitted transition resolves. -/
theorem valid_of_updateAtomic (write : Write) (atomic : UpdateAtomic accepts write old w) :
    validTransition old.state w.payload.state = true := by
  by_contra invalid
  obtain ⟨a, p, ran, -⟩ := atomic _ _ (crashAfter_crashing 6) (durableWrite_dies accepted) ⟨.exchange, rfl, rfl⟩
  have contract := @loadRecoverable_refuses [] w.filled accepts old _ inode w.fresh accepted.alone
    accepted.oldStands accepted.newStands accepted.succeeds accepted.evidence rfl invalid
  exact contract.returned ⟨True.intro, rfl, rfl⟩ ran

end Atomic

/-- An update accepted by the writer is atomic for readers exactly when the reader's transition table
has it: the writer also accepts an update that keeps a state other than `active`. -/
theorem update_atomic_iff (accepts : Inputs → Bool) (write : Write) (old : Artifact) (w : World) (inode : Nat)
    (alone : w.visits = none) (bounded : inode < w.fresh) (content : w.journal.files inode = some (some old))
    (passed : inspectJournal accepts w = .ok (some inode)) :
    UpdateAtomic accepts write old w ↔ validTransition old.state w.payload.state = true := by
  have accepted := inspectJournal_accepted alone passed content bounded
  exact ⟨valid_of_updateAtomic accepted write, updateAtomic_of_valid accepted write⟩

/-- A transaction that keeps its staging tree. -/
def stagedArtifact (state : State) (returncode : Option Int) : Artifact where
  transaction := 7
  state
  inputs := ⟨1, 2, [], 0⟩
  createdPaths := [.staging]
  evidenceGeneration := 3
  evidenceIdentity := some 4
  returncode
  destinationIdentity := some 5
  nextSafeAction := .recoverStart

/-- The rollback is about to record its quarantine. -/
def quarantining (state : State) (returncode : Option Int) : World where
  journal :=
    { evidence := some 4
      files := fun inode => if inode = 4 then some (some (stagedArtifact state returncode)) else none }
  fresh := 8
  destinationParent := 1
  evidenceParent := 2
  payload :=
    { stagedArtifact state returncode with
      createdPaths := [.staging, .quarantine]
      quarantineIdentity := some 6 }

theorem update_atomic_iff_active :
    UpdateAtomic (fun _ => true) .rollback (stagedArtifact .active none) (quarantining .active none) :=
  (update_atomic_iff (fun _ => true) .rollback (stagedArtifact .active none) (quarantining .active none) 4
    rfl (by decide) rfl (by decide +kernel)).mpr rfl

/-- A rollback of failed evidence updates it in place, and a crash before the exchange cannot be read. -/
theorem failed_update_unreadable :
    inspectJournal (fun _ => true) (quarantining .failed (some 1)) = .ok (some 4) ∧
    ¬UpdateAtomic (fun _ => true) .rollback (stagedArtifact .failed (some 1)) (quarantining .failed (some 1)) := by
  have passed : inspectJournal (fun _ => true) (quarantining .failed (some 1)) = .ok (some 4) := by decide +kernel
  refine ⟨passed, fun atomic => ?_⟩
  have accepted := inspectJournal_accepted rfl passed rfl (by decide)
  exact absurd (valid_of_updateAtomic accepted .rollback atomic) (by decide)

end Darling.Start
