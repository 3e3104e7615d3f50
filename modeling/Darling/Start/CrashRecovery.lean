import Darling.Start.Forward

/-! Crashes of a start and of its recoveries, any number of them. -/
namespace Darling.Start

variable {accepts : Inputs → Bool} {regime : Regime Failure} {past : List Point} {w : World}
  {left : List Point → World → Prop}

section Publishing

/-- What the first journal write leaves when it stops at the step. -/
inductive FirstLeft (w : World) : JournalStep → World → Prop where
  | inspect : FirstLeft w .inspect w
  | create : FirstLeft w .create w
  | stat : FirstLeft w .stat w.begun
  | fill : FirstLeft w .fill w.drafted
  | flush : FirstLeft w .flush w.filled
  | publish : FirstLeft w .publish w.filled
  | verify : FirstLeft w .verify w.published
  | sync : FirstLeft w .sync w.published

/-- The payload is accepted as the first file of a journal. -/
structure Fresh (accepts : Inputs → Bool) (w : World) : Prop where
  alone : w.visits = none
  evidence : w.journal.evidence = none
  temporary : w.journal.temporary = none
  valid : w.payload.Valid accepts
  unwritten : w.payload.evidenceIdentity = none ∧ w.payload.evidenceGeneration = 0

variable {label : JournalStep → Point} (fresh : Fresh accepts w)
  (safe : ∀ step d, FirstLeft w step d → left (past ++ [label step]) d)

include fresh

theorem Fresh.inspects : inspectJournal accepts w = .ok none := by
  unfold inspectJournal
  simp [require, fresh.valid, fresh.evidence, fresh.unwritten, fresh.temporary, bind, Except.bind, pure, Except.pure]

theorem Fresh.stands : Stands accepts w.filled w.fresh (w.payload.stamped w.fresh) := by
  refine ⟨?_, fresh.valid, rfl⟩
  simp [World.filled]

include safe

theorem writeFirst_runs :
    Triple (regime.exactly past w.begun) (writeAndPublish accepts label none w.fresh w.fresh)
      (fun _ => regime.exactly past w.published) (regime.stops left) := by
  have alone := fresh.alone
  have regular := fresh.stands.regular
  have filled : Triple (regime.exactly past w.drafted) (fillTemporary label w.fresh)
      (fun _ => regime.exactly past w.filled) (regime.stops left) :=
    exactly_change alone (safe _ _ .fill) (exactly_settled alone (safe _ _ .flush))
  refine exactly_revise (exactly_payload (Regime.exactly_demand fresh.valid (Triple.bind filled fun _ => ?_)))
  refine exactly_step () w.published alone ?_ (safe _ _ .publish) ?_
  · have evidence : w.filled.journal.evidence = none := fresh.evidence
    have temporary : w.filled.journal.temporary = some w.fresh := rfl
    simp [World.published, evidence, temporary, require, bind, Except.bind, pure, Except.pure]
  refine exactly_look true alone ?_ (safe _ _ .verify) (Regime.exactly_demand rfl ?_)
  · simp [World.published, World.sameFile, regular, pure, Except.pure]
  exact exactly_settled alone (safe _ _ .sync)

theorem durableWrite_first
    (undoes : ∀ failure, Triple (fun p => regime.after p.faults) (do
      undoWrite label w.payload w.fresh
      raise failure) (fun (_ : Unit) _ => False) (regime.stops left)) :
    Triple (regime.exactly past w) (durableWrite accepts label) (fun _ => regime.exactly past w.published)
      (regime.stops left) := by
  refine exactly_look none fresh.alone fresh.inspects (safe _ _ .inspect) (exactly_payload ?_)
  refine exactly_step w.fresh w.begun fresh.alone ?_ (safe _ _ .create) ?_
  · simp [World.begun, require, fresh.temporary, bind, Except.bind, pure, Except.pure]
  refine exactly_look w.fresh fresh.alone ?_ (safe _ _ .stat) ?_
  · simp [World.begun, pure, Except.pure]
  refine Regime.handled left (writeFirst_runs fresh safe) (fun _ _ _ => id) fun failure => ?_
  exact (undoes failure).weaken (fun _ => And.right) (fun _ _ => False.elim) fun _ _ => id

end Publishing

section Starting

/-- Nothing was written yet. -/
structure Unstarted (w : World) : Prop where
  alone : w.visits = none
  evidence : w.journal.evidence = none
  temporary : w.journal.temporary = none

/-- Outside the windows a crash leaves nothing, or a transaction that can be recovered. -/
def Resumable (accepts : Inputs → Bool) (struck : List Point) (w : World) : Prop :=
  (∀ point ∈ struck, point.window = false) → Unstarted w ∨ Recoverable accepts w

theorem Outside.resumable {struck : List Point} (outside : Outside Regime.crashing accepts struck w) :
    Resumable accepts struck w :=
  fun calm => .inr (outside True.intro calm)

theorem Ready.published (fresh : Fresh accepts w) (parents : Parents w w.payload) :
    Ready accepts w.published w.published.payload w.fresh where
  alone := fresh.alone
  parents := parents
  evidence := rfl
  temporary := rfl
  stands := ⟨fresh.stands.content, fresh.valid, rfl⟩
  bounded := Nat.lt_succ_self _
  identity := rfl
  transaction := rfl
  generation := rfl
  inputs := rfl

theorem FirstLeft.resumable (fresh : Fresh accepts w) (parents : Parents w w.payload)
    (owned : Owned w.payload w.area w.fresh) {step : JournalStep} {d : World} (left : FirstLeft w step d)
    (outside : step ≠ .stat ∧ step ≠ .fill) : Unstarted d ∨ Recoverable accepts d := by
  have owned' : Owned (w.payload.stamped w.fresh) w.area (w.fresh + 1) := (owned.mono (Nat.le_succ _)).stamped
  have unstarted : Unstarted w := ⟨fresh.alone, fresh.evidence, fresh.temporary⟩
  have filled : Recoverable accepts w.filled :=
    ⟨fresh.alone, _, .unpublished w.fresh fresh.evidence rfl fresh.stands (Nat.lt_succ_self _), owned', parents⟩
  have published : Recoverable accepts w.published := (Ready.published fresh parents).recoverable owned'
  cases left with
  | inspect | create => exact .inl unstarted
  | stat => exact absurd rfl outside.1
  | fill => exact absurd rfl outside.2
  | flush | publish => exact .inr filled
  | verify | sync => exact .inr published

variable {setting : Setting}

theorem silent_crashing : ∀ faults, ¬(Regime.crashing : Regime Failure).after faults := fun _ => id

/-- The two journal writes before the forward path, by what each of them does. -/
theorem opening_runs (fresh : Fresh setting.accepts w) (parents : Parents w w.payload)
    (planned : w.payload.state = .planned) (vacant : w.area.Vacant)
    (first : Triple (regime.exactly past w) (durableWrite setting.accepts (.journal .opening))
      (fun _ => regime.exactly past w.published) (regime.stops left))
    (second : ∀ d old inode, Ready setting.accepts d old inode → d.payload.Valid setting.accepts →
      validTransition old.state d.payload.state = true → Owned old d.area d.fresh → Owned d.payload d.area d.fresh →
      Triple (regime.exactly past d) (durableWrite setting.accepts (.journal .opening))
        (fun _ p => ∃ d' inode', Written setting.accepts d d' inode' ∧ regime.exactly past d' p)
        (regime.stops left)) :
    Triple (regime.exactly past w) (do
      durableWrite setting.accepts (.journal .opening)
      revise fun a => { a with state := .active, nextSafeAction := .recoverStart }
      durableWrite setting.accepts (.journal .opening))
      (fun _ => Under regime.before past fun d => ∃ inode, Working setting.accepts d d.payload inode True ∧
        d.payload.Unclaimed ∧ d.area.Vacant)
      (regime.stops left) := by
  have unclaimed : w.payload.Unclaimed := by
    have guards := fresh.valid.2.2.1
    rw [planned] at guards
    exact guards
  have returns : w.payload.returncode = none := by
    have returns := fresh.valid.2.2.2
    rw [planned] at returns
    exact returns
  refine Triple.bind first fun _ => exactly_revise ?_
  let active : Artifact := { w.published.payload with state := .active, nextSafeAction := .recoverStart }
  have ready := (Ready.published fresh parents).revise (a := active) rfl rfl rfl rfl
  have valid : active.Valid setting.accepts := ⟨fresh.valid.1, fresh.valid.2.1, .inr (.inl unclaimed), returns⟩
  have planOwned : Owned w.published.payload w.area (w.fresh + 1) := .nothing (.inl planned) unclaimed vacant
  have owned : Owned active w.area (w.fresh + 1) := .nothing (.inr (.inl rfl)) unclaimed vacant
  refine (second _ _ _ ready valid ?_ planOwned owned).conclude ?_ fun _ _ => id
  · change validTransition w.payload.state .active = true
    rw [planned]
    rfl
  · rintro _ p ⟨d, inode, written, under⟩
    refine ⟨under.1, under.2.1, inode, ?_⟩
    rw [under.2.2]
    have state : d.payload.state = .active := by
      rw [written.payload]
      rfl
    have owned' : Owned d.payload d.area d.fresh := by
      rw [written.payload, written.area]
      exact (owned.mono written.more).stamped
    refine ⟨⟨written.ready, written.ready.stands.valid, state, state, fun _ => owned', owned'⟩, ?_, ?_⟩
    · rw [written.payload]
      exact unclaimed
    · rw [written.area]
      exact vacant

/-- A crash in the two journal writes leaves nothing, or the plan. -/
theorem opening_resumable (fresh : Fresh setting.accepts w) (parents : Parents w w.payload)
    (planned : w.payload.state = .planned) (vacant : w.area.Vacant) :
    Triple (Regime.crashing.exactly past w) (do
      durableWrite setting.accepts (.journal .opening)
      revise fun a => { a with state := .active, nextSafeAction := .recoverStart }
      durableWrite setting.accepts (.journal .opening))
      (fun _ => Under Regime.crashing.before past fun d => ∃ inode, Working setting.accepts d d.payload inode True ∧
        d.payload.Unclaimed ∧ d.area.Vacant)
      (Regime.crashing.stops (Resumable setting.accepts)) := by
  have unclaimed : w.payload.Unclaimed := by
    have guards := fresh.valid.2.2.1
    rw [planned] at guards
    exact guards
  refine opening_runs fresh parents planned vacant (durableWrite_first fresh ?_ fun _ _ still => still.elim) ?_
  · intro step d stopped calm
    refine stopped.resumable fresh parents (.nothing (.inl planned) unclaimed vacant) ?_
    have outside := calm (.journal .opening step) (List.mem_append_right _ (List.mem_singleton_self _))
    refine ⟨?_, ?_⟩
    · rintro rfl
      cases outside
    · rintro rfl
      cases outside
  · intro d old inode ready valid transition ownedOld owned
    refine (durableWrite_written silent_crashing .opening ready valid transition (fun _ => ownedOld)
      fun _ => owned).fallback fun _ _ stopped => ?_
    exact ⟨Outside.resumable stopped.1, stopped.2⟩

/-- A check of the world that may refuse. -/
theorem look_saw {α : Type} {point : Point} {see : World → Except Failure α}
    {fails : Stop Failure → Assertion (Process Point Failure World)} (alone : w.visits = none)
    (safe : ∀ stop p, p.disk = w → fails stop p) :
    Triple (regime.exactly past w) (look point see) (fun value p => see w = .ok value ∧ regime.exactly past w p)
      fails := by
  refine step_triple (fun p under => under.2.2 ▸ alone) (act_triple ?_ ?_ ?_)
  · exact fun p fault under _ => safe _ _ under.2.2
  · rintro p value d ⟨starts, struck, rfl⟩ changed
    obtain ⟨found, saw, same⟩ := bind_ok.mp changed
    cases same
    exact ⟨saw, regime.tail starts, struck, rfl⟩
  · exact fun p error under _ => safe _ _ under.2.2

theorem attempt_resumable {old : Artifact} {inode : Nat} (working : Working setting.accepts w old inode True)
    (unclaimed : w.payload.Unclaimed) (vacant : w.area.Vacant) :
    Triple (Regime.crashing.exactly past w) (handle (forward setting) (abandon setting))
      (fun _ p => Resumable setting.accepts p.struck p.disk) (fun _ p =>
        Resumable setting.accepts p.struck p.disk) := by
  have committed (d : World) (held : Committed setting.accepts d) : Recoverable setting.accepts d := by
    obtain ⟨state, ⟨inode, ready⟩, tree, identity, there⟩ := held
    simp only [World.sameFolder, Bool.and_eq_true, decide_eq_true_eq] at there
    exact ready.recoverable (.committed state tree identity there.1 there.2)
  have rolledBack (d : World) (held : RolledBack setting.accepts d) : Recoverable setting.accepts d := by
    obtain ⟨state, vacant, inode, ready⟩ := held
    have guards := ready.stands.valid.2.2.1
    rw [state] at guards
    exact ready.recoverable (.nothing (.inr (.inr state)) guards vacant)
  refine Triple.rescue ((forward_silent silent_crashing working unclaimed vacant).conclude
    (fun _ p under _ => .inr (committed _ under.2.2.2)) fun _ _ => id) fun stop => ?_
  cases stop with
  | crash =>
    rintro p (⟨outside, -⟩ | ⟨other, -⟩)
    · exact outside.resumable
    · exact absurd rfl other
  | raised failure =>
    rintro p (⟨-, still⟩ | ⟨-, starts, struck, -, old, inode, rollable⟩)
    · exact still.elim
    · refine (abandon_runs silent_crashing rollable failure).conclude ?_ ?_ p ⟨starts, struck, rfl⟩
      · exact fun _ p under _ => .inr (rolledBack _ under.2.2)
      · rintro _ p (⟨outside, -⟩ | ⟨-, under⟩)
        · exact outside.resumable
        · exact fun _ => .inr (rolledBack _ under.2.2)

/-- `execute_start` up to its `try`. -/
def openStart (setting : Setting) : StartM Unit := do
  let plan ← payload
  demand (plan.Valid setting.accepts) (.start .invalidArtifact)
  demand (plan.state = .planned ∧ plan.createdPaths = [] ∧ plan.destinationIdentity = none) (.start .notPlanned)
  assertParents
  settle .lock
  look .precheck precheck
  durableWrite setting.accepts (.journal .opening)
  revise fun a => { a with state := .active, nextSafeAction := .recoverStart }
  durableWrite setting.accepts (.journal .opening)

theorem executeStart_eq (setting : Setting) :
    executeStart setting = openStart setting >>= fun _ => handle (forward setting) (abandon setting) := by
  unfold executeStart openStart
  simp only [bind_assoc]

/-- The checks of a start pass or leave the world as it was; its journal writes come after them. -/
theorem openStart_runs {post : Unit → Assertion (Process Point Failure World)}
    {fails : Stop Failure → Assertion (Process Point Failure World)} (alone : w.visits = none)
    (safe : ∀ stop p, p.disk = w → fails stop p)
    (opens : Fresh setting.accepts w → Parents w w.payload → w.payload.state = .planned → w.area.Vacant →
      Triple (regime.exactly past w) (do
        durableWrite setting.accepts (.journal .opening)
        revise fun a => { a with state := .active, nextSafeAction := .recoverStart }
        durableWrite setting.accepts (.journal .opening)) post fails) :
    Triple (regime.exactly past w) (openStart setting) post fails := by
  unfold openStart
  refine reads_bind_triple World.payload (fun _ _ => rfl) fun plan => ?_
  refine Triple.given (plan = w.payload) (fun p under => ?_) fun same => ?_
  · rw [← under.1, under.2.2.2]
  subst same
  refine Triple.strengthen ?_ fun _ => And.right
  refine Triple.bind (demand_triple fun _ p under => safe _ p under.2.2) fun _ => Triple.assume fun valid => ?_
  refine Triple.bind (demand_triple fun _ p under => safe _ p under.2.2) fun _ => Triple.assume fun planned => ?_
  refine Triple.bind (look_saw alone safe) fun _ => Triple.assume fun checked => ?_
  have parents := require_ok.mp checked
  have settled : Triple (regime.exactly past w) (settle .lock) (fun _ => regime.exactly past w)
      (regime.stops fun _ d => d = w) := exactly_settled alone rfl
  refine Triple.bind (settled.fallback fun _ p stopped => safe _ p stopped.1) fun _ => ?_
  refine Triple.bind (look_saw alone safe) fun _ => Triple.assume fun passed => ?_
  obtain ⟨evidence, passed⟩ := require_bind_ok.mp passed
  obtain ⟨temporary, passed⟩ := require_bind_ok.mp passed
  obtain ⟨destination, staging, quarantine⟩ := require_ok.mp passed
  by_cases unwritten : w.payload.evidenceIdentity = none ∧ w.payload.evidenceGeneration = 0
  · exact opens ⟨alone, evidence, temporary, valid, unwritten⟩ parents planned.1
      ⟨staging, destination, quarantine⟩
  · -- the first write refuses a plan that says it was written
    have refused : Triple (regime.exactly past w) (durableWrite setting.accepts (.journal .opening))
        (fun _ _ => False) fails := by
      refine Triple.bind (look_saw alone safe) fun _ => Triple.assume fun inspected => ?_
      obtain ⟨-, inspected⟩ := require_bind_ok.mp inspected
      rw [evidence] at inspected
      exact absurd (require_bind_ok.mp inspected).1 unwritten
    exact Triple.bind refused fun _ _ => False.elim

/-- However a start ends, it leaves nothing or a transaction that can be recovered. -/
theorem executeStart_resumable (unstarted : Unstarted w) :
    Triple (Regime.crashing.exactly past w) (executeStart setting)
      (fun _ p => Resumable setting.accepts p.struck p.disk) (fun _ p =>
        Resumable setting.accepts p.struck p.disk) := by
  have opened : Triple (Regime.crashing.exactly past w) (openStart setting)
      (fun _ => Under Regime.crashing.before past fun d => ∃ inode, Working setting.accepts d d.payload inode True ∧
        d.payload.Unclaimed ∧ d.area.Vacant) (fun _ p => Resumable setting.accepts p.struck p.disk) := by
    refine openStart_runs unstarted.alone (fun _ p same _ => .inl (same ▸ unstarted)) fun fresh parents
      planned vacant => ?_
    exact (opening_resumable fresh parents planned vacant).fallback fun _ _ => And.left
  rw [executeStart_eq]
  refine Triple.bind opened fun _ p under => ?_
  obtain ⟨starts, struck, inode, working, unclaimed, empty⟩ := under
  exact attempt_resumable working unclaimed empty p ⟨starts, struck, rfl⟩

theorem recoverStart_unstarted (unstarted : Unstarted w) :
    Triple (regime.exactly past w) (recoverStart setting) (fun _ _ => False) (fun _ p => p.disk = w) := by
  have settled : Triple (regime.exactly past w) (settle .lock) (fun _ => regime.exactly past w)
      (regime.stops fun _ d => d = w) := exactly_settled unstarted.alone rfl
  refine Triple.bind (settled.fallback fun _ _ => And.left) fun _ => ?_
  have nothing : Triple (regime.exactly past w) (loadRecoverable setting.accepts) (fun _ _ => False)
      (fun _ p => p.disk = w) := by
    refine Triple.bind (look_saw unstarted.alone fun _ _ => id) fun main => Triple.assume fun read => ?_
    rw [unstarted.evidence] at read
    cases read
    refine Triple.bind (look_saw unstarted.alone fun _ _ => id) fun temporary => Triple.assume fun read => ?_
    rw [unstarted.temporary] at read
    cases read
    exact raise_triple fun p under => under.2.2
  exact Triple.bind nothing fun _ _ => False.elim

end Starting

section Runs

/-- What a start leaves, and then any number of recoveries that died, with the points a crash may take. -/
inductive Reached (setting : Setting) (calm : Point → Prop) (w : World) : World → Prop where
  | start (faults : Schedule Failure) (crashing : Schedule.Crashing faults)
      (struck : ∀ point ∈ (finalState (executeStart setting ⟨w, faults, []⟩)).struck, calm point) :
      Reached setting calm w (finalState (executeStart setting ⟨w, faults, []⟩)).disk
  | recovery (d : World) (faults : Schedule Failure) (before : Reached setting calm w d)
      (crashing : Schedule.Crashing faults)
      (died : outcome (recoverStart setting ⟨d, faults, []⟩) = .error .crash)
      (struck : ∀ point ∈ (finalState (recoverStart setting ⟨d, faults, []⟩)).struck, calm point) :
      Reached setting calm w (finalState (recoverStart setting ⟨d, faults, []⟩)).disk

/-- A recovery that nothing disturbs returns, and the transaction is settled. -/
def Recovers (setting : Setting) (d : World) : Prop :=
  ∀ faults, Schedule.Quiet faults → ∃ a p, recoverStart setting ⟨d, faults, []⟩ = .ok a p ∧ Settled a p.disk

variable {setting : Setting} {d : World}

theorem Recoverable.recovers (recoverable : Recoverable setting.accepts d) : Recovers setting d := by
  intro faults quiet
  have contract : Triple (Regime.quiet.exactly [] d) (recoverStart setting)
      (fun a => Under Regime.quiet.before [] (Settled a))
      (Regime.quiet.stops (Outside Regime.quiet setting.accepts)) :=
    recoverStart_runs (fun _ => id) recoverable
  obtain ⟨a, p, ran, -, -, settled⟩ := Regime.quiet_returns contract quiet
  exact ⟨a, p, ran, settled⟩

theorem Reached.resumable (unstarted : Unstarted w) (reached : Reached setting (·.window = false) w d) :
    Unstarted d ∨ Recoverable setting.accepts d := by
  induction reached with
  | start faults crashing struck =>
    exact (executeStart_resumable unstarted).ended ⟨crashing, rfl, rfl⟩ struck
  | recovery d faults before crashing died struck induction =>
    have started : Regime.crashing.exactly [] d (⟨d, faults, []⟩ : Process Point Failure World) :=
      And.intro crashing (And.intro rfl rfl)
    cases ran : recoverStart setting ⟨d, faults, []⟩ with
    | ok a p =>
      rw [ran] at died
      cases died
    | error stop p =>
      rw [ran] at died struck
      cases died
      rcases induction with unstarted | recoverable
      · have same := (recoverStart_unstarted unstarted).failed started ran
        exact .inl (same ▸ unstarted)
      · have stopped := (recoverStart_runs silent_crashing recoverable).failed started ran
        exact .inr (stopped.1 True.intro struck)

/-- A plan with one repository, which is checked out by one command. -/
def planWorld : World where
  destinationParent := 1
  evidenceParent := 2
  payload := { transaction := 7, inputs := ⟨1, 2, [3], 0⟩ }

def planSetting : Setting where
  accepts _ := true
  commands _ := [{ leaves := [9] }]

end Runs

end Darling.Start
