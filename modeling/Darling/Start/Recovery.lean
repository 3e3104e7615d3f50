import Darling.Start.Rollback

/-! A recovery, run from every world a crash outside the windows leaves. -/
namespace Darling.Start

variable {accepts : Inputs → Bool} {regime : Regime Failure} {past : List Point} {w : World} {a old : Artifact}
  {inode first second : Nat}

section Loading

/-- The artifact stands alone in the journal. -/
structure Loaded (accepts : Inputs → Bool) (w : World) (a : Artifact) (inode : Nat) : Prop where
  alone : w.visits = none
  evidence : w.journal.evidence = some inode
  temporary : w.journal.temporary = none
  stands : Stands accepts w inode a
  bounded : inode < w.fresh
  owned : Owned a w.area w.fresh
  parents : Parents w a

theorem Loaded.recoverable (loaded : Loaded accepts w a inode) : Recoverable accepts w :=
  ⟨loaded.alone, a, .single inode loaded.evidence loaded.temporary loaded.stands loaded.bounded, loaded.owned,
    loaded.parents⟩

/-- The process takes the loaded artifact as its payload. -/
theorem Loaded.ready (loaded : Loaded accepts w a inode) : Ready accepts { w with payload := a } a inode where
  alone := loaded.alone
  parents := loaded.parents
  evidence := loaded.evidence
  temporary := loaded.temporary
  stands := ⟨loaded.stands.content, loaded.stands.valid, loaded.stands.identity⟩
  bounded := loaded.bounded
  identity := loaded.stands.identity
  transaction := rfl
  generation := rfl
  inputs := rfl

section Displaced

variable (alone : w.visits = none) (evidence : w.journal.evidence = some second) (stands : Stands accepts w second a)
  (bounded : second < w.fresh) (owned : Owned a w.area w.fresh) (parents : Parents w a)

include alone evidence stands bounded owned parents

theorem loaded_unlinked : Loaded accepts (w.unlinked first) a second where
  alone := alone
  evidence := evidence
  temporary := rfl
  stands := ⟨stands.content, stands.valid, stands.identity⟩
  bounded := Nat.lt_succ_of_lt bounded
  owned := owned.mono (Nat.le_succ _)
  parents := parents

/-- While the displaced file is removed the pair can be read, and then the new file alone. -/
theorem UnlinkLeft.recoverable (temporary : w.journal.temporary = some first) (oldStands : Stands accepts w first old)
    (succeeds : Succeeds old a) (valid : validTransition old.state a.state = true) {step : JournalStep} {d : World}
    (left : UnlinkLeft w first step d) : Recoverable accepts d := by
  have whole : Recoverable accepts w :=
    ⟨alone, a, .displaced first second old evidence temporary oldStands stands succeeds valid bounded, owned, parents⟩
  have binned : Recoverable accepts w.binned :=
    ⟨alone, a, .displaced first second old evidence temporary
      ⟨oldStands.content, oldStands.valid, oldStands.identity⟩ ⟨stands.content, stands.valid, stands.identity⟩
      succeeds valid (Nat.lt_succ_of_lt bounded), owned.mono (Nat.le_succ _), parents⟩
  have caught {d : World} (visits : d.visits = w.visits) (entry : d.journal.evidence = w.journal.evidence)
      (gone : d.journal.temporary = none) (files : d.journal.files = w.journal.files) (area : d.area = w.area)
      (fresh : d.fresh = w.fresh + 1) (same : Parents d a) : Recoverable accepts d := by
    refine ⟨visits.trans alone, a, .single second (entry.trans evidence) gone ?_ ?_, ?_, same⟩
    · exact ⟨by rw [files, stands.content], stands.valid, stands.identity⟩
    · rw [fresh]
      omega
    · rw [area, fresh]
      exact owned.mono (Nat.le_succ _)
  cases left with
  | compare | makeBin => exact whole
  | openBin | moveIn => exact binned
  | checkIn | drop => exact caught rfl rfl rfl rfl rfl rfl parents
  | sync | stands | dropBin => exact caught rfl rfl rfl rfl rfl rfl parents
  | last => exact (loaded_unlinked alone evidence stands bounded owned parents).recoverable

end Displaced

/-- The loader gets the artifact and leaves it as the only file of the journal. -/
theorem loadRecoverable_loads (silent : ∀ faults, ¬regime.after faults) (alone : w.visits = none)
    (loadable : Loadable accepts w a) (owned : Owned a w.area w.fresh) (parents : Parents w a) :
    Triple (regime.exactly past w) (loadRecoverable accepts)
      (fun found => Under regime.before past fun w' => found = a ∧ ∃ inode, Loaded accepts w' a inode)
      (regime.stops (Outside regime accepts)) := by
  have safe (struck : List Point) : Outside regime accepts struck w :=
    fun _ _ => ⟨alone, a, loadable, owned, parents⟩
  cases loadable with
  | single inode evidence temporary stands bounded =>
    refine (loadRecoverable_single alone evidence temporary stands fun _ => safe _).conclude ?_ fun _ _ => id
    rintro found p ⟨same, starts, struck, reached⟩
    refine ⟨starts, struck, same, inode, ?_⟩
    rw [reached]
    exact ⟨alone, evidence, temporary, stands, bounded, owned, parents⟩
  | unpublished inode evidence temporary stands bounded =>
    have loaded : Loaded accepts ((w.setTemporary none).setEvidence (some inode)) a inode :=
      ⟨alone, rfl, rfl, ⟨stands.content, stands.valid, stands.identity⟩, bounded, owned, parents⟩
    refine (loadRecoverable_unpublished alone evidence temporary stands (fun _ => safe _)
      fun _ _ _ => loaded.recoverable).conclude ?_ fun _ _ => id
    rintro found p ⟨same, starts, struck, reached⟩
    refine ⟨starts, struck, same, inode, ?_⟩
    rw [reached]
    exact loaded
  | waiting first second old evidence temporary oldStands stands succeeds valid bounded =>
    have oldSwapped : Stands accepts (w.swapped first second) first old :=
      ⟨oldStands.content, oldStands.valid, oldStands.identity⟩
    have swapped : Stands accepts (w.swapped first second) second a :=
      ⟨stands.content, stands.valid, stands.identity⟩
    refine (loadRecoverable_promotes alone oldStands stands succeeds silent evidence temporary valid (fun _ => safe _)
      (fun _ _ _ => ?_) fun step d left _ _ => ?_).conclude ?_ fun _ _ => id
    · exact ⟨alone, a, .displaced first second old rfl rfl oldSwapped swapped succeeds valid bounded, owned, parents⟩
    · exact UnlinkLeft.recoverable (w := w.swapped first second) alone rfl swapped bounded owned parents rfl
        oldSwapped succeeds valid left
    rintro found p ⟨same, starts, struck, reached⟩
    refine ⟨starts, struck, same, second, ?_⟩
    rw [reached]
    exact loaded_unlinked alone rfl swapped bounded owned parents
  | displaced first second old evidence temporary oldStands stands succeeds valid bounded =>
    refine (loadRecoverable_discards alone oldStands stands succeeds silent evidence temporary valid (fun _ => safe _)
      fun step d left _ _ => ?_).conclude ?_ fun _ _ => id
    · exact left.recoverable alone evidence stands bounded owned parents temporary oldStands succeeds valid
    rintro found p ⟨same, starts, struck, reached⟩
    refine ⟨starts, struck, same, second, ?_⟩
    rw [reached]
    exact loaded_unlinked alone evidence stands bounded owned parents

end Loading

section Recovering

/-- Every open transaction whose payload is the journal's artifact can be rolled back. -/
theorem Owned.rollable (ready : Ready accepts w old inode) (same : w.payload = old) (owned : Owned old w.area w.fresh)
    (open_ : old.state = .planned ∨ old.state = .active) : Rollable regime accepts w old inode := by
  have valid := ready.stands.valid
  subst same
  cases owned with
  | nothing state unclaimed vacant =>
    exact .nothing ready valid unclaimed.2 vacant (fun _ => .nothing state unclaimed vacant) open_
  | reserved state reserved vacant =>
    exact .nothing ready valid reserved.2 vacant (fun _ => .reserved state reserved vacant) open_
  | made state reserved tree folder staging content unworked destination quarantine bounded =>
    exact .made ready valid state (fun _ => .made state reserved tree folder staging content unworked destination
      quarantine bounded) state reserved tree folder staging content unworked destination quarantine bounded
  | claimed tree spot vault claims placed =>
    have stage : Stage regime accepts w w.payload inode tree spot vault :=
      ⟨ready, valid, claims.state, fun _ => claims, claims, placed⟩
    rcases claims.quarantine with ⟨unrecorded, -, isPublic⟩ | ⟨listed, q, identity, ⟨v, rfl, rfl⟩ | ⟨rfl, rfl⟩⟩
    · cases vault with
      | none =>
        refine .claimed tree spot stage ?_
        rcases isPublic with rfl | rfl
        · nofun
        · nofun
      | some v => exact .vaulted tree spot v stage unrecorded
    · exact .recorded tree spot v stage (fun _ => ⟨identity, listed⟩) ⟨identity, listed⟩
    · exact .gone tree stage
  | committed state =>
    rw [state] at open_
    rcases open_ with open_ | open_
    · cases open_
    · cases open_

theorem tryRollback_runs {setting : Setting} (silent : ∀ faults, ¬regime.after faults)
    (rollable : Rollable regime setting.accepts w old inode) :
    Triple (regime.exactly past w) (tryRollback setting)
      (fun ended => Under regime.before past fun w' =>
        ended = none ∧ ∃ old' inode', Finished regime setting.accepts w' old' inode')
      (regime.stops (Outside regime setting.accepts)) := by
  refine Regime.unhandled silent (Triple.bind (rollback_runs silent rollable) fun _ => ?_)
  exact Triple.pure fun _ under => ⟨under.1, under.2.1, rfl, under.2.2⟩

theorem rolledBackPayload_valid {name : ResultName} {returncode : Int} (accepted : accepts a.inputs = true) :
    (rolledBackPayload name returncode a).Valid accepts :=
  ⟨accepted, List.nodup_nil, ⟨rfl, rfl, rfl⟩, nofun⟩

theorem Finished.accepted (finished : Finished regime accepts w old inode) : accepts w.payload.inputs = true := by
  rw [← finished.ready.inputs]
  exact finished.ready.stands.valid.1

/-- The last journal write of a rollback that went through. -/
theorem endRollback_runs (silent : ∀ faults, ¬regime.after faults) (finished : Finished regime accepts w old inode)
    (name : ResultName) (returncode : Int) :
    Triple (regime.exactly past { w with payload := rolledBackPayload name returncode w.payload })
      (durableWrite accepts (.journal .ending))
      (fun _ => Under regime.before past fun w' => w'.payload.state = .rolledBack ∧ w'.area.Vacant ∧
        ∃ inode', Ready accepts w' w'.payload inode')
      (regime.stops (Outside regime accepts)) := by
  have ready := finished.ready.revise (a := rolledBackPayload name returncode w.payload) rfl rfl rfl rfl
  refine (durableWrite_written silent .ending ready (rolledBackPayload_valid finished.accepted) ?_ finished.owned
    fun _ => .nothing (.inr (.inr rfl)) ⟨rfl, rfl, rfl⟩ finished.vacant).conclude ?_ fun _ _ => id
  · rcases finished.state with state | state
    · rw [state]
      rfl
    · rw [state]
      rfl
  · rintro _ p ⟨w', inode', written, starts, struck, reached⟩
    refine ⟨starts, struck, ?_⟩
    rw [reached]
    refine ⟨?_, ?_, inode', written.ready⟩
    · rw [written.payload]
      rfl
    · rw [written.area]
      exact finished.vacant

/-- How a transaction may end: the destination is there as recorded, or nothing is left. -/
def Settled (a : Artifact) (w : World) : Prop :=
  (a.state = .committed ∧ ∃ tree, a.destinationIdentity = some tree ∧ w.sameFolder w.area.destination tree = true) ∨
    (a.state = .rolledBack ∧ w.area.Vacant)

theorem rollBackRecovered_runs {setting : Setting} (silent : ∀ faults, ¬regime.after faults)
    (rollable : Rollable regime setting.accepts w old inode) :
    Triple (regime.exactly past w) (rollBackRecovered setting a)
      (fun a' => Under regime.before past (Settled a')) (regime.stops (Outside regime setting.accepts)) := by
  refine Triple.bind (tryRollback_runs silent rollable) fun ended => Regime.from_each ?_
  rintro w' ⟨rfl, old', inode', finished⟩
  refine exactly_revise (Triple.bind (endRollback_runs silent finished _ _) fun _ => Regime.from_each ?_)
  rintro w'' ⟨state, vacant, -⟩
  exact exactly_payload (Triple.pure fun p under => ⟨under.1, under.2.1, .inr ⟨state, under.2.2 ▸ vacant⟩⟩)

/-- The committed destination is where the journal says. -/
theorem Owned.committed_there (owned : Owned a w.area w.fresh) (state : a.state = .committed) :
    ∃ tree, a.destinationIdentity = some tree ∧ w.sameFolder w.area.destination tree = true := by
  cases owned with
  | nothing other =>
    rw [state] at other
    rcases other with other | other | other
    all_goals cases other
  | reserved other => cases state.symm.trans other
  | made other => cases state.symm.trans other
  | claimed _ _ _ claims => cases state.symm.trans claims.state
  | committed _ tree identity destination content =>
    refine ⟨tree, identity, ?_⟩
    rw [World.sameFolder, destination, content]
    simp

theorem Owned.rolledBack_vacant {area : Area} {bound : Nat} (owned : Owned a area bound)
    (state : a.state = .rolledBack) : area.Vacant := by
  cases owned with
  | nothing _ _ vacant => exact vacant
  | reserved other => cases state.symm.trans other
  | made other => cases state.symm.trans other
  | claimed _ _ _ claims => cases state.symm.trans claims.state
  | committed other => cases state.symm.trans other

theorem Owned.not_failed {area : Area} {bound : Nat} (owned : Owned a area bound) : a.state ≠ .failed := by
  intro state
  cases owned with
  | nothing other =>
    rw [state] at other
    rcases other with other | other | other
    all_goals cases other
  | reserved other => cases state.symm.trans other
  | made other => cases state.symm.trans other
  | claimed _ _ _ claims => cases state.symm.trans claims.state
  | committed other => cases state.symm.trans other

/-- A recovery that nothing cuts short ends the transaction. -/
theorem recoverStart_runs {setting : Setting} (silent : ∀ faults, ¬regime.after faults)
    (recoverable : Recoverable setting.accepts w) :
    Triple (regime.exactly past w) (recoverStart setting) (fun a => Under regime.before past (Settled a))
      (regime.stops (Outside regime setting.accepts)) := by
  obtain ⟨alone, a, loadable, owned, parents⟩ := recoverable
  refine exactly_settle alone (fun _ _ => ⟨alone, a, loadable, owned, parents⟩) ?_
  refine Triple.bind (loadRecoverable_loads silent alone loadable owned parents) fun found => Regime.from_each ?_
  rintro w' ⟨rfl, inode, loaded⟩
  have ready := loaded.ready
  have safe (struck : List Point) : Outside regime setting.accepts struck { w' with payload := found } :=
    fun _ _ => ready.recoverable loaded.owned
  refine exactly_revise (exactly_look () loaded.alone ?_ (safe _) ?_)
  · simp [require, loaded.parents.1, loaded.parents.2]
  have rolls (open_ : found.state = .planned ∨ found.state = .active) :
      Triple (regime.exactly past { w' with payload := found }) (rollBackRecovered setting found)
        (fun a' => Under regime.before past (Settled a')) (regime.stops (Outside regime setting.accepts)) :=
    rollBackRecovered_runs silent (loaded.owned.rollable ready rfl open_)
  cases state : found.state with
  | planned => exact rolls (.inl state)
  | active => exact rolls (.inr state)
  | failed => exact absurd state loaded.owned.not_failed
  | rolledBack =>
    exact Triple.pure fun p under =>
      ⟨under.1, under.2.1, .inr ⟨state, under.2.2 ▸ loaded.owned.rolledBack_vacant state⟩⟩
  | committed =>
    obtain ⟨tree, identity, there⟩ := loaded.owned.committed_there state
    refine exactly_look () loaded.alone ?_ (safe _) ?_
    · have same : World.sameFolder { w' with payload := found } w'.area.destination tree = true := there
      simp [require, identity, same]
    · exact Triple.pure fun p under => ⟨under.1, under.2.1, .inl ⟨state, tree, identity, under.2.2 ▸ there⟩⟩

end Recovering

end Darling.Start
