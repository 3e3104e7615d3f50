import Darling.Start.Recovery

/-! The forward path of a transaction, in the terms of the two ways it can be left: by a crash, and by an
error that the handler rolls back. -/
namespace Darling.Start

variable {accepts : Inputs → Bool} {w : World} {old : Artifact} {inode tree : Nat} {spot : Spot} {whole : Prop}

/-- The payload describes what stands, and so does the journal where `whole` holds. -/
structure Working (accepts : Inputs → Bool) (w : World) (old : Artifact) (inode : Nat) (whole : Prop) : Prop where
  ready : Ready accepts w old inode
  valid : w.payload.Valid accepts
  stateOld : old.state = .active
  state : w.payload.state = .active
  ownedOld : whole → Owned old w.area w.fresh
  owned : Owned w.payload w.area w.fresh

theorem Working.written {w' : World} {inode' : Nat} (working : Working accepts w old inode whole)
    (written : Written accepts w w' inode') : Working accepts w' w'.payload inode' True := by
  have state : w'.payload.state = .active := by
    rw [written.payload]
    exact working.state
  have owned : Owned w'.payload w'.area w'.fresh := by
    rw [written.payload, written.area]
    exact (working.owned.mono written.more).stamped
  refine ⟨written.ready, ?_, state, state, fun _ => owned, owned⟩
  rw [written.payload]
  exact working.valid

theorem Working.transition (working : Working accepts w old inode whole) :
    validTransition old.state w.payload.state = true := by
  rw [working.stateOld, working.state]
  rfl

theorem Stage.working (stage : Stage Regime.crashing accepts w old inode tree spot none) :
    Working accepts w old inode True :=
  ⟨stage.ready, stage.valid, stage.stateOld, stage.claims.state, stage.ownedOld, stage.owned⟩

/-- A claim on the staging tree, recorded or about to be. -/
theorem claims_staging {a : Artifact} (state : a.state = .active) (paths : a.createdPaths = [.staging])
    (quarantine : a.quarantineIdentity = none) (identity : a.destinationIdentity = some tree) :
    Claims a tree .staging none := by
  refine ⟨state, identity, ?_, .inl ⟨quarantine, ?_, .inl rfl⟩⟩
  · rw [paths]
    nofun
  · rw [paths]
    decide

theorem claims_valid {a : Artifact} (place : Place) (accepted : accepts a.inputs = true)
    (returns : a.returncode = none) (state : a.state = .active) (isPublic : place ≠ .quarantine)
    (paths : a.createdPaths = [place]) (quarantine : a.quarantineIdentity = none)
    (identity : a.destinationIdentity = some tree) : a.Valid accepts := by
  refine ⟨accepted, ?_, ?_, ?_⟩
  · rw [paths]
    exact List.nodup_singleton _
  · rw [state]
    refine .inr (.inr ⟨?_, ?_, ?_⟩)
    · rw [paths]
      nofun
    · rw [identity]
      nofun
    · rw [paths, quarantine]
      simp [isPublic.symm]
  · rw [state]
    exact returns

section Steps

variable {regime : Regime Failure} {past : List Point} {left : List Point → World → Prop} {setting : Setting}

/-- What an error may leave that no schedule injected: a command's, or that of a check outside. -/
def Falls (regime : Regime Failure) (past : List Point) (left : List Point → World → Prop) (fell : World → Prop)
    (stop : Stop Failure) : Assertion (Process Point Failure World) := fun p =>
  regime.stops left stop p ∨ stop ≠ .crash ∧ Under regime.before past fell p

/-- Some command or outer check fails. -/
def Setting.Fails (setting : Setting) : Prop :=
  setting.sources ≠ none ∨ setting.closure ≠ none ∨ ∃ repository, ∃ command ∈ setting.commands repository,
    command.failure ≠ none

/-- The steps outside the journal. -/
def Point.plain : Point → Bool
  | .journal _ _ | .load _ => false
  | _ => true

/-- A plain step of the forward path stops where the payload can be rolled back. -/
def Covers (accepts : Inputs → Bool) (past : List Point) (left : List Point → World → Prop) : Prop :=
  ∀ point d old inode, point.plain = true → Working accepts d old inode (point.window = false) →
    left (past ++ [point]) d

/-- A journal update of the forward path. -/
def Updates (setting : Setting) (regime : Regime Failure) (past : List Point) (left : List Point → World → Prop) :
    Prop :=
  ∀ d old inode, Working setting.accepts d old inode True →
    Triple (regime.exactly past d) (workWrite setting)
      (fun _ p => ∃ d' inode', Written setting.accepts d d' inode' ∧ regime.exactly past d' p) (regime.stops left)

theorem Covers.working (covers : Covers accepts past left) (working : Working accepts w old inode True)
    {point : Point} (plain : point.plain = true) : left (past ++ [point]) w :=
  covers point w old inode plain ⟨working.ready, working.valid, working.stateOld, working.state,
    fun _ => working.ownedOld True.intro, working.owned⟩

theorem Covers.stage (covers : Covers accepts past left)
    (stage : Stage Regime.crashing accepts w old inode tree spot none) {point : Point} (plain : point.plain = true) :
    left (past ++ [point]) w :=
  covers.working stage.working plain

theorem Updates.then {β : Type} {next : Unit → StartM β} {post : β → Assertion (Process Point Failure World)}
    (updates : Updates setting regime past left) (working : Working setting.accepts w old inode True)
    (rest : ∀ d' inode', Written setting.accepts w d' inode' → Working setting.accepts d' d'.payload inode' True →
      Triple (regime.exactly past d') (next ()) post (regime.stops left)) :
    Triple (regime.exactly past w) (workWrite setting >>= next) post (regime.stops left) := by
  refine Triple.bind (updates w old inode working) fun _ => ?_
  rintro p ⟨d', inode', written, under⟩
  exact rest d' inode' written (working.written written) p under

section Claiming

/-- The staging directory stands, and is empty. -/
def World.stagingMade (w : World) : World := (w.allocate.setFolder w.fresh {}).setStaging (some w.fresh)

/-- The payload claims it. -/
def World.stagingClaimed (w : World) : World :=
  { w.stagingMade with
    payload := { w.payload with createdPaths := [.staging], destinationIdentity := some w.fresh } }

/-- It has a file for the marker, which may be complete. -/
def World.stagingMarked (w : World) (mark : Option Mark) : World :=
  w.stagingClaimed.allocate.setFolder w.fresh { marker := some ⟨w.fresh + 1, mark⟩ }

variable (working : Working accepts w old inode True) (reserved : w.payload.Reserved)
  (reservedOld : old.Reserved) (vacant : w.area.Vacant)

include working reserved reservedOld vacant

theorem Working.stagingMade : Working accepts w.stagingMade old inode True := by
  have made {a : Artifact} (state : a.state = .active) (reserved : a.Reserved) :
      Owned a w.stagingMade.area w.stagingMade.fresh :=
    .made state reserved w.fresh {} rfl (Function.update_self ..) (.inl rfl) vacant.destination vacant.quarantine
      (Nat.lt_succ_self _)
  exact ⟨working.ready.work rfl rfl rfl (Nat.le_succ _) ⟨rfl, rfl⟩, working.valid, working.stateOld, working.state,
    fun _ => made working.stateOld reservedOld, made working.state reserved⟩

/-- The payload claims a staging directory with the folder, which the journal still only reserves. -/
theorem Working.stagingHolds {d : World} (folder : Folder) (journal : d.journal = w.journal)
    (payload : d.payload = w.stagingClaimed.payload) (visits : d.visits = w.visits) (more : w.fresh < d.fresh)
    (parents : d.destinationParent = w.destinationParent ∧ d.evidenceParent = w.evidenceParent)
    (area : d.area = { w.area with
      staging := some w.fresh, folders := Function.update w.area.folders w.fresh (some folder) })
    (unworked : whole → Unworked old.mark folder) : Working accepts d old inode whole := by
  have ready : Ready accepts { w with payload := w.stagingClaimed.payload } old inode :=
    working.ready.revise rfl rfl rfl rfl
  have claims : Claims d.payload w.fresh .staging none := by
    rw [payload]
    exact claims_staging working.state rfl reserved.2.2 rfl
  have there : d.area.folders w.fresh = some folder := by
    rw [area]
    exact Function.update_self ..
  have staging : d.area.staging = some w.fresh := by rw [area]
  have destination : d.area.destination = none := by rw [area, vacant.destination]
  have quarantine : d.area.quarantine = none := by rw [area, vacant.quarantine]
  refine ⟨ready.work journal payload visits (Nat.le_of_lt more) parents, ?_, working.stateOld, claims.state,
    fun holds => ?_, ?_⟩
  · rw [payload]
    have returns := working.valid.2.2.2
    rw [working.state] at returns
    exact claims_valid .staging working.valid.1 returns working.state nofun rfl reserved.2.2 rfl
  · exact .made working.stateOld reservedOld w.fresh folder staging there (unworked holds) destination quarantine more
  · refine .claimed w.fresh .staging none claims ⟨staging, destination, quarantine, fun _ => ?_, nofun, nofun, more⟩
    rw [there]
    rfl

theorem Working.stagingMarked (mark : Option Mark) (complete : whole → mark = some w.payload.mark) :
    Working accepts (w.stagingMarked mark) old inode whole := by
  refine working.stagingHolds reserved reservedOld vacant { marker := some ⟨w.fresh + 1, mark⟩ } rfl rfl rfl ?_
    ⟨rfl, rfl⟩ ?_ fun holds => .inr ⟨w.fresh + 1, ?_⟩
  · change w.fresh < w.fresh + 1 + 1
    omega
  · simp [World.stagingMarked, World.stagingClaimed, World.stagingMade]
  · rw [complete holds, working.ready.mark]

theorem Working.stagingClaimed : Working accepts w.stagingClaimed old inode True :=
  working.stagingHolds reserved reservedOld vacant {} rfl rfl rfl (Nat.lt_succ_self _) ⟨rfl, rfl⟩ rfl
    fun _ => .inl rfl

theorem stagingMarked_stage {w' : World} {inode' : Nat} (mark : Option Mark)
    (written : Written accepts (w.stagingMarked mark) w' inode') :
    Stage Regime.crashing accepts w' w'.payload inode' w.fresh .staging none := by
  have marked : Working accepts (w.stagingMarked mark) old inode False :=
    working.stagingMarked reserved reservedOld vacant mark nofun
  have claims : Claims (w.stagingMarked mark).payload w.fresh .staging none :=
    claims_staging working.state rfl reserved.2.2 rfl
  refine Stage.written claims ⟨rfl, vacant.destination, vacant.quarantine, fun _ => ?_, nofun, nofun, ?_⟩ marked.valid
    written
  · simp [World.stagingMarked]
  · change w.fresh < w.fresh + 1 + 1
    omega

end Claiming

/-- The tree's folder changed, and nothing else that the transaction relies on. -/
theorem Stage.refolder (stage : Stage regime accepts w old inode tree spot none) (folder : Folder)
    (removals : List Removal) :
    Stage regime accepts { w.setFolder tree folder with removals } old inode tree spot none := by
  refine ⟨stage.ready.work rfl rfl rfl (Nat.le_refl _) ⟨rfl, rfl⟩, stage.valid, stage.stateOld, stage.claimsOld,
    stage.claims, ?_⟩
  refine ⟨stage.placed.staging, stage.placed.destination, stage.placed.quarantine, fun _ => ?_, nofun,
    stage.placed.inside, stage.placed.bounded⟩
  simp

theorem Working.reserve (working : Working accepts w old inode True) (unclaimed : w.payload.Unclaimed)
    (vacant : w.area.Vacant) :
    Working accepts { w with payload := { w.payload with createdPaths := [.staging] } } old inode True := by
  have reserved : ({ w.payload with createdPaths := [.staging] } : Artifact).Reserved :=
    ⟨rfl, unclaimed.2.1, unclaimed.2.2⟩
  refine ⟨working.ready.revise rfl rfl rfl rfl, ⟨working.valid.1, List.nodup_singleton _, ?_, working.valid.2.2.2⟩,
    working.stateOld, working.state, working.ownedOld, .reserved working.state reserved vacant⟩
  change Artifact.Guards _ w.payload.state
  rw [working.state]
  exact .inl reserved

/-- The handler of a staging path that was taken. -/
def Refuses (setting : Setting) (regime : Regime Failure) (past : List Point) (left : List Point → World → Prop) :
    Prop :=
  ∀ d old inode, Working setting.accepts d old inode True → d.payload.Reserved → d.area.Vacant → ∀ failure,
    Triple (fun p => (p.struck = past ++ [.makeStaging] ∧ p.disk = d) ∧ regime.after p.faults)
      (if failure = .fileExists then do
        revise fun a => { a with createdPaths := [] }
        workWrite setting
        raise (.start .stagingAppeared)
      else raise failure) (fun (_ : Unit) _ => False) (regime.stops left)

section Reserving

variable (covers : Covers setting.accepts past left) (updates : Updates setting regime past left)
  (refuses : Refuses setting regime past left)

include covers updates refuses

theorem reserveStaging_runs (working : Working setting.accepts w old inode True) (unclaimed : w.payload.Unclaimed)
    (vacant : w.area.Vacant) :
    Triple (regime.exactly past w) (reserveStaging setting)
      (fun _ p => ∃ d inode', (Working setting.accepts d d.payload inode' True ∧ d.payload.Reserved ∧ d.area.Vacant) ∧
        regime.exactly past d.stagingMade p)
      (regime.stops left) := by
  refine exactly_revise (updates.then (working.reserve unclaimed vacant) fun d inode' written held => ?_)
  have reserved : d.payload.Reserved := by
    rw [written.payload]
    exact ⟨rfl, unclaimed.2.1, unclaimed.2.2⟩
  have empty : d.area.Vacant := by
    rw [written.area]
    exact vacant
  refine Regime.handled (fun struck reached => struck = past ++ [.makeStaging] ∧ reached = d)
    ((exactly_stepped () d.stagingMade held.ready.alone ?_ ⟨rfl, rfl⟩).conclude ?_ fun _ _ => id) ?_ ?_
  · simp [World.stagingMade, empty.staging, require, bind, Except.bind, pure, Except.pure]
  · rintro _ p ⟨-, under⟩
    exact ⟨d, inode', ⟨held, reserved, empty⟩, under⟩
  · rintro - struck _ ⟨rfl, rfl⟩
    exact covers.working held rfl
  · intro failure
    exact (refuses d d.payload inode' held reserved empty failure).conclude (fun _ _ => False.elim) fun _ _ => id

theorem claimStaging_runs (working : Working setting.accepts w old inode True) (unclaimed : w.payload.Unclaimed)
    (vacant : w.area.Vacant) :
    Triple (regime.exactly past w) (claimStaging setting)
      (fun claimed => Under regime.before past fun d => ∃ old' inode',
        Stage Regime.crashing setting.accepts d old' inode' claimed .staging none)
      (regime.stops left) := by
  refine Triple.bind (reserveStaging_runs covers updates refuses working unclaimed vacant) fun _ => ?_
  refine Triple.choose fun d => Triple.choose fun inode' => Triple.assume fun ⟨held, reserved, empty⟩ => ?_
  have made := held.stagingMade reserved reserved empty
  have claimed := held.stagingClaimed reserved reserved empty
  have marked : Working setting.accepts (d.stagingMarked (some d.payload.mark)) d.payload inode' True :=
    held.stagingMarked reserved reserved empty _ fun _ => rfl
  refine exactly_look d.fresh made.ready.alone rfl (covers.working made rfl) (exactly_revise ?_)
  refine exactly_settle claimed.ready.alone (covers.working claimed rfl) ?_
  have marker : Triple (regime.exactly past d.stagingClaimed) (writeMarker .staging)
      (fun _ => regime.exactly past (d.stagingMarked (some d.payload.mark))) (regime.stops left) := by
    refine writeMarker_runs claimed.ready.alone rfl ?_ (covers.working claimed rfl) ?_ (covers.working marked rfl)
    · simp [World.stagingClaimed, World.stagingMade]
    · exact covers (.fillMarker .staging) _ _ _ rfl (held.stagingMarked reserved reserved empty none nofun)
  refine Triple.bind marker fun _ => updates.then marked fun d' inode'' written _ => ?_
  have stage := stagingMarked_stage held reserved reserved empty _ written
  have content : d'.area.folders d.fresh = some { marker := some ⟨d.fresh + 1, some d.payload.mark⟩ } := by
    rw [written.area]
    simp [World.stagingMarked]
  have staging : d'.area.staging = some d.fresh := stage.placed.staging
  have unmarked := stage.refolder {} (d'.removals ++ [.file (d.fresh + 1)])
  refine exactly_step () { d'.setFolder d.fresh {} with removals := d'.removals ++ [.file (d.fresh + 1)] }
    stage.ready.alone ?_ (covers.stage stage rfl) ?_
  · simp [staging, content, pure, Except.pure]
  refine exactly_settle unmarked.ready.alone (covers.stage unmarked rfl) ?_
  exact Triple.pure fun p under => ⟨under.1, under.2.1, _, inode'', under.2.2 ▸ unmarked⟩

end Reserving

section Building

/-- The staging tree is claimed, in the journal and in the payload. -/
def Staged (accepts : Inputs → Bool) (tree : Nat) (d : World) : Prop :=
  ∃ old inode, Stage Regime.crashing accepts d old inode tree .staging none

/-- The world where a command or an outer check failed. -/
def Fell (setting : Setting) (d : World) : Prop :=
  setting.Fails ∧ ∃ old inode, Rollable Regime.crashing setting.accepts d old inode

theorem Staged.edit {d : World} (staged : Staged accepts tree d) (edit : Folder → Folder) :
    Staged accepts tree (d.editFolder tree edit) := by
  obtain ⟨old, inode, stage⟩ := staged
  obtain ⟨folder, there⟩ := Option.isSome_iff_exists.mp (stage.placed.there nofun)
  refine ⟨old, inode, ?_⟩
  unfold World.editFolder
  rw [there]
  exact stage.refolder (edit folder) d.removals

theorem Stage.append {d : World} (stage : Stage regime accepts d old inode tree spot none) (name : ResultName)
    (returncode : Int) :
    Stage regime accepts { d with payload := d.payload.append name returncode } old inode tree spot none :=
  ⟨stage.ready.revise rfl rfl rfl rfl, stage.valid, stage.stateOld, stage.claimsOld,
    ⟨stage.claims.state, stage.claims.tree, stage.claims.some, stage.claims.quarantine⟩, stage.placed⟩

variable (covers : Covers setting.accepts past left) (updates : Updates setting regime past left)

include covers

theorem runCommand_runs (number : Nat) (command : Command) (counts : command.failure ≠ none → setting.Fails) :
    Triple (Under regime.before past (Staged setting.accepts tree)) (runCommand number command)
      (fun _ => Under regime.before past (Staged setting.accepts tree))
      (Falls regime past left (Fell setting)) := by
  have ran {edit : World → Except Failure (Unit × World)}
      (edits : ∀ d, d.area.staging = some tree → edit d =
        .ok ((), d.editFolder tree fun folder => { folder with entries := folder.entries ++ command.leaves })) :
      Triple (Under regime.before past (Staged setting.accepts tree)) (step (.command number) edit)
        (fun _ => Under regime.before past (Staged setting.accepts tree)) (regime.stops left) := by
    refine Regime.from_each fun d staged => ?_
    obtain ⟨old, inode, stage⟩ := staged
    have staging : d.area.staging = some tree := stage.placed.staging
    refine (exactly_stepped () (d.editFolder tree fun folder =>
      { folder with entries := folder.entries ++ command.leaves }) stage.ready.alone (edits d staging)
        (covers.stage stage rfl)).conclude ?_ fun _ _ => id
    rintro _ p ⟨-, under⟩
    exact ⟨under.1, under.2.1, under.2.2 ▸ Staged.edit ⟨old, inode, stage⟩ _⟩
  refine Triple.bind ((ran fun d staging => ?_).fallback fun _ _ => .inl) fun _ => ?_
  · rw [staging]
    rfl
  have appended : Triple (Under regime.before past (Staged setting.accepts tree))
      (revise fun a => a.append (.command number) (command.failure.elim 0 Failure.returncode))
      (fun _ => Under regime.before past (Staged setting.accepts tree)) (Falls regime past left (Fell setting)) := by
    refine assign_triple fun p under => ?_
    obtain ⟨starts, struck, old, inode, stage⟩ := under
    exact ⟨starts, struck, old, inode, stage.append _ _⟩
  refine Triple.bind appended fun _ => ?_
  cases failed : command.failure with
  | none => exact Triple.pure fun _ => id
  | some failure =>
    refine raise_triple fun p under => .inr ⟨by simp, under.1, under.2.1, counts ?_, ?_⟩
    · rw [failed]
      simp
    · obtain ⟨old, inode, stage⟩ := under.2.2
      exact ⟨old, inode, .claimed tree .staging stage Spot.staging_public⟩

include updates

omit covers in
theorem staged_update :
    Triple (Under regime.before past (Staged setting.accepts tree)) (workWrite setting)
      (fun _ => Under regime.before past (Staged setting.accepts tree)) (regime.stops left) := by
  refine Regime.from_each fun d staged => ?_
  obtain ⟨old, inode, stage⟩ := staged
  refine (updates d old inode stage.working).conclude ?_ fun _ _ => id
  rintro _ p ⟨d', inode', written, under⟩
  exact ⟨under.1, under.2.1, _, inode', under.2.2 ▸ Stage.written stage.claims stage.placed stage.valid written⟩

theorem materialize_runs (repository : Nat) :
    Triple (Under regime.before past (Staged setting.accepts tree)) (materialize setting repository)
      (fun _ => Under regime.before past (Staged setting.accepts tree))
      (Falls regime past left (Fell setting)) := by
  refine Triple.bind (forM_invariant fun command member => ?_) fun _ =>
    (staged_update updates).fallback fun _ _ => .inl
  exact runCommand_runs covers repository command fun failed => .inr (.inr ⟨repository, command, member, failed⟩)

/-- The tree stands at the destination, and the payload says so. -/
def Published (accepts : Inputs → Bool) (tree : Nat) (d : World) : Prop :=
  ∃ old inode, Stage Regime.crashing accepts d old inode tree .destination none ∧
    d.payload.createdPaths = [.destination]

theorem publishDestination_runs :
    Triple (Under regime.before past (Staged setting.accepts tree)) (publishDestination setting tree)
      (fun _ => Under regime.before past (Published setting.accepts tree)) (regime.stops left) := by
  refine Regime.from_each fun d staged => ?_
  obtain ⟨old, inode, stage⟩ := staged
  have staging : d.area.staging = some tree := stage.placed.staging
  have destination : d.area.destination = none := stage.placed.destination
  have outside : Spot.staging ≠ .gone := by decide
  have there := stage.placed.there outside
  let renamed : World := (d.setStaging none).setDestination (some tree)
  have moved {a : Artifact} (claims : Claims a tree .staging none) : Claims a tree .destination none := by
    obtain ⟨unrecorded, unlisted, -⟩ := claims.unrecorded Spot.staging_public
    exact ⟨claims.state, claims.tree, claims.some, .inl ⟨unrecorded, unlisted, .inr rfl⟩⟩
  have stage' : Stage Regime.crashing setting.accepts renamed old inode tree .destination none :=
    ⟨stage.ready.work rfl rfl rfl (Nat.le_refl _) ⟨rfl, rfl⟩, stage.valid, stage.stateOld,
      fun dies => moved (stage.claimsOld dies), moved stage.claims,
      ⟨rfl, rfl, stage.placed.quarantine, fun _ => there, (by simp), (by simp), stage.placed.bounded⟩⟩
  refine exactly_look () stage.ready.alone ?_ (covers.stage stage rfl) ?_
  · simp [require, destination, World.sameFolder, staging, there, bind, Except.bind]
  refine exactly_step () renamed stage.ready.alone ?_ (covers.stage stage rfl) ?_
  · simp [require, destination, staging, renamed, bind, Except.bind, pure, Except.pure]
  refine exactly_settle stage'.ready.alone (covers.stage stage' rfl) ?_
  refine exactly_look () stage'.ready.alone ?_ (covers.stage stage' rfl) (exactly_revise ?_)
  · simp [require, World.sameFolder, renamed, there]
  have claims : Claims { d.payload with createdPaths := [.destination] } tree .destination none :=
    ⟨stage.claims.state, stage.claims.tree, (by simp),
      .inl ⟨(stage.claims.unrecorded Spot.staging_public).1, by simp, .inr rfl⟩⟩
  have returns := stage.valid.2.2.2
  rw [stage.claims.state] at returns
  have recorded : Stage Regime.crashing setting.accepts
      { renamed with payload := { d.payload with createdPaths := [.destination] } } old inode tree .destination none :=
    ⟨stage'.ready.revise rfl rfl rfl rfl,
      claims_valid .destination stage.valid.1 returns stage.claims.state (by simp) rfl
        (stage.claims.unrecorded Spot.staging_public).1
        stage.claims.tree,
      stage'.stateOld, stage'.claimsOld, claims, stage'.placed⟩
  refine (updates _ old inode recorded.working).conclude ?_ fun _ _ => id
  rintro _ p ⟨d', inode', written, under⟩
  refine ⟨under.1, under.2.1, d'.payload, inode', ?_⟩
  rw [under.2.2]
  refine ⟨Stage.written recorded.claims recorded.placed recorded.valid written, ?_⟩
  rw [written.payload]
  rfl

end Building

/-- The journal write that commits. -/
def Commits (setting : Setting) (regime : Regime Failure) (past : List Point) (left : List Point → World → Prop) :
    Prop :=
  ∀ d old inode tree, Stage Regime.crashing setting.accepts d old inode tree .destination none →
    d.payload.createdPaths = [.destination] →
    Triple (regime.exactly past { d with payload := commitPayload d.payload })
      (durableWrite setting.accepts (.journal .commit))
      (fun _ p => ∃ d' inode', Written setting.accepts { d with payload := commitPayload d.payload } d' inode' ∧
        regime.exactly past d' p)
      (regime.stops left)

/-- The journal's artifact is committed, and the destination is there. -/
def Committed (accepts : Inputs → Bool) (d : World) : Prop :=
  d.payload.state = .committed ∧ (∃ inode, Ready accepts d d.payload inode) ∧
    ∃ tree, d.payload.destinationIdentity = some tree ∧ d.sameFolder d.area.destination tree = true

theorem commitPayload_valid {a : Artifact} (valid : a.Valid accepts) (paths : a.createdPaths = [.destination])
    (quarantine : a.quarantineIdentity = none) (identity : a.destinationIdentity = some tree) :
    (commitPayload a).Valid accepts := by
  refine ⟨valid.1, ?_, ⟨paths, ?_, quarantine⟩, nofun⟩
  · change a.createdPaths.Nodup
    rw [paths]
    exact List.nodup_singleton _
  · change a.destinationIdentity ≠ none
    rw [identity]
    nofun

theorem optional_look {failure : Option Failure} {holds : World → Prop} {point : Point}
    (alone : ∀ d, holds d → d.visits = none)
    (safe : ∀ d, holds d → left (past ++ [point]) d) (fell : ∀ d, holds d → failure ≠ none → Fell setting d) :
    Triple (Under regime.before past holds) (look point fun _ => optional failure)
      (fun _ => Under regime.before past holds) (Falls regime past left (Fell setting)) := by
  cases failed : failure with
  | none =>
    refine Triple.fallback ?_ fun _ _ => .inl
    refine Regime.from_each fun d held => ?_
    refine (exactly_looked () (alone d held) rfl (safe d held)).conclude ?_ fun _ _ => id
    exact fun _ p under => ⟨under.2.1, under.2.2.1, under.2.2.2 ▸ held⟩
  | some failure =>
    refine step_triple (fun p under => alone p.disk under.2.2) (act_triple ?_ ?_ ?_)
    · exact fun p fault under head => .inl (Regime.strikes safe under head)
    · rintro p _ _ _ same
      cases same
    · rintro p error under -
      refine .inr ⟨nofun, regime.tail under.1, under.2.1, fell p.disk under.2.2 ?_⟩
      rw [failed]
      nofun

theorem commit_runs (commits : Commits setting regime past left) :
    Triple (Under regime.before past (Published setting.accepts tree)) (do
      revise commitPayload
      durableWrite setting.accepts (.journal .commit)
      payload)
      (fun a => Under regime.before past fun d => a = d.payload ∧ Committed setting.accepts d) (regime.stops left) := by
  refine Regime.from_each fun d published => ?_
  obtain ⟨old, inode, stage, paths⟩ := published
  have destination : d.area.destination = some tree := stage.placed.destination
  have there := stage.placed.there nofun
  refine exactly_revise (Triple.bind (commits d old inode tree stage paths) fun _ => ?_)
  refine Triple.choose fun d' => Triple.choose fun inode' => Triple.assume fun written => ?_
  refine exactly_payload (Triple.pure fun p under => ⟨under.1, under.2.1, ?_⟩)
  rw [under.2.2]
  refine ⟨rfl, ?_, ⟨inode', written.ready⟩, tree, ?_, ?_⟩
  · rw [written.payload]
    rfl
  · rw [written.payload]
    exact stage.claims.tree
  · unfold World.sameFolder
    rw [written.area]
    simp [destination, there]

/-- The forward path commits, or it stops where the handler can take it back. -/
theorem forward_runs (covers : Covers setting.accepts past left) (updates : Updates setting regime past left)
    (refuses : Refuses setting regime past left) (commits : Commits setting regime past left)
    (working : Working setting.accepts w old inode True) (unclaimed : w.payload.Unclaimed) (vacant : w.area.Vacant) :
    Triple (regime.exactly past w) (forward setting)
      (fun a => Under regime.before past fun d => a = d.payload ∧ Committed setting.accepts d)
      (Falls regime past left (Fell setting)) := by
  have sources : Triple (regime.exactly past w) (look .sources fun _ => optional setting.sources)
      (fun _ => regime.exactly past w) (Falls regime past left (Fell setting)) := by
    refine optional_look ?_ ?_ ?_
    · rintro _ rfl
      exact working.ready.alone
    · rintro _ rfl
      exact covers.working working rfl
    · rintro _ rfl failed
      exact ⟨.inl failed, old, inode, .nothing working.ready working.valid unclaimed.2 vacant working.ownedOld
        (.inr working.stateOld)⟩
  refine Triple.bind sources fun _ => ?_
  refine Triple.bind ((claimStaging_runs covers updates refuses working unclaimed vacant).fallback fun _ _ => .inl)
    fun tree => ?_
  refine reads_bind_triple World.payload (fun _ _ => rfl) fun a => ?_
  refine Triple.bind (Triple.strengthen (forM_invariant fun repository _ =>
    materialize_runs covers updates repository) fun _ => And.right) fun _ => ?_
  have closure : Triple (Under regime.before past (Staged setting.accepts tree))
      (look .closure fun _ => optional setting.closure)
      (fun _ => Under regime.before past (Staged setting.accepts tree)) (Falls regime past left (Fell setting)) := by
    refine optional_look ?_ ?_ ?_
    · rintro d ⟨_, _, stage⟩
      exact stage.ready.alone
    · rintro d ⟨_, _, stage⟩
      exact covers.stage stage rfl
    · rintro d ⟨old, inode, stage⟩ failed
      exact ⟨.inr (.inl failed), old, inode, .claimed tree .staging stage nofun⟩
  refine Triple.bind closure fun _ => Triple.fallback ?_ fun _ _ => .inl
  refine Triple.bind (staged_update updates) fun _ => ?_
  exact Triple.bind (publishDestination_runs covers updates) fun _ => commit_runs commits

/-- The forward path where no step of it raises of itself. -/
theorem forward_silent (silent : ∀ faults, ¬regime.after faults) (working : Working setting.accepts w old inode True)
    (unclaimed : w.payload.Unclaimed) (vacant : w.area.Vacant) :
    Triple (regime.exactly past w) (forward setting)
      (fun a => Under regime.before past fun d => a = d.payload ∧ Committed setting.accepts d)
      (Falls regime past (Outside regime setting.accepts) (Fell setting)) := by
  have covers : Covers setting.accepts past (Outside regime setting.accepts) := by
    intro point d old inode _ working _ calm
    refine working.ready.recoverable (working.ownedOld ?_)
    exact calm point (List.mem_append_right _ (List.mem_singleton_self _))
  have updates : Updates setting regime past (Outside regime setting.accepts) :=
    fun d old inode working => durableWrite_written silent .working working.ready working.valid
      working.transition (fun _ => working.ownedOld True.intro) fun _ => working.owned
  have refuses : Refuses setting regime past (Outside regime setting.accepts) :=
    fun d old inode _ _ _ failure p still => absurd still.2 (silent _)
  have commits : Commits setting regime past (Outside regime setting.accepts) := by
    intro d old inode tree stage paths
    have unrecorded := (stage.claims.unrecorded nofun).1
    have ready := stage.ready.revise (a := commitPayload d.payload) rfl rfl rfl rfl
    refine durableWrite_written silent .commit ready
      (commitPayload_valid stage.valid paths unrecorded stage.claims.tree) ?_ (fun _ => stage.ownedOld True.intro)
      fun _ => ?_
    · rw [stage.stateOld]
      rfl
    · exact .committed rfl tree stage.claims.tree stage.placed.destination (stage.placed.there nofun)
  exact forward_runs covers updates refuses commits working unclaimed vacant

section Abandoning

/-- What a transaction needs where the process can die is enough where it cannot. -/
theorem Stage.under {vault : Option Vault} (stage : Stage Regime.crashing accepts w old inode tree spot vault) :
    Stage regime accepts w old inode tree spot vault :=
  ⟨stage.ready, stage.valid, stage.stateOld, fun _ => stage.claimsOld True.intro, stage.claims, stage.placed⟩

theorem Rollable.under (rollable : Rollable Regime.crashing accepts w old inode) :
    Rollable regime accepts w old inode := by
  cases rollable with
  | nothing ready valid unclaimed vacant owned state =>
    exact .nothing ready valid unclaimed vacant (fun _ => owned True.intro) state
  | made ready valid stateOld owned state reserved tree folder staging content unworked destination
      quarantine bounded =>
    exact .made ready valid stateOld (fun _ => owned True.intro) state reserved tree folder staging content unworked
      destination quarantine bounded
  | claimed tree spot stage isPublic => exact .claimed tree spot stage.under isPublic
  | vaulted tree spot v stage unrecorded => exact .vaulted tree spot v stage.under unrecorded
  | recorded tree spot v stage recordedOld recorded =>
    exact .recorded tree spot v stage.under (fun _ => recordedOld True.intro) recorded
  | gone tree stage => exact .gone tree stage.under

/-- The journal's artifact is rolled back, and nothing is left. -/
def RolledBack (accepts : Inputs → Bool) (d : World) : Prop :=
  d.payload.state = .rolledBack ∧ d.area.Vacant ∧ ∃ inode, Ready accepts d d.payload inode

/-- The handler of the forward path, from where a rollback goes through. -/
theorem abandon_runs (silent : ∀ faults, ¬regime.after faults) (rollable : Rollable regime setting.accepts w old inode)
    (failure : Failure) :
    Triple (regime.exactly past w) (abandon setting failure)
      (fun _ => Under regime.before past (RolledBack setting.accepts))
      (Falls regime past (Outside regime setting.accepts) (RolledBack setting.accepts)) := by
  refine Triple.bind ((tryRollback_runs silent rollable).fallback fun _ _ => .inl) fun ended => ?_
  rintro p ⟨starts, struck, rfl, old', inode', finished⟩
  have ending : Triple (regime.exactly past p.disk) (do
      revise (rolledBackPayload .startTransaction failure.returncode)
      durableWrite setting.accepts (.journal .ending))
      (fun _ => Under regime.before past (RolledBack setting.accepts))
      (regime.stops (Outside regime setting.accepts)) :=
    exactly_revise (endRollback_runs silent finished _ _)
  have ended : Triple (regime.exactly past p.disk) ((do
      revise (rolledBackPayload .startTransaction failure.returncode)
      durableWrite setting.accepts (.journal .ending)) >>= fun _ =>
        if failure.handled then payload else raise failure)
      (fun _ => Under regime.before past (RolledBack setting.accepts))
      (Falls regime past (Outside regime setting.accepts) (RolledBack setting.accepts)) := by
    refine Triple.bind (ending.fallback fun _ _ => .inl) fun _ => ?_
    split
    case isTrue => exact fun p under => under
    case isFalse => exact raise_triple fun p under => .inr ⟨nofun, under⟩
  rw [bind_assoc] at ended
  exact ended p ⟨starts, struck, rfl⟩

end Abandoning

end Steps

end Darling.Start
