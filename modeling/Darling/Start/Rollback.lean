import Darling.Start.Ownership

/-! The rollback, run from every configuration a stopped transaction can be in: it ends with nothing of the
transaction left, and a crash outside the windows leaves a configuration it can be run from again. -/
namespace Darling.Start

variable {accepts : Inputs → Bool} {regime : Regime Failure} {past : List Point} {w : World} {old : Artifact}
  {inode tree : Nat} {spot : Spot} {vault : Option Vault}

theorem write_then {β : Type} {next : Unit → StartM β} {post : β → Assertion (Process Point Failure World)}
    (silent : ∀ faults, ¬regime.after faults) (write : Write) (ready : Ready accepts w old inode)
    (valid : w.payload.Valid accepts) (transition : validTransition old.state w.payload.state = true)
    (ownedOld : regime.dies → Owned old w.area w.fresh) (ownedNew : regime.dies → Owned w.payload w.area w.fresh)
    (rest : ∀ w' inode', Written accepts w w' inode' →
      Triple (regime.exactly past w') (next ()) post (regime.stops (Outside regime accepts))) :
    Triple (regime.exactly past w) (durableWrite accepts (.journal write) >>= next) post
      (regime.stops (Outside regime accepts)) := by
  refine Triple.bind (durableWrite_written silent write ready valid transition ownedOld ownedNew) fun _ => ?_
  rintro p ⟨w', inode', written, under⟩
  exact rest w' inode' written p under

/-- The payload and the journal claim the tree where it is. -/
structure Stage (regime : Regime Failure) (accepts : Inputs → Bool) (w : World) (old : Artifact)
    (inode tree : Nat) (spot : Spot)
    (vault : Option Vault) : Prop where
  ready : Ready accepts w old inode
  valid : w.payload.Valid accepts
  stateOld : old.state = .active
  claimsOld : regime.dies → Claims old tree spot vault
  claims : Claims w.payload tree spot vault
  placed : Placed w.area w.fresh w.payload.mark tree spot vault

namespace Stage

theorem ownedOld (stage : Stage regime accepts w old inode tree spot vault) (dies : regime.dies) :
    Owned old w.area w.fresh := by
  refine .claimed tree spot vault (stage.claimsOld dies) ?_
  rw [stage.ready.mark]
  exact stage.placed

theorem owned (stage : Stage regime accepts w old inode tree spot vault) : Owned w.payload w.area w.fresh :=
  .claimed tree spot vault stage.claims stage.placed

theorem outside (stage : Stage regime accepts w old inode tree spot vault) (struck : List Point) :
    Outside regime accepts struck w :=
  fun dies _ => stage.ready.recoverable (stage.ownedOld dies)

theorem transition (stage : Stage regime accepts w old inode tree spot vault) :
    validTransition old.state w.payload.state = true := by
  rw [stage.stateOld, stage.claims.state]
  rfl

theorem written {w' : World} {inode' : Nat} (claims : Claims w.payload tree spot vault)
    (placed : Placed w.area w.fresh w.payload.mark tree spot vault) (valid : w.payload.Valid accepts)
    (written : Written accepts w w' inode') : Stage regime accepts w' w'.payload inode' tree spot vault := by
  have same : Claims w'.payload tree spot vault := by
    rw [written.payload]
    exact ⟨claims.state, claims.tree, claims.some, claims.quarantine⟩
  refine ⟨written.ready, ?_, same.state, fun _ => same, same, ?_⟩
  · rw [written.payload]
    exact valid
  · rw [written.area, written.payload]
    exact placed.mono written.more

end Stage

/-- Nothing is left, and the journal is at rest. -/
structure Finished (regime : Regime Failure) (accepts : Inputs → Bool) (w : World) (old : Artifact)
    (inode : Nat) : Prop where
  ready : Ready accepts w old inode
  vacant : w.area.Vacant
  owned : regime.dies → Owned old w.area w.fresh
  state : old.state = .planned ∨ old.state = .active

section Emptying

variable {v : Vault}

theorem Stage.editTree (stage : Stage regime accepts w old inode tree .inside (some v)) (edit : Folder → Folder) :
    Stage regime accepts ((w.editFolder tree edit).pruned tree) old inode tree .inside (some v) := by
  obtain ⟨folder, there⟩ := Option.isSome_iff_exists.mp (stage.placed.there nofun)
  have same : w.editFolder tree edit = w.setFolder tree (edit folder) := by
    unfold World.editFolder
    rw [there]
  obtain ⟨content, apart, small⟩ := stage.placed.content v rfl
  rw [same]
  refine ⟨stage.ready.work rfl rfl rfl (Nat.le_refl _) ⟨rfl, rfl⟩, stage.valid, stage.stateOld, stage.claimsOld,
    stage.claims, ?_⟩
  refine ⟨stage.placed.staging, stage.placed.destination, stage.placed.quarantine, ?_, ?_, stage.placed.inside,
    stage.placed.bounded⟩
  · intro _
    simp
  · rintro other same
    cases same
    refine ⟨?_, apart, small⟩
    simpa [apart] using content

theorem Stage.recorded (stage : Stage regime accepts w old inode tree spot (some v))
    (notPublic : spot ≠ .staging ∧ spot ≠ .destination)
    (spot' : Spot) (vault' : Option Vault) (still : vault' = some v ∨ vault' = none ∧ spot' = .gone) :
    (regime.dies → Claims old tree spot' vault') ∧ Claims w.payload tree spot' vault' := by
  have moved {a : Artifact} (claims : Claims a tree spot (some v)) : Claims a tree spot' vault' := by
    refine ⟨claims.state, claims.tree, claims.some, .inr ?_⟩
    rcases claims.quarantine with ⟨-, -, atStaging | atDestination⟩ | ⟨listed, q, identity,
      ⟨other, same, isQ⟩ | ⟨same, -⟩⟩
    · exact absurd atStaging notPublic.1
    · exact absurd atDestination notPublic.2
    · cases same
      refine ⟨listed, q, identity, ?_⟩
      rcases still with same | gone
      · exact .inl ⟨v, same, isQ⟩
      · exact .inr gone
    · cases same
  exact ⟨fun dies => moved (stage.claimsOld dies), moved stage.claims⟩

/-- The tree's directory goes. -/
theorem Stage.removeTree (stage : Stage regime accepts w old inode tree .inside (some v)) :
    Stage regime accepts (((w.editFolder v.inode fun folder => { folder with owned := none }).dropFolder tree).pruned
      tree) old inode tree .gone (some v) := by
  obtain ⟨content, apart, small⟩ := stage.placed.content v rfl
  have same : (w.editFolder v.inode fun folder => { folder with owned := none }) =
      w.setFolder v.inode (v.folder w.payload.mark none) := by
    unfold World.editFolder
    rw [content]
    rfl
  obtain ⟨claimsOld, claims⟩ := stage.recorded ⟨nofun, nofun⟩ .gone (some v) (.inl rfl)
  rw [same]
  refine ⟨stage.ready.work rfl rfl rfl (Nat.le_refl _) ⟨rfl, rfl⟩, stage.valid, stage.stateOld, claimsOld,
    claims, ?_⟩
  refine ⟨stage.placed.staging, stage.placed.destination, stage.placed.quarantine, nofun, ?_, nofun,
    stage.placed.bounded⟩
  rintro other same
  cases same
  refine ⟨?_, apart, small⟩
  simp [apart]

theorem change_under {point : Point} {apply : World → World} {before after : World → Prop}
    (alone : ∀ w, before w → w.visits = none) (safe : ∀ w, before w → Outside regime accepts (past ++ [point]) w)
    (goes : ∀ w, before w → after (apply w)) :
    Triple (Under regime.before past before) (change point apply) (fun _ => Under regime.before past after)
      (regime.stops (Outside regime accepts)) := by
  refine Regime.from_each fun w held => ?_
  refine (exactly_stepped () (apply w) (alone w held) rfl (safe w held)).conclude (fun _ p under => ?_) fun _ _ => id
  exact ⟨under.2.1, under.2.2.1, under.2.2.2 ▸ goes w held⟩

theorem removeTree_runs (stage : Stage regime accepts w old inode tree .inside (some v)) :
    Triple (regime.exactly past w) (removeTree v.inode)
      (fun _ => Under regime.before past fun w' => Stage regime accepts w' old inode tree .gone (some v))
      (regime.stops (Outside regime accepts)) := by
  have owns {w' : World} (held : Stage regime accepts w' old inode tree .inside (some v)) :
      (w'.area.folders v.inode).bind Folder.owned = some tree := by
    rw [(held.placed.content v rfl).1]
    rfl
  obtain ⟨folder, there⟩ := Option.isSome_iff_exists.mp (stage.placed.there nofun)
  refine exactly_look (tree, folder.entries) stage.ready.alone ?_ (stage.outside _) ?_
  · rw [owns stage]
    dsimp only
    rw [there]
    rfl
  have edited (edit : Folder → Folder) :
      Triple (Under regime.before past fun w => Stage regime accepts w old inode tree .inside (some v))
        (change .removeEntry fun w => (w.editFolder tree edit).pruned tree)
        (fun _ => Under regime.before past fun w => Stage regime accepts w old inode tree .inside (some v))
        (regime.stops (Outside regime accepts)) :=
    change_under (fun _ held => held.ready.alone) (fun _ held => held.outside _) fun _ held => held.editTree edit
  refine Triple.bind (Triple.strengthen (forM_invariant fun entry _ => edited _) fun p under => ?_) fun _ => ?_
  · exact ⟨under.1, under.2.1, under.2.2 ▸ stage⟩
  refine Triple.bind (edited _) fun _ => ?_
  refine Regime.from_each fun w' held => ?_
  refine (exactly_stepped () (((w'.editFolder v.inode fun folder => { folder with owned := none }).dropFolder
    tree).pruned tree) held.ready.alone ?_ (held.outside _)).conclude (fun _ p under => ?_) fun _ _ => id
  · rw [owns held]
    rfl
  · exact ⟨under.2.1, under.2.2.1, under.2.2.2 ▸ held.removeTree⟩

theorem removeOwned_runs (stage : Stage regime accepts w old inode tree .inside (some v)) :
    Triple (regime.exactly past w) (removeOwned v.inode tree)
      (fun _ => Under regime.before past fun w' => Stage regime accepts w' old inode tree .gone (some v))
      (regime.stops (Outside regime accepts)) := by
  obtain ⟨content, apart, small⟩ := stage.placed.content v rfl
  have there := stage.placed.there nofun
  refine exactly_look true stage.ready.alone ?_ (stage.outside _) (Regime.exactly_demand rfl ?_)
  · simp [World.sameFolder, content, Vault.folder, there, pure, Except.pure]
  refine Triple.bind (removeTree_runs stage) fun _ => Regime.from_each fun w' held => ?_
  refine (exactly_settled held.ready.alone (held.outside _)).conclude (fun _ p under => ?_) fun _ _ => id
  exact ⟨under.1, under.2.1, under.2.2 ▸ held⟩

/-- The quarantine without its marker: the name still stands. -/
def World.unmarked (w : World) (v : Vault) : World :=
  (w.setFolder v.inode {}).removed (.file v.marker)

theorem dropMarker_runs (stage : Stage regime accepts w old inode tree .gone (some v)) :
    Triple (regime.exactly past w) (dropMarker v.inode)
      (fun _ => regime.exactly past (w.unmarked v)) (regime.stops (Outside regime accepts)) := by
  obtain ⟨content, -, -⟩ := stage.placed.content v rfl
  refine exactly_payload ?_
  refine exactly_look v.marker stage.ready.alone ?_ (stage.outside _) ?_
  · simp [content, Vault.folder, require, bind, Except.bind, pure, Except.pure]
  refine exactly_step () (w.unmarked v) stage.ready.alone ?_ (stage.outside _) ?_
  · simp [content, Vault.folder, require, bind, Except.bind, pure, Except.pure, World.unmarked, World.editFolder]
  refine exactly_settled stage.ready.alone fun _ outside => ?_
  cases outside .syncDrop (List.mem_append_right _ (List.mem_singleton_self _))

theorem Stage.dropQuarantine (stage : Stage regime accepts w old inode tree .gone (some v)) :
    Stage regime accepts (((w.unmarked v).dropFolder v.inode).setQuarantine none) old inode tree .gone none := by
  obtain ⟨claimsOld, claims⟩ := stage.recorded ⟨nofun, nofun⟩ .gone none (.inr ⟨rfl, rfl⟩)
  refine ⟨stage.ready.work rfl rfl rfl (Nat.le_refl _) ⟨rfl, rfl⟩, stage.valid, stage.stateOld, claimsOld,
    claims, ?_⟩
  exact ⟨stage.placed.staging, stage.placed.destination, rfl, nofun, nofun, nofun, stage.placed.bounded⟩

theorem dropQuarantine_runs (stage : Stage regime accepts w old inode tree .gone (some v)) :
    Triple (regime.exactly past (w.unmarked v)) (dropQuarantine v.inode)
      (fun _ => Under regime.before past fun w' => Stage regime accepts w' old inode tree .gone none)
      (regime.stops (Outside regime accepts)) := by
  have window {point : Point} (isWindow : point.window = true) (w : World) :
      Outside regime accepts (past ++ [point]) w := by
    intro _ outside
    rw [outside point (List.mem_append_right _ (List.mem_singleton_self _))] at isWindow
    cases isWindow
  refine exactly_look () stage.ready.alone ?_ (window rfl _) ?_
  · simp [World.unmarked, require]
  refine exactly_step () (((w.unmarked v).dropFolder v.inode).setQuarantine none) stage.ready.alone ?_
    (window rfl _) ?_
  · have name : w.area.quarantine = some v.inode := stage.placed.quarantine
    simp [World.unmarked, require, name, bind, Except.bind, pure, Except.pure]
  have dropped := stage.dropQuarantine
  refine (exactly_settled dropped.ready.alone (dropped.outside _)).conclude (fun _ p under => ?_) fun _ _ => id
  exact ⟨under.1, under.2.1, under.2.2 ▸ dropped⟩

theorem emptyQuarantine_runs (inside : Bool) (where_ : spot = if inside then .inside else .gone)
    (stage : Stage regime accepts w old inode tree spot (some v)) :
    Triple (regime.exactly past w) (emptyQuarantine v.inode tree inside)
      (fun _ => Under regime.before past fun w' => Stage regime accepts w' old inode tree .gone none)
      (regime.stops (Outside regime accepts)) := by
  obtain ⟨content, -, -⟩ := stage.placed.content v rfl
  have name : w.area.quarantine = some v.inode := stage.placed.quarantine
  refine exactly_look () stage.ready.alone ?_ (stage.outside _) ?_
  · rw [name]
    cases inside <;> simp [where_, content, Vault.folder, require, bind, Except.bind]
  have emptied : Triple (Under regime.before past fun w' => Stage regime accepts w' old inode tree .gone (some v)) (do
      dropMarker v.inode
      dropQuarantine v.inode)
      (fun _ => Under regime.before past fun w' => Stage regime accepts w' old inode tree .gone none)
      (regime.stops (Outside regime accepts)) :=
    Regime.from_each fun w' held => Triple.bind (dropMarker_runs held) fun _ => dropQuarantine_runs held
  cases inside with
  | true =>
    subst where_
    exact Triple.bind (removeOwned_runs stage) fun _ => emptied
  | false =>
    subst where_
    exact emptied.strengthen fun p under => ⟨under.1, under.2.1, under.2.2 ▸ stage⟩

end Emptying

/-- The public path of a spot. -/
def Spot.place : Spot → Option Place
  | .staging => some .staging
  | .destination => some .destination
  | _ => none

theorem Spot.staging_public : Spot.staging.place ≠ none := Option.some_ne_none _

section Moving

variable {v : Vault} {source : Place}

/-- The world after the tree was renamed into the quarantine. -/
def World.moved (w : World) (v : Vault) (mark : Mark) (tree : Nat) : World :=
  { w with area :=
    { w.area with
      staging := none
      destination := none
      folders := Function.update w.area.folders v.inode (some (v.folder mark (some tree))) } }

theorem Stage.move (stage : Stage regime accepts w old inode tree spot (some v)) (atSource : spot.place = some source)
    (recordedOld : regime.dies → old.quarantineIdentity = some v.inode ∧ .quarantine ∈ old.createdPaths)
    (recorded : w.payload.quarantineIdentity = some v.inode ∧ .quarantine ∈ w.payload.createdPaths) :
    Stage regime accepts (w.moved v w.payload.mark tree) old inode tree .inside (some v) := by
  obtain ⟨content, apart, small⟩ := stage.placed.content v rfl
  have notGone : spot ≠ .gone := by
    rintro rfl
    cases atSource
  refine ⟨stage.ready.work rfl rfl rfl (Nat.le_refl _) ⟨rfl, rfl⟩, stage.valid, stage.stateOld,
    fun dies => ?_, ?_, ?_⟩
  · have claims := stage.claimsOld dies
    obtain ⟨identity, listed⟩ := recordedOld dies
    exact ⟨claims.state, claims.tree, claims.some, .inr ⟨listed, v.inode, identity, .inl ⟨v, rfl, rfl⟩⟩⟩
  · exact ⟨stage.claims.state, stage.claims.tree, stage.claims.some,
      .inr ⟨recorded.2, v.inode, recorded.1, .inl ⟨v, rfl, rfl⟩⟩⟩
  · refine ⟨rfl, rfl, stage.placed.quarantine, fun _ => ?_, ?_, fun _ => rfl, stage.placed.bounded⟩
    · have there := stage.placed.there notGone
      simpa [World.moved, Function.update_of_ne apart.symm] using there
    · rintro other same
      cases same
      exact ⟨Function.update_self .., apart, small⟩

theorem moveTree_moves (stage : Stage regime accepts w old inode tree spot (some v))
    (atSource : spot.place = some source) :
    ∃ apply, moveTree source = step .move apply ∧ apply w = .ok ((), w.moved v w.payload.mark tree) := by
  obtain ⟨content, -, -⟩ := stage.placed.content v rfl
  have name : w.area.quarantine = some v.inode := stage.placed.quarantine
  have staging := stage.placed.staging
  have destination := stage.placed.destination
  refine ⟨_, rfl, ?_⟩
  cases spot with
  | staging =>
    cases atSource
    simp [Area.entry, staging, name, content, destination, Vault.folder, require, bind, Except.bind, pure,
      Except.pure, World.moved]
  | destination =>
    cases atSource
    simp [Area.entry, destination, name, content, staging, Vault.folder, require, bind, Except.bind, pure,
      Except.pure, World.moved]
  | inside => cases atSource
  | gone => cases atSource

theorem quarantineTree_runs (silent : ∀ faults, ¬regime.after faults)
    (stage : Stage regime accepts w old inode tree spot (some v)) (atSource : spot.place = some source)
    (recordedOld : regime.dies → old.quarantineIdentity = some v.inode ∧ .quarantine ∈ old.createdPaths)
    (recorded : w.payload.quarantineIdentity = some v.inode ∧ .quarantine ∈ w.payload.createdPaths) :
    Triple (regime.exactly past w) (quarantineTree accepts source v.inode tree)
      (fun _ => Under regime.before past fun w' =>
        ∃ inode', Stage regime accepts w' w'.payload inode' tree .inside (some v))
      (regime.stops (Outside regime accepts)) := by
  obtain ⟨apply, same, moves⟩ := moveTree_moves stage atSource
  have moved := stage.move atSource recordedOld recorded
  obtain ⟨content, apart, -⟩ := moved.placed.content v rfl
  have there := moved.placed.there nofun
  unfold quarantineTree
  rw [same]
  refine exactly_step () (w.moved v w.payload.mark tree) stage.ready.alone moves (stage.outside _) ?_
  refine exactly_settle moved.ready.alone (moved.outside _) ?_
  refine exactly_settle moved.ready.alone (moved.outside _) ?_
  refine exactly_look true moved.ready.alone ?_ (moved.outside _) (Regime.exactly_demand rfl ?_)
  · have name : (w.moved v w.payload.mark tree).area.quarantine = some v.inode := moved.placed.quarantine
    simp [World.sameFolder, World.folder?, Area.entry, name, content, Vault.folder, there, pure, Except.pure]
  refine exactly_revise ?_
  have valid : ({ w.payload with createdPaths := [.quarantine] } : Artifact).Valid accepts := by
    refine ⟨stage.valid.1, List.nodup_singleton _, ?_, ?_⟩
    · change Artifact.Guards _ w.payload.state
      rw [stage.claims.state]
      refine .inr (.inr ⟨by simp, ?_, ?_⟩)
      · change w.payload.destinationIdentity ≠ none
        rw [stage.claims.tree]
        nofun
      · change _ ↔ w.payload.quarantineIdentity ≠ none
        rw [recorded.1]
        simp
    · exact stage.valid.2.2.2
  have ready := moved.ready.revise (a := { w.payload with createdPaths := [.quarantine] }) rfl rfl rfl rfl
  have claims : Claims { w.payload with createdPaths := [.quarantine] } tree .inside (some v) :=
    ⟨stage.claims.state, stage.claims.tree, by simp, .inr ⟨by simp, v.inode, recorded.1, .inl ⟨v, rfl, rfl⟩⟩⟩
  refine (durableWrite_written silent .rollback ready valid ?_ moved.ownedOld
    fun _ => .claimed tree .inside (some v) claims moved.placed).conclude ?_ fun _ _ => id
  · exact stage.transition
  · rintro _ p ⟨w', inode', written, under⟩
    have held : Stage regime accepts w' w'.payload inode' tree .inside (some v) :=
      Stage.written (w := { w.moved v w.payload.mark tree with
        payload := { w.payload with createdPaths := [.quarantine] } }) claims moved.placed valid written
    exact ⟨under.1, under.2.1, under.2.2 ▸ ⟨inode', held⟩⟩

end Moving

section Creating

/-- A claim on a tree at a public path whose quarantine is not recorded. -/
theorem Claims.unrecorded {a : Artifact} (claims : Claims a tree spot none) (isPublic : spot.place ≠ none) :
    a.quarantineIdentity = none ∧ .quarantine ∉ a.createdPaths ∧ (spot = .staging ∨ spot = .destination) := by
  rcases claims.quarantine with unrecorded | ⟨-, _, -, ⟨_, same, -⟩ | ⟨-, rfl⟩⟩
  · exact unrecorded
  · cases same
  · exact absurd rfl isPublic

theorem Claims.unrecorded_any {a : Artifact} (claims : Claims a tree spot none) (isPublic : spot.place ≠ none)
    (vault : Option Vault) : Claims a tree spot vault :=
  ⟨claims.state, claims.tree, claims.some, .inl (claims.unrecorded isPublic)⟩

theorem mem_addCreated (place : Place) (paths : List Place) : place ∈ addCreated place paths := by
  unfold addCreated
  split
  · assumption
  · simp

/-- The claim once the quarantine is recorded. -/
theorem Claims.record {a : Artifact} (claims : Claims a tree spot vault) (v : Vault) :
    Claims { a with
      quarantineIdentity := Option.some v.inode, createdPaths := addCreated .quarantine a.createdPaths }
      tree spot (Option.some v) := by
  have listed := mem_addCreated .quarantine a.createdPaths
  exact ⟨claims.state, claims.tree, List.ne_nil_of_mem listed, .inr ⟨listed, v.inode, rfl, .inl ⟨v, rfl, rfl⟩⟩⟩

theorem record_valid {a : Artifact} {q : Nat} (valid : a.Valid accepts) (state : a.state = .active)
    (identity : a.destinationIdentity = some tree) :
    ({ a with
      quarantineIdentity := some q, createdPaths := addCreated .quarantine a.createdPaths } : Artifact).Valid
      accepts := by
  have listed := mem_addCreated .quarantine a.createdPaths
  refine ⟨valid.1, ?_, ?_, valid.2.2.2⟩
  · change (addCreated .quarantine a.createdPaths).Nodup
    unfold addCreated
    split
    case isTrue => exact valid.2.1
    case isFalse absent =>
      rw [List.nodup_append]
      refine ⟨valid.2.1, List.nodup_singleton _, ?_⟩
      rintro first one second two rfl
      cases List.mem_singleton.mp two
      exact absent one
  · change Artifact.Guards _ a.state
    rw [state]
    refine .inr (.inr ⟨List.ne_nil_of_mem listed, ?_, ?_⟩)
    · change a.destinationIdentity ≠ none
      rw [identity]
      nofun
    · exact iff_of_true listed nofun

/-- The new quarantine, with its marker complete. -/
def World.vaulted (w : World) (mark : Mark) : World :=
  { w with
    fresh := w.fresh + 1 + 1
    created := (w.fresh + 1) :: w.fresh :: w.created
    area :=
      { w.area with
        quarantine := some w.fresh
        folders := Function.update w.area.folders w.fresh
          (some (Vault.folder ⟨w.fresh, w.fresh + 1⟩ mark none)) } }

theorem Stage.enclose (stage : Stage regime accepts w old inode tree spot none) (isPublic : spot.place ≠ none) :
    Stage regime accepts (w.vaulted w.payload.mark) old inode tree spot (some ⟨w.fresh, w.fresh + 1⟩) := by
  have bounded := stage.placed.bounded
  have notInside : spot ≠ .inside := by
    rintro rfl
    exact isPublic rfl
  refine ⟨stage.ready.work rfl rfl rfl ?_ ⟨rfl, rfl⟩, stage.valid, stage.stateOld,
    fun dies => (stage.claimsOld dies).unrecorded_any isPublic _, stage.claims.unrecorded_any isPublic _, ?_⟩
  · change w.fresh ≤ w.fresh + 1 + 1
    omega
  refine ⟨stage.placed.staging, stage.placed.destination, rfl, fun notGone => ?_, ?_, fun inside => ?_, ?_⟩
  · have there := stage.placed.there notGone
    change (Function.update w.area.folders w.fresh _ tree).isSome
    rwa [Function.update_of_ne (Nat.ne_of_lt bounded)]
  · rintro other same
    cases same
    refine ⟨?_, (Nat.ne_of_lt bounded).symm, ?_⟩
    · rw [if_neg notInside]
      exact Function.update_self ..
    · change w.fresh < w.fresh + 1 + 1
      omega
  · exact absurd inside notInside
  · change tree < w.fresh + 1 + 1
    omega

theorem window_outside {point : Point} (isWindow : point.window = true) (w : World) :
    Outside regime accepts (past ++ [point]) w := by
  intro _ outside
  rw [outside point (List.mem_append_right _ (List.mem_singleton_self _))] at isWindow
  cases isWindow

/-- The marker of a directory that has none. -/
theorem writeMarker_runs {left : List Point → World → Prop} {place : Place} {folder : Nat} (alone : w.visits = none)
    (entry : w.area.entry place = some folder) (content : w.area.folders folder = some {})
    (create : left (past ++ [.createMarker place]) w)
    (fill : left (past ++ [.fillMarker place])
      (w.allocate.setFolder folder { marker := some { inode := w.fresh } }))
    (marked : left (past ++ [.syncMarker place])
      (w.allocate.setFolder folder { marker := some ⟨w.fresh, some w.payload.mark⟩ })) :
    Triple (regime.exactly past w) (writeMarker place)
      (fun _ => regime.exactly past
        (w.allocate.setFolder folder { marker := some ⟨w.fresh, some w.payload.mark⟩ }))
      (regime.stops left) := by
  refine exactly_payload ?_
  refine exactly_step (folder, w.fresh) (w.allocate.setFolder folder { marker := some { inode := w.fresh } })
    alone ?_ create ?_
  · simp [entry, content, require, bind, Except.bind, pure, Except.pure]
  have filled : (w.allocate.setFolder folder { marker := some { inode := w.fresh } }).editFolder folder
      (fun found => { found with marker := found.marker.map fun marker =>
        if marker.inode = w.fresh then { marker with mark := some w.payload.mark } else marker }) =
      w.allocate.setFolder folder { marker := some ⟨w.fresh, some w.payload.mark⟩ } := by
    simp [World.editFolder]
  refine exactly_change alone fill ?_
  rw [filled]
  exact exactly_settle alone marked (exactly_settled alone marked)

theorem createQuarantine_runs (silent : ∀ faults, ¬regime.after faults)
    (stage : Stage regime accepts w old inode tree spot none) (isPublic : spot.place ≠ none) :
    Triple (regime.exactly past w) (createQuarantine accepts)
      (fun identity => Under regime.before past fun w' => ∃ v inode',
        Stage regime accepts w' w'.payload inode' tree spot (some v) ∧ v.inode = identity ∧
        w'.payload.quarantineIdentity = some v.inode ∧ .quarantine ∈ w'.payload.createdPaths)
      (regime.stops (Outside regime accepts)) := by
  have alone := stage.ready.alone
  have bounded := stage.placed.bounded
  let made : World := (w.allocate.setFolder w.fresh {}).setQuarantine (some w.fresh)
  have vaulted : made.allocate.setFolder w.fresh { marker := some ⟨w.fresh + 1, some w.payload.mark⟩ } =
      w.vaulted w.payload.mark := by
    simp [made, World.vaulted, Vault.folder]
  have held := stage.enclose isPublic
  refine exactly_step () made alone ?_ (stage.outside _) ?_
  · have name : w.area.quarantine = none := stage.placed.quarantine
    simp [made, name, require, bind, Except.bind, pure, Except.pure]
  refine exactly_step () made alone ?_ (window_outside rfl _) ?_
  · simp [made, World.editFolder, pure, Except.pure]
  refine exactly_look w.fresh alone rfl (window_outside rfl _) ?_
  have marker : Triple (regime.exactly past made) (writeMarker .quarantine)
      (fun _ => regime.exactly past (w.vaulted w.payload.mark)) (regime.stops (Outside regime accepts)) := by
    rw [← vaulted]
    refine writeMarker_runs alone rfl (by simp [made]) (window_outside rfl _) (window_outside rfl _) ?_
    change Outside regime accepts _ (made.allocate.setFolder w.fresh
      { marker := some ⟨w.fresh + 1, some w.payload.mark⟩ })
    rw [vaulted]
    exact held.outside _
  refine Triple.bind marker fun _ => ?_
  refine exactly_settle held.ready.alone (held.outside _) (exactly_revise ?_)
  have claims := held.claims.record ⟨w.fresh, w.fresh + 1⟩
  have valid := record_valid (q := w.fresh) held.valid held.claims.state held.claims.tree
  have ready := held.ready.revise (a := { w.payload with
    quarantineIdentity := some w.fresh, createdPaths := addCreated .quarantine w.payload.createdPaths }) rfl rfl rfl rfl
  refine write_then silent .rollback ready valid held.transition held.ownedOld
    (fun _ => .claimed tree spot _ claims held.placed) fun w' inode' written => ?_
  refine Triple.pure fun p under => ⟨under.1, under.2.1, ⟨w.fresh, w.fresh + 1⟩, inode', ?_⟩
  rw [under.2.2]
  refine ⟨Stage.written (w := { w.vaulted w.payload.mark with payload := _ }) claims held.placed valid written,
    rfl, ?_, ?_⟩
  · rw [written.payload]
    rfl
  · rw [written.payload]
    exact mem_addCreated .quarantine w.payload.createdPaths

end Creating

section Removing

variable {v : Vault}

/-- The quarantine is recorded in the payload and in the journal. -/
def Recorded (a : Artifact) (v : Vault) : Prop :=
  a.quarantineIdentity = some v.inode ∧ .quarantine ∈ a.createdPaths

theorem validateQuarantine_runs (stage : Stage regime accepts w old inode tree spot (some v)) :
    Triple (regime.exactly past w) (validateQuarantine v.inode) (fun _ => regime.exactly past w)
      (regime.stops (Outside regime accepts)) := by
  obtain ⟨content, -, -⟩ := stage.placed.content v rfl
  have name : w.area.quarantine = some v.inode := stage.placed.quarantine
  refine (exactly_looked () stage.ready.alone ?_ (stage.outside _)).conclude (fun _ _ under => under.2) fun _ _ => id
  simp [name, content, Vault.folder, require]

/-- The journal is cleared once everything is gone. -/
theorem cleared_runs (silent : ∀ faults, ¬regime.after faults)
    (stage : Stage regime accepts w old inode tree .gone none) :
    Triple (regime.exactly past { w with payload := { clearClaims w.payload with quarantineIdentity := none } }) (do
      rollbackWrite accepts
      demand (false = false) (.start .foreignRemains))
      (fun _ => Under regime.before past fun w' => ∃ inode', Finished regime accepts w' w'.payload inode')
      (regime.stops (Outside regime accepts)) := by
  have vacant : w.area.Vacant := ⟨stage.placed.staging, stage.placed.destination, stage.placed.quarantine⟩
  have ready := stage.ready.revise (a := { clearClaims w.payload with quarantineIdentity := none }) rfl rfl rfl rfl
  have valid : ({ clearClaims w.payload with quarantineIdentity := none } : Artifact).Valid accepts := by
    refine ⟨stage.valid.1, List.nodup_nil, ?_, stage.valid.2.2.2⟩
    change Artifact.Guards _ w.payload.state
    rw [stage.claims.state]
    exact .inr (.inl ⟨rfl, rfl, rfl⟩)
  have state : w.payload.state = .active := stage.claims.state
  refine write_then silent .rollback ready valid stage.transition stage.ownedOld
    (fun _ => .nothing (.inr (.inl state)) ⟨rfl, rfl, rfl⟩ vacant) fun w' inode' written => ?_
  refine (demand_holds rfl).conclude (fun _ p under => ⟨under.1, under.2.1, inode', ?_⟩) fun _ _ => id
  rw [under.2.2]
  have same := written.payload
  have active : w'.payload.state = .active := by
    rw [same]
    exact state
  refine ⟨written.ready, ?_, ?_, .inr active⟩
  · rw [written.area]
    exact vacant
  · refine fun _ => .nothing (.inr (.inl active)) ?_ ?_
    · rw [same]
      exact ⟨rfl, rfl, rfl⟩
    · rw [written.area]
      exact vacant

/-- The tree is moved if it is public, and the quarantine emptied. -/
theorem removeRecorded_runs (silent : ∀ faults, ¬regime.after faults)
    (stage : Stage regime accepts w old inode tree spot (some v)) (recordedOld : regime.dies → Recorded old v)
    (recorded : Recorded w.payload v) (inside : Bool) (isInside : inside = decide (spot = .inside)) :
    Triple (regime.exactly past w) (do
      validateQuarantine v.inode
      match spot.place with
      | some source => quarantineTree accepts source v.inode tree
      | none => pure ()
      emptyQuarantine v.inode tree (inside || spot.place.isSome)
      revise fun a => { clearClaims a with quarantineIdentity := none }
      rollbackWrite accepts
      demand (false = false) (.start .foreignRemains))
      (fun _ => Under regime.before past fun w' => ∃ inode', Finished regime accepts w' w'.payload inode')
      (regime.stops (Outside regime accepts)) := by
  have ending {w : World} {old : Artifact} {inode : Nat} {spot : Spot} {inside : Bool}
      (stage : Stage regime accepts w old inode tree spot (some v)) (where_ : spot =
        if inside then .inside else .gone) :
      Triple (regime.exactly past w) (do
        emptyQuarantine v.inode tree inside
        revise fun a => { clearClaims a with quarantineIdentity := none }
        rollbackWrite accepts
        demand (false = false) (.start .foreignRemains))
        (fun _ => Under regime.before past fun w' => ∃ inode', Finished regime accepts w' w'.payload inode')
        (regime.stops (Outside regime accepts)) :=
    Triple.bind (emptyQuarantine_runs inside where_ stage) fun _ => Regime.from_each fun w' held =>
      exactly_revise (cleared_runs silent held)
  refine Triple.bind (validateQuarantine_runs stage) fun _ => ?_
  cases place : spot.place with
  | some source =>
    refine Triple.bind (quarantineTree_runs silent stage place recordedOld recorded) fun _ =>
      Regime.from_each fun w' ⟨inode', held⟩ => ?_
    rw [Option.isSome_some, Bool.or_true]
    exact ending held rfl
  | none =>
    rw [Option.isSome_none, Bool.or_false]
    apply ending stage
    cases spot with
    | staging => cases place
    | destination => cases place
    | inside =>
      subst isInside
      rfl
    | gone =>
      subst isInside
      rfl

theorem removeLocated_unrecorded (silent : ∀ faults, ¬regime.after faults)
    (stage : Stage regime accepts w old inode tree spot none) (isPublic : spot.place ≠ none) :
    Triple (regime.exactly past w) (removeLocated accepts none tree ⟨spot.place, false, false⟩)
      (fun _ => Under regime.before past fun w' => ∃ inode', Finished regime accepts w' w'.payload inode')
      (regime.stops (Outside regime accepts)) := by
  refine Triple.bind (createQuarantine_runs silent stage isPublic) fun identity => ?_
  refine Regime.from_each ?_
  rintro w' ⟨v, inode', held, rfl, recorded⟩
  refine removeRecorded_runs silent held (fun _ => recorded) recorded false ?_
  cases spot with
  | staging => rfl
  | destination => rfl
  | inside => exact absurd rfl isPublic
  | gone => rfl

theorem removeLocated_recorded (silent : ∀ faults, ¬regime.after faults)
    (stage : Stage regime accepts w old inode tree spot (some v)) (recordedOld : regime.dies → Recorded old v)
    (recorded : Recorded w.payload v) :
    Triple (regime.exactly past w)
      (removeLocated accepts (some v.inode) tree ⟨spot.place, false, decide (spot = .inside)⟩)
      (fun _ => Under regime.before past fun w' => ∃ inode', Finished regime accepts w' w'.payload inode')
      (regime.stops (Outside regime accepts)) :=
  removeRecorded_runs silent stage recordedOld recorded _ rfl

end Removing

section Finding

variable {v : Vault}

theorem present_placed (placed : Placed w.area w.fresh w.payload.mark tree spot vault) :
    present w = ⟨decide (spot = .staging), decide (spot = .destination), decide (spot = .inside)⟩ := by
  have staging := placed.staging
  have destination := placed.destination
  have quarantine := placed.quarantine
  have content := placed.content
  have inside := placed.inside
  cases vault with
  | none => cases spot <;> simp_all [present, World.folder?, Area.entry]
  | some v =>
    obtain ⟨found, -, -⟩ := content v rfl
    cases spot <;> simp_all [present, World.folder?, Area.entry, Vault.folder]

theorem locate_placed (placed : Placed w.area w.fresh w.payload.mark tree spot vault) :
    locate (present w) tree w = .ok ⟨spot.place, false, decide (spot = .inside)⟩ := by
  rw [present_placed placed]
  have staging := placed.staging
  have destination := placed.destination
  have quarantine := placed.quarantine
  have there := placed.there
  cases spot with
  | staging =>
    simp_all [locate, World.sameFolder, require, bind, Except.bind, pure, Except.pure, Spot.place]
  | destination =>
    simp_all [locate, World.sameFolder, require, bind, Except.bind, pure, Except.pure, Spot.place]
  | inside =>
    obtain ⟨v, rfl⟩ := Option.isSome_iff_exists.mp (placed.inside rfl)
    obtain ⟨found, -, -⟩ := placed.content v rfl
    simp_all [locate, World.sameFolder, World.folder?, Area.entry, Vault.folder, require, bind, Except.bind, pure,
      Except.pure, Spot.place]
  | gone =>
    simp_all [locate, World.sameFolder, require, bind, Except.bind, pure, Except.pure, Spot.place]

theorem rollbackTree_unrecorded (silent : ∀ faults, ¬regime.after faults)
    (stage : Stage regime accepts w old inode tree spot none) (isPublic : spot.place ≠ none) :
    Triple (regime.exactly past w) (rollbackTree accepts none (present w) tree)
      (fun _ => Under regime.before past fun w' => ∃ inode', Finished regime accepts w' w'.payload inode')
      (regime.stops (Outside regime accepts)) := by
  refine exactly_look _ stage.ready.alone (locate_placed stage.placed) (stage.outside _) ?_
  have notInside : decide (spot = .inside) = false := by
    cases spot with
    | staging => rfl
    | destination => rfl
    | inside => exact absurd rfl isPublic
    | gone => rfl
  rw [if_neg (fun found => isPublic found.1), notInside]
  exact removeLocated_unrecorded silent stage isPublic

theorem rollbackTree_recorded (silent : ∀ faults, ¬regime.after faults)
    (stage : Stage regime accepts w old inode tree spot (some v)) (recordedOld : regime.dies → Recorded old v)
    (recorded : Recorded w.payload v) :
    Triple (regime.exactly past w) (rollbackTree accepts (some v.inode) (present w) tree)
      (fun _ => Under regime.before past fun w' => ∃ inode', Finished regime accepts w' w'.payload inode')
      (regime.stops (Outside regime accepts)) := by
  refine exactly_look _ stage.ready.alone (locate_placed stage.placed) (stage.outside _) ?_
  rw [if_neg (fun found => Option.some_ne_none _ found.2.2)]
  exact removeLocated_recorded silent stage recordedOld recorded

/-- From here a rollback goes through. -/
inductive Rollable (regime : Regime Failure) (accepts : Inputs → Bool) (w : World) (old : Artifact) (inode : Nat) :
    Prop where
  | nothing (ready : Ready accepts w old inode) (valid : w.payload.Valid accepts)
      (unclaimed : w.payload.destinationIdentity = none ∧ w.payload.quarantineIdentity = none)
      (vacant : w.area.Vacant) (owned : regime.dies → Owned old w.area w.fresh)
      (state : old.state = .planned ∨ old.state = .active)
  | made (ready : Ready accepts w old inode) (valid : w.payload.Valid accepts) (stateOld : old.state = .active)
      (owned : regime.dies → Owned old w.area w.fresh) (state : w.payload.state = .active)
      (reserved : w.payload.Reserved)
      (tree : Nat) (folder : Folder) (staging : w.area.staging = some tree)
      (content : w.area.folders tree = some folder) (unworked : Unworked w.payload.mark folder)
      (destination : w.area.destination = none) (quarantine : w.area.quarantine = none) (bounded : tree < w.fresh)
  | claimed (tree : Nat) (spot : Spot) (stage : Stage regime accepts w old inode tree spot none)
      (isPublic : spot.place ≠ none)
  | vaulted (tree : Nat) (spot : Spot) (v : Vault) (stage : Stage regime accepts w old inode tree spot (some v))
      (unrecorded : w.payload.quarantineIdentity = none)
  | recorded (tree : Nat) (spot : Spot) (v : Vault) (stage : Stage regime accepts w old inode tree spot (some v))
      (recordedOld : regime.dies → Recorded old v) (recorded : Recorded w.payload v)
  | gone (tree : Nat) (stage : Stage regime accepts w old inode tree .gone none)

theorem Rollable.ready (rollable : Rollable regime accepts w old inode) : Ready accepts w old inode := by
  cases rollable with
  | nothing ready => exact ready
  | made ready => exact ready
  | claimed tree spot stage => exact stage.ready
  | vaulted tree spot v stage => exact stage.ready
  | recorded tree spot v stage => exact stage.ready
  | gone tree stage => exact stage.ready

theorem Rollable.owned (rollable : Rollable regime accepts w old inode) (dies : regime.dies) :
    Owned old w.area w.fresh := by
  cases rollable with
  | nothing _ _ _ _ owned => exact owned dies
  | made _ _ _ owned => exact owned dies
  | claimed tree spot stage => exact stage.ownedOld dies
  | vaulted tree spot v stage => exact stage.ownedOld dies
  | recorded tree spot v stage => exact stage.ownedOld dies
  | gone tree stage => exact stage.ownedOld dies

theorem Rollable.outside (rollable : Rollable regime accepts w old inode) (struck : List Point) :
    Outside regime accepts struck w :=
  fun dies _ => rollable.ready.recoverable (rollable.owned dies)

theorem findQuarantine_absent (rollable : Rollable regime accepts w old inode) (absent : w.area.quarantine = none)
    (unrecorded : w.payload.quarantineIdentity = none) :
    Triple (regime.exactly past w) (findQuarantine accepts) (fun found p => found = none ∧ regime.exactly past w p)
      (regime.stops (Outside regime accepts)) := by
  refine exactly_payload (exactly_look false rollable.ready.alone ?_ (rollable.outside _) (exactly_revise ?_))
  · rw [absent]
    rfl
  rw [if_pos unrecorded]
  exact Triple.pure fun _ under => ⟨rfl, under⟩

theorem findQuarantine_recorded (stage : Stage regime accepts w old inode tree spot (some v))
    (recorded : Recorded w.payload v) :
    Triple (regime.exactly past w) (findQuarantine accepts)
      (fun found p => found = some v.inode ∧ regime.exactly past w p) (regime.stops (Outside regime accepts)) := by
  have name : w.area.quarantine = some v.inode := stage.placed.quarantine
  refine exactly_payload (exactly_look true stage.ready.alone ?_ (stage.outside _) ?_)
  · rw [name]
    rfl
  rw [if_pos rfl, recorded.1]
  exact Triple.bind (validateQuarantine_runs stage) fun _ => Triple.pure fun _ under => ⟨rfl, under⟩

theorem findQuarantine_adopts (silent : ∀ faults, ¬regime.after faults)
    (stage : Stage regime accepts w old inode tree spot (some v)) (unrecorded : w.payload.quarantineIdentity = none) :
    Triple (regime.exactly past w) (findQuarantine accepts)
      (fun found => Under regime.before past fun w' => found = some v.inode ∧ ∃ inode',
        Stage regime accepts w' w'.payload inode' tree spot (some v) ∧ Recorded w'.payload v)
      (regime.stops (Outside regime accepts)) := by
  obtain ⟨content, -, -⟩ := stage.placed.content v rfl
  have name : w.area.quarantine = some v.inode := stage.placed.quarantine
  have alone := stage.ready.alone
  have notInside : spot ≠ .inside := by
    rcases stage.claims.quarantine with ⟨-, -, rfl | rfl⟩ | ⟨-, q, same, -⟩
    · nofun
    · nofun
    · rw [unrecorded] at same
      cases same
  have claims := stage.claims.record v
  have valid := record_valid (q := v.inode) stage.valid stage.claims.state stage.claims.tree
  have ready := stage.ready.revise (a := { w.payload with
    quarantineIdentity := some v.inode, createdPaths := addCreated .quarantine w.payload.createdPaths }) rfl rfl rfl rfl
  have adopted : Triple (regime.exactly past w) (adoptQuarantine accepts)
      (fun identity => Under regime.before past fun w' => identity = v.inode ∧ ∃ inode',
        Stage regime accepts w' w'.payload inode' tree spot (some v) ∧ Recorded w'.payload v)
      (regime.stops (Outside regime accepts)) := by
    refine exactly_payload (exactly_look true alone ?_ (stage.outside _) (Regime.exactly_demand rfl ?_))
    · rw [if_neg notInside] at content
      simp [markerProves, World.folder?, Area.entry, name, content, Vault.folder, pure, Except.pure]
    refine exactly_look v.inode alone ?_ (stage.outside _) (exactly_revise ?_)
    · rw [name]
      rfl
    refine write_then silent .rollback ready valid stage.transition stage.ownedOld
      (fun _ => .claimed tree spot _ claims stage.placed) fun w' inode' written => ?_
    refine Triple.pure fun p under => ⟨under.1, under.2.1, rfl, inode', ?_⟩
    rw [under.2.2]
    refine ⟨Stage.written (w := { w with payload := _ }) claims stage.placed valid written, ?_⟩
    rw [written.payload]
    exact ⟨rfl, mem_addCreated _ _⟩
  refine exactly_payload (exactly_look true alone ?_ (stage.outside _) ?_)
  · rw [name]
    rfl
  rw [if_pos rfl, unrecorded]
  refine Triple.bind adopted fun identity => Regime.from_each ?_
  rintro w' ⟨rfl, inode', held, recorded⟩
  refine Triple.bind (validateQuarantine_runs held) fun _ => Triple.pure fun p under => ?_
  exact ⟨under.1, under.2.1, rfl, inode', under.2.2 ▸ ⟨held, recorded⟩⟩

/-- A recorded tree needs no search. -/
theorem findTree_claimed {β : Type} {quarantine : Option Nat} {seen : Present} {next : Option Nat → StartM β}
    {post : β → Assertion (Process Point Failure World)} (identity : w.payload.destinationIdentity = some tree)
    (rest : Triple (regime.exactly past w) (next (some tree)) post (regime.stops (Outside regime accepts))) :
    Triple (regime.exactly past w) (findTree accepts quarantine seen >>= next) post
      (regime.stops (Outside regime accepts)) := by
  have found : Triple (regime.exactly past w) (findTree accepts quarantine seen)
      (fun found p => found = some tree ∧ regime.exactly past w p) (regime.stops (Outside regime accepts)) := by
    refine exactly_payload ?_
    rw [identity]
    exact Triple.pure fun _ under => ⟨rfl, under⟩
  refine Triple.bind found fun value => Triple.assume fun same => ?_
  subst same
  exact rest

/-- The tree at the staging path is proved and recorded. -/
theorem findTree_made (silent : ∀ faults, ¬regime.after faults) (ready : Ready accepts w old inode)
    (valid : w.payload.Valid accepts) (stateOld : old.state = .active)
    (owned : regime.dies → Owned old w.area w.fresh)
    (state : w.payload.state = .active) (reserved : w.payload.Reserved) {folder : Folder}
    (staging : w.area.staging = some tree) (content : w.area.folders tree = some folder)
    (unworked : Unworked w.payload.mark folder) (destination : w.area.destination = none)
    (quarantine : w.area.quarantine = none) (bounded : tree < w.fresh) :
    Triple (regime.exactly past w) (findTree accepts none (present w))
      (fun found => Under regime.before past fun w' => found = some tree ∧ present w' = present w ∧ ∃ inode',
        Stage regime accepts w' w'.payload inode' tree .staging none)
      (regime.stops (Outside regime accepts)) := by
  have safe (struck : List Point) : Outside regime accepts struck w := fun dies _ => ready.recoverable (owned dies)
  have placed : Placed w.area w.fresh w.payload.mark tree .staging none := by
    refine ⟨staging, destination, quarantine, fun _ => ?_, nofun, nofun, bounded⟩
    rw [content]
    rfl
  let claim : Artifact := { w.payload with
    destinationIdentity := some tree
    createdPaths := .staging :: (if (none : Option Nat).isSome then [.quarantine] else []) }
  have claims : Claims claim tree .staging none :=
    ⟨state, rfl, by simp [claim], .inl ⟨reserved.2.2, by simp [claim], .inl rfl⟩⟩
  have valid' : claim.Valid accepts := by
    refine ⟨valid.1, by simp [claim], ?_, valid.2.2.2⟩
    change Artifact.Guards _ w.payload.state
    rw [state]
    refine .inr (.inr ⟨by simp [claim], by simp [claim], ?_⟩)
    change _ ↔ w.payload.quarantineIdentity ≠ none
    rw [reserved.2.2]
    simp [claim]
  refine exactly_payload ?_
  rw [reserved.2.1, present_placed placed]
  refine exactly_look true ready.alone ?_ (safe _) (Regime.exactly_demand rfl ?_)
  · rcases unworked with rfl | ⟨marker, rfl⟩
    · simp [reservedEmpty, World.folder?, Area.entry, staging, content, reserved.1, pure, Except.pure]
    · simp [markerProves, World.folder?, Area.entry, staging, content, pure, Except.pure]
  refine exactly_look tree ready.alone ?_ (safe _) (exactly_revise ?_)
  · rw [staging]
    rfl
  refine write_then silent .rollback (ready.revise (a := claim) rfl rfl rfl rfl) valid' ?_ owned
    (fun _ => .claimed tree .staging none claims placed) fun w' inode' written => ?_
  · change validTransition old.state w.payload.state = true
    rw [stateOld, state]
    rfl
  refine Triple.pure fun p under => ⟨under.1, under.2.1, rfl, ?_, inode', ?_⟩
  · rw [under.2.2, ← present_placed placed]
    unfold present World.folder?
    rw [written.area]
  · rw [under.2.2]
    exact Stage.written (w := { w with payload := claim }) claims placed valid' written

end Finding

/-- What a rollback remembers of a quarantine that is gone. -/
def Artifact.forgotten (a : Artifact) : Artifact :=
  { a with quarantineIdentity := none, createdPaths := a.createdPaths.filter (· ≠ .quarantine) }

theorem Stage.forget (stage : Stage regime accepts w old inode tree .gone none) :
    Ready accepts { w with payload := w.payload.forgotten } old inode :=
  stage.ready.revise rfl rfl rfl rfl

/-- The journal of a tree and a quarantine that are both gone is cleared. -/
theorem rollbackTree_gone (silent : ∀ faults, ¬regime.after faults)
    (stage : Stage regime accepts w old inode tree .gone none) :
    Triple (regime.exactly past { w with payload := w.payload.forgotten })
      (rollbackTree accepts none (present { w with payload := w.payload.forgotten }) tree)
      (fun _ => Under regime.before past fun w' => ∃ inode', Finished regime accepts w' w'.payload inode')
      (regime.stops (Outside regime accepts)) := by
  have located := locate_placed (w := { w with payload := w.payload.forgotten }) stage.placed
  refine exactly_look _ stage.ready.alone located (fun dies _ => stage.forget.recoverable (stage.ownedOld dies)) ?_
  rw [if_pos ⟨rfl, rfl, rfl⟩]
  -- the record of the quarantine is cleared either way
  have cleared := @cleared_runs accepts regime past w old inode tree silent stage
  exact exactly_revise cleared

/-- A rollback ends with nothing left, whatever configuration it starts from. -/
theorem rollback_runs (silent : ∀ faults, ¬regime.after faults) (rollable : Rollable regime accepts w old inode) :
    Triple (regime.exactly past w) (rollback accepts)
      (fun _ => Under regime.before past fun w' => ∃ old' inode', Finished regime accepts w' old' inode')
      (regime.stops (Outside regime accepts)) := by
  have safe := rollable.outside
  have weaken (w : World) : (∃ inode', Finished regime accepts w w.payload inode') →
      ∃ old' inode', Finished regime accepts w old' inode' := fun finished => ⟨_, finished⟩
  have done {body : StartM Unit} {w : World} (ran : Triple (regime.exactly past w) body
      (fun _ => Under regime.before past fun w' => ∃ inode', Finished regime accepts w' w'.payload inode')
      (regime.stops (Outside regime accepts))) : Triple (regime.exactly past w) body
      (fun _ => Under regime.before past fun w' => ∃ old' inode', Finished regime accepts w' old' inode')
      (regime.stops (Outside regime accepts)) :=
    ran.conclude (fun _ => Under.weaken (fun _ => id) weaken) fun _ _ => id
  have alone := rollable.ready.alone
  refine exactly_look () alone ?_ (safe _) ?_
  · simp [require, rollable.ready.parents.1]
  cases rollable with
  | nothing ready valid unclaimed vacant owned state =>
    have rollable : Rollable regime accepts w old inode := .nothing ready valid unclaimed vacant owned state
    refine Triple.bind (findQuarantine_absent rollable vacant.quarantine unclaimed.2) fun found => ?_
    refine Triple.assume fun same => ?_
    subst same
    refine exactly_look _ alone rfl (safe _) ?_
    have none : Triple (regime.exactly past w) (findTree accepts none (present w))
        (fun found p => found = none ∧ regime.exactly past w p) (regime.stops (Outside regime accepts)) := by
      refine exactly_payload ?_
      rw [unclaimed.1]
      have seen : present w = ⟨false, false, false⟩ := by
        simp [present, World.folder?, Area.entry, vacant.staging, vacant.destination, vacant.quarantine]
      rw [seen]
      refine Regime.exactly_demand ⟨rfl, rfl, rfl⟩ (Regime.exactly_demand rfl ?_)
      exact Triple.pure fun _ under => ⟨rfl, under⟩
    refine Triple.bind none fun found => Triple.assume fun same => ?_
    subst same
    exact Triple.pure fun p under => ⟨under.1, under.2.1, old, inode, under.2.2 ▸ ⟨ready, vacant, owned, state⟩⟩
  | made ready valid stateOld owned state reserved tree folder staging content unworked destination
      quarantine bounded =>
    have rollable : Rollable regime accepts w old inode :=
      .made ready valid stateOld owned state reserved tree folder staging
      content unworked destination quarantine bounded
    refine Triple.bind (findQuarantine_absent rollable quarantine reserved.2.2) fun found => ?_
    refine Triple.assume fun same => ?_
    subst same
    refine exactly_look _ alone rfl (safe _) ?_
    refine Triple.bind (findTree_made silent ready valid stateOld owned state reserved staging content unworked
      destination quarantine bounded) fun found => Regime.from_each ?_
    rintro w' ⟨rfl, seen, inode', stage⟩
    rw [← seen]
    exact done (rollbackTree_unrecorded silent stage Spot.staging_public)
  | claimed tree spot stage isPublic =>
    have rollable : Rollable regime accepts w old inode := .claimed tree spot stage isPublic
    refine Triple.bind (findQuarantine_absent rollable stage.placed.quarantine
      (stage.claims.unrecorded isPublic).1) fun found => ?_
    refine Triple.assume fun same => ?_
    subst same
    refine exactly_look _ alone rfl (safe _) (findTree_claimed stage.claims.tree ?_)
    exact done (rollbackTree_unrecorded silent stage isPublic)
  | vaulted tree spot v stage unrecorded =>
    refine Triple.bind (findQuarantine_adopts silent stage unrecorded) fun found => Regime.from_each ?_
    rintro w' ⟨rfl, inode', held, recorded⟩
    refine exactly_look _ held.ready.alone rfl (held.outside _) (findTree_claimed held.claims.tree ?_)
    exact done (rollbackTree_recorded silent held (fun _ => recorded) recorded)
  | recorded tree spot v stage recordedOld recorded =>
    refine Triple.bind (findQuarantine_recorded stage recorded) fun found => Triple.assume fun same => ?_
    subst same
    refine exactly_look _ alone rfl (safe _) (findTree_claimed stage.claims.tree ?_)
    exact done (rollbackTree_recorded silent stage recordedOld recorded)
  | gone tree stage =>
    have absent : w.area.quarantine = none := stage.placed.quarantine
    obtain ⟨q, identity⟩ : ∃ q, w.payload.quarantineIdentity = some q := by
      rcases stage.claims.quarantine with ⟨-, -, same | same⟩ | ⟨-, q, identity, -⟩
      · cases same
      · cases same
      · exact ⟨q, identity⟩
    have found : Triple (regime.exactly past w) (findQuarantine accepts)
        (fun found p => found = none ∧ regime.exactly past { w with payload := w.payload.forgotten } p)
        (regime.stops (Outside regime accepts)) := by
      refine exactly_payload (exactly_look false alone ?_ (safe _) (exactly_revise ?_))
      · rw [absent]
        rfl
      rw [if_neg (by rw [identity]; simp)]
      exact Triple.pure fun _ under => ⟨rfl, under⟩
    refine Triple.bind found fun value => Triple.assume fun same => ?_
    subst same
    refine exactly_look _ alone rfl (fun dies _ => stage.forget.recoverable (stage.ownedOld dies))
      (findTree_claimed stage.claims.tree ?_)
    exact done (rollbackTree_gone silent stage)

end Darling.Start
