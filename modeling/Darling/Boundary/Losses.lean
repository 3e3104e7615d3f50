import Darling.Boundary.Standing
import Mathlib.Tactic.Tauto

/-! Without a foreign writer a failed exact mutation loses nothing: the object is under its name again, or in a
stage that the boundary hands over. -/
namespace Darling.Boundary

/-- As above, and no stage has been handed over yet. -/
def Waiting (old : List OperationRecord) (stages : List StageObligation) (fds : List (RawFd × InodeKey))
    (places : List (Spot × Option InodeKey)) (s : State World) : Prop :=
  Followed old fds places s ∧ s.pendingStages = stages

theorem Observed.and {env : Env κ} {left right : Assertion (State κ)} (first : Observed env left)
    (second : Observed env right) :
    Observed env fun s => left s ∧ right s where
  perform call unchanged := Triple.and (first.perform call unchanged) (second.perform call unchanged)
  hook phase point := Triple.and (first.hook phase point) (second.hook phase point)
  record entry plain forward := Triple.and (first.record entry plain forward) (second.record entry plain forward)

theorem perform_stages {stages : List StageObligation} (env : Env κ) (call : Syscall ρ) :
    Invariant (fun s => s.pendingStages = stages) (perform env call) := by
  apply Invariant.of_finalState
  intro s same
  obtain ⟨effects, final⟩ := perform_final env call s
  rw [final]
  exact same

theorem stages_observed {stages : List StageObligation} (env : Env κ) : Observed env fun s =>
    s.pendingStages = stages where
  perform call _ := perform_stages env call
  hook phase point := by
    apply Invariant.of_finalState
    intro s same
    rw [runHook_final]
    split
    · exact same
    · exact same
  record entry _ _ := Invariant.modify fun _ => id

section Phases

variable {adversary : Adversary} (still : adversary.Still) {old : List OperationRecord} {stages : List StageObligation}
  {fds : List (RawFd × InodeKey)} {places : List (Spot × Option InodeKey)}

theorem Followed.weaken {fds' : List (RawFd × InodeKey)} {places' : List (Spot × Option InodeKey)} {s : State World}
    (held : Followed old fds places s) (fewer : fds' ⊆ fds) (less : places' ⊆ places) : Followed old fds' places' s :=
  ⟨held.1, held.2.weaken fewer less⟩

theorem record_waiting (entry : JournalRecord) : Invariant (Waiting old stages fds places) (record entry) :=
  Triple.and (record_followed entry) (Invariant.modify fun _ => id)

theorem nextId_waiting : Invariant (Waiting old stages fds places) nextId := fun _ waiting => waiting

include still

theorem waiting_observed : Observed adversary.env (Waiting old stages fds places) :=
  (followed_observed still).and (stages_observed adversary.env)

theorem perform_waiting {call : Syscall ρ} {after : ρ → World → Prop}
    (answers : ∀ w, Standing fds places w → Answers after (Standing fds places) (adversary.kernel w call)) :
    Triple (Waiting old stages fds places) (perform adversary.env call)
      (fun reply s => (old <+: s.records ∧ after reply s.world) ∧ s.pendingStages = stages)
      (fun _ => Waiting old stages fds places) :=
  Triple.and (perform_followed still answers) (perform_stages adversary.env call)

theorem renameAt_waiting {fd fd' : RawFd} {directory directory' inode : InodeKey} {source destination : String}
    (held : (fd, directory) ∈ fds) (held' : (fd', directory') ∈ fds)
    (apart : ∀ place ∈ places, place.1 ≠ (directory, source) ∧ (place.2 = none → place.1 ≠ (directory', destination))) :
    Triple (Waiting old stages fds (((directory, source), some inode) :: places))
      (renameAt adversary.env fd source fd' destination)
      (fun _ => Waiting old stages fds (((directory', destination), some inode) ::
        ((directory, source), none) :: places))
      (fun _ => Waiting old stages fds (((directory, source), some inode) :: places)) :=
  Triple.and (renameAt_moves still held held' apart) (perform_stages adversary.env _)

end Phases

/-- Where the object and the stage are. -/
structure Site (fds : List (RawFd × InodeKey)) (directory : InodeKey) (name : String)
    (frozen : List (Spot × Option InodeKey))
    (inner : InodeKey) (stageName : String) : Prop where
  fresh : ∀ held ∈ fds, held.2 ≠ inner
  named : name ≠ stageName
  apart : ∀ place ∈ frozen, place.1 ≠ (directory, stageName)

/-- Places that a mutation must not change: none is the source, and none is a free name that the boundary could
take for a stage or a quarantine. -/
structure Frozen (fds : List (RawFd × InodeKey)) (directory : InodeKey) (name : String)
    (frozen : List (Spot × Option InodeKey)) : Prop where
  known : ∀ place ∈ frozen, ∃ held ∈ fds, held.2 = place.1.1
  apart : ∀ place ∈ frozen, place.1 ≠ (directory, name)
  stages : ∀ place ∈ frozen, place.2 = none → ∀ id, place.1 ≠ (directory, stageNameOf id)
  quarantines : ∀ place ∈ frozen, place.2 = none → ∀ id, place.1 ≠ (directory, quarantineNameOf id)

section Staging

variable {adversary : Adversary} (still : adversary.Still) {old : List OperationRecord} {stages : List StageObligation}
  {fds : List (RawFd × InodeKey)} {parent : DirCap} {directory key : InodeKey} {name : String}
  {frozen : List (Spot × Option InodeKey)}

/-- The object is under its name. -/
def home (directory key : InodeKey) (name : String) (frozen : List (Spot × Option InodeKey)) :
    List (Spot × Option InodeKey) :=
  ((directory, name), some key) :: frozen

/-- The stage is there and empty. -/
def made (directory inner key : InodeKey) (name stageName : String) (frozen : List (Spot × Option InodeKey)) :
    List (Spot × Option InodeKey) :=
  ((directory, stageName), some inner) :: ((inner, stagedName), none) :: home directory key name frozen

/-- The object is in the stage. -/
def away (directory inner key : InodeKey) (stageName : String) (frozen : List (Spot × Option InodeKey)) :
    List (Spot × Option InodeKey) :=
  ((inner, stagedName), some key) :: ((directory, stageName), some inner) :: frozen

theorem home_subset_made (inner : InodeKey) (stageName : String) :
    home directory key name frozen ⊆ made directory inner key name stageName frozen :=
  fun _ listed => List.mem_cons_of_mem _ (List.mem_cons_of_mem _ listed)

theorem Site.home {inner : InodeKey} {stageName : String} (site : Site fds directory name frozen inner stageName) :
    ∀ place ∈ home directory key name frozen, place.1 ≠ (directory, stageName) := by
  intro place listed
  rcases List.mem_cons.mp listed with rfl | later
  · exact fun same => site.named (Prod.mk.inj same).2
  · exact site.apart place later

theorem Frozen.home (fixed : Frozen fds directory name frozen) :
    ∀ place ∈ home directory key name frozen, place.2 = none → ∀ id, place.1 ≠ (directory, quarantineNameOf id) := by
  intro place listed absent
  rcases List.mem_cons.mp listed with rfl | later
  · cases absent
  · exact fixed.quarantines place later absent

variable (fixed : Frozen fds directory name frozen) (held : (parent.fd, directory) ∈ fds)

include still fixed held

theorem bindStage_waiting {inner : InodeKey} {stageId : Nat} {identity : FileIdentity}
    (site : Site fds directory name frozen inner (stageNameOf stageId)) (lease : ExclusiveLease) :
    Triple (Waiting old stages fds (made directory inner key name (stageNameOf stageId) frozen))
      (bindStage adversary.env parent lease stageId identity)
      (fun stage s => stage.1 = stageNameOf stageId ∧ stage.2.identity.inodeKey = inner ∧
        Waiting old stages ((stage.2.fd, inner) :: fds) (made directory inner key name (stageNameOf stageId) frozen) s)
      (fun _ => Followed old fds (home directory key name frozen)) := by
  have gone (pairs : List (RawFd × InodeKey)) (more : fds ⊆ pairs) (s : State World)
      (waiting : Waiting old stages pairs (made directory inner key name (stageNameOf stageId) frozen) s) :
      Followed old fds (home directory key name frozen) s :=
    waiting.1.weaken more (home_subset_made inner _)
  have abandon (pairs : List (RawFd × InodeKey)) (more : fds ⊆ pairs) (α : Type) (post : α → Assertion (State World))
      (error : BoundaryError) :
      Triple (Waiting old stages pairs (made directory inner key name (stageNameOf stageId) frozen))
        (abandonUnboundStage adversary.env parent lease (stageNameOf stageId) stageId identity error :
          BoundaryM World α)
        post (fun _ => Followed old fds (home directory key name frozen)) :=
    (abandonUnboundStage_followed still held site.home fixed.home lease stageId identity error).strengthen
      (gone pairs more)
  have self : fds ⊆ fds := List.Subset.refl _
  refine Triple.bind (Triple.rescue ((waiting_observed still).checkpoint _) (abandon fds self _ _)) fun _ => ?_
  refine Triple.bind (Triple.rescue (perform_waiting still fun w =>
    openDirectory_answers held List.mem_cons_self) (abandon fds self _ _)) fun fd => ?_
  have more : fds ⊆ (fd, inner) :: fds := List.subset_cons_self _ _
  have opened : Triple (Waiting old stages ((fd, inner) :: fds)
      (made directory inner key name (stageNameOf stageId) frozen))
      (fromFd adversary.env fd)
      (fun identity s => identity.inodeKey = inner ∧
        Waiting old stages ((fd, inner) :: fds) (made directory inner key name (stageNameOf stageId) frozen) s)
      (fun _ => Waiting old stages ((fd, inner) :: fds) (made directory inner key name (stageNameOf stageId) frozen)) :=
    (perform_waiting still fun w => fstat_answers List.mem_cons_self).conclude
      (fun _ s after => ⟨after.1.2.1, ⟨after.1.1, after.1.2.2⟩, after.2⟩) fun _ _ => id
  refine (Triple.bind (Triple.rescue opened (abandon _ more _ _)) fun bound => Triple.assume fun same => ?_).strengthen
    fun _ after => ⟨⟨after.1.1, after.1.2⟩, after.2⟩
  apply Triple.ite
  · intro _
    exact abandon _ more _ _ _
  · intro _
    extract_lets cap
    refine Triple.bind (Triple.rescue ((waiting_observed still).checkpoint _) fun error => ?_) fun _ => ?_
    · refine Triple.strengthen ?_ (gone _ more)
      exact Triple.bind (cleanupRegistered_followed still held site.home fixed.home lease cap true) fun _ =>
        Triple.throw fun _ => id
    · exact Triple.pure fun s waiting => ⟨rfl, same, waiting⟩

theorem createStagingDir_waiting (lease : ExclusiveLease) :
    Triple (Waiting old stages fds (home directory key name frozen)) (createStagingDir adversary.env parent lease)
      (fun stage s => ∃ inner, Site fds directory name frozen inner stage.1 ∧ stage.2.identity.inodeKey = inner ∧
        Waiting old stages ((stage.2.fd, inner) :: fds) (made directory inner key name stage.1 frozen) s)
      (fun _ => Followed old fds (home directory key name frozen)) := by
  have observed : Observed adversary.env (Waiting old stages fds (home directory key name frozen)) :=
    waiting_observed still
  have still_home (error : BoundaryError) (s : State World)
      (waiting : Waiting old stages fds (home directory key name frozen) s) :
      Followed old fds (home directory key name frozen) s := waiting.1
  refine Triple.bind ((observed.revalidateDirectory _ _).fallback still_home) fun _ => ?_
  refine Triple.bind ((observed.revalidateLock _).fallback still_home) fun _ => ?_
  refine Triple.bind (Triple.fallback Invariant.ensure still_home) fun _ => ?_
  refine Triple.bind (nextId_waiting.fallback still_home) fun stageId => ?_
  have unused : ∀ place ∈ home directory key name frozen, place.2 = none →
      place.1 ≠ (directory, stageNameOf stageId) := by
    intro place listed absent
    rcases List.mem_cons.mp listed with rfl | later
    · cases absent
    · exact fixed.stages place later absent stageId
  have makes : Triple (Waiting old stages fds (home directory key name frozen))
      (mkdirAt adversary.env parent.fd (stageNameOf stageId) 0o700)
      (fun _ s => ∃ inner, Site fds directory name frozen inner (stageNameOf stageId) ∧
        Waiting old stages fds (made directory inner key name (stageNameOf stageId) frozen) s)
      (fun _ => Followed old fds (home directory key name frozen)) := by
    refine (perform_waiting still fun w => mkdirat_answers held unused stagedName).conclude ?_ still_home
    intro _ s after
    obtain ⟨⟨records, inner, fresh, clear, standing⟩, same⟩ := after
    refine ⟨inner, ⟨fresh, ?_, fun place listed => clear place (List.mem_cons_of_mem _ listed)⟩,
      ⟨records, standing⟩, same⟩
    intro equal
    exact clear _ List.mem_cons_self (by rw [equal])
  refine Triple.bind makes fun _ => Triple.choose fun inner => Triple.assume fun site => ?_
  have gone (error : BoundaryError) (s : State World)
      (waiting : Waiting old stages fds (made directory inner key name (stageNameOf stageId) frozen) s) :
      Followed old fds (home directory key name frozen) s :=
    waiting.1.weaken (List.Subset.refl _) (home_subset_made inner _)
  refine Triple.bind ((record_waiting _).fallback gone) fun _ => ?_
  refine Triple.bind (Triple.rescue ((waiting_observed still).fromAt _ _) fun error => ?_) fun identity => ?_
  · refine Triple.strengthen ?_ (gone error)
    refine Triple.bind (registerUnboundStage_followed still _ _ _ _ _ _) fun _ => ?_
    exact Triple.bind (record_followed _) fun _ => Triple.throw fun _ => id
  refine Triple.bind ((record_waiting _).fallback gone) fun _ => ?_
  refine (bindStage_waiting still fixed held site lease).conclude (fun stage s bound => ?_) fun _ _ => id
  obtain ⟨named, same, waiting⟩ := bound
  rw [← named] at site waiting
  exact ⟨inner, site, same, waiting⟩

theorem moveIntoStage_waiting (operation : OperationName) (capabilities : CapabilitySet) (lease : ExclusiveLease) :
    Triple (Waiting old stages fds (home directory key name frozen))
      (moveIntoStage adversary.env operation capabilities parent lease name)
      (fun stage s => ∃ inner, Site fds directory name frozen inner stage.1 ∧ stage.2.identity.inodeKey = inner ∧
        Waiting old stages ((stage.2.fd, inner) :: fds) (away directory inner key stage.1 frozen) s)
      (fun _ => Followed old fds (home directory key name frozen)) := by
  refine Triple.bind (Triple.rescue (createStagingDir_waiting still fixed held lease)
    (failWith_followed operation capabilities .stagedError)) fun pair => ?_
  obtain ⟨stageName, stage⟩ := pair
  refine Triple.choose fun inner => Triple.assume fun site => Triple.assume fun same => ?_
  have inside : (stage.fd, inner) ∈ (stage.fd, inner) :: fds := List.mem_cons_self
  have outside : (parent.fd, directory) ∈ (stage.fd, inner) :: fds := List.mem_cons_of_mem _ held
  -- Neither the stage itself nor a frozen place is touched by the move.
  have apart : ∀ place ∈ ((directory, stageName), some inner) :: frozen,
      place.1 ≠ (directory, name) ∧ (place.2 = none → place.1 ≠ (inner, stagedName)) := by
    intro place listed
    rcases List.mem_cons.mp listed with rfl | later
    · exact ⟨fun equal => site.named (Prod.mk.inj equal).2.symm, nofun⟩
    · refine ⟨fixed.apart place later, fun _ equal => ?_⟩
      obtain ⟨pair, among, owner⟩ := fixed.known place later
      exact site.fresh pair among (owner.trans (congrArg Prod.fst equal))
  have moves : Triple (Waiting old stages ((stage.fd, inner) :: fds) (made directory inner key name stageName frozen))
      (renameAt adversary.env parent.fd name stage.fd stagedName)
      (fun _ => Waiting old stages ((stage.fd, inner) :: fds) (away directory inner key stageName frozen))
      (fun _ => Followed old fds (home directory key name frozen)) := by
    have carried : Triple (Waiting old stages ((stage.fd, inner) :: fds) (((directory, name), some key) :: _))
      (renameAt adversary.env parent.fd name stage.fd stagedName) _ _ := renameAt_waiting still outside inside apart
    refine carried.weaken ?_ ?_ ?_
    · refine fun s waiting => ⟨waiting.1.weaken (List.Subset.refl _) ?_, waiting.2⟩
      intro place listed
      simp only [made, home, List.mem_cons] at listed ⊢
      tauto
    · refine fun _ s after => ⟨after.1.weaken (List.Subset.refl _) ?_, after.2⟩
      intro place listed
      simp only [away, List.mem_cons] at listed ⊢
      tauto
    · refine fun _ s after => after.1.weaken (List.subset_cons_self _ _) ?_
      intro place listed
      simp only [home, List.mem_cons] at listed ⊢
      tauto
  refine Triple.bind (Triple.rescue moves fun error => ?_) fun _ => ?_
  · refine Triple.bind (cleanupRegistered_followed still held site.home fixed.home lease stage true).attempt
      fun cleanup => ?_
    exact failWith_followed _ _ _ _
  · exact Triple.pure fun s waiting => ⟨inner, site, same, waiting⟩

end Staging

/-- The stage of the obligation holds the inode under the staged name. A bound obligation has the stage open;
an unbound one names it and knows its inode. -/
def Retains (directory key : InodeKey) (w : World) : StageObligation → Prop
  | .bound obligation => ∃ inner, w.descriptors.lookup obligation.stage.fd = some inner ∧
      w.entries.lookup (directory, obligation.name) = some inner ∧ w.entries.lookup (inner, stagedName) = some key
  | .unbound obligation => ∃ inner, obligation.expected.map (·.inodeKey) = some inner ∧
      w.entries.lookup (directory, obligation.name) = some inner ∧ w.entries.lookup (inner, stagedName) = some key

/-- The object is under its name, or in the one stage that was handed over; the frozen places are as they were. -/
def Safe (stages : List StageObligation) (directory key : InodeKey) (name : String)
    (frozen : List (Spot × Option InodeKey))
    (s : State World) : Prop :=
  (s.world.entries.lookup (directory, name) = some key ∨
    ∃ obligation, s.pendingStages = stages ++ [obligation] ∧ Retains directory key s.world obligation) ∧
  ∀ place ∈ frozen, s.world.entries.lookup place.1 = place.2

def OperationRecord.mutated (record : OperationRecord) : Bool :=
  match record.record with
  | .operation event => event.result = .mutatedError
  | _ => false

/-- A `MutatedError` has been recorded since. -/
def Mutated (old : List OperationRecord) (s : State World) : Prop :=
  ∃ record ∈ s.records.drop old.length, record.mutated = true

instance (old : List OperationRecord) (s : State World) : Decidable (Mutated old s) :=
  inferInstanceAs (Decidable (∃ record ∈ _, _))

section Rollback

variable {adversary : Adversary} (still : adversary.Still) {old : List OperationRecord} {stages : List StageObligation}
  {fds : List (RawFd × InodeKey)} {parent : DirCap} {directory key : InodeKey} {name : String}
  {frozen : List (Spot × Option InodeKey)}

theorem Standing.staged {inner : InodeKey} {stageName : String} {w : World}
    (standing : Standing fds (away directory inner key stageName frozen) w) :
    w.entries.lookup (directory, stageName) = some inner ∧ w.entries.lookup (inner, stagedName) = some key :=
  ⟨standing.entries ((directory, stageName), some inner) (List.mem_cons_of_mem _ List.mem_cons_self),
    standing.entries ((inner, stagedName), some key) List.mem_cons_self⟩

theorem Followed.safe {s : State World} (standing : Followed old fds (home directory key name frozen) s) :
    Safe stages directory key name frozen s :=
  ⟨.inl (standing.2.entries _ List.mem_cons_self), fun place listed =>
    standing.2.entries place (List.mem_cons_of_mem _ listed)⟩

theorem record_safe (entry : JournalRecord) : Invariant (Safe stages directory key name frozen) (record entry) :=
  Invariant.modify fun _ => id

theorem failWith_safe {post : α → Assertion (State World)} (operation : OperationName) (capabilities : CapabilitySet)
    (outcome : OperationOutcome) (error : BoundaryError) :
    Triple (Safe stages directory key name frozen)
      (failWith operation capabilities outcome error : BoundaryM World α) post
      (fun _ => Safe stages directory key name frozen) :=
  Triple.bind (record_safe _) fun _ => Triple.throw fun _ => id

include still

theorem retainStageAuthority_safe {stage : DirCap} {inner : InodeKey} {stageName : String}
    (known : stage.identity.inodeKey = inner)
    (child : Option Nat) (childIdentity : Option FileIdentity) :
    Triple (Waiting old stages ((stage.fd, inner) :: fds) (away directory inner key stageName frozen))
      (retainStageAuthority adversary.env parent stage stageName child childIdentity)
      (fun _ => Safe stages directory key name frozen) (fun _ => Safe stages directory key name frozen) := by
  -- Whatever is handed over, the stage is where it was and holds the object.
  have retained (pairs : List (RawFd × InodeKey)) (obligation : StageObligation)
      (retains : ∀ w, Standing pairs (away directory inner key stageName frozen) w →
        Retains directory key w obligation) :
      Triple (Waiting old stages pairs (away directory inner key stageName frozen)) (pushStage obligation)
        (fun _ => Safe stages directory key name frozen) (fun _ => Safe stages directory key name frozen) := by
    refine Triple.update fun s waiting => ?_
    obtain ⟨⟨-, standing⟩, same⟩ := waiting
    refine ⟨.inr ⟨obligation, by rw [same], retains _ standing⟩, fun place listed => ?_⟩
    exact standing.entries place (List.mem_cons_of_mem _ (List.mem_cons_of_mem _ listed))
  refine Triple.bind ((waiting_observed still).duplicateFd _).attempt_any fun parentFd => ?_
  let opened (stageFd : Except BoundaryError RawFd) : Assertion (State World) := fun s =>
    match stageFd with
    | .ok fd => Waiting old stages ((fd, inner) :: (stage.fd, inner) :: fds)
        (away directory inner key stageName frozen) s
    | .error _ => Waiting old stages ((stage.fd, inner) :: fds) (away directory inner key stageName frozen) s
  have duplicates : Triple (Waiting old stages ((stage.fd, inner) :: fds) (away directory inner key stageName frozen))
      (attempt (duplicateFd adversary.env stage.fd) : BoundaryM World (Except BoundaryError RawFd)) opened
      (fun _ => Safe stages directory key name frozen) := by
    refine Triple.attempt opened ?_
    refine (perform_waiting still fun w => duplicate_answers List.mem_cons_self).conclude ?_ fun _ _ => id
    exact fun fd s after => ⟨⟨after.1.1, after.1.2⟩, after.2⟩
  refine Triple.bind duplicates fun stageFd => ?_
  have unbound : Triple (Waiting old stages ((stage.fd, inner) :: fds) (away directory inner key stageName frozen))
      (do
        let _ ← registerUnboundStage adversary.env parent stage.id child stageName (some stage.identity) childIdentity)
      (fun _ => Safe stages directory key name frozen) (fun _ => Safe stages directory key name frozen) := by
    have registers : Triple (Waiting old stages ((stage.fd, inner) :: fds) (away directory inner key stageName frozen))
        (registerUnboundStage adversary.env parent stage.id child stageName (some stage.identity) childIdentity)
        (fun _ => Safe stages directory key name frozen) (fun _ => Safe stages directory key name frozen) := by
      refine Triple.bind ((waiting_observed still).duplicateFd _).attempt_any fun fd => ?_
      refine Triple.bind (retained _ _ fun w standing => ?_) fun _ => Invariant.get.bind fun _ => Invariant.pure _
      exact ⟨inner, congrArg some known, standing.staged⟩
    exact Triple.bind registers fun _ => Invariant.pure _
  cases parentFd with
  | error _ =>
    refine Triple.strengthen unbound fun s waiting => ?_
    cases stageFd with
    | ok fd => exact ⟨waiting.1.weaken (List.subset_cons_self _ _) (List.Subset.refl _), waiting.2⟩
    | error _ => exact waiting
  | ok parentFd =>
    cases stageFd with
    | error _ => exact unbound
    | ok fd =>
      refine retained ((fd, inner) :: (stage.fd, inner) :: fds) _ fun w standing => ?_
      exact ⟨inner, standing.descriptors _ List.mem_cons_self, standing.staged⟩

variable (fixed : Frozen fds directory name frozen) (held : (parent.fd, directory) ∈ fds)

include fixed held

/-- The restore moves the object back or leaves it in the stage. -/
theorem restoreStaged_waiting {stage : DirCap} {inner : InodeKey} {stageName : String}
    (site : Site fds directory name frozen inner stageName) :
    Triple (Waiting old stages ((stage.fd, inner) :: fds) (away directory inner key stageName frozen))
      (restoreStaged adversary.env stage parent stagedName name)
      (fun _ => Followed old fds (home directory key name frozen))
      (fun _ s => Waiting old stages ((stage.fd, inner) :: fds) (away directory inner key stageName frozen) s ∨
        Followed old fds (home directory key name frozen) s) := by
  have observed : Observed adversary.env (Waiting old stages ((stage.fd, inner) :: fds)
      (away directory inner key stageName frozen)) :=
    waiting_observed still
  refine Triple.bind (Triple.fallback Invariant.ensure fun _ _ => .inl) fun _ => ?_
  refine Triple.bind ((observed.revalidateDirectory _ _).fallback fun _ _ => .inl) fun _ => ?_
  refine Triple.bind ((observed.fromAt _ _).fallback fun _ _ => .inl) fun staged => ?_
  have inside : (stage.fd, inner) ∈ (stage.fd, inner) :: fds := List.mem_cons_self
  have outside : (parent.fd, directory) ∈ (stage.fd, inner) :: fds := List.mem_cons_of_mem _ held
  have apart : ∀ place ∈ ((directory, stageName), some inner) :: frozen,
      place.1 ≠ (inner, stagedName) ∧ (place.2 = none → place.1 ≠ (directory, name)) := by
    intro place listed
    rcases List.mem_cons.mp listed with rfl | later
    · exact ⟨fun equal => site.fresh _ held (Prod.mk.inj equal).1, nofun⟩
    · refine ⟨fun equal => ?_, fun _ => fixed.apart place later⟩
      obtain ⟨pair, among, owner⟩ := fixed.known place later
      exact site.fresh pair among (owner.trans (congrArg Prod.fst equal))
  have moves : Triple (Waiting old stages ((stage.fd, inner) :: fds) (away directory inner key stageName frozen))
      (renameAt adversary.env stage.fd stagedName parent.fd name)
      (fun _ => Followed old fds (home directory key name frozen))
      (fun _ s => Waiting old stages ((stage.fd, inner) :: fds) (away directory inner key stageName frozen) s ∨
        Followed old fds (home directory key name frozen) s) := by
    refine (renameAt_waiting still inside outside apart).conclude ?_ fun _ _ => .inl
    refine fun _ s after => after.1.weaken (List.subset_cons_self _ _) ?_
    intro place listed
    simp only [home, List.mem_cons] at listed ⊢
    tauto
  refine Triple.bind moves fun _ => ?_
  refine Triple.bind (((followed_observed still).fromAt _ _).fallback fun _ _ => .inr) fun restored => ?_
  exact Triple.fallback Invariant.ensure fun _ _ => .inr

theorem rollbackMove_safe {post : α → Assertion (State World)} {stage : DirCap} {inner : InodeKey} {stageName : String}
    (site : Site fds directory name frozen inner stageName) (known : stage.identity.inodeKey = inner)
    (operation : OperationName) (capabilities : CapabilitySet) (lease : ExclusiveLease)
    (failure : OperationOutcome × BoundaryError) :
    Triple (Waiting old stages ((stage.fd, inner) :: fds) (away directory inner key stageName frozen))
      (rollbackMove adversary.env operation capabilities parent lease name stageName stage failure :
        BoundaryM World α) post
      (fun _ => Safe stages directory key name frozen) := by
  have restored : Triple (Waiting old stages ((stage.fd, inner) :: fds) (away directory inner key stageName frozen))
      (restoreStagedAndCleanup adversary.env stage parent lease stageName stagedName name)
      (fun _ => Safe stages directory key name frozen) (fun _ => Safe stages directory key name frozen) := by
    refine Triple.bind (Triple.rescue (restoreStaged_waiting still fixed held site) fun error => ?_) fun _ => ?_
    · refine Triple.or ?_ ?_
      · refine Triple.bind ((waiting_observed still).fromAt _ _).attempt_any fun child => ?_
        refine Triple.bind (retainStageAuthority_safe still known none child.toOption) fun _ => ?_
        exact Triple.throw fun _ => id
      · refine Triple.bind ((followed_observed still).fromAt _ _).attempt_any fun child => ?_
        refine Triple.bind ((retainStageAuthority_followed still parent stage stageName none child.toOption).fallback
          fun _ _ => Followed.safe) fun _ => ?_
        exact Triple.throw fun _ => Followed.safe
    · exact (cleanupRegistered_followed still held site.home fixed.home lease stage true).conclude
        (fun _ _ => Followed.safe) fun _ _ => Followed.safe
  refine Triple.bind (Triple.attempt (fun _ => Safe stages directory key name frozen) restored) fun rollback => ?_
  cases rollback with
  | ok _ => exact failWith_safe _ _ _ _
  | error error => exact failWith_safe _ _ _ _

omit fixed in
/-- After the mutation every error is recorded. -/
theorem finishMutation_mutated (operation : OperationName) (capabilities : CapabilitySet) (lease : ExclusiveLease)
    (stageName : String) (stage : DirCap) :
    Triple (Followed old fds []) (finishMutation adversary.env operation capabilities parent lease stageName stage)
      (fun _ _ => True) (fun _ => Mutated old) := by
  have reports (post : Unit → Assertion (State World)) (error : BoundaryError) :
      Triple (Followed old fds []) (failWith operation capabilities .mutatedError error : BoundaryM World Unit) post
        (fun _ => Mutated old) := by
    refine Triple.bind (Triple.update fun s standing => ?_) fun _ => Triple.throw fun _ => id
    refine ⟨⟨s.sequence + 1, .operation ⟨operation, capabilities, .mutatedError, none⟩⟩, ?_, rfl⟩
    rw [List.drop_append_of_le_length standing.1.length_le]
    exact List.mem_append_right _ List.mem_cons_self
  have nothing : ∀ place ∈ ([] : List (Spot × Option InodeKey)), place.1 ≠ (directory, stageName) := by simp
  refine Triple.bind (Triple.rescue (cleanupRegistered_followed still held nothing (by simp) lease stage true)
    (reports _)) fun _ => ?_
  refine Triple.bind (Triple.rescue ((followed_observed still).checkpoint _) (reports _)) fun _ => ?_
  exact Triple.update fun _ _ => trivial

theorem stagedMutation_safe {operation : OperationName} {capabilities : CapabilitySet} {lease : ExclusiveLease}
    {mutate : DirCap → EStateM (OperationOutcome × BoundaryError) (State World) Unit}
    (mutates : ∀ inner stageName stage, Site fds directory name frozen inner stageName →
      Triple (Waiting old stages ((stage.fd, inner) :: fds) (away directory inner key stageName frozen)) (mutate stage)
        (fun _ => Followed old ((stage.fd, inner) :: fds) [])
        (fun _ => Waiting old stages ((stage.fd, inner) :: fds) (away directory inner key stageName frozen))) :
    Triple (Waiting old stages fds (home directory key name frozen))
      (stagedMutation adversary.env operation capabilities parent lease name mutate) (fun _ _ => True)
      (fun _ s => Safe stages directory key name frozen s ∨ Mutated old s) := by
  refine Triple.bind ((moveIntoStage_waiting still fixed held operation capabilities lease).fallback
    fun _ _ standing => .inl standing.safe) fun pair => ?_
  obtain ⟨stageName, stage⟩ := pair
  refine Triple.choose fun inner => Triple.assume fun site => Triple.assume fun known => ?_
  refine Triple.bind (Triple.rescue (mutates inner stageName stage site) fun failure => ?_) fun _ => ?_
  · exact (rollbackMove_safe still fixed held site known operation capabilities lease failure).fallback fun _ _ => .inl
  · have outside : (parent.fd, directory) ∈ (stage.fd, inner) :: fds := List.mem_cons_of_mem _ held
    exact (finishMutation_mutated still outside operation capabilities lease stageName stage).fallback fun _ _ => .inr

end Rollback

section Mutations

variable {adversary : Adversary} (still : adversary.Still) {old : List OperationRecord} {stages : List StageObligation}
  {fds : List (RawFd × InodeKey)} {places : List (Spot × Option InodeKey)}

theorem reporting_waiting {kept : Assertion (State World)} {body : BoundaryM World α}
    {post : α → Assertion (State World)}
    (contract : Triple kept body post fun _ => kept) (outcome : OperationOutcome) :
    Triple kept (reporting outcome body) post fun _ => kept :=
  Triple.rescue contract fun _ => Triple.throw fun _ => id

include still

theorem verifyStaged_waiting (stage : DirCap) (expected : FileIdentity) :
    Invariant (Waiting old stages fds places) (verifyStaged adversary.env stage expected) :=
  Invariant.bind (reporting_waiting ((waiting_observed still).fromAt _ _) _) fun _ => Invariant.ensure

omit still in
theorem resolving_intact {w : World} {found : Except Nat α} {next : α → Except Nat ρ × World}
    (each : ∀ value, Answers (fun _ w' => w'.descriptors = w.descriptors) (· = w) (next value)) :
    Answers (fun _ w' => w'.descriptors = w.descriptors) (· = w) (Adversary.resolving w found next) := by
  cases found with
  | ok value => exact each value
  | error errno => exact rfl

/-- A removal or a rename that fails changes nothing; one that goes through leaves the descriptors alone. -/
theorem mutating_waiting {call : Syscall Unit}
    (mutates : ∀ w, Answers (fun _ w' => w'.descriptors = w.descriptors) (· = w) (adversary.kernel w call)) :
    Triple (Waiting old stages fds places) (reporting .rolledBackError (perform adversary.env call))
      (fun _ => Followed old fds []) (fun _ => Waiting old stages fds places) := by
  have answers (w : World) (standing : Standing fds places w) :
      Answers (fun _ => Standing fds []) (Standing fds places) (adversary.kernel w call) := by
    have answered := mutates w
    unfold Answers at answered ⊢
    split at answered
    · exact ⟨fun pair listed => by rw [answered, standing.descriptors pair listed], by simp⟩
    · rwa [answered]
  exact reporting_waiting ((perform_waiting still answers).conclude (fun _ _ after => after.1) fun _ _ => id) _

theorem removeStaged_waiting (parent : DirCap) (lease : ExclusiveLease) (expected : FileIdentity) (directory : Bool)
    (stage : DirCap) :
    Triple (Waiting old stages fds places) (removeStaged adversary.env parent lease expected directory stage)
      (fun _ => Followed old fds []) (fun _ => Waiting old stages fds places) := by
  have observed : Observed adversary.env (Waiting old stages fds places) := waiting_observed still
  refine Triple.bind (reporting_waiting (observed.checkpoint _) _) fun _ => ?_
  refine Triple.bind (verifyStaged_waiting still stage expected) fun _ => ?_
  refine Triple.bind (reporting_waiting (observed.requireExactMutationScope _ _) _) fun _ => ?_
  refine Triple.bind (verifyStaged_waiting still stage expected) fun _ => mutating_waiting still fun w => ?_
  refine resolving_intact fun found => ?_
  unfold Adversary.removeName
  split
  · exact rfl
  · exact rfl

theorem publishStaged_waiting (sourceParent destinationParent : DirCap) (lease : ExclusiveLease) (destination : String)
    (expected : FileIdentity) (stage : DirCap) :
    Triple (Waiting old stages fds places)
      (publishStaged adversary.env sourceParent destinationParent lease destination expected stage)
      (fun _ => Followed old fds []) (fun _ => Waiting old stages fds places) := by
  have observed : Observed adversary.env (Waiting old stages fds places) := waiting_observed still
  refine Triple.bind (reporting_waiting (observed.checkpoint _) _) fun _ => ?_
  refine Triple.bind (verifyStaged_waiting still stage expected) fun _ => ?_
  refine Triple.bind (reporting_waiting (observed.requireExactMutationScope _ _) _) fun _ => ?_
  refine Triple.bind (reporting_waiting (observed.requireExactMutationScope _ _) _) fun _ => ?_
  refine Triple.bind (verifyStaged_waiting still stage expected) fun _ => mutating_waiting still fun w => ?_
  refine resolving_intact fun origin => resolving_intact fun target => ?_
  unfold Adversary.moveName
  split
  · exact rfl
  · split
    · exact rfl
    · exact rfl

end Mutations

/-- The object an exact mutation takes, and the identity it must have. -/
def Operation.source : Operation → Option (DirCap × String × FileIdentity)
  | .mkdirChild _ _ _ _ => none
  | .unlinkExact parent _ name expected _ => some (parent, name, expected)
  | .renameExact sourceParent _ _ source _ expected => some (sourceParent, source, expected)

def Operation.destination : Operation → Option (DirCap × String)
  | .renameExact _ destinationParent _ _ destination _ => some (destinationParent, destination)
  | _ => none

section Calls

variable {adversary : Adversary} (still : adversary.Still) {old : List OperationRecord} {stages : List StageObligation}
  {fds : List (RawFd × InodeKey)} {directory key : InodeKey} {frozen : List (Spot × Option InodeKey)}

theorem cName_ok {name checked : String} (accepted : cName name = .ok checked) : checked = name := by
  unfold cName at accepted
  split at accepted
  · cases accepted
  · exact (Except.ok.inj accepted).symm

include still

theorem call_safe (operation : Operation) {parent : DirCap} {name : String} {expected : FileIdentity}
    (exact_ : operation.source = some (parent, name, expected)) (fixed : Frozen fds directory name frozen)
    (held : (parent.fd, directory) ∈ fds) :
    Triple (Waiting old stages fds (home directory key name frozen)) (call adversary.env operation) (fun _ _ => True)
      (fun _ s => Safe stages directory key name frozen s ∨ Mutated old s) := by
  have observed : Observed adversary.env (Waiting old stages fds (home directory key name frozen)) :=
    waiting_observed still
  have unmoved (s : State World) (waiting : Waiting old stages fds (home directory key name frozen) s) :
      Safe stages directory key name frozen s ∨ Mutated old s := .inl waiting.1.safe
  have refused {α : Type} (post : α → Assertion (State World)) (operation : OperationName)
      (capabilities : CapabilitySet)
      (error : BoundaryError) :
      Triple (Waiting old stages fds (home directory key name frozen))
        (failWith operation capabilities .error error : BoundaryM World α) post
        (fun _ s => Safe stages directory key name frozen s ∨ Mutated old s) :=
    Triple.bind ((record_waiting _).fallback fun _ => unmoved) fun _ => Triple.throw unmoved
  cases operation with
  | mkdirChild => cases exact_
  | unlinkExact parent lease name expected flag =>
    cases exact_
    have checked : Triple (Waiting old stages fds (home directory key name frozen))
        (checkUnlink adversary.env parent lease name expected)
        (fun checked s => checked = name ∧ Waiting old stages fds (home directory key name frozen) s)
        (fun _ s => Safe stages directory key name frozen s ∨ Mutated old s) := by
      refine Triple.bind (Triple.ofExcept (fun _ _ accepted waiting => And.intro (cName_ok accepted) waiting)
        fun _ s _ => unmoved s) fun checked => Triple.assume fun same => ?_
      refine Triple.bind (Triple.rescue (observed.exactIdentity _ _ _ _) (refused _ _ _)) fun _ => ?_
      exact Triple.pure fun s waiting => ⟨same, waiting⟩
    refine Triple.bind checked fun checked => Triple.assume fun same => ?_
    subst same
    exact stagedMutation_safe still fixed held fun inner stageName stage _ =>
      removeStaged_waiting still parent lease expected flag stage
  | renameExact sourceParent destinationParent lease source destination expected =>
    cases exact_
    have checked : Triple (Waiting old stages fds (home directory key name frozen))
        (checkRename adversary.env parent destinationParent lease name destination expected)
        (fun checked s => checked.1 = name ∧ Waiting old stages fds (home directory key name frozen) s)
        (fun _ s => Safe stages directory key name frozen s ∨ Mutated old s) := by
      refine Triple.bind (Triple.ofExcept (fun _ _ accepted waiting => And.intro (cName_ok accepted) waiting)
        fun _ s _ => unmoved s) fun checked => Triple.assume fun same => ?_
      refine Triple.bind (Triple.fallback (Invariant.ofExcept _) fun _ => unmoved) fun target => ?_
      extract_lets capabilities
      refine Triple.bind (Triple.rescue Invariant.ensure (refused _ _ _)) fun _ => ?_
      refine Triple.bind (Triple.rescue (observed.exactIdentity _ _ _ _) (refused _ _ _)) fun _ => ?_
      refine Triple.bind (Triple.rescue (observed.revalidateDirectory _ _) (refused _ _ _)) fun _ => ?_
      exact Triple.pure fun s waiting => ⟨same, waiting⟩
    refine Triple.bind checked fun names => ?_
    obtain ⟨checked, target⟩ := names
    refine Triple.assume fun same => ?_
    subst same
    exact stagedMutation_safe still fixed held fun inner stageName stage _ =>
      publishStaged_waiting still parent destinationParent lease target expected stage

end Calls

/-- The target is neither the source nor a free name of its directory that the boundary could take for a stage or
a quarantine. -/
def Distinct (w : World) (source target : Spot) : Prop :=
  target ≠ source ∧ (w.entries.lookup target = none → target.1 = source.1 →
    ∀ id, target.2 ≠ stageNameOf id ∧ target.2 ≠ quarantineNameOf id)

/-- Without a foreign writer, whatever fails, an exact mutation that ends in an error without a `MutatedError` leaves
the object under its name or in the one stage it hands over, and a distinct destination as it was. -/
theorem failed_mutation_loses_nothing (adversary : Adversary) (still : adversary.Still) (operation : Operation)
    (parent : DirCap) (name : String) (expected : FileIdentity) (exact_ : operation.source =
      some (parent, name, expected))
    (s : State World) (directory : InodeKey) (opened : s.world.descriptors.lookup parent.fd = some directory)
    (denotes : s.world.entries.lookup (directory, name) = some expected.inodeKey) (error : BoundaryError)
    (failed : outcome (call adversary.env operation s) = .error error)
    (unrecorded : ¬ Mutated s.records (finalState (call adversary.env operation s))) :
    let after := finalState (call adversary.env operation s)
    (after.world.entries.lookup (directory, name) = some expected.inodeKey ∨
      ∃ obligation, after.pendingStages = s.pendingStages ++ [obligation] ∧
        Retains directory expected.inodeKey after.world obligation) ∧
    ∀ destinationParent destination target, operation.destination = some (destinationParent, destination) →
      s.world.descriptors.lookup destinationParent.fd = some target →
        Distinct s.world (directory, name) (target, destination) →
      after.world.entries.lookup (target, destination) = s.world.entries.lookup (target, destination) := by
  -- The same run, with any list of frozen places.
  have safe (fds : List (RawFd × InodeKey)) (frozen : List (Spot × Option InodeKey))
      (held : (parent.fd, directory) ∈ fds)
      (fixed : Frozen fds directory name frozen) (standing : Standing fds frozen s.world) :
      Safe s.pendingStages directory expected.inodeKey name frozen (finalState (call adversary.env operation s)) := by
    have start : Waiting s.records s.pendingStages fds (home directory expected.inodeKey name frozen) s :=
      ⟨⟨List.prefix_rfl, standing.cons_entry denotes⟩, rfl⟩
    cases ran : call adversary.env operation s with
    | ok value final =>
      rw [ran] at failed
      cases failed
    | error other final =>
      rw [ran] at unrecorded
      exact ((call_safe still operation exact_ fixed held).failed start ran).resolve_right unrecorded
  intro after
  constructor
  · have alone : Standing [(parent.fd, directory)] [] s.world := ⟨by simpa using opened, by simp⟩
    exact (safe _ [] List.mem_cons_self ⟨by simp, by simp, by simp, by simp⟩ alone).1
  · intro destinationParent destination target _ reached distinct
    have both : Standing [(parent.fd, directory), (destinationParent.fd, target)]
        [((target, destination), s.world.entries.lookup (target, destination))] s.world :=
      ⟨by simpa using ⟨opened, reached⟩, by simp⟩
    have fixed : Frozen [(parent.fd, directory), (destinationParent.fd, target)] directory name
        [((target, destination), s.world.entries.lookup (target, destination))] := by
      refine ⟨by simp, by simpa using distinct.1, ?_, ?_⟩
      · intro place listed absent id same
        rw [List.mem_singleton.mp listed] at absent same
        exact (distinct.2 absent (Prod.mk.inj same).1 id).1 (Prod.mk.inj same).2
      · intro place listed absent id same
        rw [List.mem_singleton.mp listed] at absent same
        exact (distinct.2 absent (Prod.mk.inj same).1 id).2 (Prod.mk.inj same).2
    exact (safe _ _ List.mem_cons_self fixed both).2 _ List.mem_cons_self

/-- No writers. Once the file has been moved into the stage 20 every syscall fails. -/
def stranding : Adversary where
  fails w := if (w.entries.lookup ((1, 20), stagedName)).isSome then some 5 else none
  writes w := w.entries
  reuses _ _ := false
  describe _ inode := ⟨inode.1, inode.2, if inode = (1, 7) then 0o100644 else 0o40755, 1, 0, 0⟩
  inode _ := (1, 20)
  verdict _ _ _ := .ok ()
  invalidates _ _ _ := false

/-- The file 7 in the directory 10, which is open together with the lease 12 and the directory 11. -/
def oneFile : State World :=
  { world := { entries := [(((1, 10), "object"), (1, 7))], descriptors := [(3, (1, 10)), (4, (1, 12)), (5, (1, 11))] } }

/-- The file is to be renamed in its directory or into the other one. -/
def renamingFile (destinationParent : DirCap) (destination : String) : Operation :=
  .renameExact ⟨3, ⟨1, 10, 0o40755, 1, 0, 0⟩, 1, 1⟩ destinationParent ⟨4, ⟨1, 12, 0o40755, 1, 0, 0⟩, 2,
    1⟩ "object" destination
    ⟨1, 7, 0o100644, 1, 0, 0⟩

theorem failed_mutation_loses_nothing_stranded :
    let after := finalState (call stranding.env (renamingFile ⟨5, ⟨1, 11, 0o40755, 1, 0, 0⟩, 3, 1⟩ "moved") oneFile)
    (after.world.entries.lookup ((1, 10), "object") = some (1, 7) ∨
      ∃ obligation, after.pendingStages = [obligation] ∧ Retains (1, 10) (1, 7) after.world obligation) ∧
    after.world.entries.lookup ((1, 11), "moved") = none := by
  have lost := failed_mutation_loses_nothing stranding (fun _ => rfl)
    (renamingFile ⟨5, ⟨1, 11, 0o40755, 1, 0, 0⟩, 3, 1⟩ "moved") _ _ _ rfl oneFile (1, 10) rfl (by decide +kernel)
    (.io "fstat" 5) (by decide +kernel) (by decide +kernel)
  refine ⟨lost.1, lost.2 _ _ (1, 11) rfl rfl ⟨by decide, fun _ same => ?_⟩⟩
  exact absurd same (by decide)

/-- Renamed onto itself the file ends up in the stage, so its destination is gone. -/
theorem renameExact_onto_itself :
    let operation := renamingFile ⟨3, ⟨1, 10, 0o40755, 1, 0, 0⟩, 1, 1⟩ "object"
    let after := finalState (call stranding.env operation oneFile)
    stranding.Still ∧ outcome (call stranding.env operation oneFile) = .error (.io "fstat" 5) ∧
      ¬ Mutated oneFile.records after ∧ oneFile.world.entries.lookup ((1, 10), "object") = some (1, 7) ∧
      after.world.entries.lookup ((1, 10), "object") = none := by
  intro operation after
  refine ⟨fun _ => rfl, ?_, ?_, ?_, ?_⟩
  · decide +kernel
  · decide +kernel
  · decide +kernel
  · decide +kernel

end Darling.Boundary
