import Darling.Boundary.Observing
import Darling.Boundary.Namespace
import Darling.Library.Associations

/-! The namespace without foreign writers. Some descriptors and some places are followed through every step:
where no call is made on a place, what stands there stays. -/
namespace Darling.Boundary

/-- An entry of a directory, by the directory's inode. -/
abbrev Spot := InodeKey × String

/-- Nobody but the boundary changes an entry. -/
def Adversary.Still (adversary : Adversary) : Prop := ∀ w, adversary.writes w = w.entries

namespace World

theorem lookup_erase (entries : Entries) (place other : Spot) :
    (erase entries place).lookup other = if other = place then none else entries.lookup other := by
  induction entries with
  | nil => simp [erase]
  | cons head rest ih =>
    obtain ⟨key, value⟩ := head
    by_cases gone : key = place
    · have same : erase ((key, value) :: rest) place = erase rest place := by simp [erase, gone]
      rw [same, ih]
      by_cases here : other = place
      · simp [here]
      · rw [if_neg here, if_neg here, List.lookup_cons]
        have differs : (other == key) = false := beq_false_of_ne (by rw [gone]; exact here)
        rw [differs]
    · have kept : erase ((key, value) :: rest) place = (key, value) :: erase rest place := by simp [erase, gone]
      rw [kept, List.lookup_cons, List.lookup_cons, ih]
      by_cases here : other = key
      · rw [here]
        simp [gone]
      · have differs : (other == key) = false := beq_false_of_ne here
        rw [differs]

theorem lookup_le_foldr {descriptors : List (RawFd × InodeKey)} {fd : RawFd} {inode : InodeKey}
    (found : descriptors.lookup fd = some inode) : fd ≤ (descriptors.map (·.1)).foldr max 0 := by
  have listed := mem_of_lookup found
  clear found
  induction descriptors with
  | nil => cases listed
  | cons head rest ih =>
    rw [List.map_cons, List.foldr_cons]
    rcases List.mem_cons.mp listed with rfl | later
    · exact Nat.le_max_left _ _
    · exact Nat.le_trans (ih later) (Nat.le_max_right _ _)

/-- A new descriptor leaves the others alone. -/
theorem openInode_lookup (w : World) (opened : InodeKey) {fd : RawFd} {inode : InodeKey}
    (found : w.descriptors.lookup fd = some inode) : (w.openInode opened).2.descriptors.lookup fd = some inode := by
  have below := lookup_le_foldr found
  have differs : (fd == w.freshFd) = false := beq_false_of_ne (Nat.ne_of_lt (Nat.lt_succ_of_le below))
  rw [openInode, List.lookup_cons, differs]
  exact found

theorem resolve_of_lookup {w : World} {fd : RawFd} {directory : InodeKey}
    (found : w.descriptors.lookup fd = some directory)
    (name : String) : w.resolve fd name = .ok (directory, w.entries.lookup (directory, name)) := by
  simp [resolve, inodeOf, found, Except.map]

end World

/-- Some descriptors, and what stands at some places. -/
structure Standing (fds : List (RawFd × InodeKey)) (places : List (Spot × Option InodeKey)) (w : World) : Prop where
  descriptors : ∀ held ∈ fds, w.descriptors.lookup held.1 = some held.2
  entries : ∀ place ∈ places, w.entries.lookup place.1 = place.2

/-- As above, after the records so far. -/
def Followed (old : List OperationRecord) (fds : List (RawFd × InodeKey)) (places : List (Spot × Option InodeKey))
    (s : State World) : Prop := old <+: s.records ∧ Standing fds places s.world

section Kernel

variable {adversary : Adversary} {fds : List (RawFd × InodeKey)} {places : List (Spot × Option InodeKey)} {w : World}

theorem Standing.cons_entry {place : Spot} {value : Option InodeKey} (standing : Standing fds places w)
    (here : w.entries.lookup place = value) : Standing fds ((place, value) :: places) w := by
  refine ⟨standing.descriptors, fun other listed => ?_⟩
  rcases List.mem_cons.mp listed with rfl | later
  · exact here
  · exact standing.entries other later

theorem Standing.cons_descriptor {fd : RawFd} {inode : InodeKey} (standing : Standing fds places w)
    (here : w.descriptors.lookup fd = some inode) : Standing ((fd, inode) :: fds) places w := by
  refine ⟨fun other listed => ?_, standing.entries⟩
  rcases List.mem_cons.mp listed with rfl | later
  · exact here
  · exact standing.descriptors other later

theorem Standing.opened (standing : Standing fds places w) (inode : InodeKey) :
    Standing ((w.freshFd, inode) :: fds) places (w.openInode inode).2 := by
  have kept : Standing fds places (w.openInode inode).2 :=
    ⟨fun held listed => World.openInode_lookup w inode (standing.descriptors held listed), standing.entries⟩
  exact kept.cons_descriptor (by simp [World.openInode])

theorem Standing.weaken {fds' : List (RawFd × InodeKey)} {places' : List (Spot × Option InodeKey)}
    (standing : Standing fds places w) (fewer : fds' ⊆ fds) (less : places' ⊆ places) : Standing fds' places' w :=
  ⟨fun held listed => standing.descriptors held (fewer listed), fun place listed =>
    standing.entries place (less listed)⟩

/-- What a call that succeeds makes of the world; one that fails changes nothing. -/
def Answers (after : ρ → World → Prop) (before : World → Prop) (answer : Except Nat ρ × World) : Prop :=
  match answer.1 with
  | .ok reply => after reply answer.2
  | .error _ => before answer.2

theorem resolving_answers {after : ρ → World → Prop} {before : World → Prop} {found : Except Nat α}
    {next : α → Except Nat ρ × World} (now : before w) (each : ∀ value, found = .ok value →
      Answers after before (next value)) :
    Answers after before (Adversary.resolving w found next) := by
  cases found with
  | ok value => exact each value rfl
  | error errno => exact now

theorem observe_answers {call : Syscall ρ} (unchanged : call.effect = none) (standing : Standing fds places w) :
    Answers (fun _ => Standing fds places) (Standing fds places) (adversary.kernel w call) := by
  have opened (inode : InodeKey) : Answers (fun _ => Standing fds places) (Standing fds places) (w.openInode inode) :=
    (standing.opened inode).weaken (List.subset_cons_self _ _) (List.Subset.refl _)
  cases call with
  | fstat fd => exact resolving_answers standing fun _ _ => standing
  | fstatat parent name => exact resolving_answers standing fun _ _ => standing
  | openDirectory parent name => exact resolving_answers standing fun inode _ => opened inode
  | openObjectPath parent name => exact resolving_answers standing fun inode _ => opened inode
  | duplicate fd => exact resolving_answers standing fun inode _ => opened inode
  | mkdirat _ _ _ => cases unchanged
  | unlinkat _ _ _ => cases unchanged
  | renameat2 _ _ _ _ _ => cases unchanged

/-- A removal leaves the other places alone. -/
theorem unlinkat_answers {fd : RawFd} {directory : InodeKey} {name : String} {flag : Bool}
    (held : (fd, directory) ∈ fds)
    (apart : ∀ place ∈ places, place.1 ≠ (directory, name)) (standing : Standing fds places w) :
    Answers (fun _ => Standing fds places) (Standing fds places) (adversary.kernel w (.unlinkat fd name flag)) := by
  rw [Adversary.kernel_unlinkat, World.resolve_of_lookup (standing.descriptors _ held) name]
  change Answers _ _ (Adversary.removeName w name (directory, _))
  unfold Adversary.removeName
  split
  · exact standing
  · refine ⟨standing.descriptors, fun place listed => ?_⟩
    rw [World.lookup_erase, if_neg (apart place listed)]
    exact standing.entries place listed

/-- A rename that does not replace takes the name from one place to another that was free. -/
theorem rename_answers {fd fd' : RawFd} {directory directory' : InodeKey} {source destination : String}
    (held : (fd, directory) ∈ fds) (held' : (fd', directory') ∈ fds)
    (apart : ∀ place ∈ places, place.1 ≠ (directory, source) ∧ (place.2 = none → place.1 ≠ (directory', destination)))
    (standing : Standing fds places w) :
    Answers (fun _ w' => (∀ place ∈ places, place.1 ≠ (directory', destination)) ∧
        ∃ inode, w.entries.lookup (directory, source) = some inode ∧
          Standing fds (((directory', destination), some inode) :: ((directory, source), none) :: places) w')
      (fun w' => w' = w) (adversary.kernel w (.renameat2 fd source fd' destination true)) := by
  have first := World.resolve_of_lookup (standing.descriptors _ held) source
  have second := World.resolve_of_lookup (standing.descriptors _ held') destination
  have computed : adversary.kernel w (.renameat2 fd source fd' destination true) =
      Adversary.moveName w source destination true (directory, w.entries.lookup (directory, source))
        (directory', w.entries.lookup (directory', destination)) := by
    change Adversary.resolving w (w.resolve fd source) _ = _
    rw [first]
    change Adversary.resolving w (w.resolve fd' destination) _ = _
    rw [second]
    rfl
  rw [computed]
  unfold Adversary.moveName
  cases moved : w.entries.lookup (directory, source) with
  | none => exact rfl
  | some inode =>
    cases taken : w.entries.lookup (directory', destination) with
    | some _ => exact rfl
    | none =>
      -- The target was free, so what stands somewhere stands elsewhere.
      have clear (place : Spot × Option InodeKey) (listed : place ∈ places) : place.1 ≠ (directory', destination) := by
        intro same
        cases value : place.2 with
        | none => exact (apart place listed).2 value same
        | some _ =>
          have present := standing.entries place listed
          rw [same, taken, value] at present
          cases present
      have different : (directory, source) ≠ (directory', destination) := by
        intro same
        rw [same, taken] at moved
        cases moved
      refine ⟨clear, inode, rfl, ?_⟩
      have entries (other : Spot) (elsewhere : other ≠ (directory', destination)) :
          List.lookup other (((directory', destination), inode) :: World.erase
            (World.erase w.entries (directory, source)) (directory', destination)) =
            if other = (directory, source) then none else w.entries.lookup other := by
        have differs : (other == (directory', destination)) = false := beq_false_of_ne elsewhere
        rw [List.lookup_cons, differs, World.lookup_erase, if_neg elsewhere, World.lookup_erase]
      have others : Standing fds places { w with
          entries := ((directory', destination), inode) ::
            World.erase (World.erase w.entries (directory, source)) (directory', destination)
          events := w.events ++ [.renamed inode none] } := by
        refine ⟨standing.descriptors, fun place listed => ?_⟩
        rw [entries _ (clear place listed), if_neg (apart place listed).1]
        exact standing.entries place listed
      refine (others.cons_entry ?_).cons_entry ?_
      · rw [entries _ different, if_pos rfl]
      · exact List.lookup_cons_self

theorem lookup_unused {inode : InodeKey} (unused : w.uses inode = false) :
    (∀ name, w.entries.lookup (inode, name) = none) ∧ ∀ fd, w.descriptors.lookup fd ≠ some inode := by
  rw [World.uses, Bool.or_eq_false_iff] at unused
  obtain ⟨entries, descriptors⟩ := unused
  constructor
  · intro name
    cases found : w.entries.lookup (inode, name) with
    | none => rfl
    | some value =>
      have listed := List.any_eq_false.mp entries _ (mem_of_lookup found)
      simp at listed
  · intro fd found
    have listed := List.any_eq_false.mp descriptors _ (mem_of_lookup found)
    simp at listed

/-- A new directory has an inode of its own, and nothing in it. -/
theorem mkdirat_answers {fd : RawFd} {directory : InodeKey} {name : String} {mode : UInt32}
    (held : (fd, directory) ∈ fds)
    (free : ∀ place ∈ places, place.2 = none → place.1 ≠ (directory, name)) (child : String)
    (standing : Standing fds places w) :
    Answers (fun _ w' => ∃ made, (∀ held ∈ fds, held.2 ≠ made) ∧ (∀ place ∈ places, place.1 ≠ (directory, name)) ∧
        Standing fds (((directory, name), some made) :: ((made, child), none) :: places) w')
      (Standing fds places) (adversary.kernel w (.mkdirat fd name mode)) := by
  rw [Adversary.kernel_mkdirat, World.resolve_of_lookup (standing.descriptors _ held) name]
  change Answers _ _ (adversary.makeDirectory w name (directory, _))
  unfold Adversary.makeDirectory
  by_cases taken : (w.entries.lookup (directory, name)).isSome = true
  · simp only [taken, ↓reduceIte]
    exact standing
  · simp only [taken]
    by_cases used : w.uses (adversary.inode w) = true
    · simp only [used, ↓reduceIte]
      exact standing
    · simp only [used]
      have absent : w.entries.lookup (directory, name) = none := Option.not_isSome_iff_eq_none.mp taken
      obtain ⟨bare, unopened⟩ := lookup_unused (Bool.eq_false_iff.mpr used)
      have fresh (pair : RawFd × InodeKey) (listed : pair ∈ fds) : pair.2 ≠ adversary.inode w := by
        intro same
        exact unopened pair.1 (same ▸ standing.descriptors pair listed)
      have clear (place : Spot × Option InodeKey) (listed : place ∈ places) : place.1 ≠ (directory, name) := by
        intro same
        have now := standing.entries place listed
        rw [same, absent] at now
        exact free place listed now.symm same
      have entries (other : Spot) (elsewhere : other ≠ (directory, name)) :
          List.lookup other (((directory, name), adversary.inode w) :: w.entries) = w.entries.lookup other := by
        have differs : (other == (directory, name)) = false := beq_false_of_ne elsewhere
        rw [List.lookup_cons, differs]
      have others : Standing fds places { w with
          entries := ((directory, name), adversary.inode w) :: w.entries
          own := adversary.inode w :: w.own } :=
        ⟨standing.descriptors, fun place listed =>
          (entries _ (clear place listed)).trans (standing.entries place listed)⟩
      refine ⟨adversary.inode w, fresh, clear, (others.cons_entry ?_).cons_entry ?_⟩
      · rw [entries, bare]
        intro same
        exact fresh _ held (Prod.mk.inj same).1.symm
      · exact List.lookup_cons_self

theorem find_of_lookup {fd : RawFd} {directory inode : InodeKey} {name : String}
    (held : w.descriptors.lookup fd = some directory)
    (found : w.entries.lookup (directory, name) = some inode) : w.find fd name = .ok inode := by
  rw [World.find, World.resolve_of_lookup held, found]

theorem openDirectory_answers {fd : RawFd} {directory inode : InodeKey} {name : String} (held : (fd, directory) ∈ fds)
    (known : ((directory, name), some inode) ∈ places) (standing : Standing fds places w) :
    Answers (fun opened => Standing ((opened, inode) :: fds) places) (Standing fds places)
      (adversary.kernel w (.openDirectory fd name)) := by
  change Answers _ _ (Adversary.resolving w (w.find fd name) w.openInode)
  rw [find_of_lookup (standing.descriptors _ held) (standing.entries _ known)]
  exact standing.opened inode

theorem duplicate_answers {fd : RawFd} {inode : InodeKey} (held : (fd, inode) ∈ fds)
    (standing : Standing fds places w) :
    Answers (fun opened => Standing ((opened, inode) :: fds) places) (Standing fds places)
      (adversary.kernel w (.duplicate fd)) := by
  change Answers _ _ (Adversary.resolving w (w.inodeOf fd) w.openInode)
  rw [World.inodeOf, standing.descriptors _ held]
  exact standing.opened inode

theorem fstat_answers {fd : RawFd} {inode : InodeKey} (held : (fd, inode) ∈ fds) (standing : Standing fds places w) :
    Answers (fun identity w' => identity.inodeKey = inode ∧ Standing fds places w') (Standing fds places)
      (adversary.kernel w (.fstat fd)) := by
  change Answers _ _ (Adversary.resolving w (w.inodeOf fd) _)
  rw [World.inodeOf, standing.descriptors _ held]
  exact ⟨rfl, standing⟩

end Kernel

section Steps

variable {adversary : Adversary} (still : adversary.Still) {old : List OperationRecord} {fds : List (RawFd × InodeKey)}
  {places : List (Spot × Option InodeKey)}

include still

theorem settle_standing (quiet : Bool) {w : World} (standing : Standing fds places w) :
    Standing fds places (adversary.settle quiet w) := by
  cases quiet with
  | true => exact ⟨standing.descriptors, standing.entries⟩
  | false =>
    refine ⟨standing.descriptors, fun place listed => ?_⟩
    have kept : (adversary.settle false w).entries = w.entries := still _
    rw [kept, standing.entries place listed]

theorem perform_followed {call : Syscall ρ} {after : ρ → World → Prop}
    (answers : ∀ w, Standing fds places w → Answers after (Standing fds places) (adversary.kernel w call)) :
    Triple (Followed old fds places) (perform adversary.env call) (fun reply s => old <+: s.records ∧
      after reply s.world)
      (fun _ => Followed old fds places) := by
  intro s held
  obtain ⟨records, standing⟩ := held
  have ready := settle_standing still s.barrier standing
  have answered : Answers after (Standing fds places) (adversary.env.syscall s.barrier call s.world) := by
    simp only [Adversary.env]
    split
    · exact ready
    · exact answers _ ready
  unfold perform
  rcases computed : adversary.env.syscall s.barrier call s.world with ⟨reply | reply, world⟩
  · rw [computed] at answered
    exact ⟨records, answered⟩
  · rw [computed] at answered
    exact ⟨records, answered⟩

theorem followed_observed : Observed adversary.env (Followed old fds places) where
  perform call unchanged := perform_followed still fun w => observe_answers unchanged
  hook phase point := by
    apply Invariant.of_finalState
    intro s held
    obtain ⟨records, standing⟩ := held
    have after : Standing fds places (adversary.env.hook s.barrier phase point s.world).2.2 := by
      simp only [Adversary.env]
      split
      · exact ⟨standing.descriptors, standing.entries⟩
      · exact settle_standing still false standing
    rw [runHook_final]
    split
    · exact ⟨records, after⟩
    · exact ⟨records, after⟩
  record entry _ _ := Invariant.modify fun s held => ⟨held.1.trans (List.prefix_append _ _), held.2⟩

theorem renameAt_followed {fd fd' : RawFd} {directory directory' : InodeKey} {source destination : String}
    (held : (fd, directory) ∈ fds) (held' : (fd', directory') ∈ fds)
    (apart : ∀ place ∈ places, place.1 ≠ (directory, source) ∧ (place.2 = none → place.1 ≠ (directory', destination))) :
    Triple (Followed old fds places) (renameAt adversary.env fd source fd' destination)
      (fun _ s => (∀ place ∈ places, place.1 ≠ (directory', destination)) ∧ Followed old fds places s)
      (fun _ => Followed old fds places) := by
  have moves (w : World) (standing : Standing fds places w) :
      Answers (fun _ w' => (∀ place ∈ places, place.1 ≠ (directory', destination)) ∧ Standing fds places w')
        (Standing fds places) (adversary.kernel w (.renameat2 fd source fd' destination true)) := by
    have answers : Answers _ _ (adversary.kernel w (.renameat2 fd source fd' destination true)) :=
      rename_answers held held' apart standing
    unfold Answers at answers ⊢
    split at answers
    · obtain ⟨clear, inode, -, after⟩ := answers
      exact ⟨clear, after.weaken (List.Subset.refl _) fun _ listed =>
        List.mem_cons_of_mem _ (List.mem_cons_of_mem _ listed)⟩
    · rwa [answers]
  exact (perform_followed still moves).conclude (fun _ s after => ⟨after.2.1, after.1, after.2.2⟩) fun _ _ => id

/-- A rename that goes through takes what stands at the one place to the other. -/
theorem renameAt_moves {fd fd' : RawFd} {directory directory' inode : InodeKey} {source destination : String}
    (held : (fd, directory) ∈ fds) (held' : (fd', directory') ∈ fds)
    (apart : ∀ place ∈ places, place.1 ≠ (directory, source) ∧ (place.2 = none → place.1 ≠ (directory', destination))) :
    Triple (Followed old fds (((directory, source), some inode) :: places))
      (renameAt adversary.env fd source fd' destination)
      (fun _ => Followed old fds (((directory', destination), some inode) :: ((directory, source), none) :: places))
      (fun _ => Followed old fds (((directory, source), some inode) :: places)) := by
  refine perform_followed still fun w standing => ?_
  have fewer : Standing fds places w := standing.weaken (List.Subset.refl _) (List.subset_cons_self _ _)
  have answers : Answers _ _ (adversary.kernel w (.renameat2 fd source fd' destination true)) :=
    rename_answers held held' apart fewer
  have now : w.entries.lookup (directory, source) = some inode := standing.entries _ List.mem_cons_self
  unfold Answers at answers ⊢
  split at answers
  · obtain ⟨-, moved, found, after⟩ := answers
    cases found.symm.trans now
    exact after
  · rwa [answers]

theorem unlinkAt_followed {fd : RawFd} {directory : InodeKey} {name : String} {flag : Bool}
    (held : (fd, directory) ∈ fds)
    (apart : ∀ place ∈ places, place.1 ≠ (directory, name)) :
    Invariant (Followed old fds places) (unlinkAt adversary.env fd name flag) :=
  perform_followed still fun _ => unlinkat_answers held apart

end Steps

section Cleanups

variable {adversary : Adversary} (still : adversary.Still) {old : List OperationRecord} {fds : List (RawFd × InodeKey)}
  {places : List (Spot × Option InodeKey)}

theorem modify_followed {change : State World → State World} (world : ∀ s, (change s).world = s.world)
    (records : ∀ s, s.records <+: (change s).records) :
    Invariant (Followed old fds places) (modify change : BoundaryM World PUnit) := by
  refine Invariant.modify fun s held => ⟨held.1.trans (records s), ?_⟩
  rw [world]
  exact held.2

theorem record_followed (entry : JournalRecord) : Invariant (Followed old fds places) (record entry) :=
  modify_followed (fun _ => rfl) fun _ => List.prefix_append _ _

theorem bookkeeping_followed {change : State World → State World} (world : ∀ s, (change s).world = s.world)
    (records : ∀ s, (change s).records = s.records) :
    Invariant (Followed old fds places) (modify change : BoundaryM World PUnit) :=
  modify_followed world fun s => (records s).symm ▸ List.prefix_rfl

theorem trackQuarantine_followed (object : QuarantinedObject) :
    Invariant (Followed old fds places) (trackQuarantine object) :=
  Invariant.bind (bookkeeping_followed (fun _ => rfl) fun _ => rfl) fun _ => record_followed _

theorem nextId_followed : Invariant (Followed old fds places) nextId := fun _ held => held

theorem failWith_followed {post : α → Assertion (State World)} (operation : OperationName)
    (capabilities : CapabilitySet)
    (outcome : OperationOutcome) (error : BoundaryError) :
    Triple (Followed old fds places) (failWith operation capabilities outcome error : BoundaryM World α) post
      (fun _ => Followed old fds places) :=
  Triple.bind (record_followed _) fun _ => Triple.throw fun _ => id

include still

theorem registerUnboundStage_followed (parent : DirCap) (stage : Nat) (child : Option Nat) (name : String)
    (expected childIdentity : Option FileIdentity) :
    Invariant (Followed old fds places) (registerUnboundStage adversary.env parent stage child name expected
      childIdentity) := by
  refine ((followed_observed still).duplicateFd _).attempt.bind fun _ => ?_
  refine Invariant.bind (bookkeeping_followed (fun _ => rfl) fun _ => rfl) fun _ => ?_
  exact Invariant.get.bind fun _ => Invariant.pure _

theorem retainStageAuthority_followed (parent stage : DirCap) (name : String) (child : Option Nat)
    (childIdentity : Option FileIdentity) :
    Invariant (Followed old fds places) (retainStageAuthority adversary.env parent stage name child childIdentity) := by
  refine ((followed_observed still).duplicateFd _).attempt.bind fun parentFd => ?_
  refine ((followed_observed still).duplicateFd _).attempt.bind fun stageFd => ?_
  split
  · exact bookkeeping_followed (fun _ => rfl) fun _ => rfl
  · exact (registerUnboundStage_followed still _ _ _ _ _ _).bind fun _ => Invariant.pure _

omit still in
theorem retainUnlessQuarantined_followed {post : α → Assertion (State World)} {retain : BoundaryM World Unit}
    (retains : Invariant (Followed old fds places) retain) (error : BoundaryError) :
    Triple (Followed old fds places) (retainUnlessQuarantined retain error : BoundaryM World α) post
      (fun _ => Followed old fds places) := by
  refine Triple.read_bind_any fun now => Triple.bind (Invariant.onlyIf _ retains) fun _ => ?_
  exact Triple.throw fun _ => id

section Names

variable {parent : DirCap} {directory : InodeKey} {name : String} (held : (parent.fd, directory) ∈ fds)
  (apart : ∀ place ∈ places, place.1 ≠ (directory, name))

include held apart

theorem giveUpQuarantine_followed {post : α → Assertion (State World)} (unbound : UnboundQuarantine)
    (away : ∀ place ∈ places, place.1 ≠ (directory, unbound.quarantineName)) (restoreExpected : FileIdentity)
    (bound : Option QuarantinedObject) (error : BoundaryError) :
    Triple (Followed old fds places)
      (giveUpQuarantine adversary.env parent name unbound restoreExpected bound error : BoundaryM World α) post
      (fun _ => Followed old fds places) := by
  have settled : Invariant (Followed old fds places)
      (restoreOrTrackQuarantine adversary.env parent name restoreExpected unbound bound error) := by
    refine Invariant.bind (Invariant.attempt ?_) fun restored => ?_
    · refine Triple.bind (renameAt_followed still held held fun place listed =>
        ⟨away place listed, fun _ => apart place listed⟩) ?_
      intro _
      refine Triple.strengthen ?_ fun _ moved => moved.2
      exact ((followed_observed still).fromAt _ _).bind fun _ => Invariant.ensure
    · cases restored with
      | ok _ =>
        refine Invariant.bind (bookkeeping_followed (fun _ => rfl) fun _ => rfl) fun _ => ?_
        exact (record_followed _).bind fun _ => Invariant.pure _
      | error _ =>
        refine Invariant.bind (bookkeeping_followed (fun _ => rfl) fun _ => rfl) fun _ => ?_
        cases bound with
        | some object => exact (trackQuarantine_followed object).bind fun _ => Invariant.pure _
        | none =>
          refine Invariant.bind (bookkeeping_followed (fun _ => rfl) fun _ => rfl) fun _ => ?_
          exact (record_followed _).bind fun _ => Invariant.pure _
  exact Triple.bind settled fun _ => Triple.throw fun _ => id

theorem bindQuarantined_followed (lease : ExclusiveLease) (unbound : UnboundQuarantine)
    (away : ∀ place ∈ places, place.1 ≠ (directory, unbound.quarantineName)) :
    Triple (Followed old fds places) (bindQuarantined adversary.env parent lease name unbound)
      (fun object s => (∀ place ∈ places, place.1 ≠ (directory, object.quarantineName)) ∧ Followed old fds places s)
      (fun _ => Followed old fds places) := by
  have observed : Observed adversary.env (Followed old fds places) := followed_observed still
  have giveUp (α : Type) (post : α → Assertion (State World)) (expected : FileIdentity)
      (bound : Option QuarantinedObject) (error : BoundaryError) :
      Triple (Followed old fds places)
        (giveUpQuarantine adversary.env parent name unbound expected bound error : BoundaryM World α) post
        (fun _ => Followed old fds places) :=
    giveUpQuarantine_followed still held apart unbound away expected bound error
  have keep (object : QuarantinedObject) (error : BoundaryError) (post : QuarantinedObject → Assertion (State World)) :
      Triple (Followed old fds places)
        (do
          setRollbackDisposition .quarantinedForRecovery
          trackQuarantine object
          throw error : BoundaryM World QuarantinedObject)
        post (fun _ => Followed old fds places) := by
    refine Triple.bind (bookkeeping_followed (fun _ => rfl) fun _ => rfl) fun _ => ?_
    exact Triple.bind (trackQuarantine_followed object) fun _ => Triple.throw fun _ => id
  refine Triple.bind (Triple.rescue (observed.openObjectPathAt _ _) (giveUp _ _ _ _)) fun fd => ?_
  refine Triple.bind (Triple.rescue (observed.duplicateFd _) (giveUp _ _ _ _)) fun parentFd => ?_
  extract_lets object
  refine Triple.bind (Triple.rescue (observed.checkpoint _) (giveUp _ _ _ _)) fun _ => ?_
  refine Triple.bind (Triple.rescue (observed.fromFd _) (giveUp _ _ _ _)) fun moved => ?_
  apply Triple.ite
  · intro _
    exact giveUp _ _ _ _ _
  · intro _
    refine Triple.bind (observed.fromAt _ _).attempt fun taken => ?_
    cases taken with
    | ok _ => exact keep object _ _
    | error error =>
      apply Triple.ite
      · intro _
        refine Triple.bind (bookkeeping_followed (fun _ => rfl) fun _ => rfl) fun _ => ?_
        exact Triple.pure fun s standing => ⟨away, standing⟩
      · intro _
        exact keep object error _

/-- No rollback touches a place that is neither the name nor, unless something stands there, a quarantine name. -/
theorem rollbackNamed_followed (free : ∀ place ∈ places, place.2 = none →
    ∀ id, place.1 ≠ (directory, quarantineNameOf id))
    (lease : ExclusiveLease) (expected : FileIdentity) (flag : Bool) :
    Triple (Followed old fds places) (rollbackNamed adversary.env parent lease name expected flag)
      (fun object s => (∀ place ∈ places, place.1 ≠ (directory, object.quarantineName)) ∧ Followed old fds places s)
      (fun _ => Followed old fds places) := by
  have observed : Observed adversary.env (Followed old fds places) := followed_observed still
  refine Triple.bind (bookkeeping_followed (fun _ => rfl) fun _ => rfl) fun _ =>
    Triple.bind Invariant.ensure fun _ => ?_
  refine Triple.bind (observed.revalidateDirectory _ _) fun _ => ?_
  refine Triple.bind (observed.revalidateLock _) fun _ => Triple.bind nextId_followed fun number => ?_
  refine Triple.bind (renameAt_followed still held held fun place listed =>
    ⟨apart place listed, fun absent => free place listed absent number⟩) fun _ => Triple.assume fun away => ?_
  refine Triple.bind (observed.duplicateFd _).attempt fun parentFd => Triple.bind nextId_followed fun id => ?_
  exact bindQuarantined_followed still held apart lease _ away

omit apart in
theorem finishQuarantine_followed (lease : ExclusiveLease) (object : QuarantinedObject)
    (away : ∀ place ∈ places, place.1 ≠ (directory, object.quarantineName)) :
    Invariant (Followed old fds places) (finishQuarantine adversary.env parent lease object) := by
  have observed : Observed adversary.env (Followed old fds places) := followed_observed still
  have collected (scope : QuiescentScope) :
      Invariant (Followed old fds places) (gcQuarantine adversary.env parent lease scope object) := by
    refine Invariant.bind (bookkeeping_followed (fun _ => rfl) fun _ => rfl) fun _ => ?_
    refine Invariant.bind (Invariant.attempt ?_) fun result => ?_
    · refine (observed.checkQuarantine _ _ _ _).bind fun _ => Invariant.get.bind fun _ => ?_
      refine Invariant.ensure.bind fun _ => (observed.verifyQuarantine _ _).bind fun _ => ?_
      exact unlinkAt_followed still held away
    · exact Invariant.bind (bookkeeping_followed (fun _ => rfl) fun _ => rfl) fun _ => Invariant.ofExcept result
  refine Invariant.get.bind fun now => ?_
  cases now.quiescentScope with
  | none => exact (trackQuarantine_followed object).bind fun _ => Invariant.throw _
  | some scope =>
    refine Invariant.bind (bookkeeping_followed (fun _ => rfl) fun _ => rfl) fun _ => ?_
    refine (collected scope).attempt.bind fun result => ?_
    refine Invariant.bind (bookkeeping_followed ?_ ?_) fun _ => ?_
    · intro s
      split <;> rfl
    · intro s
      split <;> rfl
    · cases result with
      | ok _ => exact record_followed _
      | error error => exact (trackQuarantine_followed object).bind fun _ => Invariant.throw error

variable (free : ∀ place ∈ places, place.2 = none → ∀ id, place.1 ≠ (directory, quarantineNameOf id))

include free

theorem cleanupRegistered_followed (lease : ExclusiveLease) (cap : DirCap) (flag : Bool) :
    Invariant (Followed old fds places) (cleanupRegistered adversary.env parent lease name cap flag) := by
  refine Invariant.bind (Invariant.attempt ?_) fun result => (record_followed _).bind fun _ => Invariant.ofExcept result
  refine Triple.bind (Triple.rescue ?_
    (retainUnlessQuarantined_followed (retainStageAuthority_followed still parent cap name none none))) fun object =>
    Triple.assume fun away => finishQuarantine_followed still held lease object away
  refine Triple.bind (bookkeeping_followed (fun _ => rfl) fun _ => rfl) fun _ =>
    Triple.bind Invariant.ensure fun _ => ?_
  exact Triple.bind Invariant.ensure fun _ => rollbackNamed_followed still held apart free lease _ flag

theorem abandonUnboundStage_followed {post : α → Assertion (State World)} (lease : ExclusiveLease) (stage : Nat)
    (identity : FileIdentity) (error : BoundaryError) :
    Triple (Followed old fds places)
      (abandonUnboundStage adversary.env parent lease name stage identity error : BoundaryM World α) post
      (fun _ => Followed old fds places) := by
  have registers : Invariant (Followed old fds places)
      (do let _ ← registerUnboundStage adversary.env parent stage (some stage) name (some identity) none) :=
    (registerUnboundStage_followed still _ _ _ _ _ _).bind fun _ => Invariant.pure _
  refine Triple.bind (Invariant.attempt ?_) fun cleanup => ?_
  · refine Triple.bind (Triple.rescue (rollbackNamed_followed still held apart free lease identity true)
      (retainUnlessQuarantined_followed registers)) fun object => Triple.assume fun away => ?_
    exact finishQuarantine_followed still held lease object away
  · exact Triple.bind (record_followed _) fun _ => Triple.throw fun _ => id

end Names

end Cleanups

end Darling.Boundary
