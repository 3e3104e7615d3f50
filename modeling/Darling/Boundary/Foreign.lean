import Darling.Boundary.Observing
import Darling.Boundary.Namespace

/-! The boundary never deletes or overwrites a foreign inode. While a writer-stop proof is in
force nothing moves between the last identity check and the removal; once a hook gives the proof
up, the boundary removes nothing for the rest of the call. -/
namespace Darling.Boundary

/-- Syscalls that neither remove a name nor replace one. -/
def Syscall.gentle : Syscall ρ → Bool
  | unlinkat _ _ _ => false
  | renameat2 _ _ _ _ noReplace => noReplace
  | _ => true

theorem Syscall.gentle_of_effect {call : Syscall ρ} (unchanged : call.effect = none) : call.gentle = true := by
  cases call <;> simp_all [effect, gentle]

/-- How a step of the kernel may change the world without harm. -/
structure Gentle (before after : World) : Prop where
  own : ∀ inode ∈ before.own, inode ∈ after.own
  events : ∀ event ∈ after.events, event ∈ before.events ∨ ∃ inode, event = .renamed inode none

theorem Gentle.refl (w : World) : Gentle w w := ⟨fun _ => id, fun _ => .inl⟩

namespace Adversary

variable (adversary : Adversary)

theorem resolving_gentle {w : World} {found : Except Nat α} {next : α → Except Nat ρ × World}
    (each : ∀ value, Gentle w (next value).2) : Gentle w (resolving w found next).2 := by
  cases found with
  | ok value => exact each value
  | error errno => exact Gentle.refl w

theorem makeDirectory_gentle (w : World) (name : String) (found : InodeKey × Option InodeKey) :
    Gentle w (adversary.makeDirectory w name found).2 := by
  unfold makeDirectory
  split
  · exact Gentle.refl w
  · split
    · exact Gentle.refl w
    · exact ⟨fun inode member => List.mem_cons_of_mem _ member, fun _ => .inl⟩

theorem moveName_gentle (w : World) (source destination : String) (origin target : InodeKey × Option InodeKey) :
    Gentle w (moveName w source destination true origin target).2 := by
  unfold moveName
  split
  · exact Gentle.refl w
  · split
    · exact Gentle.refl w
    · rename_i vacant
      refine ⟨fun _ => id, fun event member => ?_⟩
      rcases List.mem_append.mp member with earlier | last
      · exact .inl earlier
      · have nothing : target.2 = none := by simpa using vacant
        rw [nothing] at last
        exact .inr ⟨_, List.mem_singleton.mp last⟩

theorem kernel_gentle (w : World) {call : Syscall ρ} (gentle : call.gentle = true) :
    Gentle w (adversary.kernel w call).2 := by
  have opened (inode : InodeKey) : Gentle w (w.openInode inode).2 := ⟨fun _ => id, fun _ => .inl⟩
  cases call with
  | fstat fd | fstatat parent name => exact resolving_gentle fun _ => Gentle.refl w
  | openDirectory parent name | openObjectPath parent name | duplicate fd => exact resolving_gentle opened
  | mkdirat parent name mode => exact resolving_gentle (adversary.makeDirectory_gentle w name)
  | unlinkat parent name directory => cases gentle
  | renameat2 sourceParent source destinationParent destination noReplace =>
    cases noReplace with
    | false => cases gentle
    | true =>
      exact resolving_gentle fun origin => resolving_gentle fun target =>
        moveName_gentle w source destination origin target

theorem syscall_gentle (quiet : Bool) (w : World) {call : Syscall ρ} (gentle : call.gentle = true) :
    (∀ event ∈ (adversary.env.syscall quiet call w).2.events,
      event ∈ w.events ∨ ∃ inode, event = .renamed inode none) ∧
    (quiet = true → ∀ inode ∈ w.own, inode ∈ (adversary.env.syscall quiet call w).2.own) := by
  have settled : (adversary.settle quiet w).events = w.events := by
    cases quiet <;> rfl
  have kept : Gentle (adversary.settle quiet w) (adversary.env.syscall quiet call w).2 := by
    simp only [env]
    split
    · exact Gentle.refl _
    · exact adversary.kernel_gentle _ gentle
  constructor
  · intro event member
    rw [← settled]
    exact kept.events event member
  · rintro rfl inode member
    exact kept.own inode member

end Adversary

theorem Adversary.hook_events (adversary : Adversary) (quiet : Bool) (phase : HookPhase) (point : Checkpoint)
    (w : World) : (adversary.env.hook quiet phase point w).2.2.events = w.events := by
  simp only [env]
  split <;> rfl

/-- A hook under a proof that does not report an invalidation leaves the namespace alone. -/
theorem Adversary.hook_own (adversary : Adversary) {quiet : Bool} {phase : HookPhase} {point : Checkpoint}
    {w : World} (up : quiet = true) (valid : (adversary.env.hook quiet phase point w).2.1 ≠ true) :
    (adversary.env.hook quiet phase point w).2.2.own = w.own := by
  simp only [env] at valid ⊢
  simp [up, valid]

theorem Adversary.fstatat_answer (adversary : Adversary) {quiet : Bool} {w w' : World} {parent : RawFd}
    {name : String} {identity : FileIdentity}
    (answered : adversary.env.syscall quiet (.fstatat parent name) w = (.ok identity, w')) :
    w' = adversary.settle quiet w ∧ w'.find parent name = .ok identity.inodeKey := by
  simp only [env] at answered
  split at answered
  · cases answered
  · rw [kernel_fstatat] at answered
    unfold resolving at answered
    cases found : (adversary.settle quiet w).find parent name with
    | error errno =>
      rw [found] at answered
      cases answered
    | ok inode =>
      rw [found] at answered
      cases answered
      exact ⟨rfl, found⟩

theorem World.find_ok {w : World} {fd : RawFd} {name : String} {inode : InodeKey}
    (found : w.find fd name = .ok inode) : ∃ directory, w.resolve fd name = .ok (directory, some inode) := by
  unfold find at found
  split at found
  · cases found
    exact ⟨_, ‹_›⟩
  · cases found
  · cases found

/-- Under a proof an `unlinkat` removes what the name carries, or nothing. -/
theorem Adversary.unlinkat_answer (adversary : Adversary) (quiet : Bool) (w : World) (parent : RawFd)
    (name : String) (directory : Bool) (up : quiet = true) {inode : InodeKey}
    (found : w.find parent name = .ok inode) :
    (adversary.env.syscall quiet (.unlinkat parent name directory) w).2.own = w.own ∧
    ((adversary.env.syscall quiet (.unlinkat parent name directory) w).2.events = w.events ∨
      (adversary.env.syscall quiet (.unlinkat parent name directory) w).2.events =
        w.events ++ [.removed inode (inode ∈ w.own)]) := by
  subst up
  obtain ⟨place, resolved⟩ := World.find_ok found
  simp only [env]
  split
  · exact ⟨rfl, .inl rfl⟩
  · have settled : (adversary.settle true w).resolve parent name = .ok (place, some inode) := resolved
    rw [kernel_unlinkat, settled]
    exact ⟨rfl, .inr rfl⟩

/-- The events so far are allowed and, while a writer-stop proof is in force, the inodes of
interest are directories the boundary made. -/
structure Secure (allow : Event → Prop) (mine : InodeKey → Prop) (s : State World) : Prop where
  events : ∀ event ∈ s.world.events, allow event
  own : s.barrier = true → ∀ inode, mine inode → inode ∈ s.world.own

/-- As above, with the proof in force. -/
structure Guarded (allow : Event → Prop) (mine : InodeKey → Prop) (s : State World) : Prop where
  events : ∀ event ∈ s.world.events, allow event
  barrier : s.barrier = true
  own : ∀ inode, mine inode → inode ∈ s.world.own

/-- The proof lent to a collection is in force, or the hook that broke it has been noticed. -/
structure Lent (allow : Event → Prop) (mine : InodeKey → Prop) (s : State World) : Prop where
  events : ∀ event ∈ s.world.events, allow event
  own : s.quiescenceInvalidated = false → s.lent = true ∧ ∀ inode, mine inode → inode ∈ s.world.own

/-- What a collection hands back: unless a hook broke the proof, nothing happened to the inodes. -/
structure Returned (allow : Event → Prop) (mine : InodeKey → Prop) (s : State World) : Prop where
  events : ∀ event ∈ s.world.events, allow event
  own : s.quiescenceInvalidated = false → ∀ inode, mine inode → inode ∈ s.world.own

theorem Lent.returned {allow : Event → Prop} {mine : InodeKey → Prop} {s : State World}
    (held : Lent allow mine s) : Returned allow mine s :=
  ⟨held.events, fun valid => (held.own valid).2⟩

theorem Guarded.returned {allow : Event → Prop} {mine : InodeKey → Prop} {s : State World}
    (guarded : Guarded allow mine s) : Returned allow mine s :=
  ⟨guarded.events, fun _ => guarded.own⟩

theorem Guarded.secure {allow : Event → Prop} {mine : InodeKey → Prop} {s : State World}
    (guarded : Guarded allow mine s) : Secure allow mine s :=
  ⟨guarded.events, fun _ => guarded.own⟩

section Steps

variable (adversary : Adversary) {allow : Event → Prop} {mine : InodeKey → Prop}

theorem allowed_events (renames : ∀ inode, allow (.renamed inode none)) {before after : World}
    (allowed : ∀ event ∈ before.events, allow event)
    (added : ∀ event ∈ after.events, event ∈ before.events ∨ ∃ inode, event = .renamed inode none) :
    ∀ event ∈ after.events, allow event := by
  intro event member
  rcases added event member with earlier | ⟨inode, rfl⟩
  · exact allowed event earlier
  · exact renames inode

theorem perform_secure (renames : ∀ inode, allow (.renamed inode none)) {call : Syscall ρ}
    (gentle : call.gentle = true) : Invariant (Secure allow mine) (perform adversary.env call) := by
  apply Invariant.of_finalState
  intro s secure
  obtain ⟨effects, final⟩ := perform_final adversary.env call s
  obtain ⟨events, own⟩ := adversary.syscall_gentle s.barrier s.world gentle
  rw [final]
  refine ⟨allowed_events renames secure.events events, ?_⟩
  exact fun up inode interest => own up inode (secure.own up inode interest)

theorem perform_guarded (renames : ∀ inode, allow (.renamed inode none)) {call : Syscall ρ}
    (gentle : call.gentle = true) : Invariant (Guarded allow mine) (perform adversary.env call) := by
  apply Invariant.of_finalState
  intro s guarded
  obtain ⟨effects, final⟩ := perform_final adversary.env call s
  obtain ⟨events, own⟩ := adversary.syscall_gentle s.barrier s.world gentle
  rw [final]
  refine ⟨allowed_events renames guarded.events events, guarded.barrier, ?_⟩
  exact fun inode interest => own guarded.barrier inode (guarded.own inode interest)

theorem perform_lent (renames : ∀ inode, allow (.renamed inode none)) {call : Syscall ρ}
    (gentle : call.gentle = true) : Invariant (Lent allow mine) (perform adversary.env call) := by
  apply Invariant.of_finalState
  intro s held
  obtain ⟨effects, final⟩ := perform_final adversary.env call s
  obtain ⟨events, own⟩ := adversary.syscall_gentle s.barrier s.world gentle
  rw [final]
  refine ⟨allowed_events renames held.events events, fun valid => ?_⟩
  obtain ⟨lent, mine_own⟩ := held.own valid
  have up : s.barrier = true := by simp [State.barrier, lent]
  exact ⟨lent, fun inode interest => own up inode (mine_own inode interest)⟩

theorem secure_observed (renames : ∀ inode, allow (.renamed inode none)) :
    Observed adversary.env (Secure allow mine) where
  perform call unchanged := perform_secure adversary renames (Syscall.gentle_of_effect unchanged)
  hook phase point := by
    apply Invariant.of_finalState
    intro s secure
    have events := adversary.hook_events s.barrier phase point s.world
    rw [runHook_final]
    split
    · refine ⟨?_, ?_⟩
      · simpa only [events] using secure.events
      · simp [State.barrier]
    · rename_i valid
      refine ⟨?_, ?_⟩
      · simpa only [events] using secure.events
      · intro up
        have before : s.barrier = true := up
        have own := adversary.hook_own before valid
        simpa only [own] using secure.own before
  record entry _ _ := Invariant.modify fun s secure => ⟨secure.events, secure.own⟩

theorem lent_observed (renames : ∀ inode, allow (.renamed inode none)) :
    Observed adversary.env (Lent allow mine) where
  perform call unchanged := perform_lent adversary renames (Syscall.gentle_of_effect unchanged)
  hook phase point := by
    apply Invariant.of_finalState
    intro s held
    have events := adversary.hook_events s.barrier phase point s.world
    rw [runHook_final]
    split
    · refine ⟨?_, ?_⟩
      · simpa only [events] using held.events
      · simp
    · rename_i valid
      refine ⟨?_, ?_⟩
      · simpa only [events] using held.events
      · intro trusted
        obtain ⟨lent, mine_own⟩ := held.own trusted
        have up : s.barrier = true := by simp [State.barrier, lent]
        have own := adversary.hook_own up valid
        exact ⟨lent, by simpa only [own] using mine_own⟩
  record entry _ _ := Invariant.modify fun s held => ⟨held.events, held.own⟩

/-- Right after a lookup the name carries the inode that was seen. -/
theorem fromAt_found (parent : RawFd) (name : String) {kept : Assertion (State World)}
    (keeps : Invariant kept (fromAt adversary.env parent name)) :
    Triple kept (fromAt adversary.env parent name)
      (fun identity s => s.world.find parent name = .ok identity.inodeKey ∧ kept s) (fun _ => kept) := by
  intro s holds
  have after := keeps s holds
  revert after
  unfold fromAt perform
  cases answered : adversary.env.syscall s.barrier (.fstatat parent name) s.world with
  | mk result w =>
    cases result with
    | error errno => exact id
    | ok identity => exact fun after => ⟨(adversary.fstatat_answer answered).2, after⟩

/-- Under a proof the removal takes the inode that was seen. -/
theorem unlinkAt_guarded (parent : RawFd) (name : String) (directory : Bool) {inode : InodeKey}
    (removal : ∀ own, (mine inode → own = true) → allow (.removed inode own)) :
    Triple (fun s => s.world.find parent name = .ok inode ∧ Guarded allow mine s)
      (unlinkAt adversary.env parent name directory)
      (fun _ => Guarded allow mine) (fun _ => Guarded allow mine) := by
  intro s holds
  obtain ⟨found, guarded⟩ := holds
  have removes := adversary.unlinkat_answer s.barrier s.world parent name directory guarded.barrier found
  unfold unlinkAt perform
  cases answered : adversary.env.syscall s.barrier (.unlinkat parent name directory) s.world with
  | mk result w =>
    rw [answered] at removes
    obtain ⟨own, events⟩ := removes
    have after (effects : List Effect) : Guarded allow mine { s with world := w, effects := effects } := by
      refine ⟨?_, guarded.barrier, ?_⟩
      · intro event member
        rcases events with same | added
        · exact guarded.events event (same ▸ member)
        · rw [show ({ s with world := w, effects := effects } : State World).world.events = w.events from rfl,
            added] at member
          rcases List.mem_append.mp member with earlier | last
          · exact guarded.events event earlier
          · rw [List.mem_singleton.mp last]
            exact removal _ fun interest => by simpa using guarded.own inode interest
      · intro other interest
        change other ∈ w.own
        rw [show w.own = s.world.own from own]
        exact guarded.own other interest
    cases result with
    | error errno => exact after _
    | ok _ => exact after _

theorem verifyQuarantine_guarded (renames : ∀ inode, allow (.renamed inode none)) (parent : DirCap)
    (object : QuarantinedObject) :
    Triple (Guarded allow mine) (verifyQuarantine adversary.env parent object)
      (fun _ s => s.world.find parent.fd object.quarantineName = .ok object.expected.inodeKey ∧
        Guarded allow mine s)
      (fun _ => Guarded allow mine) := by
  refine Triple.bind (perform_guarded adversary renames rfl) fun held => ?_
  refine Triple.bind Invariant.ensure fun _ => ?_
  refine Triple.bind (fromAt_found adversary _ _ (perform_guarded adversary renames rfl)) fun observed => ?_
  refine (Triple.ensure fun _ s holds => holds.2).conclude (fun _ s holds => ?_) fun _ _ => id
  obtain ⟨same, found, guarded⟩ := holds
  rw [← same]
  exact ⟨found, guarded⟩

/-- A collection removes nothing but the quarantined inode. -/
theorem collectQuarantine_returned (renames : ∀ inode, allow (.renamed inode none)) (parent : DirCap)
    (object : QuarantinedObject)
    (removal : ∀ own, (mine object.expected.inodeKey → own = true) →
      allow (.removed object.expected.inodeKey own)) :
    Triple (Lent allow mine) (collectQuarantine adversary.env parent object)
      (fun _ => Returned allow mine) (fun _ => Returned allow mine) := by
  refine Triple.read_bind fun now => ?_
  refine Triple.bind (Triple.ensure fun _ s holds => holds.2.returned) fun _ => ?_
  have trusted : Triple (fun s => now.quiescenceInvalidated = false ∧ now = s ∧ Lent allow mine s)
      (verifyQuarantine adversary.env parent object)
      (fun _ s => s.world.find parent.fd object.quarantineName = .ok object.expected.inodeKey ∧
        Guarded allow mine s)
      (fun _ => Returned allow mine) := by
    refine (verifyQuarantine_guarded adversary renames parent object).weaken ?_ (fun _ _ => id)
      fun _ _ => Guarded.returned
    intro s holds
    obtain ⟨valid, rfl, held⟩ := holds
    obtain ⟨lent, own⟩ := held.own valid
    exact ⟨held.events, by simp [State.barrier, lent], own⟩
  refine Triple.bind trusted fun _ => ?_
  refine (unlinkAt_guarded adversary parent.fd object.quarantineName object.directory removal).conclude ?_ ?_
  · exact fun _ _ => Guarded.returned
  · exact fun _ _ => Guarded.returned

theorem gcQuarantine_returned (renames : ∀ inode, allow (.renamed inode none)) (parent : DirCap)
    (lease : ExclusiveLease) (scope : QuiescentScope) (object : QuarantinedObject)
    (removal : ∀ own, (mine object.expected.inodeKey → own = true) →
      allow (.removed object.expected.inodeKey own)) :
    Triple (fun s => (∀ event ∈ s.world.events, allow event) ∧ ∀ inode, mine inode → inode ∈ s.world.own)
      (gcQuarantine adversary.env parent lease scope object)
      (fun _ s => s.lent = false ∧ Returned allow mine s) (fun _ s => s.lent = false ∧ Returned allow mine s) := by
  have lending : Triple
      (fun s => (∀ event ∈ s.world.events, allow event) ∧ ∀ inode, mine inode → inode ∈ s.world.own)
      (modify fun s => { s with lent := true } : BoundaryM World Unit) (fun _ => Lent allow mine)
      (fun _ s => s.lent = false ∧ Returned allow mine s) :=
    fun s holds => ⟨holds.1, fun _ => ⟨rfl, holds.2⟩⟩
  refine Triple.bind lending fun _ => ?_
  have collected : Triple (Lent allow mine)
      (do
        checkQuarantine adversary.env parent lease scope object
        collectQuarantine adversary.env parent object)
      (fun _ => Returned allow mine) (fun _ => Returned allow mine) := by
    have checked : Invariant (Lent allow mine) (checkQuarantine adversary.env parent lease scope object) :=
      (lent_observed adversary renames).checkQuarantine parent lease scope object
    refine Triple.bind (checked.fallback fun _ _ => Lent.returned) fun _ => ?_
    exact collectQuarantine_returned adversary renames parent object removal
  refine Triple.bind (Triple.attempt (fun _ => Returned allow mine) collected) fun result => ?_
  have returning : Triple (Returned allow mine)
      (modify fun s => { s with lent := false } : BoundaryM World Unit)
      (fun _ s => s.lent = false ∧ Returned allow mine s)
      (fun _ s => s.lent = false ∧ Returned allow mine s) :=
    fun s returned => ⟨rfl, returned.events, returned.own⟩
  exact Triple.bind returning fun _ => Invariant.ofExcept result

theorem perform_scopeless (call : Syscall ρ) :
    Invariant (fun s => s.quiescentScope = none) (perform adversary.env call) := by
  apply Invariant.of_finalState
  intro s none
  obtain ⟨effects, final⟩ := perform_final adversary.env call s
  rw [final]
  exact none

theorem scopeless_observed : Observed adversary.env fun s => s.quiescentScope = none where
  perform call _ := perform_scopeless adversary call
  hook phase point := by
    apply Invariant.of_finalState
    intro s none
    rw [runHook_final]
    split
    · rfl
    · exact none
  record entry _ _ := Invariant.modify fun _ => id

theorem gcQuarantine_scopeless (parent : DirCap) (lease : ExclusiveLease) (scope : QuiescentScope)
    (object : QuarantinedObject) :
    Invariant (fun s => s.quiescentScope = none) (gcQuarantine adversary.env parent lease scope object) := by
  have observed := scopeless_observed adversary
  refine Invariant.bind (Invariant.modify fun _ => id) fun _ => ?_
  refine Invariant.bind (Invariant.attempt ?_) fun result => ?_
  · refine (observed.checkQuarantine _ _ _ _).bind fun _ => Invariant.get.bind fun _ => ?_
    refine Invariant.ensure.bind fun _ => (observed.verifyQuarantine _ _).bind fun _ => ?_
    exact perform_scopeless adversary _
  · exact Invariant.bind (Invariant.modify fun _ => id) fun _ => Invariant.ofExcept result

end Steps

section Cleanups

variable {adversary : Adversary} {allow : Event → Prop} {mine : InodeKey → Prop}
  (renames : ∀ inode, allow (.renamed inode none)) (removals : ∀ inode, allow (.removed inode true))

/-- Bookkeeping that leaves the world and the proofs alone. -/
theorem modify_secure {change : State World → State World} (world : ∀ s, (change s).world = s.world)
    (barrier : ∀ s, (change s).barrier = s.barrier) :
    Invariant (Secure allow mine) (modify change : BoundaryM World PUnit) := by
  apply Invariant.modify
  intro s secure
  refine ⟨?_, ?_⟩
  · rw [world]
    exact secure.events
  · rw [world, barrier]
    exact secure.own

theorem record_secure (entry : JournalRecord) : Invariant (Secure allow mine) (record entry) :=
  modify_secure (fun _ => rfl) (fun _ => rfl)

theorem setRollbackDisposition_secure (disposition : RollbackDisposition) :
    Invariant (Secure allow mine) (setRollbackDisposition disposition) :=
  modify_secure (fun _ => rfl) (fun _ => rfl)

theorem nextId_secure : Invariant (Secure allow mine) nextId :=
  fun _ secure => ⟨secure.events, secure.own⟩

theorem trackQuarantine_secure (object : QuarantinedObject) :
    Invariant (Secure allow mine) (trackQuarantine object) :=
  Invariant.bind (modify_secure (fun _ => rfl) (fun _ => rfl)) fun _ => record_secure _

theorem failWith_secure (operation : OperationName) (capabilities : CapabilitySet)
    (outcome : OperationOutcome) (error : BoundaryError) :
    Invariant (Secure allow mine) (failWith operation capabilities outcome error : BoundaryM World α) :=
  (record_secure _).bind fun _ => Invariant.throw error

include renames

theorem call_secure {call : Syscall ρ} (gentle : call.gentle = true) :
    Invariant (Secure allow mine) (perform adversary.env call) :=
  perform_secure adversary renames gentle

theorem registerUnboundStage_secure (parent : DirCap) (stage : Nat) (child : Option Nat) (name : String)
    (expected childIdentity : Option FileIdentity) :
    Invariant (Secure allow mine)
      (registerUnboundStage adversary.env parent stage child name expected childIdentity) := by
  refine (call_secure renames rfl).attempt.bind fun _ => ?_
  refine Invariant.bind (modify_secure (fun _ => rfl) (fun _ => rfl)) fun _ => ?_
  exact Invariant.get.bind fun _ => Invariant.pure _

theorem retainStageAuthority_secure (parent stage : DirCap) (name : String) (child : Option Nat)
    (childIdentity : Option FileIdentity) :
    Invariant (Secure allow mine)
      (retainStageAuthority adversary.env parent stage name child childIdentity) := by
  refine (call_secure renames rfl).attempt.bind fun parentFd => ?_
  refine (call_secure renames rfl).attempt.bind fun stageFd => ?_
  split
  · exact modify_secure (fun _ => rfl) (fun _ => rfl)
  · exact (registerUnboundStage_secure renames _ _ _ _ _ _).bind fun _ => Invariant.pure _

/-- The error exits end in an error, so anything holds where they return. -/
theorem giveUpQuarantine_secure {post : α → Assertion (State World)} (parent : DirCap) (name : String)
    (unbound : UnboundQuarantine) (restoreExpected : FileIdentity) (bound : Option QuarantinedObject)
    (error : BoundaryError) :
    Triple (Secure allow mine)
      (giveUpQuarantine adversary.env parent name unbound restoreExpected bound error : BoundaryM World α)
      post (fun _ => Secure allow mine) := by
  have settled : Invariant (Secure allow mine)
      (restoreOrTrackQuarantine adversary.env parent name restoreExpected unbound bound error) := by
    refine Invariant.bind (Invariant.attempt ?_) fun restored => ?_
    · refine (call_secure renames rfl).bind fun _ => (call_secure renames rfl).bind fun _ => ?_
      exact Invariant.ensure
    · cases restored with
      | ok _ =>
        refine (setRollbackDisposition_secure _).bind fun _ => (record_secure _).bind fun _ => ?_
        exact Invariant.pure _
      | error _ =>
        refine (setRollbackDisposition_secure _).bind fun _ => ?_
        cases bound with
        | some object => exact (trackQuarantine_secure object).bind fun _ => Invariant.pure _
        | none =>
          refine Invariant.bind (modify_secure (fun _ => rfl) (fun _ => rfl)) fun _ => ?_
          exact (record_secure _).bind fun _ => Invariant.pure _
  exact Triple.bind settled fun _ => Triple.throw fun _ => id

theorem bindQuarantined_secure (parent : DirCap) (lease : ExclusiveLease) (name : String)
    (unbound : UnboundQuarantine) :
    Triple (Secure allow mine) (bindQuarantined adversary.env parent lease name unbound)
      (fun object s => object.expected = unbound.expected ∧ Secure allow mine s)
      (fun _ => Secure allow mine) := by
  have giveUp (α : Type) (post : α → Assertion (State World)) (expected : FileIdentity)
      (bound : Option QuarantinedObject) (error : BoundaryError) :
      Triple (Secure allow mine)
        (giveUpQuarantine adversary.env parent name unbound expected bound error : BoundaryM World α)
        post (fun _ => Secure allow mine) :=
    giveUpQuarantine_secure renames parent name unbound expected bound error
  have keep (object : QuarantinedObject) (error : BoundaryError) :
      Triple (Secure allow mine)
        (do
          setRollbackDisposition .quarantinedForRecovery
          trackQuarantine object
          throw error : BoundaryM World QuarantinedObject)
        (fun object s => object.expected = unbound.expected ∧ Secure allow mine s)
        (fun _ => Secure allow mine) := by
    refine Triple.bind (setRollbackDisposition_secure _) fun _ => ?_
    exact Triple.bind (trackQuarantine_secure object) fun _ => Triple.throw fun _ => id
  refine Triple.bind (Triple.rescue (call_secure renames rfl) (giveUp _ _ _ _)) fun fd => ?_
  refine Triple.bind (Triple.rescue (call_secure renames rfl) (giveUp _ _ _ _)) fun parentFd => ?_
  extract_lets object
  refine Triple.bind
    (Triple.rescue ((secure_observed adversary renames).checkpoint _) (giveUp _ _ _ _)) fun _ => ?_
  refine Triple.bind (Triple.rescue (call_secure renames rfl) (giveUp _ _ _ _)) fun moved => ?_
  apply Triple.ite
  · intro _
    exact giveUp _ _ _ _ _
  · intro _
    refine Triple.bind (Invariant.attempt (call_secure renames rfl)) fun taken => ?_
    cases taken with
    | ok _ => exact keep object _
    | error error =>
      apply Triple.ite
      · intro _
        refine Triple.bind (setRollbackDisposition_secure _) fun _ => ?_
        exact Triple.pure fun s secure => ⟨rfl, secure⟩
      · intro _
        exact keep object error

theorem rollbackNamed_secure (parent : DirCap) (lease : ExclusiveLease) (name : String)
    (expected : FileIdentity) (directory : Bool) :
    Triple (Secure allow mine) (rollbackNamed adversary.env parent lease name expected directory)
      (fun object s => object.expected = expected ∧ Secure allow mine s) (fun _ => Secure allow mine) := by
  have observed : Observed adversary.env (Secure allow mine) := secure_observed adversary renames
  refine Triple.bind (setRollbackDisposition_secure _) fun _ => Triple.bind Invariant.ensure fun _ => ?_
  refine Triple.bind (observed.revalidateDirectory _ _) fun _ => ?_
  refine Triple.bind (observed.revalidateLock _) fun _ => Triple.bind nextId_secure fun _ => ?_
  refine Triple.bind (call_secure renames rfl) fun _ => ?_
  refine Triple.bind (call_secure renames rfl).attempt fun parentFd => Triple.bind nextId_secure fun id => ?_
  exact bindQuarantined_secure renames parent lease name _

theorem rollbackCreated_secure (parent : DirCap) (lease : ExclusiveLease) (name : String) (cap : DirCap)
    (directory : Bool) :
    Triple (Secure allow mine) (rollbackCreated adversary.env parent lease name cap directory)
      (fun object s => object.expected = cap.identity ∧ Secure allow mine s) (fun _ => Secure allow mine) := by
  refine Triple.bind (setRollbackDisposition_secure _) fun _ => Triple.bind Invariant.ensure fun _ => ?_
  exact Triple.bind Invariant.ensure fun _ => rollbackNamed_secure renames parent lease name _ directory

include removals

/-- The installed proof, parked for the collection, comes back with everything it protects. -/
theorem finishQuarantine_secure (parent : DirCap) (lease : ExclusiveLease) (object : QuarantinedObject)
    (interest : mine object.expected.inodeKey) :
    Invariant (Secure allow mine) (finishQuarantine adversary.env parent lease object) := by
  refine Triple.read_bind fun now => ?_
  cases installed : now.quiescentScope with
  | none =>
    refine Triple.strengthen ?_ fun _ holds => holds.2
    exact (trackQuarantine_secure object).bind fun _ => Invariant.throw _
  | some scope =>
    let sheltered : Assertion (State World) := fun s =>
      ((∀ event ∈ s.world.events, allow event) ∧ ∀ inode, mine inode → inode ∈ s.world.own) ∧
        s.quiescentScope = none
    let returned : Assertion (State World) := fun s =>
      (s.lent = false ∧ Returned allow mine s) ∧ s.quiescentScope = none
    have parked : Triple (fun s => now = s ∧ Secure allow mine s)
        (modify fun s => { s with quiescentScope := none } : BoundaryM World Unit)
        (fun _ => sheltered) (fun _ => Secure allow mine) := by
      apply Triple.update
      intro s holds
      obtain ⟨rfl, secure⟩ := holds
      have up : now.barrier = true := by simp [State.barrier, installed]
      exact ⟨⟨secure.events, secure.own up⟩, rfl⟩
    have collected : Triple sheltered (gcQuarantine adversary.env parent lease scope object)
        (fun _ => returned) (fun _ => returned) := by
      refine Triple.and ?_ (gcQuarantine_scopeless adversary parent lease scope object)
      apply gcQuarantine_returned adversary renames
      intro own owned
      rw [owned interest]
      exact removals _
    have reinstalled : Triple returned
        (modify fun s => if s.quiescenceInvalidated then s else { s with quiescentScope := some scope } :
          BoundaryM World Unit)
        (fun _ => Secure allow mine) (fun _ => Secure allow mine) := by
      apply Triple.update
      intro s holds
      obtain ⟨⟨unlent, kept⟩, scopeless⟩ := holds
      split
      · refine ⟨kept.events, fun up => ?_⟩
        simp [State.barrier, unlent, scopeless] at up
      · rename_i valid
        exact ⟨kept.events, fun _ => kept.own (by simpa using valid)⟩
    refine Triple.bind parked fun _ => ?_
    refine Triple.bind (Triple.attempt (fun _ => returned) collected) fun result => ?_
    refine Triple.bind reinstalled fun _ => ?_
    cases result with
    | ok _ => exact record_secure _
    | error error => exact (trackQuarantine_secure object).bind fun _ => Invariant.throw error

omit renames removals in
theorem retainUnlessQuarantined_secure {post : α → Assertion (State World)} {retain : BoundaryM World Unit}
    (retains : Invariant (Secure allow mine) retain) (error : BoundaryError) :
    Triple (Secure allow mine) (retainUnlessQuarantined retain error : BoundaryM World α) post
      (fun _ => Secure allow mine) := by
  refine Triple.read_bind_any fun now => Triple.bind (Invariant.onlyIf _ retains) fun _ => ?_
  exact Triple.throw fun _ => id

/-- Every cleanup: move the name into quarantine, keep what cannot be moved, collect. -/
theorem quarantine_secure {rollback : BoundaryM World QuarantinedObject} {expected : FileIdentity}
    (moves : Triple (Secure allow mine) rollback
      (fun object s => object.expected = expected ∧ Secure allow mine s) (fun _ => Secure allow mine))
    {retain : BoundaryM World Unit} (retains : Invariant (Secure allow mine) retain)
    (parent : DirCap) (lease : ExclusiveLease) (interest : mine expected.inodeKey) :
    Invariant (Secure allow mine)
      (do
        let object ← rescue rollback (retainUnlessQuarantined retain)
        finishQuarantine adversary.env parent lease object) := by
  refine Triple.bind (Triple.rescue moves (retainUnlessQuarantined_secure retains)) fun object => ?_
  refine Triple.assume fun same => ?_
  apply finishQuarantine_secure renames removals
  rw [same]
  exact interest

theorem cleanupRegistered_secure (parent : DirCap) (lease : ExclusiveLease) (name : String) (cap : DirCap)
    (directory : Bool) (interest : mine cap.identity.inodeKey) :
    Invariant (Secure allow mine) (cleanupRegistered adversary.env parent lease name cap directory) := by
  refine Invariant.bind (Invariant.attempt ?_) fun result => ?_
  · exact quarantine_secure renames removals (rollbackCreated_secure renames parent lease name cap directory)
      (retainStageAuthority_secure renames parent cap name none none) parent lease interest
  · exact (record_secure _).bind fun _ => Invariant.ofExcept result

theorem cleanupRegisteredIdentity_secure (parent : DirCap) (lease : ExclusiveLease) (name : String)
    (expected : FileIdentity) (capabilityId : Nat) (interest : mine expected.inodeKey) :
    Invariant (Secure allow mine)
      (cleanupRegisteredIdentity adversary.env parent lease name expected capabilityId) := by
  have registers : Invariant (Secure allow mine)
      (do
        let _ ← registerUnboundStage adversary.env parent capabilityId none name (some expected) (some expected)) :=
    (registerUnboundStage_secure renames _ _ _ _ _ _).bind fun _ => Invariant.pure _
  refine Invariant.bind (Invariant.attempt ?_) fun result => ?_
  · refine Invariant.bind (Invariant.rescue Invariant.ensure fun error => ?_) fun _ => ?_
    · refine (setRollbackDisposition_secure _).bind fun _ => registers.bind fun _ => ?_
      exact Invariant.throw error
    · exact quarantine_secure renames removals (rollbackNamed_secure renames parent lease name expected true)
        registers parent lease interest
  · exact (record_secure _).bind fun _ => Invariant.ofExcept result

theorem abandonUnboundStage_secure {post : α → Assertion (State World)} (parent : DirCap)
    (lease : ExclusiveLease) (name : String) (stage : Nat) (identity : FileIdentity)
    (interest : mine identity.inodeKey) (error : BoundaryError) :
    Triple (Secure allow mine)
      (abandonUnboundStage adversary.env parent lease name stage identity error : BoundaryM World α)
      post (fun _ => Secure allow mine) := by
  refine Triple.bind (Invariant.attempt ?_) fun cleanup => ?_
  · have registers : Invariant (Secure allow mine)
        (registerUnboundStage adversary.env parent stage (some stage) name (some identity) none) :=
      registerUnboundStage_secure renames _ _ _ _ _ _
    exact quarantine_secure renames removals (rollbackNamed_secure renames parent lease name identity true)
      (registers.bind fun _ => Invariant.pure _) parent lease interest
  · exact Triple.bind (record_secure _) fun _ => Triple.throw fun _ => id

end Cleanups

/-- One inode more. -/
def joined (mine : InodeKey → Prop) (key : InodeKey) (inode : InodeKey) : Prop := mine inode ∨ inode = key

theorem Secure.forget {allow : Event → Prop} {mine : InodeKey → Prop} {key : InodeKey} {s : State World}
    (secure : Secure allow (joined mine key) s) : Secure allow mine s :=
  ⟨secure.events, fun up inode interest => secure.own up inode (.inl interest)⟩

/-- Right after a `mkdirat` the name carries the new directory. -/
structure Fresh (allow : Event → Prop) (mine : InodeKey → Prop) (parent : RawFd) (name : String)
    (s : State World) : Prop extends Secure allow mine s where
  made : ∃ inode ∈ s.world.own, s.world.find parent name = .ok inode

section Creation

variable {adversary : Adversary} {allow : Event → Prop} {mine : InodeKey → Prop}

theorem Adversary.mkdirat_answer (adversary : Adversary) {quiet : Bool} {w w' : World} {parent : RawFd}
    {name : String} {mode : UInt32}
    (answered : adversary.env.syscall quiet (.mkdirat parent name mode) w = (.ok (), w')) :
    ∃ inode ∈ w'.own, w'.find parent name = .ok inode := by
  simp only [env] at answered
  split at answered
  · cases answered
  · rw [kernel_mkdirat] at answered
    unfold resolving at answered
    cases resolved : (adversary.settle quiet w).resolve parent name with
    | error errno =>
      rw [resolved] at answered
      cases answered
    | ok found =>
      obtain ⟨directory, taken⟩ := found
      rw [resolved] at answered
      have opened : (adversary.settle quiet w).inodeOf parent = .ok directory := by
        unfold World.resolve at resolved
        cases held : (adversary.settle quiet w).inodeOf parent with
        | error errno =>
          rw [held] at resolved
          cases resolved
        | ok other =>
          rw [held] at resolved
          cases resolved
          rfl
      simp only [makeDirectory] at answered
      split at answered
      · cases answered
      · split at answered
        · cases answered
        · cases answered
          refine ⟨_, List.mem_cons_self, ?_⟩
          have still : World.inodeOf { adversary.settle quiet w with
              entries := ((directory, name), adversary.inode (adversary.settle quiet w)) ::
                (adversary.settle quiet w).entries
              own := adversary.inode (adversary.settle quiet w) :: (adversary.settle quiet w).own } parent =
              .ok directory := opened
          simp only [World.find, World.resolve, still, Except.map, List.lookup_cons_self]

theorem record_fresh {parent : RawFd} {name : String} (entry : JournalRecord) :
    Invariant (Fresh allow mine parent name) (record entry) :=
  Invariant.modify fun _ fresh => ⟨⟨fresh.events, fresh.own⟩, fresh.made⟩

theorem nextId_fresh {parent : RawFd} {name : String} : Invariant (Fresh allow mine parent name) nextId :=
  fun _ fresh => ⟨⟨fresh.events, fresh.own⟩, fresh.made⟩

/-- While a proof is in force the first look at a fresh name identifies the new directory. -/
theorem fromAt_fresh (renames : ∀ inode, allow (.renamed inode none)) (parent : RawFd) (name : String) :
    Triple (Fresh allow mine parent name) (fromAt adversary.env parent name)
      (fun identity => Secure allow (joined mine identity.inodeKey)) (fun _ => Secure allow mine) := by
  intro s fresh
  have secure : Secure allow mine s := fresh.toSecure
  have kept : Invariant (Secure allow mine) (perform adversary.env (.fstatat parent name)) :=
    call_secure renames rfl
  have after := kept s secure
  revert after
  unfold fromAt perform
  cases answered : adversary.env.syscall s.barrier (.fstatat parent name) s.world with
  | mk result w =>
    cases result with
    | error errno => exact id
    | ok identity =>
      intro after
      obtain ⟨settled, found⟩ := adversary.fstatat_answer answered
      refine ⟨after.events, fun up inode interest => ?_⟩
      have before : s.barrier = true := up
      rcases interest with earlier | rfl
      · exact after.own up inode earlier
      · obtain ⟨made, own, present⟩ := fresh.made
        rw [before] at settled
        subst settled
        have same : (.ok made : Except Nat InodeKey) = .ok identity.inodeKey := present.symm.trans found
        cases same
        exact own

theorem mkdirAt_fresh (renames : ∀ inode, allow (.renamed inode none)) (parent : RawFd) (name : String)
    (mode : UInt32) :
    Triple (Secure allow mine) (mkdirAt adversary.env parent name mode)
      (fun _ => Fresh allow mine parent name) (fun _ => Secure allow mine) := by
  intro s secure
  have kept : Invariant (Secure allow mine) (perform adversary.env (.mkdirat parent name mode)) :=
    call_secure renames rfl
  have after := kept s secure
  revert after
  unfold mkdirAt perform
  cases answered : adversary.env.syscall s.barrier (.mkdirat parent name mode) s.world with
  | mk result w =>
    cases result with
    | error errno => exact id
    | ok _ => exact fun after => ⟨after, adversary.mkdirat_answer answered⟩

end Creation

end Darling.Boundary
