import Darling.Boundary.Operations

/-! The observing half of the boundary. Reading identities, opening descriptors, running fault
hooks and recording what was seen keep every assertion that the single steps keep. -/
namespace Darling.Boundary

variable {κ : Type}

/-- A call changes the world and the list of effects, nothing else. -/
theorem perform_final (env : Env κ) (call : Syscall ρ) (s : State κ) :
    ∃ effects, finalState (perform env call s) =
      { s with world := (env.syscall s.barrier call s.world).2, effects := effects } := by
  unfold perform
  rcases env.syscall s.barrier call s.world with ⟨result, world⟩
  cases result <;> exact ⟨_, rfl⟩

theorem runHook_final (env : Env κ) (phase : HookPhase) (point : Checkpoint) (s : State κ) :
    finalState (runHook env phase point s) =
      if (env.hook s.barrier phase point s.world).2.1 then
        { s with quiescentScope := none, quiescenceInvalidated := true, lent := false
                 world := (env.hook s.barrier phase point s.world).2.2 }
      else { s with world := (env.hook s.barrier phase point s.world).2.2 } := by
  unfold runHook
  rcases env.hook s.barrier phase point s.world with ⟨verdict, invalidated, world⟩
  cases invalidated <;> rfl

/-- The steps an observation is made of keep the assertion. -/
structure Observed (env : Env κ) (kept : Assertion (State κ)) : Prop where
  perform : ∀ {ρ : Type} (call : Syscall ρ), call.effect = none → Invariant kept (perform env call)
  hook : ∀ phase point, Invariant kept (runHook env phase point)
  record : ∀ entry : JournalRecord, (∀ event, entry ≠ .stage event) →
    (∀ event, entry = .operation event → event.result ≠ .rolledBackError) → Invariant kept (record entry)

namespace Observed

variable {env : Env κ} {kept : Assertion (State κ)}

theorem fromFd (observed : Observed env kept) (fd : RawFd) : Invariant kept (fromFd env fd) :=
  observed.perform _ rfl

theorem fromAt (observed : Observed env kept) (parent : RawFd) (name : String) :
    Invariant kept (fromAt env parent name) :=
  observed.perform _ rfl

theorem openDirAt (observed : Observed env kept) (parent : RawFd) (name : String) :
    Invariant kept (openDirAt env parent name) :=
  observed.perform _ rfl

theorem openObjectPathAt (observed : Observed env kept) (parent : RawFd) (name : String) :
    Invariant kept (openObjectPathAt env parent name) :=
  observed.perform _ rfl

theorem duplicateFd (observed : Observed env kept) (fd : RawFd) : Invariant kept (duplicateFd env fd) :=
  observed.perform _ rfl

theorem recordOperation (observed : Observed env kept) {operation : OperationName}
    {capabilities : CapabilitySet} {result : OperationOutcome} {point : Option Checkpoint}
    (forward : result ≠ .rolledBackError) :
    Invariant kept (recordOperation operation capabilities result point) := by
  apply observed.record
  · simp
  · intro event same
    cases same
    exact forward

theorem checkpoint (observed : Observed env kept) (point : Checkpoint) :
    Invariant kept (checkpoint env point) := by
  refine (observed.hook .before point).bind fun result => ?_
  refine (observed.recordOperation (by split <;> simp)).bind fun _ => ?_
  refine (Invariant.ofExcept result).bind fun _ => (observed.hook .after point).bind fun after => ?_
  cases after with
  | ok _ => exact Invariant.pure _
  | error error => exact (observed.recordOperation (by simp)).bind fun _ => Invariant.throw error

theorem failOrRecord (observed : Observed env kept) (operation : OperationName) (capabilities : CapabilitySet)
    (result : Except BoundaryError α) : Invariant kept (failOrRecord operation capabilities result) :=
  (observed.recordOperation (by split <;> simp)).bind fun _ => Invariant.ofExcept result

theorem revalidateDirectory (observed : Observed env kept) (capability : DirCap) (metadata : Bool) :
    Invariant kept (revalidateDirectory env capability metadata) :=
  (observed.fromFd _).bind fun _ => observed.failOrRecord _ _ _

theorem revalidateLock (observed : Observed env kept) (lease : ExclusiveLease) :
    Invariant kept (revalidateLock env lease) :=
  (observed.fromFd _).bind fun _ => Invariant.ensure

theorem requireExactMutationScope (observed : Observed env kept) (parent : DirCap) (lease : ExclusiveLease) :
    Invariant kept (requireExactMutationScope env parent lease) := by
  refine Invariant.get.bind fun s => ?_
  cases s.quiescentScope with
  | none => exact Invariant.throw _
  | some scope =>
    refine Invariant.ensure.bind fun _ => (observed.revalidateDirectory _ _).bind fun _ => ?_
    exact Invariant.ensure.bind fun _ => (observed.fromFd _).bind fun _ => Invariant.ensure

theorem verifyQuarantine (observed : Observed env kept) (parent : DirCap) (object : QuarantinedObject) :
    Invariant kept (verifyQuarantine env parent object) := by
  refine (observed.fromFd _).bind fun _ => Invariant.ensure.bind fun _ => ?_
  exact (observed.fromAt _ _).bind fun _ => Invariant.ensure

theorem checkQuarantine (observed : Observed env kept) (parent : DirCap) (lease : ExclusiveLease)
    (scope : QuiescentScope) (object : QuarantinedObject) :
    Invariant kept (checkQuarantine env parent lease scope object) := by
  refine Invariant.ensure.bind fun _ => Invariant.ensure.bind fun _ => ?_
  refine (observed.revalidateDirectory _ _).bind fun _ => Invariant.ensure.bind fun _ => ?_
  refine (observed.revalidateLock _).bind fun _ => (observed.fromFd _).bind fun _ => ?_
  refine Invariant.ensure.bind fun _ => (observed.fromFd _).bind fun _ => Invariant.ensure.bind fun _ => ?_
  exact (observed.verifyQuarantine _ _).bind fun _ => observed.checkpoint _

theorem exactIdentity (observed : Observed env kept) (parent : DirCap) (lease : ExclusiveLease)
    (name : String) (expected : FileIdentity) :
    Invariant kept (exactIdentity env parent lease name expected) := by
  refine Invariant.ensure.bind fun _ => (observed.revalidateDirectory _ _).bind fun _ => ?_
  refine (observed.revalidateLock _).bind fun _ => (observed.fromAt _ _).bind fun _ => ?_
  exact Invariant.ensure.bind fun _ => observed.checkpoint _

end Observed

end Darling.Boundary
