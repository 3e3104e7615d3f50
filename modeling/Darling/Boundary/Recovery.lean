import Darling.Boundary.Custody

/-! `recover_boundary_obligations` of the explorer: the two queues of a boundary are taken out, drained in order,
and what a failure leaves is put back. -/
namespace Darling.Boundary

section Draining

variable {τ ε σ : Type}

/-- `drain_recovery_queue`: the first item that comes back ends it, with the rest of the queue behind the item. -/
def drainRecoveryQueue (recover : τ → EStateM ε σ (Except (τ × ε) Unit)) :
    List τ → EStateM ε σ (Except (ε × List τ) Unit)
  | [] => return .ok ()
  | item :: rest => do
    match ← recover item with
    | .ok () => drainRecoveryQueue recover rest
    | .error (item, error) => return .error (error, item :: rest)

/-- Both closures hand their item back with the error. -/
def handing (item : τ) (body : EStateM ε σ Unit) : EStateM ε σ (Except (τ × ε) Unit) := do
  match ← attempt body with
  | .ok () => return .ok ()
  | .error error => return .error (item, error)

variable (recover : τ → EStateM ε σ Unit)

/-- The items are recovered in order, each once. -/
inductive Recovered : List τ → σ → σ → Prop where
  | nil {s : σ} : Recovered [] s s
  | cons {item : τ} {rest : List τ} {s mid s' : σ} : recover item s = .ok () mid → Recovered rest mid s' →
      Recovered (item :: rest) s s'

/-- The item is attempted once and fails; nothing behind it is attempted. -/
structure Halted (items : List τ) (s : σ) (done : List τ) (failed : τ) (later : List τ) (error : ε)
    (left : σ) : Prop where
  split : items = done ++ failed :: later
  halts : ∃ mid, Recovered recover done s mid ∧ recover failed mid = .error error left

variable {recover}

theorem Recovered.keeps {kept : Assertion σ} (each : ∀ item, Invariant kept (recover item)) {items : List τ} {s s' : σ}
    (recovered : Recovered recover items s s') (before : kept s) : kept s' := by
  induction recovered with
  | nil => exact before
  | @cons item _ s _ _ ran _ ih =>
    have after := each item s before
    rw [ran] at after
    exact ih after

theorem Halted.keeps {kept : Assertion σ} (each : ∀ item, Invariant kept (recover item))
    {items done later : List τ} {failed : τ}
    {error : ε} {s left : σ} (halted : Halted recover items s done failed later error left) (before : kept s) :
    kept left := by
  obtain ⟨mid, recovered, ran⟩ := halted.halts
  have after := each failed mid (recovered.keeps each before)
  rwa [ran] at after

/-- The queue is empty after a return, and after a failure it is the failed item and its tail. By induction on the
queue. -/
theorem drain_ends (items : List τ) (s : σ) :
    (∃ s', Recovered recover items s s' ∧ drainRecoveryQueue (fun item => handing item (recover item)) items s =
      .ok (.ok ()) s') ∨
      ∃ done failed later error left, Halted recover items s done failed later error left ∧
        drainRecoveryQueue (fun item => handing item (recover item)) items s =
          .ok (.error (error, failed :: later)) left := by
  induction items generalizing s with
  | nil => exact .inl ⟨s, .nil, rfl⟩
  | cons item rest ih =>
    cases ran : recover item s with
    | error error left =>
      refine .inr ⟨[], item, rest, error, left, ⟨rfl, s, .nil, ran⟩, ?_⟩
      simp only [drainRecoveryQueue, handing, attempt, bind, EStateM.bind, ran, pure, EStateM.pure]
    | ok _ mid =>
      have next : drainRecoveryQueue (fun item => handing item (recover item)) (item :: rest) s =
          drainRecoveryQueue (fun item => handing item (recover item)) rest mid := by
        simp only [drainRecoveryQueue, handing, attempt, bind, EStateM.bind, ran, pure, EStateM.pure]
      rw [next]
      rcases ih mid with ⟨s', recovered, drained⟩ | ⟨done, failed, later, error, left,
        ⟨split, last, recovered, halts⟩, drained⟩
      · exact .inl ⟨s', .cons ran recovered, drained⟩
      · exact .inr ⟨item :: done, failed, later, error, left,
          ⟨by rw [split, List.cons_append], last, .cons ran recovered, halts⟩, drained⟩

end Draining

section Recovering

variable {κ τ : Type} (env : Env κ) (lease : ExclusiveLease)

/-- `QuiescentScope::from_external`; the token comes from a counter of the process that no check reads. -/
def fromExternal (parent : DirCap) (token : Nat) : BoundaryM κ QuiescentScope := do
  ensure (parent.scope = lease.scope) (.wrongCapability "quiescent scope")
  let parentIdentity ← fromFd env parent.fd
  let leaseIdentity ← fromFd env lease.fd
  return ⟨parentIdentity, none, none, leaseIdentity, parent.scope, token⟩

/-- The named object is removed if it still is the expected one. -/
def removeExpected (parent : RawFd) (name : String) (expected : FileIdentity) (directory : Bool) :
    BoundaryM κ Unit := do
  let observed ← fromAt env parent name
  ensure (observed.inodeKey = expected.inodeKey) .identityMismatch
  unlinkAt env parent name directory

/-- The first closure. -/
def recoverQuarantine (token : Nat) : QuarantineObligation → BoundaryM κ Unit
  | .bound object => do
    let scope ← fromExternal env lease object.parent token
    gcQuarantine env object.parent lease scope object
  | .unbound unbound =>
    match unbound.parentFd with
    | none => throw .quarantineRequired
    | some parentFd => do
      let parent ← duplicateFd env parentFd
      removeExpected env parent unbound.quarantineName unbound.expected unbound.directory

/-- The second closure. -/
def recoverStage : StageObligation → BoundaryM κ Unit
  | .bound stage => do
    ensure (stage.parent.scope = lease.scope) (.wrongCapability "stage recovery")
    removeExpected env stage.parent.fd stage.name stage.stage.identity true
  | .unbound stage =>
    match stage.parentFd, stage.expected with
    | some parentFd, some expected => do
      let parent ← duplicateFd env parentFd
      removeExpected env parent stage.name expected true
    | _, _ => throw (.wrongCapability "stage recovery")

/-- What is left of a queue is put back, and the error is returned. -/
def putBack (back : State κ → List τ → State κ) : Except (BoundaryError × List τ) Unit → BoundaryM κ Unit
  | .error (error, remaining) => do
    modify fun s => back s remaining
    throw error
  | .ok () => return ()

def recoverBoundaryObligations (token : Nat) : BoundaryM κ Unit := do
  let quarantines := (← get).pendingQuarantines
  modify fun s => { s with pendingQuarantines := [] }
  let quarantineResult ← drainRecoveryQueue (fun obligation =>
      handing obligation (recoverQuarantine env lease token obligation)) quarantines
  putBack (fun s remaining => { s with pendingQuarantines := s.pendingQuarantines ++ remaining }) quarantineResult
  let stages := (← get).pendingStages
  modify fun s => { s with pendingStages := [] }
  let stageResult ← drainRecoveryQueue (fun obligation => handing obligation (recoverStage env lease obligation)) stages
  putBack (fun s remaining => { s with pendingStages := s.pendingStages ++ remaining }) stageResult

theorem fromExternal_silent (parent : DirCap) (token : Nat) : Silent (fromExternal env lease parent token) := fun _ =>
  Invariant.ensure.bind fun _ => (fromFd_silent env parent.fd _).bind fun _ =>
    (fromFd_silent env lease.fd _).bind fun _ => Invariant.pure _

theorem removeExpected_silent (parent : RawFd) (name : String) (expected : FileIdentity) (directory : Bool) :
    Silent (removeExpected env parent name expected directory) := fun _ =>
  (fromAt_silent env parent name _).bind fun _ => Invariant.ensure.bind fun _ =>
    unlinkAt_silent env parent name directory _

theorem recoverQuarantine_silent (token : Nat) (obligation : QuarantineObligation) :
    Silent (recoverQuarantine env lease token obligation) := by
  intro v
  cases obligation with
  | bound object => exact (fromExternal_silent env lease _ token v).bind fun scope =>
      gcQuarantine_silent env _ lease scope object v
  | unbound unbound =>
    rw [recoverQuarantine]
    split
    · exact Invariant.throw _
    · exact (duplicateFd_silent env _ v).bind fun _ => removeExpected_silent env _ _ _ _ v

theorem recoverStage_silent (obligation : StageObligation) : Silent (recoverStage env lease obligation) := by
  intro v
  cases obligation with
  | bound stage => exact Invariant.ensure.bind fun _ => removeExpected_silent env _ _ _ _ v
  | unbound stage =>
    rw [recoverStage]
    split
    · exact (duplicateFd_silent env _ v).bind fun _ => removeExpected_silent env _ _ _ _ v
    · exact Invariant.throw _

/-- The boundary once the quarantines are taken out. -/
def State.withoutQuarantines (s : State κ) : State κ := { s with pendingQuarantines := [] }

def State.withoutStages (s : State κ) : State κ := { s with pendingStages := [] }

/-- How the recovery ends: both queues are empty, or one of them is the failed obligation and its tail. -/
inductive RecoveryEnds (token : Nat) (s : State κ) : EStateM.Result BoundaryError (State κ) Unit → Prop where
  | emptied {mid final : State κ} :
      Recovered (recoverQuarantine env lease token) s.pendingQuarantines s.withoutQuarantines mid →
      Recovered (recoverStage env lease) s.pendingStages mid.withoutStages final →
      final.pendingQuarantines = [] → final.pendingStages = [] → RecoveryEnds token s (.ok () final)
  | quarantineFailed {done later : List QuarantineObligation} {failed : QuarantineObligation} {error : BoundaryError}
      {left : State κ} :
      Halted (recoverQuarantine env lease token) s.pendingQuarantines s.withoutQuarantines done failed
        later error left →
      left.pendingStages = s.pendingStages →
      RecoveryEnds token s (.error error { left with pendingQuarantines := failed :: later })
  | stageFailed {mid left : State κ} {done later : List StageObligation} {failed : StageObligation}
      {error : BoundaryError} :
      Recovered (recoverQuarantine env lease token) s.pendingQuarantines s.withoutQuarantines mid →
      Halted (recoverStage env lease) s.pendingStages mid.withoutStages done failed later error left →
      left.pendingQuarantines = [] →
      RecoveryEnds token s (.error error { left with pendingStages := failed :: later })

theorem putBack_error {τ : Type} (back : State κ → List τ → State κ) (error : BoundaryError) (remaining : List τ)
    (s : State κ) :
    putBack back (.error (error, remaining)) s = .error error (back s remaining) := rfl

theorem quarantines_drained {token : Nat} {s mid : State κ}
    (drained : drainRecoveryQueue (fun obligation => handing obligation (recoverQuarantine env lease token obligation))
      s.pendingQuarantines s.withoutQuarantines = .ok (.ok ()) mid) :
    recoverBoundaryObligations env lease token s =
      (drainRecoveryQueue (fun obligation => handing obligation (recoverStage env lease obligation))
        mid.pendingStages >>=
        putBack fun s remaining => { s with pendingStages := s.pendingStages ++ remaining }) mid.withoutStages :=
  bind_run_ok drained

theorem quarantines_failed {token : Nat} {s left : State κ} {error : BoundaryError}
    {remaining : List QuarantineObligation}
    (drained : drainRecoveryQueue (fun obligation => handing obligation (recoverQuarantine env lease token obligation))
      s.pendingQuarantines s.withoutQuarantines = .ok (.error (error, remaining)) left) :
    recoverBoundaryObligations env lease token s =
      .error error { left with pendingQuarantines := left.pendingQuarantines ++ remaining } :=
  bind_run_ok drained

/-- Nothing in the queues is lost, and nothing is attempted twice. -/
theorem recoverBoundaryObligations_ends (token : Nat) (s : State κ) :
    RecoveryEnds env lease token s (recoverBoundaryObligations env lease token s) := by
  have quarantine (v : Account) (obligation : QuarantineObligation) :
      Invariant (At v) (recoverQuarantine env lease token obligation) :=
    recoverQuarantine_silent env lease token obligation v
  have stage (v : Account) (obligation : StageObligation) : Invariant (At v) (recoverStage env lease obligation) :=
    recoverStage_silent env lease obligation v
  rcases @drain_ends _ _ _ (recoverQuarantine env lease token) s.pendingQuarantines s.withoutQuarantines with
    ⟨mid, recovered, drained⟩ | ⟨done, failed, later, error, left, halted, drained⟩
  · have kept : mid.account = s.withoutQuarantines.account := recovered.keeps (quarantine _) rfl
    have waiting : mid.pendingStages = s.pendingStages := congrArg Account.pendingStages kept
    have out : mid.pendingQuarantines = [] := congrArg Account.pendingQuarantines kept
    have ran := quarantines_drained env lease drained
    rcases @drain_ends _ _ _ (recoverStage env lease) mid.pendingStages mid.withoutStages with
      ⟨final, recovered', drained'⟩ | ⟨done, failed, later, error, left, halted, drained'⟩
    · have kept' : final.account = mid.withoutStages.account := recovered'.keeps (stage _) rfl
      rw [ran, bind_run_ok drained']
      rw [waiting] at recovered'
      exact .emptied recovered recovered' ((congrArg Account.pendingQuarantines kept').trans out)
        (congrArg Account.pendingStages kept')
    · have kept' : left.account = mid.withoutStages.account := halted.keeps (stage _) rfl
      have empty : left.pendingStages = [] := congrArg Account.pendingStages kept'
      rw [ran, bind_run_ok drained', putBack_error, empty]
      rw [waiting] at halted
      exact .stageFailed recovered halted ((congrArg Account.pendingQuarantines kept').trans out)
  · have kept : left.account = s.withoutQuarantines.account := halted.keeps (quarantine _) rfl
    have empty : left.pendingQuarantines = [] := congrArg Account.pendingQuarantines kept
    rw [quarantines_failed env lease drained, empty]
    exact .quarantineFailed halted (congrArg Account.pendingStages kept)

end Recovering

end Darling.Boundary
