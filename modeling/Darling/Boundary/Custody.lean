import Darling.Boundary.Observing

/-! The custody account of the boundary: the part of its state that says who answers for a
staged resource. The observing half of the boundary leaves the account alone; the contracts
below say how each cleanup changes it. -/
namespace Darling.Boundary

variable {κ : Type}

/-- What a stage record says of its stage. Cleaned and published stages are settled; every
other cleanup terminal leaves them unsettled. -/
inductive Mark where
  | allocated (stage : Nat)
  | registered (stage : Nat)
  | settled (stage : Nat)
  | unsettled (stage : Nat)
  deriving DecidableEq, Repr

def StageJournal.mark : StageJournal → Mark
  | allocated _ stage _ => .allocated stage
  | registered _ stage _ _ => .registered stage
  | published _ stage _ _ => .settled stage
  | cleanup _ stage .cleaned _ => .settled stage
  | cleanup _ stage _ _ => .unsettled stage

def JournalRecord.mark : JournalRecord → Option Mark
  | stage event => some event.mark
  | _ => none

def marks (records : List OperationRecord) : List Mark := records.filterMap (·.record.mark)

def JournalRecord.isRolledBack : JournalRecord → Bool
  | operation event => event.result = .rolledBackError
  | _ => false

def Effect.made? : Effect → Option Place
  | made place => some place
  | _ => none

def Effect.moved? : Effect → Option Move
  | moved move => some move
  | _ => none

structure Account where
  pendingStages : List StageObligation
  pendingQuarantines : List QuarantineObligation
  disposition : RollbackDisposition
  nextId : Nat
  marks : List Mark
  rolledBack : Nat
  made : List Place
  moves : List Move

def State.account (s : State κ) : Account where
  pendingStages := s.pendingStages
  pendingQuarantines := s.pendingQuarantines
  disposition := s.rollbackDisposition
  nextId := s.nextId
  marks := Boundary.marks s.records
  rolledBack := s.records.countP (·.record.isRolledBack)
  made := s.effects.filterMap (·.made?)
  moves := s.effects.filterMap (·.moved?)

abbrev At (account : Account) : Assertion (State κ) := fun s => s.account = account

abbrev On (fact : Account → Prop) : Assertion (State κ) := fun s => fact s.account

@[simp] theorem account_disposition (s : State κ) : s.account.disposition = s.rollbackDisposition := rfl

theorem on_of_at {fact : Account → Prop} {v : Account} {s : State κ} (holds : fact v) (reached : At v s) :
    On fact s := by
  rwa [← show s.account = v from reached] at holds

/-- A contract from each account is a contract from any fact about the account. -/
theorem Triple.of_account {body : EStateM ε (State κ) α} {post : α → Assertion (State κ)}
    {fails : ε → Assertion (State κ)} {fact : Account → Prop}
    (contract : ∀ v, fact v → Triple (At v) body post fails) : Triple (On fact) body post fails :=
  fun s holds => contract s.account holds s rfl

/-- The computation leaves the account alone on every exit. -/
def Silent (body : EStateM ε (State κ) α) : Prop := ∀ v, Invariant (At v) body

theorem Silent.at {body : EStateM ε (State κ) α} (silent : Silent body) (v : Account) :
    Triple (At v) body (fun _ => At v) (fun _ => At v) := silent v

theorem Silent.on {body : EStateM ε (State κ) α} (silent : Silent body) (fact : Account → Prop) :
    Invariant (On fact) body := by
  refine Triple.of_account fun v holds => (silent v).conclude ?_ ?_
  · exact fun _ s => on_of_at holds
  · exact fun _ s => on_of_at holds

theorem Silent.step {body : EStateM ε (State κ) α} (silent : Silent body) {v : Account}
    {fails : ε → Assertion (State κ)} (failed : ∀ error s, s.account = v → fails error s) :
    Triple (At v) body (fun _ => At v) fails :=
  (silent v).fallback failed

theorem Silent.attempted {body : EStateM ε (State κ) α} (silent : Silent body) {v : Account}
    {fails : ε' → Assertion (State κ)} : Triple (At v) (attempt body) (fun _ => At v) fails :=
  Triple.attempt (fun _ => At v) (silent v)

section Silence

variable (env : Env κ)

theorem perform_contract (call : Syscall ρ) (v : Account) :
    Triple (At v) (perform env call)
      (fun _ => At { v with made := v.made ++ call.effect.toList.filterMap (·.made?)
                            moves := v.moves ++ call.effect.toList.filterMap (·.moved?) })
      (fun _ => At v) := by
  rintro s rfl
  unfold perform
  rcases env.syscall s.barrier call s.world with ⟨result, world⟩
  cases result with
  | error errno => rfl
  | ok reply =>
    change State.account _ = _
    simp [State.account]

theorem record_contract (entry : JournalRecord) (v : Account)
    {fails : BoundaryError → Assertion (State κ)} :
    Triple (At v) (record entry) (fun _ => At { v with
      marks := v.marks ++ entry.mark.toList, rolledBack := v.rolledBack + entry.isRolledBack.toNat }) fails := by
  rintro s rfl
  change State.account _ = _
  cases marked : entry.mark <;> cases rolled : entry.isRolledBack <;>
    simp [State.account, marks, marked, rolled]

/-- No step of an observation touches the account. -/
theorem account_observed (v : Account) : Observed env (At v) where
  perform call unchanged := by
    refine (perform_contract env call v).conclude (fun _ s reached => ?_) fun _ _ => id
    simpa [unchanged] using reached
  hook phase point := by
    rintro s rfl
    unfold runHook
    rcases env.hook s.barrier phase point s.world with ⟨verdict, invalidated, world⟩
    cases invalidated <;> rfl
  record entry unstaged forward := by
    have unmarked : entry.mark = none := by
      cases entry <;> simp_all [JournalRecord.mark]
    have kept : entry.isRolledBack = false := by
      cases entry <;> simp_all [JournalRecord.isRolledBack]
    refine (record_contract entry v).conclude (fun _ s reached => ?_) fun _ _ => id
    simpa [unmarked, kept] using reached

theorem fromFd_silent (fd : RawFd) : Silent (fromFd env fd) :=
  fun v => (account_observed env v).fromFd fd

theorem fromAt_silent (parent : RawFd) (name : String) : Silent (fromAt env parent name) :=
  fun v => (account_observed env v).fromAt parent name

theorem openDirAt_silent (parent : RawFd) (name : String) : Silent (openDirAt env parent name) :=
  fun v => (account_observed env v).openDirAt parent name

theorem openObjectPathAt_silent (parent : RawFd) (name : String) :
    Silent (openObjectPathAt env parent name) :=
  fun v => (account_observed env v).openObjectPathAt parent name

theorem duplicateFd_silent (fd : RawFd) : Silent (duplicateFd env fd) :=
  fun v => (account_observed env v).duplicateFd fd

theorem checkpoint_silent (point : Checkpoint) : Silent (checkpoint env point) :=
  fun v => (account_observed env v).checkpoint point

theorem revalidateDirectory_silent (capability : DirCap) (metadata : Bool) :
    Silent (revalidateDirectory env capability metadata) :=
  fun v => (account_observed env v).revalidateDirectory capability metadata

theorem revalidateLock_silent (lease : ExclusiveLease) : Silent (revalidateLock env lease) :=
  fun v => (account_observed env v).revalidateLock lease

theorem requireScope_silent (expected actual : ScopeId) : Silent (κ := κ) (requireScope expected actual) :=
  fun _ => Invariant.ensure

theorem requireExactMutationScope_silent (parent : DirCap) (lease : ExclusiveLease) :
    Silent (requireExactMutationScope env parent lease) :=
  fun v => (account_observed env v).requireExactMutationScope parent lease

theorem exactIdentity_silent (parent : DirCap) (lease : ExclusiveLease) (name : String)
    (expected : FileIdentity) : Silent (exactIdentity env parent lease name expected) :=
  fun v => (account_observed env v).exactIdentity parent lease name expected

theorem unlinkAt_silent (parent : RawFd) (name : String) (directory : Bool) :
    Silent (unlinkAt env parent name directory) := by
  intro v
  refine (perform_contract env (.unlinkat parent name directory) v).conclude (fun _ s reached => ?_)
    fun _ _ => id
  simpa [Syscall.effect, Effect.made?, Effect.moved?] using reached

theorem gcQuarantine_silent (parent : DirCap) (lease : ExclusiveLease) (scope : QuiescentScope)
    (object : QuarantinedObject) : Silent (gcQuarantine env parent lease scope object) := by
  intro v
  have observed := account_observed env v
  refine Invariant.bind (Invariant.modify fun _ => id) fun _ => ?_
  refine Invariant.bind (Invariant.attempt ?_) fun result => ?_
  · refine (observed.checkQuarantine _ _ _ _).bind fun _ => Invariant.get.bind fun _ => ?_
    refine Invariant.ensure.bind fun _ => (observed.verifyQuarantine _ _).bind fun _ => ?_
    exact unlinkAt_silent env _ _ _ v
  exact Invariant.bind (Invariant.modify fun _ => id) fun _ => Invariant.ofExcept result

end Silence

end Darling.Boundary
