import Darling.Boundary.Owners
import Darling.Boundary.Namespace

/-! One owner for every staged resource, and one journal terminal for every allocated stage
except where the rollback of a move could not put the object back. -/
namespace Darling.Boundary

variable {κ : Type}

/-- The call moved the object into its stage, gave the mutation up and could not restore the
object: `restore_staged` fails in the state in which the rollback begins. -/
def RestoreFails (env : Env κ) (operation : OperationName) (capabilities : CapabilitySet) (parent : DirCap)
    (lease : ExclusiveLease) (name : String)
    (mutate : DirCap → EStateM (OperationOutcome × BoundaryError) (State κ) Unit) (s : State κ) : Prop :=
  ∃ stageName stage moved failure abandoned error last,
    moveIntoStage env operation capabilities parent lease name s = .ok (stageName, stage) moved ∧
    mutate stage moved = .error failure abandoned ∧
    restoreStaged env stage parent stagedName name abandoned = .error error last

/-- The branch of the operation that retains its stage without a terminal. A directory is
never moved into its stage, so `mkdir_child` has no such branch. -/
def Operation.RestoreFails (env : Env κ) : Operation → State κ → Prop
  | .mkdirChild _ _ _ _, _ => False
  | .unlinkExact parent lease name expected directory, s => ∃ checked ready,
    checkUnlink env parent lease name expected s = .ok checked ready ∧
    Boundary.RestoreFails env .unlinkExact (.unlink parent lease) parent lease checked
      (removeStaged env parent lease expected directory) ready
  | .renameExact sourceParent destinationParent lease source destination expected, s => ∃ checked ready,
    checkRename env sourceParent destinationParent lease source destination expected s = .ok checked ready ∧
    Boundary.RestoreFails env .renameExact (.rename sourceParent destinationParent lease) sourceParent lease
      checked.1 (publishStaged env sourceParent destinationParent lease checked.2 expected) ready

/-- How a call ends, with whether it took the branch that strands its stage. -/
def EndsWith (v : Account) (strands : Prop) : EStateM.Result BoundaryError (State κ) α → Prop
  | .ok _ s => ¬strands ∧ Succeeded v s.account
  | .error _ s => strands ∧ Stranded v s.account ∨ ¬strands ∧ Finished v s.account

theorem EndsWith.of_triple {body : BoundaryM κ α} {v : Account} {strands : Prop} {pre : Assertion (State κ)}
    (contract : Triple pre body (fun _ => On (Succeeded v)) (fun _ => On (Finished v)))
    (kept : ¬strands) {s : State κ} (holds : pre s) : EndsWith v strands (body s) := by
  have ended := contract s holds
  cases ran : body s with
  | ok _ s' =>
    rw [ran] at ended
    exact ⟨kept, ended⟩
  | error _ s' =>
    rw [ran] at ended
    exact .inr ⟨kept, ended⟩

/-- A computation that only fails ends as it fails. -/
theorem EndsWith.of_failing {body : BoundaryM κ Unit} {next : Unit → BoundaryM κ α} {v : Account}
    {strands : Prop} {pre fails : Assertion (State κ)}
    (contract : Triple pre body (fun _ _ => False) (fun _ => fails))
    (ends : ∀ s, fails s → strands ∧ Stranded v s.account ∨ ¬strands ∧ Finished v s.account)
    {s : State κ} (holds : pre s) : EndsWith v strands ((body >>= next) s) := by
  have ended := contract s holds
  cases ran : body s with
  | ok _ s' =>
    rw [ran] at ended
    exact ended.elim
  | error _ s' =>
    rw [ran] at ended
    rw [bind_run_error ran]
    exact ends s' ended

section Calls

variable (env : Env κ)

theorem finishMutation_contract {parent stage : DirCap} (lease : ExclusiveLease) {stageName : String}
    (operation : OperationName) (capabilities : CapabilitySet)
    (named : ∀ id, stageName ≠ quarantineNameOf id) {v w : Account}
    (staged : Staged v ⟨stage.id, ⟨parent.fd, stageName⟩⟩ w) :
    Triple (At w) (finishMutation env operation capabilities parent lease stageName stage)
      (fun _ => On (Succeeded v)) (fun _ => On (Finished v)) := by
  have cleaned := cleanupRegistered_contract env parent lease stageName stage true named w
  have settled : Triple (At w)
      (rescue (cleanupRegistered env parent lease stageName stage true)
        (failWith operation capabilities .mutatedError))
      (fun _ => On (Settled v)) (fun _ => On (Finished v)) := by
    refine Triple.rescue (cleaned.conclude (fun _ s => staged.released) fun _ s => staged.entrusted) ?_
    exact fun error => failWith_closed _ _ (by simp) error v _
  refine Triple.bind settled fun _ => ?_
  refine Triple.bind (Triple.rescue ((checkpoint_silent env _).on (Settled v)) fun error =>
    failWith_settled _ _ _ error v _) fun _ => ?_
  exact recordApplied _ _ v

theorem stagedMutation_ends (operation : OperationName) (capabilities : CapabilitySet) (parent : DirCap)
    (lease : ExclusiveLease) (name : String)
    {mutate : DirCap → EStateM (OperationOutcome × BoundaryError) (State κ) Unit}
    (mutation : ∀ stage w, Triple (At w) (mutate stage) (fun _ => On (Renamed w)) (fun _ => At w))
    (s : State κ) :
    EndsWith s.account (RestoreFails env operation capabilities parent lease name mutate s)
      (stagedMutation env operation capabilities parent lease name mutate s) := by
  unfold stagedMutation
  have moving := moveIntoStage_contract env operation capabilities parent lease name s.account s rfl
  cases moved : moveIntoStage env operation capabilities parent lease name s with
  | error error s₁ =>
    rw [moved] at moving
    rw [bind_run_error moved]
    refine .inr ⟨?_, moving⟩
    rintro ⟨_, _, _, _, _, _, _, stage_made, _⟩
    rw [moved] at stage_made
    cases stage_made
  | ok created s₁ =>
    rcases created with ⟨stageName, stage⟩
    rw [moved] at moving
    rw [bind_run_ok moved]
    change EndsWith _ _ ((rescue (mutate stage)
      (rollbackMove env operation capabilities parent lease name stageName stage) >>=
        fun _ => finishMutation env operation capabilities parent lease stageName stage) s₁)
    obtain ⟨nameEq, staged⟩ := moving
    have named : ∀ id, stageName ≠ quarantineNameOf id := by
      rw [show stageName = stageNameOf stage.id from nameEq]
      exact stageNameOf_ne_quarantineNameOf _
    have mutating := mutation stage s₁.account s₁ rfl
    cases mutated : mutate stage s₁ with
    | ok value s₂ =>
      rw [mutated] at mutating
      have kept : ¬RestoreFails env operation capabilities parent lease name mutate s := by
        rintro ⟨_, _, _, _, _, _, _, same_stage, abandoned, _⟩
        rw [moved] at same_stage
        cases same_stage
        rw [mutated] at abandoned
        cases abandoned
      rw [bind_run_ok (rescue_run_ok mutated)]
      exact EndsWith.of_triple
        (finishMutation_contract env lease operation capabilities named (staged.renamed mutating)) kept rfl
    | error failure s₂ =>
      rw [mutated] at mutating
      have staged₂ : Staged s.account ⟨stage.id, ⟨parent.fd, stageName⟩⟩ s₂.account := by
        rwa [show s₂.account = s₁.account from mutating]
      rw [rescue_bind_run_error mutated]
      cases restoring : restoreStaged env stage parent stagedName name s₂ with
      | ok _ s₃ =>
        have kept : ¬RestoreFails env operation capabilities parent lease name mutate s := by
          rintro ⟨_, _, _, _, _, _, _, same_stage, abandoned, failed⟩
          rw [moved] at same_stage
          cases same_stage
          rw [mutated] at abandoned
          cases abandoned
          rw [restoring] at failed
          cases failed
        exact EndsWith.of_failing (rollbackMove_restored env operation capabilities failure named _)
          (fun _ finished => .inr ⟨kept, finished⟩) ⟨staged₂, s₃, restoring⟩
      | error error s₃ =>
        have strands : RestoreFails env operation capabilities parent lease name mutate s :=
          ⟨stageName, stage, s₁, failure, s₂, error, s₃, moved, mutated, restoring⟩
        exact EndsWith.of_failing (rollbackMove_stranded env operation capabilities failure _)
          (fun _ stranded => .inl ⟨strands, stranded⟩) ⟨staged₂, error, s₃, restoring⟩

theorem checkUnlink_contract (parent : DirCap) (lease : ExclusiveLease) (name : String)
    (expected : FileIdentity) (v : Account) :
    Triple (At v) (checkUnlink env parent lease name expected) (fun _ => At v) (fun _ => On (Finished v)) := by
  have refuse (α : Type) (post : α → Assertion (State κ)) (error : BoundaryError) :=
    (failWith_closed .unlinkExact (.unlink parent lease) (show OperationOutcome.error ≠ .rolledBackError by simp) error
      v post).strengthen
      fun s reached => on_of_at (settled_start v).closed reached
  refine Triple.bind (Silent.step (fun _ => Invariant.ofExcept _) fun _ s => on_of_at (finished_start v)) fun name => ?_
  refine Triple.bind (Triple.rescue ((exactIdentity_silent env _ _ _ _).at v) (refuse _ _)) fun _ => ?_
  exact Triple.pure fun _ => id

theorem checkRename_contract (sourceParent destinationParent : DirCap) (lease : ExclusiveLease)
    (source destination : String) (expected : FileIdentity) (v : Account) :
    Triple (At v) (checkRename env sourceParent destinationParent lease source destination expected)
      (fun _ => At v) (fun _ => On (Finished v)) := by
  have refuse (α : Type) (post : α → Assertion (State κ)) (error : BoundaryError) :=
    (failWith_closed .renameExact (.rename sourceParent destinationParent lease)
      (show OperationOutcome.error ≠ .rolledBackError by simp)
      error v post).strengthen fun s reached => on_of_at (settled_start v).closed reached
  refine Triple.bind (Silent.step (fun _ => Invariant.ofExcept _) fun _ s =>
    on_of_at (finished_start v)) fun source => ?_
  refine Triple.bind (Silent.step (fun _ => Invariant.ofExcept _) fun _ s =>
    on_of_at (finished_start v)) fun destination => ?_
  refine Triple.bind (Triple.rescue ((requireScope_silent _ _).at v) (refuse _ _)) fun _ => ?_
  refine Triple.bind (Triple.rescue ((exactIdentity_silent env _ _ _ _).at v) (refuse _ _)) fun _ => ?_
  refine Triple.bind (Triple.rescue ((revalidateDirectory_silent env _ _).at v) (refuse _ _)) fun _ => ?_
  exact Triple.pure fun _ => id

/-- The checks of an exact mutation leave the account alone, so the call ends as the staged
mutation ends. -/
theorem checked_ends {check : BoundaryM κ α} {next : α → BoundaryM κ Unit} {strands : α → State κ → Prop}
    {s : State κ} (checking : Triple (At s.account) check (fun _ => At s.account) (fun _ => On (Finished s.account)))
    (ends : ∀ checked ready, ready.account = s.account →
      EndsWith s.account (strands checked ready) (next checked ready)) :
    EndsWith s.account (∃ checked ready, check s = .ok checked ready ∧ strands checked ready)
      ((check >>= next) s) := by
  have result := checking s rfl
  cases ran : check s with
  | error error s' =>
    rw [ran] at result
    rw [bind_run_error ran]
    exact .inr ⟨by simp, result⟩
  | ok checked ready =>
    rw [ran] at result
    rw [bind_run_ok ran]
    have same :
        (∃ c r, (.ok checked ready : EStateM.Result BoundaryError (State κ) α) = .ok c r ∧ strands c r) ↔
          strands checked ready := by
      constructor
      · rintro ⟨_, _, equal, holds⟩
        cases equal
        exact holds
      · exact fun holds => ⟨checked, ready, rfl, holds⟩
    rw [same]
    exact ends checked ready result

theorem call_ends (operation : Operation) (before : State κ) :
    EndsWith before.account (operation.RestoreFails env before) (call env operation before) := by
  cases operation with
  | mkdirChild parent lease name mode =>
    have contract := mkdirChild_contract env parent lease name mode before.account
    exact EndsWith.of_triple (Triple.bind contract fun _ => Triple.pure fun _ => id) (fun never => never) rfl
  | unlinkExact parent lease name expected directory =>
    apply checked_ends (checkUnlink_contract env parent lease name expected before.account)
    intro checked ready same
    rw [← same]
    apply stagedMutation_ends
    intro stage w
    refine ((removeStaged_silent env expected directory).at w).conclude ?_ fun _ _ => id
    exact fun _ s reached => ⟨w.moves, reached⟩
  | renameExact sourceParent destinationParent lease source destination expected =>
    apply checked_ends (checkRename_contract env sourceParent destinationParent lease source destination
      expected before.account)
    intro checked ready same
    rw [← same]
    apply stagedMutation_ends
    intro stage w
    exact publishStaged_contract env destinationParent checked.2 expected w

/-- Every staged resource has exactly one owner: whatever the syscalls and the fault hooks answer,
each directory the call made is settled without an entry, or has exactly one entry in exactly one
of the two queues. The queues are as before when the call succeeds or records a complete rollback. -/
theorem staged_resources_have_one_owner (operation : Operation) (before : State κ) :
    ∃ marked resources stages quarantines,
      Accounted before.account (finalState (call env operation before)).account marked resources stages
        quarantines ∧
      (∀ value, outcome (call env operation before) = .ok value → stages = [] ∧ quarantines = []) := by
  have ends := call_ends env operation before
  cases ran : call env operation before with
  | ok value after =>
    rw [ran] at ends
    obtain ⟨_, marked, resources, accounted, _⟩ := ends
    exact ⟨marked, resources, [], [], accounted, fun _ _ => ⟨rfl, rfl⟩⟩
  | error error after =>
    rw [ran] at ends
    rcases ends with ⟨_, stage, resources, stages, quarantines, accounted⟩ |
      ⟨_, marked, resources, stages, quarantines, accounted, _⟩
    · exact ⟨_, resources, stages, quarantines, accounted, by simp⟩
    · exact ⟨marked, resources, stages, quarantines, accounted, by simp⟩

end Calls

/-- The stage records emitted between the two states close every stage they allocate exactly once,
and no other stage. -/
def StagesTerminate (before after : State κ) : Prop :=
  ∃ marked, marks after.records = marks before.records ++ marked ∧ Terminated marked

theorem stagesTerminate_iff {before after : State κ} {marked : List Mark} {resources : List Resource}
    {stages : List StageObligation} {quarantines : List QuarantineObligation}
    (accounted : Accounted before.account after.account marked resources stages quarantines) :
    StagesTerminate before after ↔ Terminated marked := by
  have emitted : marks after.records = marks before.records ++ marked := accounted.marks_eq
  constructor
  · rintro ⟨other, same, terminated⟩
    rw [emitted] at same
    rwa [List.append_cancel_left same]
  · exact fun terminated => ⟨marked, emitted, terminated⟩

/-- A call leaves exactly one terminal for every stage it allocated, and no other, just when it does
not fall into the branch in which a failed restore keeps the stage. -/
theorem stages_terminate_iff_restored (env : Env κ) (operation : Operation) (before : State κ) :
    StagesTerminate before (finalState (call env operation before)) ↔ ¬operation.RestoreFails env before := by
  have ends := call_ends env operation before
  cases ran : call env operation before with
  | ok value after =>
    rw [ran] at ends
    obtain ⟨kept, marked, resources, accounted, terminated⟩ := ends
    exact iff_of_true ((stagesTerminate_iff accounted).mpr terminated) kept
  | error error after =>
    rw [ran] at ends
    rcases ends with ⟨strands, stage, resources, stages, quarantines, accounted⟩ |
      ⟨kept, marked, resources, stages, quarantines, accounted, terminated⟩
    · refine iff_of_false ?_ (not_not_intro strands)
      rw [finalState_error, stagesTerminate_iff accounted]
      exact not_terminated_stranded stage
    · exact iff_of_true ((stagesTerminate_iff accounted).mpr terminated) kept

/-- A writer that takes the name `object` again as soon as its file has been moved away. Every
syscall and every hook goes through. -/
def renamingWriter : Adversary where
  fails _ := none
  writes w :=
    if (w.entries.lookup ((1, 10), "object")).isSome then w.entries
    else (((1, 10), "object"), (1, 99)) :: w.entries
  reuses _ _ := false
  describe _ inode := ⟨inode.1, inode.2, if inode = (1, 7) then 0o100644 else 0o40755, 1, 0, 0⟩
  inode _ := (1, 20)
  verdict _ _ _ := .ok ()
  invalidates _ _ _ := false

/-- The directory 10 on descriptor 3 with the file 7, and the lease 12 on descriptor 4. -/
def sharedDirectory : State World :=
  { world := { entries := [(((1, 10), "object"), (1, 7))], descriptors := [(3, (1, 10)), (4, (1, 12))] } }

def sharedUnlink : Operation :=
  .unlinkExact ⟨3, ⟨1, 10, 0o40755, 1, 0, 0⟩, 1, 1⟩ ⟨4, ⟨1, 12, 0o100644, 1, 0, 0⟩, 2, 1⟩ "object"
    ⟨1, 7, 0o100644, 1, 0, 0⟩ false

theorem unlink_strands_replaced_name :
    ¬StagesTerminate sharedDirectory (finalState (call renamingWriter.env sharedUnlink sharedDirectory)) := by
  have emitted : marks (finalState (call renamingWriter.env sharedUnlink sharedDirectory)).records =
      [.allocated 1, .registered 1] := by
    decide +kernel
  rintro ⟨marked, same, terminated⟩
  rw [emitted] at same
  exact not_terminated_stranded 1 (same ▸ terminated)

end Darling.Boundary
