import Darling.Boundary.Foreign
import Darling.Boundary.Terminals
import Mathlib.Data.List.MinMax

/-! What `mkdir_child` publishes. The child is bound by a descriptor and published by its name; between
the two a hook runs. -/
namespace Darling.Boundary

variable {κ : Type}

/-- `mkdir_child` up to its stage: the final name, the stage's name and the stage. -/
def openStage (env : Env κ) (parent : DirCap) (lease : ExclusiveLease) (name : String) :
    BoundaryM κ (String × String × DirCap) := do
  let _ ← revalidateDirectory env parent false
  revalidateLock env lease
  requireScope parent.scope lease.scope
  let finalName ← ofExcept (cName name)
  let (stageName, stage) ← rescue (createStagingDir env parent lease)
    (failWith .mkdirChild (.mkdirStart parent lease) .stagedError)
  return (finalName, stageName, stage)

/-- The child is made in the stage and registered. -/
def registerChild (env : Env κ) (parent : DirCap) (lease : ExclusiveLease) (mode : UInt32) (stageName : String)
    (stage : DirCap) : BoundaryM κ (Nat × FileIdentity) := do
  let capabilities : CapabilitySet := .mkdirChild parent lease (some stage.id) none
  rescue (mkdirAt env stage.fd stagedName mode) fun error => do
    let cleanup ← attempt (cleanupRegistered env parent lease stageName stage true)
    failWith .mkdirChild capabilities (if cleanup.isOk then .stagedError else .rollbackIncomplete) error
  let childId ← nextId
  recordStageAllocated stage lease childId
  let childIdentity ← rescue (fromAt env stage.fd stagedName) fun error => do
    let obligation ← registerUnboundStage env stage childId (some childId) stagedName none none
    let cleanup ← attempt (cleanupRegistered env parent lease stageName stage true)
    onlyIf cleanup.isOk (resolveStageObligation obligation)
    recordStageCleanup stage lease childId (if cleanup.isOk then .cleaned else .deferred) none
    failWith .mkdirChild capabilities (if cleanup.isOk then .stagedError else .rollbackIncomplete) error
  recordStageRegistered stage lease childId childId childIdentity
  return (childId, childIdentity)

/-- The registered child is bound. -/
def bindChild (env : Env κ) (parent : DirCap) (lease : ExclusiveLease) (stageName : String)
    (stage : DirCap) (childId : Nat) (childIdentity : FileIdentity) : BoundaryM κ DirCap := do
  let capabilities : CapabilitySet := .mkdirChild parent lease (some stage.id) (some childId)
  rescue (checkpoint env .afterMkdirBeforeBind)
    (abandonChild env parent lease stageName stage capabilities .rolledBackError
      (cleanupRegisteredIdentity env stage lease stagedName childIdentity childId))
  let fd ← rescue (openDirAt env stage.fd stagedName)
    (abandonChild env parent lease stageName stage capabilities .stagedError
      (cleanupRegisteredIdentity env stage lease stagedName childIdentity childId))
  let identity ← rescue (fromFd env fd)
    (abandonChild env parent lease stageName stage capabilities .stagedError
      (cleanupRegisteredIdentity env stage lease stagedName childIdentity childId))
  if identity.inodeKey ≠ childIdentity.inodeKey then
    abandonChild env parent lease stageName stage capabilities .identityMismatch
      (cleanupRegisteredIdentity env stage lease stagedName childIdentity childId) .identityMismatch
  else return { fd, identity, id := childId, scope := stage.scope }

/-- The bound child is published, and its capability returned. -/
def publishBound (env : Env κ) (parent : DirCap) (lease : ExclusiveLease) (finalName stageName : String)
    (stage cap : DirCap) : BoundaryM κ DirCap := do
  let capabilities : CapabilitySet := .mkdirChild parent lease (some stage.id) (some cap.id)
  rescue (checkpoint env .afterBindBeforePublish)
    (abandonChild env parent lease stageName stage capabilities .rolledBackError
      (cleanupRegistered env stage lease stagedName cap true))
  rescue (renameAt env stage.fd stagedName parent.fd finalName)
    (abandonChild env parent lease stageName stage capabilities .rolledBackError
      (cleanupRegistered env stage lease stagedName cap true))
  recordStagePublished stage parent lease cap.id cap.id cap.identity
  rescue (cleanupRegistered env parent lease stageName stage true)
    (failWith .mkdirChild capabilities .mutatedError)
  recordOperation .mkdirChild capabilities .applied none
  return cap

theorem failWith_bind (operation : OperationName) (capabilities : CapabilitySet) (outcome : OperationOutcome)
    (error : BoundaryError) (next : α → BoundaryM κ β) :
    (failWith operation capabilities outcome error >>= next) = failWith operation capabilities outcome error := rfl

theorem abandonChild_bind (env : Env κ) (parent : DirCap) (lease : ExclusiveLease) (stageName : String)
    (stage : DirCap) (capabilities : CapabilitySet) (outcome : OperationOutcome) (cleanupChild : BoundaryM κ Unit)
    (error : BoundaryError) (next : α → BoundaryM κ β) :
    (abandonChild env parent lease stageName stage capabilities outcome cleanupChild error >>= next) =
      abandonChild env parent lease stageName stage capabilities outcome cleanupChild error := by
  unfold abandonChild
  simp only [bind_assoc, failWith_bind]

theorem publishChild_eq (env : Env κ) (parent : DirCap) (lease : ExclusiveLease) (finalName stageName : String)
    (stage : DirCap) (childId : Nat) (childIdentity : FileIdentity) :
    publishChild env parent lease finalName stageName stage childId childIdentity =
      bindChild env parent lease stageName stage childId childIdentity >>=
        publishBound env parent lease finalName stageName stage := by
  unfold publishChild bindChild
  simp only [bind_assoc]
  refine bind_congr fun _ => bind_congr fun fd => bind_congr fun identity => ?_
  split
  · exact (abandonChild_bind ..).symm
  · rw [pure_bind]
    rfl

theorem stageChild_eq (env : Env κ) (parent : DirCap) (lease : ExclusiveLease) (finalName : String)
    (mode : UInt32) (stageName : String) (stage : DirCap) :
    stageChild env parent lease finalName mode stageName stage =
      registerChild env parent lease mode stageName stage >>= fun (childId, childIdentity) =>
        publishChild env parent lease finalName stageName stage childId childIdentity := by
  unfold stageChild registerChild
  simp only [bind_assoc, pure_bind]

/-- `mkdir_child` up to the hook before its publication. -/
def bindStaged (env : Env κ) (parent : DirCap) (lease : ExclusiveLease) (name : String) (mode : UInt32) :
    BoundaryM κ ((String × String × DirCap) × DirCap) := do
  let (finalName, stageName, stage) ← openStage env parent lease name
  let (childId, childIdentity) ← registerChild env parent lease mode stageName stage
  let cap ← bindChild env parent lease stageName stage childId childIdentity
  return ((finalName, stageName, stage), cap)

theorem mkdirChild_eq (env : Env κ) (parent : DirCap) (lease : ExclusiveLease) (name : String) (mode : UInt32) :
    mkdirChild env parent lease name mode =
      bindStaged env parent lease name mode >>= fun ((finalName, stageName, stage), cap) =>
        publishBound env parent lease finalName stageName stage cap := by
  unfold mkdirChild bindStaged openStage
  simp only [bind_assoc, pure_bind, stageChild_eq, publishChild_eq]

/-- Foreign writers act inside the hooks, whatever proof the boundary holds, and nowhere else. -/
def Adversary.hookEnv (adversary : Adversary) : Env World where
  syscall _ call w := adversary.env.syscall true call w
  hook _ phase point w := adversary.env.hook false phase point w

theorem runs_somehow {ε σ α : Type} {pre : Assertion σ} {body : EStateM ε σ α} :
    Triple pre body (fun _ _ => True) (fun _ _ => True) := by
  intro s _
  cases body s with
  | ok value s' => exact True.intro
  | error error s' => exact True.intro

theorem abandonChild_fails {env : Env κ} {parent : DirCap} {lease : ExclusiveLease} {stageName : String}
    {stage : DirCap} {capabilities : CapabilitySet} {outcome : OperationOutcome} {cleanupChild : BoundaryM κ Unit}
    {error : BoundaryError} {pre : Assertion (State κ)} :
    Triple pre (abandonChild env parent lease stageName stage capabilities outcome cleanupChild error : BoundaryM κ α)
      (fun _ _ => False) (fun _ _ => True) :=
  Triple.bind runs_somehow fun _ => Triple.bind runs_somehow fun _ => Triple.bind runs_somehow fun _ =>
    Triple.throw fun _ _ => True.intro

/-- A part of `mkdir_child` with its error exit. -/
theorem abandoning {env : Env κ} {parent : DirCap} {lease : ExclusiveLease} {stageName : String}
    {stage : DirCap} {capabilities : CapabilitySet} {outcome : OperationOutcome} {cleanupChild : BoundaryM κ Unit}
    {pre : Assertion (State κ)} {body : BoundaryM κ α} {post : α → Assertion (State κ)}
    (contract : Triple pre body post fun _ _ => True) :
    Triple pre (rescue body (abandonChild env parent lease stageName stage capabilities outcome cleanupChild)) post
      (fun _ _ => True) :=
  Triple.rescue contract fun _ => abandonChild_fails.conclude (fun _ _ => False.elim) fun _ _ => id

namespace Adversary

variable (adversary : Adversary)

theorem World.resolve_eq {w : World} {fd : RawFd} {name : String} {found : InodeKey × Option InodeKey}
    (resolved : w.resolve fd name = .ok found) : w.inodeOf fd = .ok found.1 ∧
    w.entries.lookup (found.1, name) = found.2 := by
  unfold World.resolve at resolved
  cases held : w.inodeOf fd with
  | error errno =>
    rw [held] at resolved
    cases resolved
  | ok directory =>
    rw [held] at resolved
    cases resolved
    exact ⟨rfl, rfl⟩

theorem World.find_eq {w : World} {fd : RawFd} {name : String} {inode : InodeKey} :
    w.find fd name = .ok inode ↔ ∃ directory, w.inodeOf fd = .ok directory ∧ w.entries.lookup (directory, name) =
      some inode := by
  unfold World.find World.resolve
  cases w.inodeOf fd with
  | error errno => simp [Except.map]
  | ok directory =>
    cases lookup : w.entries.lookup (directory, name) <;> simp [Except.map, lookup]

/-- A new descriptor is none of those in use. -/
theorem freshFd_apart {w : World} {fd : RawFd} {inode : InodeKey} (held : w.inodeOf fd = .ok inode) :
    fd ≠ w.freshFd := by
  unfold World.inodeOf at held
  cases found : w.descriptors.lookup fd with
  | none =>
    rw [found] at held
    cases held
  | some other =>
    obtain ⟨earlier, later, shape, _⟩ := List.lookup_eq_some_iff.mp found
    have listed : fd ∈ w.descriptors.map (·.1) := by simp [shape]
    exact Nat.ne_of_lt (Nat.lt_succ_of_le (List.le_max_of_le' 0 listed le_rfl))

/-- What the kernel answers to a call that the adversary lets through. -/
theorem syscall_answer {call : Syscall ρ} {w w' : World} {reply : ρ}
    (answered : adversary.env.syscall true call w = (.ok reply, w')) :
    adversary.kernel { w with clock := w.clock + 1 } call = (.ok reply, w') := by
  simp only [env, settle, if_true] at answered
  split at answered
  · cases answered
  · exact answered

theorem resolving_answer {w w' : World} {found : Except Nat α} {next : α → Except Nat ρ × World} {reply : ρ}
    (answered : resolving w found next = (.ok reply, w')) : ∃ value, found = .ok value ∧
    next value = (.ok reply, w') := by
  cases found with
  | error errno => simp [resolving] at answered
  | ok value => exact ⟨value, rfl, answered⟩

theorem openDirectory_answer {w w' : World} {parent fd : RawFd} {name : String}
    (answered : adversary.env.syscall true (.openDirectory parent name) w = (.ok fd, w')) :
    ∃ inode, w'.find parent name = .ok inode ∧ w'.inodeOf fd = .ok inode := by
  obtain ⟨inode, found, opened⟩ := resolving_answer (adversary.syscall_answer answered)
  obtain ⟨directory, held, entry⟩ := World.find_eq.mp found
  cases opened
  refine ⟨inode, World.find_eq.mpr ⟨directory, ?_, entry⟩, ?_⟩
  · have apart := freshFd_apart held
    unfold World.inodeOf at held ⊢
    rw [List.lookup_cons, beq_eq_false_iff_ne.mpr apart]
    exact held
  · unfold World.inodeOf
    rw [List.lookup_cons_self]

theorem fstat_answer {w w' : World} {fd : RawFd} {identity : FileIdentity}
    (answered : adversary.env.syscall true (.fstat fd) w = (.ok identity, w')) :
    w.inodeOf fd = .ok identity.inodeKey ∧ ∀ parent name, w'.find parent name = w.find parent name := by
  obtain ⟨inode, held, told⟩ := resolving_answer (adversary.syscall_answer answered)
  cases told
  exact ⟨held, fun _ _ => rfl⟩

/-- A rename puts the inode of its source under the new name. -/
theorem renameat2_answer {w w' : World} {sourceParent destinationParent : RawFd} {source destination : String}
    (answered : adversary.env.syscall true (.renameat2 sourceParent source destinationParent destination true) w =
      (.ok (), w')) :
    ∃ inode, w.find sourceParent source = .ok inode ∧ w'.find destinationParent destination = .ok inode := by
  obtain ⟨origin, resolved, rest⟩ := resolving_answer (adversary.syscall_answer answered)
  obtain ⟨target, aimed, moved⟩ := resolving_answer rest
  unfold moveName at moved
  cases present : origin.2 with
  | none => simp [present] at moved
  | some inode =>
    simp only [present] at moved
    split at moved
    · cases moved
    · cases moved
      obtain ⟨held, entry⟩ := World.resolve_eq resolved
      refine ⟨inode, World.find_eq.mpr ⟨origin.1, held, entry.trans present⟩, ?_⟩
      refine World.find_eq.mpr ⟨target.1, (World.resolve_eq aimed).1, ?_⟩
      exact List.lookup_cons_self

theorem perform_answer {call : Syscall ρ} {s s' : State World} {reply : ρ}
    (ran : perform adversary.hookEnv call s = .ok reply s') :
    adversary.env.syscall true call s.world = (.ok reply, s'.world) := by
  unfold perform at ran
  split at ran
  · rename_i answered
    cases ran
    exact answered
  · cases ran

/-- The descriptor of the child and the name in the stage stand for one inode. -/
theorem bindChild_binds (parent : DirCap) (lease : ExclusiveLease) (stageName : String) (stage : DirCap)
    (childId : Nat) (childIdentity : FileIdentity) :
    Triple (fun _ => True) (bindChild adversary.hookEnv parent lease stageName stage childId childIdentity)
      (fun cap s => s.world.find stage.fd stagedName = .ok cap.identity.inodeKey) (fun _ _ => True) := by
  have opening : Triple (fun _ => True) (openDirAt adversary.hookEnv stage.fd stagedName)
      (fun fd s => ∃ inode, s.world.find stage.fd stagedName = .ok inode ∧ s.world.inodeOf fd = .ok inode)
      (fun _ _ => True) :=
    Triple.of_runs (fun _ _ _ _ ran => adversary.openDirectory_answer (adversary.perform_answer ran))
      fun _ _ _ _ _ => True.intro
  have telling (fd : RawFd) : Triple
      (fun s => ∃ inode, s.world.find stage.fd stagedName = .ok inode ∧ s.world.inodeOf fd = .ok inode)
      (fromFd adversary.hookEnv fd)
      (fun identity s => s.world.find stage.fd stagedName = .ok identity.inodeKey) (fun _ _ => True) := by
    refine Triple.of_runs ?_ fun _ _ _ _ _ => True.intro
    rintro s identity s' ⟨inode, named, held⟩ ran
    obtain ⟨told, kept⟩ := adversary.fstat_answer (adversary.perform_answer ran)
    rw [kept, named, ← held, told]
  refine Triple.bind (abandoning runs_somehow) fun _ => ?_
  refine Triple.bind (abandoning (opening.strengthen fun _ _ => True.intro)) fun fd => ?_
  refine Triple.bind (abandoning (telling fd)) fun identity => ?_
  by_cases same : identity.inodeKey = childIdentity.inodeKey
  · rw [if_neg (not_not_intro same)]
    exact Triple.pure fun _ => id
  · rw [if_pos same]
    exact abandonChild_fails.conclude (fun _ _ => False.elim) fun _ _ => id

theorem bindStaged_binds (parent : DirCap) (lease : ExclusiveLease) (name : String) (mode : UInt32) :
    Triple (fun _ => True) (bindStaged adversary.hookEnv parent lease name mode)
      (fun staged s => s.world.find staged.1.2.2.fd stagedName = .ok staged.2.identity.inodeKey) (fun _ _ => True) := by
  refine Triple.bind runs_somehow fun opened => ?_
  refine Triple.bind runs_somehow fun registered => ?_
  obtain ⟨finalName, stageName, stage⟩ := opened
  obtain ⟨childId, childIdentity⟩ := registered
  refine Triple.bind (adversary.bindChild_binds parent lease stageName stage childId childIdentity) fun cap => ?_
  exact Triple.pure fun _ => id

end Adversary

/-- A publish rename that succeeded, with the states around it: `bound` before the hook at
`AfterBindBeforePublish`, `ready` after it. -/
structure Publication where
  finalName : String
  stage : DirCap
  child : DirCap
  bound : State World
  ready : State World
  published : State World

def publication (env : Env World) (parent : DirCap) (lease : ExclusiveLease) (name : String) (mode : UInt32)
    (s : State World) : Option Publication :=
  match bindStaged env parent lease name mode s with
  | .error _ _ => none
  | .ok ((finalName, _, stage), child) bound =>
    match checkpoint env .afterBindBeforePublish bound with
    | .error _ _ => none
    | .ok () ready =>
      match renameAt env stage.fd stagedName parent.fd finalName ready with
      | .error _ _ => none
      | .ok () published => some { finalName, stage, child, bound, ready, published }

/-- Whenever the publish rename succeeds, the final name has the inode of the child that was bound. -/
def PublishesBound (adversary : Adversary) (parent : DirCap) (lease : ExclusiveLease) (name : String)
    (mode : UInt32) (s : State World) : Prop :=
  ∀ made, publication adversary.hookEnv parent lease name mode s = some made →
    made.published.world.find parent.fd made.finalName = .ok made.child.identity.inodeKey

/-- The hook between binding and publishing leaves the staged name with the inode it has. -/
def StagedNameStays (adversary : Adversary) (parent : DirCap) (lease : ExclusiveLease) (name : String)
    (mode : UInt32) (s : State World) : Prop :=
  ∀ made, publication adversary.hookEnv parent lease name mode s = some made →
    made.ready.world.find made.stage.fd stagedName = made.bound.world.find made.stage.fd stagedName

/-- The rename publishes what the staged name stands for after the hook; the binding was of what it stood
for before. -/
theorem publication_inodes (adversary : Adversary) {parent : DirCap} {lease : ExclusiveLease} {name : String}
    {mode : UInt32} {s : State World} {made : Publication}
    (publishes : publication adversary.hookEnv parent lease name mode s = some made) :
    made.bound.world.find made.stage.fd stagedName = .ok made.child.identity.inodeKey ∧
      made.published.world.find parent.fd made.finalName = made.ready.world.find made.stage.fd stagedName := by
  unfold publication at publishes
  split at publishes
  · cases publishes
  · rename_i bound staged
    split at publishes
    · cases publishes
    · split at publishes
      · cases publishes
      · rename_i renamed
        cases publishes
        have binds := (adversary.bindStaged_binds parent lease name mode).returned True.intro staged
        obtain ⟨inode, source, target⟩ := adversary.renameat2_answer (adversary.perform_answer renamed)
        exact ⟨binds, target.trans source.symm⟩

/-- `mkdir_child` binds the staged child, lets a hook run, and renames the staged name: it publishes the
child it bound exactly when the hook leaves that name alone. -/
theorem mkdirChild_publishes_bound (adversary : Adversary) (parent : DirCap) (lease : ExclusiveLease) (name : String)
    (mode : UInt32) (s : State World) :
    mkdirChild adversary.hookEnv parent lease name mode =
        (bindStaged adversary.hookEnv parent lease name mode >>= fun ((finalName, stageName, stage), cap) =>
          publishBound adversary.hookEnv parent lease finalName stageName stage cap) ∧
      (PublishesBound adversary parent lease name mode s ↔ StagedNameStays adversary parent lease name mode s) := by
  refine ⟨mkdirChild_eq .., forall_congr' fun made => forall_congr' fun publishes => ?_⟩
  obtain ⟨bound, published⟩ := publication_inodes adversary publishes
  rw [bound, published]

/-- A writer that puts its own directory under the staged name once the child is bound. -/
def replacingWriter : Adversary where
  fails _ := none
  writes w := if w.descriptors.length = 4
    then w.entries.map fun entry => if entry.1.2 = stagedName then (entry.1, (1, 99)) else entry
    else w.entries
  reuses _ _ := false
  describe _ _ := ⟨0, 0, 0o40755, 1, 0, 0⟩
  inode w := if w.uses (1, 20) then (1, 21) else (1, 20)
  verdict _ _ _ := .ok ()
  invalidates _ _ _ := false

theorem mkdirChild_publishes_replacement :
    ¬PublishesBound replacingWriter ⟨3, ⟨1, 10, 0o40755, 1, 0, 0⟩, 1, 1⟩ ⟨4, ⟨1, 12, 0o100644, 1, 0, 0⟩, 2, 1⟩
      "child" 0o755 sharedDirectory := by
  have inodes : (publication replacingWriter.hookEnv ⟨3, ⟨1, 10, 0o40755, 1, 0, 0⟩, 1, 1⟩
      ⟨4, ⟨1, 12, 0o100644, 1, 0, 0⟩, 2, 1⟩ "child" 0o755 sharedDirectory).map
        (fun made => ((made.published.world.find 3 made.finalName).toOption, made.child.identity.inodeKey)) =
      some (some (1, 99), (1, 21)) := by
    decide +kernel
  intro publishes
  obtain ⟨made, published, told⟩ := Option.map_eq_some_iff.mp inodes
  have bound := publishes made published
  simp only [Prod.mk.injEq] at told
  rw [told.2] at bound
  rw [bound] at told
  cases told.1

end Darling.Boundary
