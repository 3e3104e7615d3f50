import Darling.Boundary.Foreign

/-! What whole calls, and whole histories of calls, remove from the namespace. -/
namespace Darling.Boundary

section Operations

variable {adversary : Adversary} {allow : Event → Prop} {mine : InodeKey → Prop}
  (renames : ∀ inode, allow (.renamed inode none)) (removals : ∀ inode, allow (.removed inode true))

include renames removals

theorem bindStage_secure (parent : DirCap) (lease : ExclusiveLease) (stageId : Nat)
    (identity : FileIdentity) (interest : mine identity.inodeKey) :
    Triple (Secure allow mine) (bindStage adversary.env parent lease stageId identity)
      (fun stage s => stage.2.identity.inodeKey = identity.inodeKey ∧ Secure allow mine s)
      (fun _ => Secure allow mine) := by
  have observed : Observed adversary.env (Secure allow mine) := secure_observed adversary renames
  have abandon (α : Type) (post : α → Assertion (State World)) (error : BoundaryError) :
      Triple (Secure allow mine)
        (abandonUnboundStage adversary.env parent lease (stageNameOf stageId) stageId identity error :
          BoundaryM World α)
        post (fun _ => Secure allow mine) :=
    abandonUnboundStage_secure renames removals parent lease _ stageId identity interest error
  refine Triple.bind (Triple.rescue (observed.checkpoint _) (abandon _ _)) fun _ => ?_
  refine Triple.bind (Triple.rescue (observed.openDirAt _ _) (abandon _ _)) fun fd => ?_
  refine Triple.bind (Triple.rescue (observed.fromFd _) (abandon _ _)) fun boundIdentity => ?_
  apply Triple.ite
  · intro _
    exact abandon _ _ _
  · intro matched
    have same : boundIdentity.inodeKey = identity.inodeKey := by simpa using matched
    extract_lets cap
    have cleanup : Invariant (Secure allow mine)
        (cleanupRegistered adversary.env parent lease (stageNameOf stageId) cap true) :=
      cleanupRegistered_secure renames removals parent lease _ cap true (by rwa [← same] at interest)
    refine Triple.bind (Invariant.rescue (observed.checkpoint _) fun error => ?_) fun _ => ?_
    · exact cleanup.bind fun _ => Invariant.throw error
    · exact Triple.pure fun s secure => ⟨same, secure⟩

theorem createStagingDir_secure (parent : DirCap) (lease : ExclusiveLease) :
    Triple (Secure allow mine) (createStagingDir adversary.env parent lease)
      (fun stage => Secure allow (joined mine stage.2.identity.inodeKey)) (fun _ => Secure allow mine) := by
  have observed : Observed adversary.env (Secure allow mine) := secure_observed adversary renames
  refine Triple.bind (observed.revalidateDirectory _ _) fun _ => ?_
  refine Triple.bind (observed.revalidateLock _) fun _ => Triple.bind Invariant.ensure fun _ => ?_
  refine Triple.bind nextId_secure fun stageId => ?_
  refine Triple.bind (mkdirAt_fresh renames _ _ _) fun _ => ?_
  refine Triple.bind ((record_fresh _).fallback fun _ _ fresh => fresh.toSecure) fun _ => ?_
  have registers (error : BoundaryError) (post : FileIdentity → Assertion (State World)) :
      Triple (Secure allow mine)
        (do
          let _ ← registerUnboundStage adversary.env parent stageId (some stageId) (stageNameOf stageId) none none
          recordStageCleanup parent lease stageId .deferred none
          throw error)
        post (fun _ => Secure allow mine) := by
    refine Triple.bind (registerUnboundStage_secure renames _ _ _ _ _ _) fun _ => ?_
    exact Triple.bind (record_secure _) fun _ => Triple.throw fun _ => id
  refine Triple.bind (Triple.rescue (fromAt_fresh renames _ _) (registers · _)) fun identity => ?_
  have bound : Triple (Secure allow (joined mine identity.inodeKey))
      (bindStage adversary.env parent lease stageId identity)
      (fun stage s => stage.2.identity.inodeKey = identity.inodeKey ∧
        Secure allow (joined mine identity.inodeKey) s)
      (fun _ => Secure allow (joined mine identity.inodeKey)) :=
    bindStage_secure renames removals parent lease stageId identity (.inr rfl)
  refine (Triple.bind (record_secure _) fun _ => bound).conclude ?_ fun _ _ => Secure.forget
  intro stage s holds
  rw [holds.1]
  exact holds.2

theorem restoreStagedAndCleanup_secure (stage parent : DirCap) (lease : ExclusiveLease)
    (stageName stagedName originalName : String) (interest : mine stage.identity.inodeKey) :
    Invariant (Secure allow mine)
      (restoreStagedAndCleanup adversary.env stage parent lease stageName stagedName originalName) := by
  have observed : Observed adversary.env (Secure allow mine) := secure_observed adversary renames
  refine Invariant.bind (Invariant.rescue ?_ fun error => ?_) fun _ => ?_
  · refine Invariant.ensure.bind fun _ => (observed.revalidateDirectory _ _).bind fun _ => ?_
    refine (observed.fromAt _ _).bind fun _ => (call_secure renames rfl).bind fun _ => ?_
    exact (observed.fromAt _ _).bind fun _ => Invariant.ensure
  · refine (observed.fromAt _ _).attempt.bind fun _ => ?_
    exact (retainStageAuthority_secure renames _ _ _ _ _).bind fun _ => Invariant.throw error
  · exact cleanupRegistered_secure renames removals parent lease stageName stage true interest

theorem publishChild_secure (parent : DirCap) (lease : ExclusiveLease) (finalName stageName : String)
    (stage : DirCap) (childId : Nat) (childIdentity : FileIdentity) (outer : mine stage.identity.inodeKey)
    (inner : mine childIdentity.inodeKey) :
    Invariant (Secure allow mine)
      (publishChild adversary.env parent lease finalName stageName stage childId childIdentity) := by
  have observed : Observed adversary.env (Secure allow mine) := secure_observed adversary renames
  have cleaned : Invariant (Secure allow mine)
      (cleanupRegistered adversary.env parent lease stageName stage true) :=
    cleanupRegistered_secure renames removals parent lease stageName stage true outer
  have abandon (α : Type) (outcome : OperationOutcome) (cleanupChild : BoundaryM World Unit)
      (child : Invariant (Secure allow mine) cleanupChild) (error : BoundaryError) :
      Invariant (Secure allow mine)
        (abandonChild adversary.env parent lease stageName stage
          (.mkdirChild parent lease (some stage.id) (some childId)) outcome cleanupChild error :
          BoundaryM World α) :=
    child.attempt.bind fun _ => cleaned.attempt.bind fun _ => failWith_secure _ _ _ _
  have unboundChild : Invariant (Secure allow mine)
      (cleanupRegisteredIdentity adversary.env stage lease stagedName childIdentity childId) :=
    cleanupRegisteredIdentity_secure renames removals stage lease stagedName childIdentity childId inner
  refine ((observed.checkpoint _).rescue (abandon _ _ _ unboundChild)).bind fun _ => ?_
  refine ((observed.openDirAt _ _).rescue (abandon _ _ _ unboundChild)).bind fun fd => ?_
  refine ((observed.fromFd _).rescue (abandon _ _ _ unboundChild)).bind fun identity => ?_
  apply Triple.ite
  · intro _
    exact abandon _ _ _ unboundChild _
  · intro matched
    have same : identity.inodeKey = childIdentity.inodeKey := by simpa using matched
    extract_lets cap
    have boundChild : Invariant (Secure allow mine)
        (cleanupRegistered adversary.env stage lease stagedName cap true) :=
      cleanupRegistered_secure renames removals stage lease stagedName cap true (by rwa [← same] at inner)
    refine Invariant.bind ((observed.checkpoint _).rescue (abandon _ _ _ boundChild)) fun _ => ?_
    refine Invariant.bind ((call_secure renames rfl).rescue (abandon _ _ _ boundChild)) fun _ => ?_
    refine Invariant.bind (record_secure _) fun _ => ?_
    refine Invariant.bind (cleaned.rescue (failWith_secure _ _ _)) fun _ => ?_
    exact (record_secure _).bind fun _ => Invariant.pure cap

theorem stageChild_secure (parent : DirCap) (lease : ExclusiveLease) (finalName : String) (mode : UInt32)
    (stageName : String) (stage : DirCap) (interest : mine stage.identity.inodeKey) :
    Invariant (Secure allow mine)
      (stageChild adversary.env parent lease finalName mode stageName stage) := by
  have cleaned : Invariant (Secure allow mine)
      (cleanupRegistered adversary.env parent lease stageName stage true) :=
    cleanupRegistered_secure renames removals parent lease stageName stage true interest
  refine Triple.bind (Triple.rescue (mkdirAt_fresh renames _ _ _) fun error => ?_) fun _ => ?_
  · exact Triple.bind cleaned.attempt fun _ => Triple.bind (record_secure _) fun _ => Triple.throw fun _ => id
  refine Triple.bind (nextId_fresh.fallback fun _ _ fresh => fresh.toSecure) fun childId => ?_
  refine Triple.bind ((record_fresh _).fallback fun _ _ fresh => fresh.toSecure) fun _ => ?_
  refine Triple.bind (Triple.rescue (fromAt_fresh renames _ _) fun error => ?_) fun childIdentity => ?_
  · refine Triple.bind (registerUnboundStage_secure renames _ _ _ _ _ _) fun obligation => ?_
    refine Triple.bind cleaned.attempt fun cleanup => ?_
    refine Triple.bind (Invariant.onlyIf _ (modify_secure (fun _ => rfl) (fun _ => rfl))) fun _ => ?_
    refine Triple.bind (record_secure _) fun _ => Triple.bind (record_secure _) fun _ => ?_
    exact Triple.throw fun _ => id
  have published : Invariant (Secure allow (joined mine childIdentity.inodeKey))
      (publishChild adversary.env parent lease finalName stageName stage childId childIdentity) :=
    publishChild_secure renames removals parent lease finalName stageName stage childId childIdentity
      (.inl interest) (.inr rfl)
  refine ((record_secure _).bind fun _ => published).conclude ?_ ?_
  · exact fun _ _ => Secure.forget
  · exact fun _ _ => Secure.forget

theorem mkdirChild_secure (parent : DirCap) (lease : ExclusiveLease) (name : String) (mode : UInt32) :
    Invariant (Secure allow mine) (mkdirChild adversary.env parent lease name mode) := by
  have observed : Observed adversary.env (Secure allow mine) := secure_observed adversary renames
  refine Triple.bind (observed.revalidateDirectory _ _) fun _ => ?_
  refine Triple.bind (observed.revalidateLock _) fun _ => Triple.bind Invariant.ensure fun _ => ?_
  refine Triple.bind (Invariant.ofExcept _) fun finalName => ?_
  refine Triple.bind (Triple.rescue (createStagingDir_secure renames removals _ _) fun error => ?_) fun created => ?_
  · exact Triple.bind (record_secure _) fun _ => Triple.throw fun _ => id
  obtain ⟨stageName, stage⟩ := created
  have staged : Invariant (Secure allow (joined mine stage.identity.inodeKey))
      (stageChild adversary.env parent lease finalName mode stageName stage) :=
    stageChild_secure renames removals parent lease finalName mode stageName stage (.inr rfl)
  exact staged.conclude (fun _ _ => Secure.forget) fun _ _ => Secure.forget

theorem moveIntoStage_secure (operation : OperationName) (capabilities : CapabilitySet) (parent : DirCap)
    (lease : ExclusiveLease) (name : String) :
    Triple (Secure allow mine) (moveIntoStage adversary.env operation capabilities parent lease name)
      (fun stage => Secure allow (joined mine stage.2.identity.inodeKey)) (fun _ => Secure allow mine) := by
  refine Triple.bind (Triple.rescue (createStagingDir_secure renames removals _ _) fun error => ?_) fun created => ?_
  · exact Triple.bind (record_secure _) fun _ => Triple.throw fun _ => id
  obtain ⟨stageName, stage⟩ := created
  have cleaned : Invariant (Secure allow (joined mine stage.identity.inodeKey))
      (cleanupRegistered adversary.env parent lease stageName stage true) :=
    cleanupRegistered_secure renames removals parent lease stageName stage true (.inr rfl)
  have moved : Invariant (Secure allow (joined mine stage.identity.inodeKey))
      (rescue (renameAt adversary.env parent.fd name stage.fd stagedName) fun error => do
        let cleanup ← attempt (cleanupRegistered adversary.env parent lease stageName stage true)
        failWith operation capabilities (if cleanup.isOk then .stagedError else .rollbackIncomplete) error) :=
    Invariant.rescue (call_secure renames rfl) fun error =>
      cleaned.attempt.bind fun _ => failWith_secure operation capabilities _ error
  exact Triple.bind (moved.fallback fun _ _ => Secure.forget) fun _ => Triple.pure fun _ => id

theorem stagedMutation_secure (operation : OperationName) (capabilities : CapabilitySet) (parent : DirCap)
    (lease : ExclusiveLease) (name : String)
    {mutate : DirCap → EStateM (OperationOutcome × BoundaryError) (State World) Unit}
    (mutates : ∀ stage : DirCap, Invariant (Secure allow (joined mine stage.identity.inodeKey)) (mutate stage)) :
    Invariant (Secure allow mine)
      (stagedMutation adversary.env operation capabilities parent lease name mutate) := by
  refine Triple.bind (moveIntoStage_secure renames removals _ _ _ _ _) fun created => ?_
  obtain ⟨stageName, stage⟩ := created
  have failing (α : Type) (outcome : OperationOutcome) (error : BoundaryError) :
      Invariant (Secure allow (joined mine stage.identity.inodeKey))
        (failWith operation capabilities outcome error : BoundaryM World α) :=
    failWith_secure operation capabilities outcome error
  have cleaned : Invariant (Secure allow (joined mine stage.identity.inodeKey))
      (cleanupRegistered adversary.env parent lease stageName stage true) :=
    cleanupRegistered_secure renames removals parent lease stageName stage true (.inr rfl)
  have finished : Invariant (Secure allow (joined mine stage.identity.inodeKey))
      (do
        rescue (mutate stage)
          (rollbackMove adversary.env operation capabilities parent lease name stageName stage)
        finishMutation adversary.env operation capabilities parent lease stageName stage) := by
    refine Invariant.bind (Invariant.rescue (mutates stage) fun failure => ?_) fun _ => ?_
    · refine Invariant.bind (Invariant.attempt ?_) fun rollback => ?_
      · exact restoreStagedAndCleanup_secure renames removals stage parent lease stageName stagedName name (.inr rfl)
      · cases rollback with
        | ok _ => exact failing _ _ _
        | error error => exact failing _ _ _
    · refine Invariant.bind (cleaned.rescue (failing _ _)) fun _ => ?_
      refine Invariant.bind (Invariant.rescue ?_ (failing _ _)) fun _ => record_secure _
      exact (secure_observed adversary renames).checkpoint _
  exact finished.conclude (fun _ _ => Secure.forget) fun _ _ => Secure.forget

omit removals

omit renames in
theorem reporting_triple {pre : Assertion (State World)} {body : BoundaryM World α}
    {post : α → Assertion (State World)} {fails : Assertion (State World)}
    (contract : Triple pre body post fun _ => fails) (outcome : OperationOutcome) :
    Triple pre (reporting outcome body) post fun _ => fails :=
  Triple.rescue contract fun _ => Triple.throw fun _ => id

theorem verifyStaged_secure (stage : DirCap) (expected : FileIdentity) :
    Invariant (Secure allow mine) (verifyStaged adversary.env stage expected) :=
  Invariant.bind (reporting_triple (call_secure renames rfl) _) fun _ => Invariant.ensure

/-- A mutation scope that passes its check is installed: the proof is in force. -/
theorem requireExactMutationScope_guarded (parent : DirCap) (lease : ExclusiveLease) :
    Triple (Secure allow mine) (requireExactMutationScope adversary.env parent lease)
      (fun _ => Guarded allow mine) (fun _ => Secure allow mine) := by
  refine Triple.read_bind fun now => ?_
  cases installed : now.quiescentScope with
  | none => exact Triple.throw fun _ holds => holds.2
  | some scope =>
    have guarded : Invariant (Guarded allow mine)
        (do
          ensure (parent.scope = scope.scope ∨ scope.secondaryParentScope = some parent.scope)
            (.wrongCapability "authority scope")
          let observedParent ← revalidateDirectory adversary.env parent false
          ensure (scope.allowsParent observedParent) .identityMismatch
          let observedLease ← fromFd adversary.env lease.fd
          ensure (observedLease.inodeKey = scope.leaseIdentity.inodeKey) .identityMismatch) := by
      refine Invariant.ensure.bind fun _ => Invariant.bind ?_ fun _ => Invariant.ensure.bind fun _ => ?_
      · refine (perform_guarded adversary renames rfl).bind fun _ => Invariant.bind ?_ fun _ => Invariant.ofExcept _
        exact Invariant.modify fun _ guarded => ⟨guarded.events, guarded.barrier, guarded.own⟩
      · exact Invariant.bind (perform_guarded adversary renames rfl) fun _ => Invariant.ensure
    refine guarded.weaken ?_ (fun _ _ => id) fun _ _ => Guarded.secure
    intro s holds
    obtain ⟨rfl, secure⟩ := holds
    have up : now.barrier = true := by simp [State.barrier, installed]
    exact ⟨secure.events, up, secure.own up⟩

/-- Under the proof the staged name carries the expected inode after its check. -/
theorem verifyStaged_guarded (stage : DirCap) (expected : FileIdentity) :
    Triple (Guarded allow mine) (verifyStaged adversary.env stage expected)
      (fun _ s => s.world.find stage.fd stagedName = .ok expected.inodeKey ∧ Guarded allow mine s)
      (fun _ => Guarded allow mine) := by
  refine Triple.bind
    (reporting_triple (fromAt_found adversary _ _ (perform_guarded adversary renames rfl)) _) fun observed => ?_
  refine (Triple.ensure fun _ s holds => holds.2).conclude (fun _ s holds => ?_) fun _ _ => id
  obtain ⟨same, found, guarded⟩ := holds
  rw [← same]
  exact ⟨found, guarded⟩

theorem removeStaged_secure (parent : DirCap) (lease : ExclusiveLease) (expected : FileIdentity)
    (directory : Bool) (stage : DirCap) (target : ∀ own, allow (.removed expected.inodeKey own)) :
    Invariant (Secure allow mine) (removeStaged adversary.env parent lease expected directory stage) := by
  refine Triple.bind (reporting_triple ((secure_observed adversary renames).checkpoint _) _) fun _ => ?_
  refine Triple.bind (verifyStaged_secure renames stage expected) fun _ => ?_
  refine Triple.bind (reporting_triple (requireExactMutationScope_guarded renames parent lease) _) fun _ => ?_
  have verified : Triple (Guarded allow mine) (verifyStaged adversary.env stage expected)
      (fun _ s => s.world.find stage.fd stagedName = .ok expected.inodeKey ∧ Guarded allow mine s)
      (fun _ => Secure allow mine) :=
    (verifyStaged_guarded renames stage expected).fallback fun _ _ => Guarded.secure
  refine Triple.bind verified fun _ => reporting_triple ?_ _
  refine (unlinkAt_guarded adversary stage.fd stagedName directory fun own _ => target own).conclude ?_ ?_
  · exact fun _ _ => Guarded.secure
  · exact fun _ _ => Guarded.secure

theorem publishStaged_secure (sourceParent destinationParent : DirCap) (lease : ExclusiveLease)
    (destination : String) (expected : FileIdentity) (stage : DirCap) :
    Invariant (Secure allow mine)
      (publishStaged adversary.env sourceParent destinationParent lease destination expected stage) := by
  have observed : Observed adversary.env (Secure allow mine) := secure_observed adversary renames
  refine Invariant.bind (reporting_triple (observed.checkpoint _) _) fun _ => ?_
  refine Invariant.bind (verifyStaged_secure renames stage expected) fun _ => ?_
  refine Invariant.bind (reporting_triple (observed.requireExactMutationScope _ _) _) fun _ => ?_
  refine Invariant.bind (reporting_triple (observed.requireExactMutationScope _ _) _) fun _ => ?_
  refine Invariant.bind (verifyStaged_secure renames stage expected) fun _ => ?_
  exact reporting_triple (call_secure renames rfl) _

include removals

theorem unlinkExact_secure (parent : DirCap) (lease : ExclusiveLease) (name : String) (expected : FileIdentity)
    (directory : Bool) (target : ∀ own, allow (.removed expected.inodeKey own)) :
    Invariant (Secure allow mine) (unlinkExact adversary.env parent lease name expected directory) := by
  have observed : Observed adversary.env (Secure allow mine) := secure_observed adversary renames
  refine Invariant.bind ?_ fun name => ?_
  · refine (Invariant.ofExcept _).bind fun name => Invariant.bind ?_ fun _ => Invariant.pure name
    exact (observed.exactIdentity _ _ _ _).rescue (failWith_secure _ _ _)
  · apply stagedMutation_secure renames removals
    exact fun stage => removeStaged_secure renames parent lease expected directory stage target

theorem renameExact_secure (sourceParent destinationParent : DirCap) (lease : ExclusiveLease)
    (source destination : String) (expected : FileIdentity) :
    Invariant (Secure allow mine)
      (renameExact adversary.env sourceParent destinationParent lease source destination expected) := by
  have observed : Observed adversary.env (Secure allow mine) := secure_observed adversary renames
  refine Invariant.bind ?_ fun names => ?_
  · refine (Invariant.ofExcept _).bind fun source => (Invariant.ofExcept _).bind fun destination => ?_
    extract_lets capabilities
    refine Invariant.bind (Invariant.ensure.rescue (failWith_secure _ _ _)) fun _ => ?_
    refine Invariant.bind ((observed.exactIdentity _ _ _ _).rescue (failWith_secure _ _ _)) fun _ => ?_
    refine Invariant.bind ((observed.revalidateDirectory _ _).rescue (failWith_secure _ _ _)) fun _ => ?_
    exact Invariant.pure _
  · obtain ⟨source, destination⟩ := names
    apply stagedMutation_secure renames removals
    exact fun stage => publishStaged_secure renames sourceParent destinationParent lease destination expected stage

end Operations

/-- What a caller may ask of the boundary. -/
inductive Request where
  | operation (operation : Operation)
  | gcQuarantine (parent : DirCap) (lease : ExclusiveLease) (scope : QuiescentScope)
      (object : QuarantinedObject)
  | setQuiescentScope (scope : QuiescentScope)

def serve (env : Env κ) : Request → BoundaryM κ Unit
  | .operation operation => call env operation
  | .gcQuarantine parent lease scope object => gcQuarantine env parent lease scope object
  | .setQuiescentScope scope => setQuiescentScope scope

/-- The changes of the namespace a request may make: no rename replaces a name, and a removal
takes the expected inode of an `unlink_exact`, a directory the boundary made, or the recorded
inode of a collected quarantine object. -/
def Request.allows : Request → Event → Prop
  | _, .renamed _ replaced => replaced = none
  | .operation (.unlinkExact _ _ _ expected _), .removed inode own => own = true ∨ inode = expected.inodeKey
  | .operation _, .removed _ own => own = true
  | .gcQuarantine _ _ _ object, .removed inode _ => inode = object.expected.inodeKey
  | .setQuiescentScope _, .removed _ _ => False

/-- The state in which a request starts: writers ran unless a proof is installed, and the
events of earlier requests are put aside. -/
def Adversary.awaits (adversary : Adversary) (s : State World) : State World :=
  { s with world := { adversary.settle s.barrier s.world with events := [] } }

def Adversary.handle (adversary : Adversary) (request : Request) (s : State World) : State World :=
  finalState (serve adversary.env request (adversary.awaits s))

/-- Every request with the events it caused. -/
def Adversary.history (adversary : Adversary) (s : State World) : List Request → List (Request × List Event)
  | [] => []
  | request :: rest =>
    (request, (adversary.handle request s).world.events) ::
      adversary.history (adversary.handle request s) rest

/-- A new boundary over a namespace in which it has made nothing yet. -/
def opened (entries : Entries) (descriptors : List (RawFd × InodeKey)) : State World :=
  { world := { entries, descriptors } }

theorem call_secure_of_allows (adversary : Adversary) (operation : Operation) :
    Invariant (Secure (Request.allows (.operation operation)) fun _ => False) (call adversary.env operation) := by
  cases operation with
  | mkdirChild parent lease name mode =>
    refine Invariant.bind (mkdirChild_secure ?_ ?_ parent lease name mode) fun _ => Invariant.pure _
    · exact fun _ => rfl
    · exact fun _ => rfl
  | unlinkExact parent lease name expected directory =>
    refine unlinkExact_secure ?_ ?_ parent lease name expected directory ?_
    · exact fun _ => rfl
    · exact fun _ => .inl rfl
    · exact fun _ => .inr rfl
  | renameExact sourceParent destinationParent lease source destination expected =>
    refine renameExact_secure ?_ ?_ sourceParent destinationParent lease source destination expected
    · exact fun _ => rfl
    · exact fun _ => rfl

/-- Every event of the current request is one it may cause. -/
def Permitted (request : Request) : Assertion (State World) :=
  fun s => ∀ event ∈ s.world.events, request.allows event

theorem serve_permitted (adversary : Adversary) (request : Request) :
    Invariant (Permitted request) (serve adversary.env request) := by
  cases request with
  | operation operation =>
    refine (call_secure_of_allows adversary operation).weaken ?_ ?_ ?_
    · exact fun s allowed => ⟨allowed, fun _ _ => False.elim⟩
    · exact fun _ _ secure => secure.events
    · exact fun _ _ secure => secure.events
  | gcQuarantine parent lease scope object =>
    let returned : Assertion (State World) := fun s => s.lent = false ∧
      Returned (Request.allows (.gcQuarantine parent lease scope object)) (fun _ => False) s
    have collected : Triple
        (fun s => Permitted (.gcQuarantine parent lease scope object) s ∧
          ∀ inode, False → inode ∈ s.world.own)
        (gcQuarantine adversary.env parent lease scope object) (fun _ => returned) (fun _ => returned) :=
      gcQuarantine_returned adversary (fun _ => rfl) parent lease scope object fun _ _ => rfl
    refine collected.weaken ?_ ?_ ?_
    · exact fun s allowed => ⟨allowed, fun _ => False.elim⟩
    · exact fun _ _ ended => ended.2.events
    · exact fun _ _ ended => ended.2.events
  | setQuiescentScope scope => exact Invariant.modify fun _ => id

/-- One request, from any state of the boundary and of the namespace. -/
theorem handle_allowed (adversary : Adversary) (request : Request) (s : State World) :
    ∀ event ∈ (adversary.handle request s).world.events, request.allows event := by
  have silent : Permitted request (adversary.awaits s) := by
    intro event member
    cases member
  exact (serve_permitted adversary request).ended silent

theorem history_allowed (adversary : Adversary) (requests : List Request) (s : State World) :
    ∀ entry ∈ adversary.history s requests, ∀ event ∈ entry.2, entry.1.allows event := by
  induction requests generalizing s with
  | nil =>
    intro entry member
    cases member
  | cons request rest induction =>
    intro entry member
    rcases List.mem_cons.mp member with rfl | later
    · exact handle_allowed adversary request s
    · exact induction _ entry later

/-- No history of requests, whatever the writers, the kernel and the hooks do, deletes or
overwrites a foreign inode. -/
theorem foreign_inodes_survive (adversary : Adversary) (entries : Entries)
    (descriptors : List (RawFd × InodeKey)) (requests : List Request) :
    ∀ entry ∈ adversary.history (opened entries descriptors) requests,
      ∀ event ∈ entry.2, entry.1.allows event :=
  history_allowed adversary requests (opened entries descriptors)

/-- No writers, and every syscall and hook goes through. -/
def obliging : Adversary where
  fails _ := none
  writes w := w.entries
  reuses _ _ := false
  describe _ inode := ⟨inode.1, inode.2, if inode = (1, 7) then 0o100644 else 0o40755, 1, 0, 0⟩
  inode _ := (1, 20)
  verdict _ _ _ := .ok ()
  invalidates _ _ _ := false

/-- A proof for the directory 10 and the lease 12, then the removal of the file 7 in the directory. -/
def provenUnlink : List Request :=
  let parent : FileIdentity := ⟨1, 10, 0o40755, 1, 0, 0⟩
  let lease : FileIdentity := ⟨1, 12, 0o40755, 1, 0, 0⟩
  [.setQuiescentScope ⟨parent, none, none, lease, 1, 1⟩,
    .operation (.unlinkExact ⟨3, parent, 1, 1⟩ ⟨4, lease, 2, 1⟩ "object" ⟨1, 7, 0o100644, 1, 0, 0⟩ false)]

theorem foreign_inodes_survive_unlink :
    ∃ entry ∈ obliging.history (opened [(((1, 10), "object"), (1, 7))] [(3, (1, 10)), (4, (1, 12))]) provenUnlink,
      Event.removed (1, 7) false ∈ entry.2 ∧ entry.1.allows (.removed (1, 7) false) := by
  have removed : ∃ entry ∈
      obliging.history (opened [(((1, 10), "object"), (1, 7))] [(3, (1, 10)), (4, (1, 12))]) provenUnlink,
      Event.removed (1, 7) false ∈ entry.2 := by
    decide +kernel
  obtain ⟨entry, served, event⟩ := removed
  exact ⟨entry, served, event, foreign_inodes_survive _ _ _ _ entry served _ event⟩

end Darling.Boundary
