import Darling.Boundary.Books

/-! Every staged resource has exactly one owner. Each exit of a staging operation closes the
books of the call: a resource it made is settled, or one entry of one queue answers for it. -/
namespace Darling.Boundary

variable {κ : Type}

section Staging

variable (env : Env κ)

theorem abandonStaged (parent : DirCap) (lease : ExclusiveLease) (name : String) (stage : Nat)
    (identity : FileIdentity) (error : BoundaryError) (named : ∀ id, name ≠ quarantineNameOf id)
    {v w : Account} (staged : Staged v ⟨stage, ⟨parent.fd, name⟩⟩ w) (post : α → Assertion (State κ)) :
    Triple (At w) (abandonUnboundStage env parent lease name stage identity error) post
      (fun _ => On (Closed v)) := by
  refine (abandonUnboundStage_contract env parent lease name stage identity error named w post).fallback ?_
  intro _ s ended
  rcases ended with released | entrusted
  · exact (staged.released released).closed
  · exact staged.entrusted entrusted

theorem bindStage_contract (parent : DirCap) (lease : ExclusiveLease) (stageId : Nat) (identity : FileIdentity)
    {v w : Account} (staged : Staged v ⟨stageId, ⟨parent.fd, stageNameOf stageId⟩⟩ w) :
    Triple (At w) (bindStage env parent lease stageId identity)
      (fun result s => result.1 = stageNameOf result.2.id ∧ result.2.scope = parent.scope ∧
        Staged v ⟨result.2.id, ⟨parent.fd, result.1⟩⟩ s.account)
      (fun _ => On (Closed v)) := by
  have named := stageNameOf_ne_quarantineNameOf stageId
  have abandon (α : Type) (post : α → Assertion (State κ)) (error : BoundaryError) :=
    abandonStaged env parent lease _ stageId identity error named staged post
  refine Triple.bind (Triple.rescue ((checkpoint_silent env _).at w) (abandon _ _)) fun _ => ?_
  refine Triple.bind (Triple.rescue ((openDirAt_silent env _ _).at w) (abandon _ _)) fun fd => ?_
  refine Triple.bind (Triple.rescue ((fromFd_silent env _).at w) (abandon _ _)) fun boundIdentity => ?_
  apply Triple.ite
  · intro _
    exact abandon _ _ _
  · intro _
    extract_lets cap
    refine Triple.bind (Triple.rescue ((checkpoint_silent env _).at w) fun error => ?_) fun _ => ?_
    · have cleaned := cleanupRegistered_contract env parent lease _ cap true named w
      refine Triple.bind (cleaned.fallback fun _ _ => staged.entrusted) fun _ => ?_
      exact Triple.throw fun _ released => (staged.released released).closed
    · exact Triple.pure fun s reached => ⟨rfl, rfl, on_of_at staged reached⟩

theorem createStagingDir_contract (parent : DirCap) (lease : ExclusiveLease) (v : Account) :
    Triple (At v) (createStagingDir env parent lease)
      (fun result s => result.1 = stageNameOf result.2.id ∧ result.2.scope = parent.scope ∧
        Staged v ⟨result.2.id, ⟨parent.fd, result.1⟩⟩ s.account)
      (fun _ => On (Closed v)) := by
  refine Triple.bind ((revalidateDirectory_silent env _ _).step fun _ _ =>
    on_of_at (settled_start v).closed) fun _ => ?_
  refine Triple.bind ((revalidateLock_silent env _).step fun _ _ => on_of_at (settled_start v).closed) fun _ => ?_
  refine Triple.bind ((requireScope_silent _ _).step fun _ _ => on_of_at (settled_start v).closed) fun _ => ?_
  refine Triple.bind (nextId_contract v) fun stageId => Triple.assume fun fresh => ?_
  subst fresh
  extract_lets stageName
  refine Triple.bind ((mkdirAt_contract env _ _ _ _).fallback ?_) fun _ => ?_
  · intro _ s reached
    refine on_of_at ⟨[], [], [], ⟨[], _, (Books.start v).takeId, rfl, by simp⟩, ?_⟩ reached
    exact ⟨trivial, by simp⟩
  have named := stageNameOf_ne_quarantineNameOf (v.nextId + 1)
  have made := (Books.start v).takeId.make ⟨v.nextId + 1, ⟨parent.fd, stageName⟩⟩ rfl (by simp)
    (by simp) (Nat.le_refl _) named
  refine Triple.bind (recordStage_contract _ _) fun _ => ?_
  have allocated := made.mark (.allocated (v.nextId + 1))
  refine Triple.bind (Triple.rescue ((fromAt_silent env _ _).at _) fun error => ?_) fun identity => ?_
  · refine Triple.bind (registerUnboundStage_contract env parent _ _ _ _ _ _) fun _ => ?_
    refine Triple.assume fun _ => Triple.choose fun entry => Triple.assume fun owner => ?_
    refine Triple.bind (recordStageCleanup_contract _ _ _ _ _ _) fun _ => Triple.throw fun s reached => ?_
    have kept := (allocated.retain List.mem_cons_self owner).mark (.unsettled (v.nextId + 1))
    refine on_of_at ⟨_, _, _, ⟨_, _, kept, rfl, ?_⟩, ?_⟩ reached
    · simp
    · simp [Terminated, EachCloses, allocations, Mark.allocation, Mark.closes]
  · refine Triple.bind (recordStage_contract _ _) fun _ => ?_
    exact bindStage_contract env parent lease _ identity (allocated.mark (.registered (v.nextId + 1)))

/-- How a call may end. -/
def Finished (v w : Account) : Prop :=
  ∃ marked resources stages quarantines,
    Accounted v w marked resources stages quarantines ∧ Terminated marked

/-- How a successful call ends. -/
def Succeeded (v w : Account) : Prop :=
  ∃ marked resources, Accounted v w marked resources [] [] ∧ Terminated marked

theorem recordOperation_contract (operation : OperationName) (capabilities : CapabilitySet)
    (outcome : OperationOutcome) (v : Account) {fails : BoundaryError → Assertion (State κ)} :
    Triple (At v) (recordOperation operation capabilities outcome none) (fun _ => At { v with
      rolledBack := v.rolledBack + (decide (outcome = .rolledBackError)).toNat }) fails := by
  refine (record_contract _ v).conclude ?_ fun _ _ => id
  intro _ s reached
  simpa [JournalRecord.mark, JournalRecord.isRolledBack] using reached

theorem Complete.rolledBack_eq {v w : Account} {marked : List Mark} {stages : List StageObligation}
    {quarantines : List QuarantineObligation} (complete : Complete v marked stages quarantines w) :
    w.rolledBack = v.rolledBack :=
  have ⟨_, _, books, _⟩ := complete
  books.rolledBack_eq

theorem failWith_closed (operation : OperationName) (capabilities : CapabilitySet)
    {outcome : OperationOutcome} (forward : outcome ≠ .rolledBackError) (error : BoundaryError) (v : Account)
    (post : α → Assertion (State κ)) :
    Triple (On (Closed v)) (failWith operation capabilities outcome error) post (fun _ => On (Finished v)) := by
  refine Triple.of_account fun w closed => ?_
  refine Triple.bind (recordOperation_contract _ _ _ w) fun _ => Triple.throw fun s reached => ?_
  obtain ⟨marked, stages, quarantines, complete, terminated⟩ := closed
  obtain ⟨resources, accounted⟩ := complete.accounted (.inl complete.rolledBack_eq)
  refine on_of_at ⟨marked, resources, stages, quarantines, ?_, terminated⟩ reached
  simpa [forward] using accounted

theorem failWith_settled (operation : OperationName) (capabilities : CapabilitySet)
    (outcome : OperationOutcome) (error : BoundaryError) (v : Account) (post : α → Assertion (State κ)) :
    Triple (On (Settled v)) (failWith operation capabilities outcome error) post (fun _ => On (Finished v)) := by
  refine Triple.of_account fun w settled => ?_
  refine Triple.bind (recordOperation_contract _ _ _ w) fun _ => Triple.throw fun s reached => ?_
  obtain ⟨marked, complete, terminated⟩ := settled
  obtain ⟨resources, accounted⟩ := complete.accounted (.inr ⟨rfl, rfl⟩)
  exact on_of_at ⟨marked, resources, [], [], accounted, terminated⟩ reached

theorem recordApplied (operation : OperationName) (capabilities : CapabilitySet) (v : Account)
    {fails : BoundaryError → Assertion (State κ)} :
    Triple (On (Settled v)) (recordOperation operation capabilities .applied none)
      (fun _ => On (Succeeded v)) fails := by
  refine Triple.of_account fun w settled => ?_
  refine (recordOperation_contract _ _ _ w).conclude (fun _ s reached => ?_) fun _ _ => id
  obtain ⟨marked, complete, terminated⟩ := settled
  obtain ⟨resources, accounted⟩ := complete.accounted (.inr ⟨rfl, rfl⟩)
  exact on_of_at ⟨marked, resources, accounted, terminated⟩ reached

end Staging

section Mkdir

variable (env : Env κ) {v w : Account} {parent stage : DirCap} {stageName : String} {child : Resource}

theorem abandonChild_contract (lease : ExclusiveLease) (capabilities : CapabilitySet)
    (outcome : OperationOutcome) {cleanupChild : BoundaryM κ Unit} (error : BoundaryError)
    (named : ∀ id, stageName ≠ quarantineNameOf id)
    (nested : Nested v ⟨stage.id, ⟨parent.fd, stageName⟩⟩ child w)
    (cleaned : Triple (At w) cleanupChild (fun _ => On (Released child w [.settled child.id]))
      (fun _ => On (Entrusted child w [.unsettled child.id]))) (post : α → Assertion (State κ)) :
    Triple (At w) (abandonChild env parent lease stageName stage capabilities outcome cleanupChild error)
      post (fun _ => On (Finished v)) := by
  refine Triple.bind (Triple.attempt (fun result => On (Ended child w [.settled child.id]
    [.unsettled child.id] result)) cleaned) fun inner => ?_
  refine Triple.bind (Triple.of_account fun x ended => Triple.attempt
    (fun result => On fun y => Closed v y ∧ (inner.isOk ∧ result.isOk → Settled v y)) ?_) fun outer => ?_
  · have done := nested.child_ended ended
    refine (cleanupRegistered_contract env parent lease stageName stage true named x).conclude ?_ ?_
    · intro _ s released
      obtain ⟨closed, settled⟩ := done.stage_released released
      exact ⟨closed, fun both => settled both.1⟩
    · intro _ s entrusted
      refine ⟨done.stage_entrusted entrusted, ?_⟩
      simp [Except.isOk, Except.toBool]
  · by_cases both : inner.isOk ∧ outer.isOk
    · rw [if_pos both]
      exact (failWith_settled _ _ _ _ v post).strengthen fun s ended => ended.2 both
    · rw [if_neg both]
      exact (failWith_closed _ _ (by simp) _ v post).strengthen fun s ended => ended.1

theorem publishChild_contract (lease : ExclusiveLease) (finalName : String) (childId : Nat)
    (childIdentity : FileIdentity) (named : ∀ id, stageName ≠ quarantineNameOf id)
    (nested : Nested v ⟨stage.id, ⟨parent.fd, stageName⟩⟩ ⟨childId, ⟨stage.fd, stagedName⟩⟩ w) :
    Triple (At w) (publishChild env parent lease finalName stageName stage childId childIdentity)
      (fun _ => On (Succeeded v)) (fun _ => On (Finished v)) := by
  unfold publishChild
  extract_lets capabilities
  have unbound (α : Type) (post : α → Assertion (State κ)) (outcome : OperationOutcome) (error : BoundaryError) :=
    abandonChild_contract env lease capabilities outcome error named nested
      (cleanupRegisteredIdentity_contract env stage lease stagedName childIdentity childId
        stagedName_ne_quarantineNameOf w) post
  refine Triple.bind (Triple.rescue ((checkpoint_silent env _).at w) (unbound _ _ _)) fun _ => ?_
  refine Triple.bind (Triple.rescue ((openDirAt_silent env _ _).at w) (unbound _ _ _)) fun fd => ?_
  refine Triple.bind (Triple.rescue ((fromFd_silent env _).at w) (unbound _ _ _)) fun identity => ?_
  apply Triple.ite
  · intro _
    exact unbound _ _ _ _
  · intro _
    extract_lets cap
    have bound (α : Type) (post : α → Assertion (State κ)) (error : BoundaryError) :=
      abandonChild_contract env lease capabilities .rolledBackError error named nested
        (cleanupRegistered_contract env stage lease stagedName cap true stagedName_ne_quarantineNameOf w) post
    refine Triple.bind (Triple.rescue ((checkpoint_silent env _).at w) (bound _ _)) fun _ => ?_
    refine Triple.bind (Triple.rescue (renameAt_contract env _ _ _ _ w) (bound _ _)) fun _ => ?_
    refine Triple.bind (recordStage_contract _ _) fun _ => ?_
    have published := nested.published
      (w.moves ++ [⟨⟨stage.fd, stagedName⟩, ⟨parent.fd, finalName⟩⟩])
    refine Triple.bind (Triple.rescue
      (cleanupRegistered_contract env parent lease stageName stage true named _) fun error => ?_) fun _ => ?_
    · refine (failWith_closed _ _ (by simp) error v _).strengthen ?_
      exact fun s entrusted => published.stage_entrusted entrusted
    · refine Triple.bind ((recordApplied _ _ v).strengthen ?_) fun _ => Triple.pure fun _ => id
      exact fun s released => (published.stage_released released).2 rfl

theorem swapRemove_last (items : List α) (last : α) : swapRemove (items ++ [last]) items.length = items := by
  simp [swapRemove]

/-- The exit of `mkdir_child` on which the child has no identity yet: it is registered before the
outer stage is cleaned up, and struck off again when that cleanup takes the child with it. -/
theorem abandonUnboundChild_contract (lease : ExclusiveLease) (capabilities : CapabilitySet) (error : BoundaryError)
    (named : ∀ id, stageName ≠ quarantineNameOf id)
    (books : Books v w [⟨stage.id, ⟨parent.fd, stageName⟩⟩, child] (fun _ => 0)
      [.allocated stage.id, .registered stage.id, .allocated child.id] [] []) (post : α → Assertion (State κ)) :
    Triple (At w)
      (do
        let obligation ← registerUnboundStage env stage child.id (some child.id) stagedName none none
        let cleanup ← attempt (cleanupRegistered env parent lease stageName stage true)
        onlyIf cleanup.isOk (resolveStageObligation obligation)
        recordStageCleanup stage lease child.id (if cleanup.isOk then .cleaned else .deferred) none
        failWith .mkdirChild capabilities
          (if cleanup.isOk then .stagedError else .rollbackIncomplete) error)
      post (fun _ => On (Finished v)) := by
  have distinct : stage.id ≠ child.id := by simpa using books.ids_nodup
  have apart : child ≠ ⟨stage.id, ⟨parent.fd, stageName⟩⟩ := by
    intro same
    exact distinct (congrArg Resource.id same).symm
  refine Triple.bind (registerUnboundStage_contract env stage child.id _ stagedName _ _ w) fun obligation => ?_
  refine Triple.assume fun index => Triple.choose fun entry => Triple.assume fun owner => ?_
  subst index
  have cleaned := cleanupRegistered_contract env parent lease stageName stage true named
    { w with pendingStages := w.pendingStages ++ [entry] }
  refine Triple.bind (Triple.attempt (fun result => On (Ended ⟨stage.id, ⟨parent.fd, stageName⟩⟩ _
    [.settled stage.id] [.unsettled stage.id] result)) cleaned) fun cleanup => ?_
  refine Triple.of_account fun x ended => ?_
  cases cleanup with
  | ok _ =>
    have resolved : swapRemove x.pendingStages w.pendingStages.length = w.pendingStages := by
      rw [ended.stages_eq, List.append_nil, swapRemove_last]
    refine Triple.bind (resolveStageObligation_contract _ x) fun _ => ?_
    rw [resolved]
    refine Triple.bind (recordStageCleanup_contract _ _ _ _ _ _) fun _ => ?_
    refine (failWith_closed _ _ (by simp [Except.isOk, Except.toBool]) error v post).strengthen ?_
    intro s reached
    have settled := (books.dispose List.mem_cons_self (Disposal.overStages ended)).mark (.settled child.id)
    refine on_of_at ⟨_, _, _, ⟨_, _, settled, rfl, ?_⟩, ?_⟩ reached
    · simp
    · simp [Terminated, EachCloses, allocations, Mark.allocation, Mark.closes, distinct, Ne.symm distinct]
  | error _ =>
    refine Triple.bind Triple.skip fun _ => ?_
    refine Triple.bind (recordStageCleanup_contract _ _ _ _ _ _) fun _ => ?_
    refine (failWith_closed _ _ (by simp [Except.isOk, Except.toBool]) error v post).strengthen ?_
    intro s reached
    obtain ⟨stages, quarantines, one, disposal⟩ := ended
    have kept := ((books.retain (by simp) owner).dispose List.mem_cons_self disposal).mark (.unsettled child.id)
    refine on_of_at ⟨_, _, _, ⟨_, _, kept, rfl, ?_⟩, ?_⟩ reached
    · simp [one, apart, apart.symm]
    · simp [Terminated, EachCloses, allocations, Mark.allocation, Mark.closes, distinct, Ne.symm distinct]

theorem stageChild_contract (lease : ExclusiveLease) (finalName : String) (mode : UInt32)
    (nameEq : stageName = stageNameOf stage.id)
    (staged : Staged v ⟨stage.id, ⟨parent.fd, stageName⟩⟩ w) :
    Triple (At w) (stageChild env parent lease finalName mode stageName stage)
      (fun _ => On (Succeeded v)) (fun _ => On (Finished v)) := by
  have named : ∀ id, stageName ≠ quarantineNameOf id := by
    rw [nameEq]
    exact stageNameOf_ne_quarantineNameOf _
  unfold stageChild
  extract_lets capabilities
  refine Triple.bind (Triple.rescue (mkdirAt_contract env _ _ _ w) fun error => ?_) fun _ => ?_
  · have cleaned := cleanupRegistered_contract env parent lease stageName stage true named w
    refine Triple.bind (Triple.attempt (fun _ => On (Closed v)) (cleaned.conclude ?_ ?_)) fun cleanup => ?_
    · exact fun _ s released => (staged.released released).closed
    · exact fun _ s entrusted => staged.entrusted entrusted
    · exact failWith_closed _ _ (by split <;> simp) error v _
  refine Triple.bind (nextId_contract _) fun childId => Triple.assume fun fresh => ?_
  subst fresh
  have bound : stage.id ≤ w.nextId := staged.ids_le _ List.mem_cons_self
  have made := staged.takeId.make ⟨w.nextId + 1, ⟨stage.fd, stagedName⟩⟩ rfl (by simp; omega)
    (by simpa [nameEq] using fun _ => (stagedName_ne_stageNameOf stage.id).symm) (Nat.le_refl _)
    stagedName_ne_quarantineNameOf
  refine Triple.bind (recordStage_contract _ _) fun _ => ?_
  have allocated := made.mark (.allocated (w.nextId + 1))
  refine Triple.bind (Triple.rescue ((fromAt_silent env _ _).at _) fun error => ?_) fun identity => ?_
  · exact abandonUnboundChild_contract env lease capabilities error named allocated _
  · refine Triple.bind (recordStage_contract _ _) fun _ => ?_
    exact publishChild_contract env lease finalName _ identity named
      (allocated.mark (.registered (w.nextId + 1)))

theorem finished_start (v : Account) : Finished v v := by
  obtain ⟨marked, complete, terminated⟩ := settled_start v
  obtain ⟨resources, accounted⟩ := complete.accounted (.inl rfl)
  exact ⟨marked, resources, [], [], accounted, terminated⟩

theorem mkdirChild_contract (parent : DirCap) (lease : ExclusiveLease) (name : String) (mode : UInt32)
    (v : Account) :
    Triple (At v) (mkdirChild env parent lease name mode)
      (fun _ => On (Succeeded v)) (fun _ => On (Finished v)) := by
  have early (error : BoundaryError) (s : State κ) (reached : s.account = v) : On (Finished v) s :=
    on_of_at (finished_start v) reached
  refine Triple.bind ((revalidateDirectory_silent env _ _).step early) fun _ => ?_
  refine Triple.bind ((revalidateLock_silent env _).step early) fun _ => ?_
  refine Triple.bind ((requireScope_silent _ _).step early) fun _ => ?_
  refine Triple.bind (Silent.step (fun _ => Invariant.ofExcept _) early) fun finalName => ?_
  refine Triple.bind (Triple.rescue (createStagingDir_contract env parent lease v) fun error =>
    failWith_closed _ _ (by simp) error v _) fun created => ?_
  rcases created with ⟨stageName, stage⟩
  refine Triple.strengthen ?_ fun s holds => show On (fun w => stageName = stageNameOf stage.id ∧
    Staged v ⟨stage.id, ⟨parent.fd, stageName⟩⟩ w) s from ⟨holds.1, holds.2.2⟩
  refine Triple.of_account fun w facts => ?_
  exact stageChild_contract env lease finalName mode facts.1 facts.2

end Mkdir

/-- The account is the given one up to the renames made since. -/
def Renamed (v w : Account) : Prop := ∃ moves, w = { v with moves := moves }

theorem Staged.renamed {v w x : Account} {stage : Resource} (staged : Staged v stage w) (renamed : Renamed w x) :
    Staged v stage x := by
  obtain ⟨moves, rfl⟩ := renamed
  exact staged.move moves

section Mutations

variable (env : Env κ) {parent stage : DirCap} {lease : ExclusiveLease} {name stageName : String}

theorem reporting_silent {body : BoundaryM κ α} (silent : Silent body) (outcome : OperationOutcome) :
    Silent (reporting outcome body) :=
  fun v => (silent v).rescue fun _ => Invariant.throw _

theorem verifyStaged_silent (expected : FileIdentity) : Silent (verifyStaged env stage expected) :=
  fun v => (reporting_silent (fromAt_silent env _ _) _ v).bind fun _ => Invariant.ensure

theorem removeStaged_silent (expected : FileIdentity) (directory : Bool) :
    Silent (removeStaged env parent lease expected directory stage) := by
  intro v
  refine (reporting_silent (checkpoint_silent env _) _ v).bind fun _ => ?_
  refine (verifyStaged_silent env expected v).bind fun _ => ?_
  refine (reporting_silent (requireExactMutationScope_silent env _ _) _ v).bind fun _ => ?_
  refine (verifyStaged_silent env expected v).bind fun _ => ?_
  exact reporting_silent (unlinkAt_silent env _ _ _) _ v

theorem publishStaged_contract (destinationParent : DirCap) (destination : String) (expected : FileIdentity)
    (w : Account) :
    Triple (At w) (publishStaged env parent destinationParent lease destination expected stage)
      (fun _ => On (Renamed w)) (fun _ => At w) := by
  refine Triple.bind ((reporting_silent (checkpoint_silent env _) _).at w) fun _ => ?_
  refine Triple.bind ((verifyStaged_silent env expected).at w) fun _ => ?_
  refine Triple.bind ((reporting_silent (requireExactMutationScope_silent env _ _) _).at w) fun _ => ?_
  refine Triple.bind ((reporting_silent (requireExactMutationScope_silent env _ _) _).at w) fun _ => ?_
  refine Triple.bind ((verifyStaged_silent env expected).at w) fun _ => ?_
  refine Triple.rescue ((renameAt_contract env _ _ _ _ w).conclude ?_ fun _ _ => id) fun _ => ?_
  · intro _ s reached
    exact ⟨_, reached⟩
  · exact Triple.throw fun _ => id

theorem restoreStaged_contract (w : Account) :
    Triple (At w) (restoreStaged env stage parent stagedName name)
      (fun _ => On (Renamed w)) (fun _ => On (Renamed w)) := by
  have unmoved (error : BoundaryError) (s : State κ) (reached : s.account = w) : On (Renamed w) s :=
    ⟨w.moves, reached⟩
  refine Triple.bind ((requireScope_silent _ _).step unmoved) fun _ => ?_
  refine Triple.bind ((revalidateDirectory_silent env _ _).step unmoved) fun _ => ?_
  refine Triple.bind ((fromAt_silent env _ _).step unmoved) fun staged => ?_
  refine Triple.bind ((renameAt_contract env _ _ _ _ w).fallback unmoved) fun _ => ?_
  refine Triple.bind ((fromAt_silent env _ _).step fun _ s reached => ⟨_, reached⟩) fun restored => ?_
  refine (Triple.ensure ?_).conclude ?_ fun _ _ => id
  · exact fun _ s reached => ⟨_, reached⟩
  · exact fun _ s reached => ⟨_, reached.2⟩

theorem moveIntoStage_contract (operation : OperationName) (capabilities : CapabilitySet) (parent : DirCap)
    (lease : ExclusiveLease) (name : String) (v : Account) :
    Triple (At v) (moveIntoStage env operation capabilities parent lease name)
      (fun result s => result.1 = stageNameOf result.2.id ∧
        Staged v ⟨result.2.id, ⟨parent.fd, result.1⟩⟩ s.account)
      (fun _ => On (Finished v)) := by
  refine Triple.bind (Triple.rescue (createStagingDir_contract env parent lease v) fun error =>
    failWith_closed _ _ (by simp) error v _) fun created => ?_
  rcases created with ⟨stageName, stage⟩
  refine Triple.strengthen ?_ fun s holds => show On (fun w => stageName = stageNameOf stage.id ∧
    Staged v ⟨stage.id, ⟨parent.fd, stageName⟩⟩ w) s from ⟨holds.1, holds.2.2⟩
  refine Triple.of_account fun w facts => ?_
  obtain ⟨nameEq, staged⟩ := facts
  have named : ∀ id, stageName ≠ quarantineNameOf id := by
    rw [nameEq]
    exact stageNameOf_ne_quarantineNameOf _
  refine Triple.bind (Triple.rescue (renameAt_contract env _ _ _ _ w) fun error => ?_) fun _ => ?_
  · have cleaned := cleanupRegistered_contract env parent lease stageName stage true named w
    refine Triple.bind (Triple.attempt (fun _ => On (Closed v)) (cleaned.conclude ?_ ?_)) fun cleanup => ?_
    · exact fun _ s released => (staged.released released).closed
    · exact fun _ s entrusted => staged.entrusted entrusted
    · exact failWith_closed _ _ (by split <;> simp) error v _
  · exact Triple.pure fun s reached => ⟨nameEq, on_of_at (staged.move _) reached⟩

/-- A rollback that puts the object back closes the books with the cleanup of the stage. -/
theorem rollbackMove_restored (operation : OperationName) (capabilities : CapabilitySet) {v : Account}
    (failure : OperationOutcome × BoundaryError) (named : ∀ id, stageName ≠ quarantineNameOf id)
    (post : α → Assertion (State κ)) :
    Triple (fun s => Staged v ⟨stage.id, ⟨parent.fd, stageName⟩⟩ s.account ∧
        ∃ s', restoreStaged env stage parent stagedName name s = .ok () s')
      (rollbackMove env operation capabilities parent lease name stageName stage failure)
      post (fun _ => On (Finished v)) := by
  have restored : Triple (fun s => Staged v ⟨stage.id, ⟨parent.fd, stageName⟩⟩ s.account ∧
        ∃ s', restoreStaged env stage parent stagedName name s = .ok () s')
      (restoreStaged env stage parent stagedName name)
      (fun _ => On (Staged v ⟨stage.id, ⟨parent.fd, stageName⟩⟩)) (fun _ _ => False) := by
    apply Triple.of_runs
    · intro s _ s' holds ran
      exact holds.1.renamed ((restoreStaged_contract env s.account).returned rfl ran)
    · intro s error s' holds ran
      obtain ⟨_, _, success⟩ := holds
      rw [ran] at success
      cases success
  refine Triple.bind (Triple.attempt (fun result => On fun w =>
    Closed v w ∧ (result.isOk → Settled v w)) ?_) fun rollback => ?_
  · refine Triple.bind (Triple.rescue restored fun error => fun _ => False.elim) fun _ => ?_
    refine Triple.of_account fun w staged => ?_
    refine (cleanupRegistered_contract env parent lease stageName stage true named w).conclude ?_ ?_
    · intro _ s released
      exact ⟨(staged.released released).closed, fun _ => staged.released released⟩
    · intro _ s entrusted
      exact ⟨staged.entrusted entrusted, by simp [Except.isOk, Except.toBool]⟩
  · cases rollback with
    | ok _ => exact (failWith_settled _ _ _ _ v post).strengthen fun s ended => ended.2 rfl
    | error error => exact (failWith_closed _ _ (by simp) _ v post).strengthen fun s ended => ended.1

/-- How a call ends whose rollback could not put the object back: one entry has the stage, and
the journal has no terminal for it. -/
def Stranded (v w : Account) : Prop :=
  ∃ stage resources stages quarantines,
    Accounted v w [.allocated stage, .registered stage] resources stages quarantines

theorem rollbackMove_stranded (operation : OperationName) (capabilities : CapabilitySet) {v : Account}
    (failure : OperationOutcome × BoundaryError) (post : α → Assertion (State κ)) :
    Triple (fun s => Staged v ⟨stage.id, ⟨parent.fd, stageName⟩⟩ s.account ∧
        ∃ error s', restoreStaged env stage parent stagedName name s = .error error s')
      (rollbackMove env operation capabilities parent lease name stageName stage failure)
      post (fun _ => On (Stranded v)) := by
  have failed : Triple (fun s => Staged v ⟨stage.id, ⟨parent.fd, stageName⟩⟩ s.account ∧
        ∃ error s', restoreStaged env stage parent stagedName name s = .error error s')
      (restoreStaged env stage parent stagedName name)
      (fun _ _ => False) (fun _ => On (Staged v ⟨stage.id, ⟨parent.fd, stageName⟩⟩)) := by
    apply Triple.of_runs
    · intro s _ s' holds ran
      obtain ⟨_, _, _, failure⟩ := holds
      rw [ran] at failure
      cases failure
    · intro s error s' holds ran
      exact holds.1.renamed ((restoreStaged_contract env s.account).failed rfl ran)
  have kept : Triple (fun s => Staged v ⟨stage.id, ⟨parent.fd, stageName⟩⟩ s.account ∧
        ∃ error s', restoreStaged env stage parent stagedName name s = .error error s')
      (restoreStagedAndCleanup env stage parent lease stageName stagedName name) (fun _ _ => False)
      (fun _ => On fun w => ∃ stages quarantines,
        Complete v [.allocated stage.id, .registered stage.id] stages quarantines w) := by
    refine Triple.bind (Triple.rescue failed fun error => ?_) fun _ _ => False.elim
    refine Triple.of_account fun w staged => ?_
    refine Triple.bind (fromAt_silent env _ _).attempted fun childIdentity => ?_
    refine Triple.bind (retainStageAuthority_contract env parent stage stageName none _ w) fun _ => ?_
    refine Triple.throw fun s pushed => ?_
    obtain ⟨entry, owner, reached⟩ := pushed
    have idle : Disposal ⟨stage.id, ⟨parent.fd, stageName⟩⟩ w w [] [] [] :=
      Disposal.idle w.disposition (Nat.le_refl _)
    exact on_of_at (staged.stranded ⟨_, [], rfl, idle.pushStage owner⟩) reached
  refine Triple.bind (Triple.attempt (fun result s => match result with
    | .ok _ => False
    | .error _ => On (fun w => ∃ stages quarantines,
        Complete v [.allocated stage.id, .registered stage.id] stages quarantines w) s) kept) fun rollback => ?_
  cases rollback with
  | ok _ => exact fun _ => False.elim
  | error error =>
    refine Triple.of_account fun w complete => ?_
    obtain ⟨stages, quarantines, complete⟩ := complete
    obtain ⟨resources, accounted⟩ := complete.accounted (.inl complete.rolledBack_eq)
    refine Triple.bind (recordOperation_contract _ _ _ w) fun _ => Triple.throw fun s reached => ?_
    exact on_of_at ⟨stage.id, resources, stages, quarantines, accounted⟩ reached

end Mutations

end Darling.Boundary
