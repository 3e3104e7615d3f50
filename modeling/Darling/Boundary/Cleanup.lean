import Darling.Boundary.Custody

/-! How the cleanups change the custody account. A cleanup gives the resource it disposes of
to nobody, to the stage queue or to the quarantine queue, and touches nothing else. -/
namespace Darling.Boundary

variable {κ : Type}

theorem quarantineNameOf_inj {first second : Nat} :
    quarantineNameOf first = quarantineNameOf second ↔ first = second := by
  constructor
  · intro same
    have digits : Nat.toDigits 10 first = Nat.toDigits 10 second := by
      rw [← Nat.toList_repr, ← Nat.toList_repr]
      exact congrArg String.toList ((String.append_right_inj _).mp same)
    have values := congrArg (Nat.ofDigitChars 10 · 0) digits
    simpa only [Nat.ofDigitChars_ten_toDigits] using values
  · rintro rfl
    rfl

/-- Names whose fixed parts differ within their first characters are different. -/
theorem name_ne {first second : String} (width : Nat) (x y : String)
    (first_long : width ≤ first.toList.length) (second_long : width ≤ second.toList.length)
    (apart : first.toList.take width ≠ second.toList.take width) : first ++ x ≠ second ++ y := by
  intro same
  have characters := congrArg (fun name => name.toList.take width) same
  simp only [String.toList_append, List.take_append_of_le_length first_long,
    List.take_append_of_le_length second_long] at characters
  exact apart characters

theorem stageNameOf_ne_quarantineNameOf (stage id : Nat) : stageNameOf stage ≠ quarantineNameOf id :=
  name_ne 12 _ _ (by decide) (by decide) (by decide)

theorem stagedName_ne_quarantineNameOf (id : Nat) : stagedName ≠ quarantineNameOf id := by
  rw [← String.append_empty (s := stagedName)]
  exact name_ne 1 _ _ (by decide) (by decide) (by decide)

theorem stagedName_ne_stageNameOf (stage : Nat) : stagedName ≠ stageNameOf stage := by
  rw [← String.append_empty (s := stagedName)]
  exact name_ne 1 _ _ (by decide) (by decide) (by decide)

/-- Where the entry of this name came from: the source of the latest rename to it. -/
def origin (moves : List Move) (name : String) : Option Place :=
  (moves.reverse.find? (·.destination.name = name)).map (·.source)

theorem origin_append_of_other {moves extra : List Move} {name : String}
    (other : ∀ move ∈ extra, move.destination.name ≠ name) :
    origin (moves ++ extra) name = origin moves name := by
  have none_found : extra.reverse.find? (·.destination.name = name) = none := by
    simpa using other
  simp [origin, List.find?_append, none_found]

theorem origin_append_move (moves : List Move) (move : Move) :
    origin (moves ++ [move]) move.destination.name = some move.source := by
  simp [origin]

section Steps

variable (env : Env κ)

theorem mkdirAt_contract (parent : RawFd) (name : String) (mode : UInt32) (v : Account) :
    Triple (At v) (mkdirAt env parent name mode)
      (fun _ => At { v with made := v.made ++ [⟨parent, name⟩] }) (fun _ => At v) := by
  refine (perform_contract env (.mkdirat parent name mode) v).conclude ?_ (fun _ _ => id)
  intro _ s reached
  simpa [Syscall.effect, Effect.made?, Effect.moved?] using reached

theorem renameAt_contract (sourceParent : RawFd) (source : String) (destinationParent : RawFd)
    (destination : String) (v : Account) :
    Triple (At v) (renameAt env sourceParent source destinationParent destination)
      (fun _ => At { v with moves := v.moves ++
        [⟨⟨sourceParent, source⟩, ⟨destinationParent, destination⟩⟩] }) (fun _ => At v) := by
  refine (perform_contract env (.renameat2 sourceParent source destinationParent destination true) v).conclude
    ?_ (fun _ _ => id)
  intro _ s reached
  simpa [Syscall.effect, Effect.made?, Effect.moved?] using reached

theorem nextId_contract (v : Account) {fails : BoundaryError → Assertion (State κ)} :
    Triple (At v) nextId (fun id s => id = v.nextId + 1 ∧ At { v with nextId := v.nextId + 1 } s) fails := by
  rintro s rfl
  exact ⟨rfl, rfl⟩

theorem setRollbackDisposition_contract (disposition : RollbackDisposition) (v : Account)
    {fails : BoundaryError → Assertion (State κ)} :
    Triple (At v) (setRollbackDisposition disposition)
      (fun _ => At { v with disposition := disposition }) fails := by
  rintro s rfl
  rfl

theorem recordQuarantine_contract (object : Nat) (terminal : QuarantineTerminal)
    (identity : FileIdentity) (v : Account) {fails : BoundaryError → Assertion (State κ)} :
    Triple (At v) (recordQuarantine object terminal identity) (fun _ => At v) fails := by
  refine (record_contract _ v).conclude ?_ (fun _ _ => id)
  intro _ s reached
  simpa [JournalRecord.mark, JournalRecord.isRolledBack] using reached

theorem recordStageCleanup_contract (parent : DirCap) (lease : ExclusiveLease) (stage : Nat)
    (terminal : StageCleanupTerminal) (identity : Option FileIdentity) (v : Account)
    {fails : BoundaryError → Assertion (State κ)} :
    Triple (At v) (recordStageCleanup parent lease stage terminal identity)
      (fun _ => At { v with marks := v.marks ++
        [if terminal = .cleaned then .settled stage else .unsettled stage] }) fails := by
  refine (record_contract _ v).conclude ?_ (fun _ _ => id)
  intro _ s reached
  cases terminal <;> simpa [JournalRecord.mark, JournalRecord.isRolledBack, StageJournal.mark] using reached

theorem recordStage_contract (event : StageJournal) (v : Account)
    {fails : BoundaryError → Assertion (State κ)} :
    Triple (At v) (record (.stage event)) (fun _ => At { v with marks := v.marks ++ [event.mark] }) fails := by
  refine (record_contract _ v).conclude ?_ (fun _ _ => id)
  intro _ s reached
  simpa [JournalRecord.mark, JournalRecord.isRolledBack] using reached

theorem pushQuarantine_contract (obligation : QuarantineObligation) (v : Account)
    {fails : BoundaryError → Assertion (State κ)} :
    Triple (At v) (pushQuarantine obligation)
      (fun _ => At { v with pendingQuarantines := v.pendingQuarantines ++ [obligation] }) fails := by
  rintro s rfl
  rfl

theorem trackQuarantine_contract (object : QuarantinedObject) (v : Account)
    {fails : BoundaryError → Assertion (State κ)} :
    Triple (At v) (trackQuarantine object)
      (fun _ => At { v with pendingQuarantines := v.pendingQuarantines ++ [.bound object] }) fails :=
  Triple.bind (pushQuarantine_contract _ v) fun _ => recordQuarantine_contract _ _ _ _

theorem registerUnboundStage_contract (parent : DirCap) (stage : Nat) (child : Option Nat)
    (name : String) (expected childIdentity : Option FileIdentity) (v : Account)
    {fails : BoundaryError → Assertion (State κ)} :
    Triple (At v) (registerUnboundStage env parent stage child name expected childIdentity)
      (fun index s => index = v.pendingStages.length ∧ ∃ entry : StageObligation, entry.id = stage ∧
        At { v with pendingStages := v.pendingStages ++ [entry] } s) fails := by
  refine Triple.bind (duplicateFd_silent env _).attempted fun parentFd => ?_
  rintro s rfl
  refine ⟨?_, _, rfl, rfl⟩
  simp [State.account]

theorem retainStageAuthority_contract (parent stage : DirCap) (name : String) (child : Option Nat)
    (childIdentity : Option FileIdentity) (v : Account) {fails : BoundaryError → Assertion (State κ)} :
    Triple (At v) (retainStageAuthority env parent stage name child childIdentity)
      (fun _ s => ∃ entry : StageObligation, entry.id = stage.id ∧
        At { v with pendingStages := v.pendingStages ++ [entry] } s) fails := by
  refine Triple.bind (duplicateFd_silent env _).attempted fun parentFd => ?_
  refine Triple.bind (duplicateFd_silent env _).attempted fun stageFd => ?_
  split
  · rintro s rfl
    exact ⟨_, rfl, rfl⟩
  · refine Triple.bind (registerUnboundStage_contract env parent stage.id child name _ _ v) fun _ => ?_
    exact Triple.pure fun _ pushed => pushed.2

theorem resolveStageObligation_contract (index : Nat) (v : Account)
    {fails : BoundaryError → Assertion (State κ)} :
    Triple (At v) (resolveStageObligation index)
      (fun _ => At { v with pendingStages := swapRemove v.pendingStages index }) fails := by
  rintro s rfl
  rfl

/-- The object is back under its name, or the quarantine queue answers for it. -/
def Relinquished (v : Account) (quarantineName : String) (back : Move) (s : State κ) : Prop :=
  At { v with disposition := .restoredAfterMove, moves := v.moves ++ [back] } s ∨
  ∃ (entry : QuarantineObligation) (backs : List Move), entry.quarantineName = quarantineName ∧
    (backs = [] ∨ backs = [back]) ∧
    At { v with disposition := .quarantinedForRecovery
                pendingQuarantines := v.pendingQuarantines ++ [entry]
                moves := v.moves ++ backs } s

def backMove (parent : DirCap) (quarantineName name : String) : Move :=
  ⟨⟨parent.fd, quarantineName⟩, ⟨parent.fd, name⟩⟩

theorem restoreQuarantine_contract (parent : DirCap) (quarantineName name : String)
    (expected : FileIdentity) (v : Account) :
    Triple (At v) (restoreQuarantine env parent quarantineName name expected)
      (fun _ => At { v with moves := v.moves ++ [backMove parent quarantineName name] })
      (fun _ s => ∃ backs, (backs = [] ∨ backs = [backMove parent quarantineName name]) ∧
        At { v with moves := v.moves ++ backs } s) := by
  refine Triple.bind ((renameAt_contract env _ _ _ _ v).fallback ?_) fun _ => ?_
  · intro _ s unmoved
    exact ⟨[], .inl rfl, by simpa using unmoved⟩
  · refine Triple.bind ((fromAt_silent env _ _).step fun _ s moved => ⟨_, .inr rfl, moved⟩) fun _ => ?_
    refine (Triple.ensure ?_).conclude (fun _ _ reached => reached.2) (fun _ _ => id)
    intro _ s moved
    exact ⟨_, .inr rfl, moved⟩

theorem restoreOrTrackQuarantine_contract (parent : DirCap) (name : String) (restoreExpected : FileIdentity)
    (unbound : UnboundQuarantine) (bound : Option QuarantinedObject) (error : BoundaryError) (v : Account)
    (same : ∀ object ∈ bound, object.quarantineName = unbound.quarantineName)
    {fails : BoundaryError → Assertion (State κ)} :
    Triple (At v) (restoreOrTrackQuarantine env parent name restoreExpected unbound bound error)
      (fun _ => Relinquished v unbound.quarantineName (backMove parent unbound.quarantineName name))
      fails := by
  refine Triple.bind (Triple.attempt (fun result s => match result with
    | .ok _ => At { v with moves := v.moves ++ [backMove parent unbound.quarantineName name] } s
    | .error _ => ∃ backs, (backs = [] ∨ backs = [backMove parent unbound.quarantineName name]) ∧
        At { v with moves := v.moves ++ backs } s)
    (restoreQuarantine_contract env parent _ name restoreExpected v)) fun result => ?_
  cases result with
  | ok _ =>
    refine Triple.bind (setRollbackDisposition_contract _ _) fun _ => ?_
    refine Triple.bind (recordQuarantine_contract _ _ _ _) fun _ => Triple.pure fun s reached => ?_
    exact .inl reached
  | error _ =>
    refine Triple.choose fun backs => Triple.assume fun way => ?_
    refine Triple.bind (setRollbackDisposition_contract _ _) fun _ => ?_
    cases bound with
    | some object =>
      refine Triple.bind (trackQuarantine_contract object _) fun _ => Triple.pure fun s reached => ?_
      exact .inr ⟨.bound object, backs, same object rfl, way, reached⟩
    | none =>
      refine Triple.bind (pushQuarantine_contract (.unbound unbound) _) fun _ => ?_
      refine Triple.bind (recordQuarantine_contract _ _ _ _) fun _ => Triple.pure fun s reached => ?_
      exact .inr ⟨_, backs, rfl, way, reached⟩

theorem giveUpQuarantine_contract (parent : DirCap) (name : String) (unbound : UnboundQuarantine)
    (restoreExpected : FileIdentity) (bound : Option QuarantinedObject) (error : BoundaryError) (v : Account)
    (same : ∀ object ∈ bound, object.quarantineName = unbound.quarantineName)
    (post : α → Assertion (State κ)) :
    Triple (At v) (giveUpQuarantine env parent name unbound restoreExpected bound error) post
      (fun _ => Relinquished v unbound.quarantineName (backMove parent unbound.quarantineName name)) :=
  Triple.bind (restoreOrTrackQuarantine_contract env parent name _ unbound bound error v same)
    fun _ => Triple.throw fun _ => id

theorem bindQuarantined_contract (parent : DirCap) (lease : ExclusiveLease) (name : String)
    (unbound : UnboundQuarantine) (v : Account) :
    Triple (At v) (bindQuarantined env parent lease name unbound)
      (fun object s => object.quarantineName = unbound.quarantineName ∧
        At { v with disposition := .readyForQuarantine } s)
      (fun _ => Relinquished v unbound.quarantineName (backMove parent unbound.quarantineName name)) := by
  have unboundExit (α : Type) (post : α → Assertion (State κ)) (error : BoundaryError) :=
    giveUpQuarantine_contract env parent name unbound unbound.expected none error v (by simp) post
  refine Triple.bind (Triple.rescue ((openObjectPathAt_silent env _ _).at v) (unboundExit _ _)) fun fd => ?_
  refine Triple.bind (Triple.rescue ((duplicateFd_silent env _).at v) (unboundExit _ _)) fun parentFd => ?_
  extract_lets object
  have boundExit (α : Type) (post : α → Assertion (State κ)) (expected : FileIdentity) (error : BoundaryError) :=
    giveUpQuarantine_contract env parent name unbound expected (some object) error v
      (by simp [object]) post
  refine Triple.bind (Triple.rescue ((checkpoint_silent env _).at v) (boundExit _ _ _)) fun _ => ?_
  refine Triple.bind (Triple.rescue ((fromFd_silent env _).at v) (boundExit _ _ _)) fun moved => ?_
  apply Triple.ite
  · intro _
    exact boundExit _ _ moved _
  · intro _
    have kept (post : QuarantinedObject → Assertion (State κ)) (error : BoundaryError) : Triple (At v)
        (do
          setRollbackDisposition .quarantinedForRecovery
          trackQuarantine object
          throw error)
        post (fun _ => Relinquished v unbound.quarantineName (backMove parent unbound.quarantineName name)) := by
      refine Triple.bind (setRollbackDisposition_contract _ v) fun _ => ?_
      refine Triple.bind (trackQuarantine_contract object _) fun _ => Triple.throw fun s reached => ?_
      exact .inr ⟨.bound object, [], rfl, .inl rfl, by simpa using reached⟩
    refine Triple.bind (fromAt_silent env _ _).attempted fun found => ?_
    cases found with
    | ok _ => exact kept _ _
    | error error =>
      apply Triple.ite
      · intro _
        refine Triple.bind (setRollbackDisposition_contract _ v) fun _ => ?_
        exact Triple.pure fun s reached => ⟨rfl, reached⟩
      · intro _
        exact kept _ _

end Steps

/-- A directory the boundary made, under the id its journal gives it. -/
structure Resource where
  id : Nat
  place : Place
  deriving DecidableEq, Repr

/-- The name is a quarantine name given out between the two accounts, and the entry that has
it came from the place. -/
def Held (place : Place) (v w : Account) (name : String) : Prop :=
  origin w.moves name = some place ∧
    ∃ id, v.nextId < id ∧ id ≤ w.nextId ∧ name = quarantineNameOf id

/-- Disposing of the resource turns `v` into `w`: it adds the listed obligations, all of them
for this resource, and the listed marks. Renames only go to the resource's own name and to
fresh quarantine names. -/
structure Disposal (resource : Resource) (v w : Account) (stages : List StageObligation)
    (quarantines : List QuarantineObligation) (marks : List Mark) : Prop where
  stages_eq : w.pendingStages = v.pendingStages ++ stages
  quarantines_eq : w.pendingQuarantines = v.pendingQuarantines ++ quarantines
  marks_eq : w.marks = v.marks ++ marks
  made_eq : w.made = v.made
  rolledBack_eq : w.rolledBack = v.rolledBack
  nextId_le : v.nextId ≤ w.nextId
  moves_extend : ∃ extra, w.moves = v.moves ++ extra ∧ ∀ move ∈ extra,
    move.destination.name = resource.place.name ∨
      ∃ id, v.nextId < id ∧ id ≤ w.nextId ∧ move.destination.name = quarantineNameOf id
  owned : ∀ entry ∈ stages, entry.id = resource.id
  held : ∀ entry ∈ quarantines, Held resource.place v w entry.quarantineName

namespace Disposal

variable {resource : Resource} {v w : Account} {stages : List StageObligation}
  {quarantines : List QuarantineObligation} {marked : List Mark}

theorem idle (disposition : RollbackDisposition) {id : Nat} (later : v.nextId ≤ id) :
    Disposal resource v { v with disposition := disposition, nextId := id } [] [] [] where
  stages_eq := by simp
  quarantines_eq := by simp
  marks_eq := by simp
  made_eq := rfl
  rolledBack_eq := rfl
  nextId_le := later
  moves_extend := ⟨[], by simp, by simp⟩
  owned := by simp
  held := by simp

theorem pushStage (disposal : Disposal resource v w stages quarantines marked) {entry : StageObligation}
    (owned : entry.id = resource.id) :
    Disposal resource v { w with pendingStages := w.pendingStages ++ [entry] } (stages ++ [entry])
      quarantines marked :=
  { disposal with
    stages_eq := by simp [disposal.stages_eq]
    owned := by
      intro other member
      rcases List.mem_append.mp member with earlier | last
      · exact disposal.owned other earlier
      · simpa [List.mem_singleton.mp last] using owned }

theorem pushQuarantine (disposal : Disposal resource v w stages quarantines marked)
    {entry : QuarantineObligation} (held : Held resource.place v w entry.quarantineName) :
    Disposal resource v { w with pendingQuarantines := w.pendingQuarantines ++ [entry] } stages
      (quarantines ++ [entry]) marked :=
  { disposal with
    quarantines_eq := by simp [disposal.quarantines_eq]
    held := by
      intro other member
      rcases List.mem_append.mp member with earlier | last
      · exact disposal.held other earlier
      · rw [List.mem_singleton.mp last]
        exact held }

/-- A disposal that retains nothing does not depend on the stage queue. -/
theorem overStages {queue : List StageObligation}
    (disposal : Disposal resource { v with pendingStages := queue } w [] quarantines marked) :
    Disposal resource v { w with pendingStages := v.pendingStages } [] quarantines marked where
  stages_eq := by simp
  quarantines_eq := disposal.quarantines_eq
  marks_eq := disposal.marks_eq
  made_eq := disposal.made_eq
  rolledBack_eq := disposal.rolledBack_eq
  nextId_le := disposal.nextId_le
  moves_extend := disposal.moves_extend
  owned := by simp
  held := disposal.held

theorem addMark (disposal : Disposal resource v w stages quarantines marked) (mark : Mark) :
    Disposal resource v { w with marks := w.marks ++ [mark] } stages quarantines (marked ++ [mark]) :=
  { disposal with marks_eq := by simp [disposal.marks_eq] }

end Disposal

/-- The resource is off the boundary's hands. -/
def Released (resource : Resource) (v : Account) (marked : List Mark) (w : Account) : Prop :=
  Disposal resource v w [] [] marked

/-- Exactly one entry of exactly one queue answers for the resource. -/
def Entrusted (resource : Resource) (v : Account) (marked : List Mark) (w : Account) : Prop :=
  ∃ stages quarantines, stages.length + quarantines.length = 1 ∧
    Disposal resource v w stages quarantines marked

/-- How a cleanup that ended with the result leaves the resource, with the marks it made. -/
def Ended (resource : Resource) (v : Account) (settled unsettled : List Mark) (result : Except ε α)
    (w : Account) : Prop :=
  match result with
  | .ok _ => Released resource v settled w
  | .error _ => Entrusted resource v unsettled w

/-- A failed rollback: the caller still has to retain the stage, or the quarantine has it. -/
def RolledPartway (resource : Resource) (v w : Account) : Prop :=
  if w.disposition.retainsStageAuthority then Released resource v [] w else Entrusted resource v [] w

section Rollback

variable (env : Env κ)

theorem moveAside_disposal (parent : DirCap) (name : String) (stage : Nat) (v : Account)
    {backs : List Move} (way : backs = [] ∨ backs = [backMove parent (quarantineNameOf (v.nextId + 1)) name])
    (disposition : RollbackDisposition) :
    Disposal ⟨stage, ⟨parent.fd, name⟩⟩ v
      { v with disposition := disposition, nextId := v.nextId + 2
               moves := v.moves ++ [⟨⟨parent.fd, name⟩, ⟨parent.fd, quarantineNameOf (v.nextId + 1)⟩⟩] ++ backs }
      [] [] [] where
  stages_eq := by simp
  quarantines_eq := by simp
  marks_eq := by simp
  made_eq := rfl
  rolledBack_eq := rfl
  nextId_le := by simp
  moves_extend := by
    refine ⟨_, List.append_assoc _ _ _, ?_⟩
    intro move member
    rcases List.mem_append.mp member with first | back
    · rw [List.mem_singleton] at first
      subst first
      exact .inr ⟨v.nextId + 1, by omega, Nat.le_succ _, rfl⟩
    · rcases way with rfl | rfl
      · simp at back
      · rw [List.mem_singleton] at back
        subst back
        exact .inl rfl
  owned := by simp
  held := by simp

theorem moveAside_held (parent : DirCap) {name : String} (named : ∀ id, name ≠ quarantineNameOf id)
    (v : Account) {backs : List Move}
    (way : backs = [] ∨ backs = [backMove parent (quarantineNameOf (v.nextId + 1)) name])
    (disposition : RollbackDisposition) :
    Held ⟨parent.fd, name⟩ v
      { v with disposition := disposition, nextId := v.nextId + 2
               moves := v.moves ++ [⟨⟨parent.fd, name⟩, ⟨parent.fd, quarantineNameOf (v.nextId + 1)⟩⟩] ++ backs }
      (quarantineNameOf (v.nextId + 1)) := by
  refine ⟨?_, v.nextId + 1, by omega, by simp, rfl⟩
  have other : ∀ move ∈ backs, move.destination.name ≠ quarantineNameOf (v.nextId + 1) := by
    rcases way with rfl | rfl
    · simp
    · simpa [backMove] using named (v.nextId + 1)
  simp only
  rw [origin_append_of_other other]
  exact origin_append_move v.moves ⟨⟨parent.fd, name⟩, ⟨parent.fd, quarantineNameOf (v.nextId + 1)⟩⟩

theorem rollbackNamed_contract (parent : DirCap) (lease : ExclusiveLease) (name : String)
    (expected : FileIdentity) (directory : Bool) (stage : Nat)
    (named : ∀ id, name ≠ quarantineNameOf id) (v : Account) (earlier : RollbackDisposition) :
    Triple (At { v with disposition := earlier }) (rollbackNamed env parent lease name expected directory)
      (fun object s => Held ⟨parent.fd, name⟩ v s.account object.quarantineName ∧
        Released ⟨stage, ⟨parent.fd, name⟩⟩ v [] s.account)
      (fun _ => On (RolledPartway ⟨stage, ⟨parent.fd, name⟩⟩ v)) := by
  have unmoved (error : BoundaryError) (later : Nat) (upward : v.nextId ≤ later) (s : State κ)
      (reached : s.account = { v with disposition := .preQuarantineFailure, nextId := later }) :
      RolledPartway ⟨stage, ⟨parent.fd, name⟩⟩ v s.account := by
    simp only [RolledPartway, reached, RollbackDisposition.retainsStageAuthority, ↓reduceIte]
    exact Disposal.idle _ upward
  refine Triple.bind (setRollbackDisposition_contract _ _) fun _ => ?_
  refine Triple.bind ((requireScope_silent _ _).step (unmoved · v.nextId (Nat.le_refl _))) fun _ => ?_
  refine Triple.bind ((revalidateDirectory_silent env _ _).step (unmoved · v.nextId (Nat.le_refl _))) fun _ => ?_
  refine Triple.bind ((revalidateLock_silent env _).step (unmoved · v.nextId (Nat.le_refl _))) fun _ => ?_
  refine Triple.bind (nextId_contract _) fun fresh => Triple.assume fun fresh_eq => ?_
  subst fresh_eq
  refine Triple.bind ((renameAt_contract env _ _ _ _ _).fallback ?_) fun _ => ?_
  · exact fun error s => unmoved error (v.nextId + 1) (by omega) s
  refine Triple.bind (duplicateFd_silent env _).attempted fun parentFd => ?_
  refine Triple.bind (nextId_contract _) fun objectId => Triple.assume fun _ => ?_
  refine (bindQuarantined_contract env parent lease name _ _).conclude ?_ ?_
  · intro object s bound
    obtain ⟨same, reached⟩ := bound
    have held := moveAside_held parent named v (.inl rfl) .readyForQuarantine
    have disposal := moveAside_disposal parent name stage v (.inl rfl) .readyForQuarantine
    rw [List.append_nil] at held disposal
    rw [reached, same]
    exact ⟨held, disposal⟩
  · intro _ s relinquished
    rcases relinquished with reached | ⟨entry, backs, same, way, reached⟩
    · simp only [RolledPartway, reached, RollbackDisposition.retainsStageAuthority, ↓reduceIte]
      exact moveAside_disposal parent name stage v (.inr rfl) .restoredAfterMove
    · simp only [RolledPartway, reached, RollbackDisposition.retainsStageAuthority,
        Bool.false_eq_true, ↓reduceIte]
      refine ⟨[], [entry], rfl, ?_⟩
      apply (moveAside_disposal parent name stage v way .quarantinedForRecovery).pushQuarantine
      rw [same]
      exact moveAside_held parent named v way .quarantinedForRecovery

theorem rollbackCreated_contract (parent : DirCap) (lease : ExclusiveLease) (name : String) (cap : DirCap)
    (directory : Bool) (stage : Nat) (named : ∀ id, name ≠ quarantineNameOf id) (v : Account) :
    Triple (At v) (rollbackCreated env parent lease name cap directory)
      (fun object s => Held ⟨parent.fd, name⟩ v s.account object.quarantineName ∧
        Released ⟨stage, ⟨parent.fd, name⟩⟩ v [] s.account)
      (fun _ => On (RolledPartway ⟨stage, ⟨parent.fd, name⟩⟩ v)) := by
  have unmoved (error : BoundaryError) (s : State κ)
      (reached : s.account = { v with disposition := .preQuarantineFailure }) :
      RolledPartway ⟨stage, ⟨parent.fd, name⟩⟩ v s.account := by
    simp only [RolledPartway, reached, RollbackDisposition.retainsStageAuthority, ↓reduceIte]
    exact Disposal.idle _ (Nat.le_refl _)
  refine Triple.bind (setRollbackDisposition_contract _ v) fun _ => ?_
  refine Triple.bind ((requireScope_silent _ _).step unmoved) fun _ => ?_
  refine Triple.bind ((requireScope_silent _ _).step unmoved) fun _ => ?_
  exact rollbackNamed_contract env parent lease name cap.identity directory stage named v _

theorem finishQuarantine_contract (parent : DirCap) (lease : ExclusiveLease) (object : QuarantinedObject)
    (v : Account) :
    Triple (At v) (finishQuarantine env parent lease object) (fun _ => At v)
      (fun _ => At { v with pendingQuarantines := v.pendingQuarantines ++ [.bound object] }) := by
  refine Triple.read_bind_any fun now => ?_
  cases now.quiescentScope with
  | none => exact Triple.bind (trackQuarantine_contract object v) fun _ => Triple.throw fun _ => id
  | some scope =>
    refine Triple.bind (Triple.update_keeps fun _ => id) fun _ => ?_
    refine Triple.bind (gcQuarantine_silent env parent lease scope object).attempted fun result => ?_
    refine Triple.bind (Triple.update_keeps ?_) fun _ => ?_
    · intro s reached
      split <;> exact reached
    · cases result with
      | ok _ => exact recordQuarantine_contract _ _ _ v
      | error error => exact Triple.bind (trackQuarantine_contract object v) fun _ => Triple.throw fun _ => id

theorem retainUnlessQuarantined_contract {retain : BoundaryM κ Unit} {resource : Resource} {v : Account}
    (retained : ∀ w, Triple (At w) retain
      (fun _ s => ∃ entry : StageObligation, entry.id = resource.id ∧
        At { w with pendingStages := w.pendingStages ++ [entry] } s) (fun _ _ => False))
    (error : BoundaryError) (post : α → Assertion (State κ)) :
    Triple (On (RolledPartway resource v)) (retainUnlessQuarantined retain error) post
      (fun _ => On (Entrusted resource v [])) := by
  refine Triple.read_bind fun now => ?_
  have kept : Triple (fun s => now = s ∧ RolledPartway resource v s.account)
      (onlyIf now.rollbackDisposition.retainsStageAuthority retain)
      (fun _ => On (Entrusted resource v [])) (fun _ => On (Entrusted resource v [])) := by
    apply Triple.ite
    · intro keeps
      refine Triple.strengthen ?_ fun s holds => show On (Released resource v []) s from ?_
      · refine Triple.of_account fun w released => ?_
        refine (retained w).conclude ?_ fun _ _ => False.elim
        intro _ s pushed
        obtain ⟨entry, owner, reached⟩ := pushed
        refine ⟨[entry], [], rfl, ?_⟩
        rw [reached]
        exact Disposal.pushStage released owner
      · obtain ⟨rfl, partway⟩ := holds
        simpa only [On, RolledPartway, account_disposition, keeps, ↓reduceIte] using partway
    · intro quarantined
      refine Triple.pure fun s holds => ?_
      obtain ⟨rfl, partway⟩ := holds
      simpa only [On, RolledPartway, account_disposition, quarantined, ↓reduceIte] using partway
  exact Triple.bind kept fun _ => Triple.throw fun _ => id

/-- The common body of the cleanups: roll back, retain what the rollback left, and collect. -/
theorem dispose_contract (parent : DirCap) (lease : ExclusiveLease) (resource : Resource)
    {rollback : BoundaryM κ QuarantinedObject} {retain : BoundaryM κ Unit} {v w : Account}
    (rolled : Triple (At w) rollback
      (fun object s => Held resource.place v s.account object.quarantineName ∧ Released resource v [] s.account)
      (fun _ => On (RolledPartway resource v)))
    (retained : ∀ w, Triple (At w) retain
      (fun _ s => ∃ entry : StageObligation, entry.id = resource.id ∧
        At { w with pendingStages := w.pendingStages ++ [entry] } s) (fun _ _ => False)) :
    Triple (At w)
      (do
        let object ← rescue rollback (retainUnlessQuarantined retain)
        finishQuarantine env parent lease object)
      (fun _ => On (Released resource v [])) (fun _ => On (Entrusted resource v [])) := by
  have recovered := Triple.rescue rolled fun error => retainUnlessQuarantined_contract retained error _
  refine Triple.bind recovered fun object => ?_
  refine Triple.strengthen ?_ fun s holds =>
    show On (fun w => Held resource.place v w object.quarantineName ∧ Released resource v [] w) s from holds
  refine Triple.of_account fun w facts => ?_
  obtain ⟨held, released⟩ := facts
  refine (finishQuarantine_contract env parent lease object w).conclude ?_ ?_
  · intro _ s reached
    exact on_of_at released reached
  · intro _ s reached
    refine ⟨[], [.bound object], rfl, ?_⟩
    rw [reached]
    exact Disposal.pushQuarantine released held

theorem recordTerminal_contract (parent : DirCap) (lease : ExclusiveLease) (resource : Resource)
    (identity : Option FileIdentity) (v : Account) (result : Except BoundaryError Unit)
    {fails : BoundaryError → Assertion (State κ)} :
    Triple (On (Ended resource v [] [] result))
      (recordStageCleanup parent lease resource.id (terminalOf result) identity)
      (fun _ => On (Ended resource v [.settled resource.id] [.unsettled resource.id] result)) fails := by
  cases result with
  | ok _ =>
    refine Triple.of_account fun w released => ?_
    refine (recordStageCleanup_contract parent lease resource.id _ identity w).conclude ?_ fun _ _ => id
    intro _ s reached
    exact on_of_at (Disposal.addMark released _) reached
  | error _ =>
    refine Triple.of_account fun w entrusted => ?_
    refine (recordStageCleanup_contract parent lease resource.id _ identity w).conclude ?_ fun _ _ => id
    intro _ s reached
    obtain ⟨stages, quarantines, one, disposal⟩ := entrusted
    refine ⟨stages, quarantines, one, ?_⟩
    rw [reached]
    exact disposal.addMark _

theorem closing_contract (parent : DirCap) (lease : ExclusiveLease) (resource : Resource)
    {body : BoundaryM κ Unit} (identity : Option FileIdentity) {v : Account}
    (disposed : Triple (At v) body (fun _ => On (Released resource v [])) (fun _ => On (Entrusted resource v []))) :
    Triple (At v)
      (do
        let result ← attempt body
        recordStageCleanup parent lease resource.id (terminalOf result) identity
        ofExcept result)
      (fun _ => On (Released resource v [.settled resource.id]))
      (fun _ => On (Entrusted resource v [.unsettled resource.id])) := by
  refine Triple.bind (Triple.attempt (fun result => On (Ended resource v [] [] result)) disposed) fun result => ?_
  refine Triple.bind (recordTerminal_contract parent lease resource identity v result) fun _ => ?_
  cases result with
  | ok _ => exact Triple.pure fun _ => id
  | error _ => exact Triple.throw fun _ => id

theorem cleanupRegistered_contract (parent : DirCap) (lease : ExclusiveLease) (name : String) (cap : DirCap)
    (directory : Bool) (named : ∀ id, name ≠ quarantineNameOf id) (v : Account) :
    Triple (At v) (cleanupRegistered env parent lease name cap directory)
      (fun _ => On (Released ⟨cap.id, ⟨parent.fd, name⟩⟩ v [.settled cap.id]))
      (fun _ => On (Entrusted ⟨cap.id, ⟨parent.fd, name⟩⟩ v [.unsettled cap.id])) := by
  apply closing_contract parent lease ⟨cap.id, ⟨parent.fd, name⟩⟩
  apply dispose_contract env parent lease ⟨cap.id, ⟨parent.fd, name⟩⟩
    (rollbackCreated_contract env parent lease name cap directory cap.id named v)
  intro w
  exact retainStageAuthority_contract env parent cap name none none w

theorem cleanupRegisteredIdentity_contract (parent : DirCap) (lease : ExclusiveLease) (name : String)
    (expected : FileIdentity) (id : Nat) (named : ∀ other, name ≠ quarantineNameOf other) (v : Account) :
    Triple (At v) (cleanupRegisteredIdentity env parent lease name expected id)
      (fun _ => On (Released ⟨id, ⟨parent.fd, name⟩⟩ v [.settled id]))
      (fun _ => On (Entrusted ⟨id, ⟨parent.fd, name⟩⟩ v [.unsettled id])) := by
  have registered (w : Account) : Triple (At w)
      (do
        let _ ← registerUnboundStage env parent id none name (some expected) (some expected)
        pure ())
      (fun _ s => ∃ entry : StageObligation, entry.id = id ∧
        At { w with pendingStages := w.pendingStages ++ [entry] } s) (fun _ _ => False) := by
    refine Triple.bind (registerUnboundStage_contract env parent id none name _ _ w) fun _ => ?_
    exact Triple.pure fun _ pushed => pushed.2
  apply closing_contract parent lease ⟨id, ⟨parent.fd, name⟩⟩
  refine Triple.bind (Triple.rescue ((requireScope_silent _ _).at v) fun error => ?_) fun _ => ?_
  · refine Triple.bind (setRollbackDisposition_contract _ v) fun _ => ?_
    refine Triple.bind ((registered _).fallback fun _ _ => False.elim) fun _ => Triple.throw ?_
    intro s pushed
    obtain ⟨entry, owner, reached⟩ := pushed
    refine ⟨[entry], [], rfl, ?_⟩
    rw [reached]
    exact (Disposal.idle _ (Nat.le_refl _)).pushStage owner
  · exact dispose_contract env parent lease ⟨id, ⟨parent.fd, name⟩⟩
      (rollbackNamed_contract env parent lease name expected true id named v v.disposition) registered

theorem rollbackNamedAndFinishUnboundStage_contract (parent : DirCap) (lease : ExclusiveLease) (name : String)
    (stage : Nat) (expected : FileIdentity) (named : ∀ id, name ≠ quarantineNameOf id) (v : Account) :
    Triple (At v) (rollbackNamedAndFinishUnboundStage env parent lease name stage expected)
      (fun _ => On (Released ⟨stage, ⟨parent.fd, name⟩⟩ v []))
      (fun _ => On (Entrusted ⟨stage, ⟨parent.fd, name⟩⟩ v [])) := by
  apply dispose_contract env parent lease ⟨stage, ⟨parent.fd, name⟩⟩
    (rollbackNamed_contract env parent lease name expected true stage named v v.disposition)
  intro w
  refine Triple.bind (registerUnboundStage_contract env parent stage _ name _ _ w) fun _ => ?_
  exact Triple.pure fun _ pushed => pushed.2

/-- Whatever the cleanup does, the stage ends with one terminal and with one owner or none. -/
theorem abandonUnboundStage_contract (parent : DirCap) (lease : ExclusiveLease) (name : String)
    (stage : Nat) (identity : FileIdentity) (error : BoundaryError)
    (named : ∀ id, name ≠ quarantineNameOf id) (v : Account) (post : α → Assertion (State κ)) :
    Triple (At v) (abandonUnboundStage env parent lease name stage identity error) post
      (fun _ => On fun w => Released ⟨stage, ⟨parent.fd, name⟩⟩ v [.settled stage] w ∨
        Entrusted ⟨stage, ⟨parent.fd, name⟩⟩ v [.unsettled stage] w) := by
  have disposed := rollbackNamedAndFinishUnboundStage_contract env parent lease name stage identity named v
  refine Triple.bind (Triple.attempt (fun result => On (Ended ⟨stage, ⟨parent.fd, name⟩⟩ v [] [] result)) disposed)
    fun result => ?_
  refine Triple.bind (recordTerminal_contract parent lease ⟨stage, ⟨parent.fd, name⟩⟩ _ v result) fun _ => ?_
  refine Triple.throw fun s ended => ?_
  cases result with
  | ok _ => exact .inl ended
  | error _ => exact .inr ended

end Rollback

end Darling.Boundary
