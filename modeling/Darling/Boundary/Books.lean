import Mathlib.Data.List.Nodup
import Darling.Boundary.Cleanup

/-! The books of one call: which resources it made, how many entries of the two queues answer
for each and what the journal says of them. Every step of a call is a step of its books. -/
namespace Darling.Boundary

variable {κ : Type}

/-- The new entries of the two queues that answer for the resource. -/
def owners (moves : List Move) (stages : List StageObligation) (quarantines : List QuarantineObligation)
    (resource : Resource) : Nat :=
  stages.countP (·.id = resource.id) +
    quarantines.countP (origin moves ·.quarantineName = some resource.place)

/-- From `v` to `w` the call made the resources, in this order, and left the given number of
entries for each of them and no other entries. -/
structure Books (v w : Account) (resources : List Resource) (owed : Resource → Nat) (marked : List Mark)
    (stages : List StageObligation) (quarantines : List QuarantineObligation) : Prop where
  stages_eq : w.pendingStages = v.pendingStages ++ stages
  quarantines_eq : w.pendingQuarantines = v.pendingQuarantines ++ quarantines
  made_eq : w.made = v.made ++ resources.map (·.place)
  marks_eq : w.marks = v.marks ++ marked
  rolledBack_eq : w.rolledBack = v.rolledBack
  owners_eq : ∀ resource ∈ resources, owners w.moves stages quarantines resource = owed resource
  stages_known : ∀ entry ∈ stages, ∃ resource ∈ resources, entry.id = resource.id
  quarantines_known : ∀ entry ∈ quarantines,
    ∃ resource ∈ resources, origin w.moves entry.quarantineName = some resource.place
  quarantines_named : ∀ entry ∈ quarantines,
    ∃ id, id ≤ w.nextId ∧ entry.quarantineName = quarantineNameOf id
  ids_le : ∀ resource ∈ resources, resource.id ≤ w.nextId
  ids_nodup : (resources.map (·.id)).Nodup
  places_nodup : (resources.map (·.place)).Nodup
  named : ∀ resource ∈ resources, ∀ id, resource.place.name ≠ quarantineNameOf id

namespace Books

variable {v w x : Account} {resources : List Resource} {owed : Resource → Nat} {marked : List Mark}
  {stages : List StageObligation} {quarantines : List QuarantineObligation}

theorem start (v : Account) : Books v v [] (fun _ => 0) [] [] [] where
  stages_eq := by simp
  quarantines_eq := by simp
  made_eq := by simp
  marks_eq := by simp
  rolledBack_eq := rfl
  owners_eq := by simp
  stages_known := by simp
  quarantines_known := by simp
  quarantines_named := by simp
  ids_le := by simp
  ids_nodup := by simp
  places_nodup := by simp
  named := by simp

theorem mark (books : Books v w resources owed marked stages quarantines) (added : Mark) :
    Books v { w with marks := w.marks ++ [added] } resources owed (marked ++ [added]) stages quarantines :=
  { books with marks_eq := by simp [books.marks_eq] }

theorem takeId (books : Books v w resources owed marked stages quarantines) :
    Books v { w with nextId := w.nextId + 1 } resources owed marked stages quarantines :=
  { books with
    quarantines_named := fun entry member =>
      have ⟨id, bound, name⟩ := books.quarantines_named entry member
      ⟨id, Nat.le_succ_of_le bound, name⟩
    ids_le := fun resource member => Nat.le_succ_of_le (books.ids_le resource member) }

/-- While nothing is in quarantine the call may rename freely. -/
theorem move (books : Books v w resources owed marked stages []) (moves : List Move) :
    Books v { w with moves := moves } resources owed marked stages [] :=
  { books with
    owners_eq := fun resource member => by simpa [owners] using books.owners_eq resource member
    quarantines_known := by simp }

/-- Making a directory under an id that was never given out. -/
theorem make (books : Books v w resources owed marked [] []) (made : Resource)
    (unowed : owed made = 0) (fresh : ∀ resource ∈ resources, resource.id ≠ made.id)
    (elsewhere : ∀ resource ∈ resources, resource.place ≠ made.place) (bound : made.id ≤ w.nextId)
    (named : ∀ id, made.place.name ≠ quarantineNameOf id) :
    Books v { w with made := w.made ++ [made.place] } (resources ++ [made]) owed marked [] [] where
  stages_eq := books.stages_eq
  quarantines_eq := books.quarantines_eq
  made_eq := by simp [books.made_eq]
  marks_eq := books.marks_eq
  rolledBack_eq := books.rolledBack_eq
  owners_eq := by
    intro resource member
    rcases List.mem_append.mp member with earlier | last
    · exact books.owners_eq resource earlier
    · simp [owners, List.mem_singleton.mp last, unowed]
  stages_known := by simp
  quarantines_known := by simp
  quarantines_named := by simp
  ids_le := by
    intro resource member
    rcases List.mem_append.mp member with earlier | last
    · exact books.ids_le resource earlier
    · simpa [List.mem_singleton.mp last] using bound
  ids_nodup := by
    simp only [List.map_append, List.map_cons, List.map_nil]
    refine List.nodup_append.mpr ⟨books.ids_nodup, by simp, ?_⟩
    simpa using fresh
  places_nodup := by
    simp only [List.map_append, List.map_cons, List.map_nil]
    refine List.nodup_append.mpr ⟨books.places_nodup, by simp, ?_⟩
    simpa using elsewhere
  named := by
    intro resource member
    rcases List.mem_append.mp member with earlier | last
    · exact books.named resource earlier
    · simpa [List.mem_singleton.mp last] using named

theorem eq_of_id (books : Books v w resources owed marked stages quarantines) {first second : Resource}
    (first_mem : first ∈ resources) (second_mem : second ∈ resources) (same : first.id = second.id) :
    first = second :=
  List.inj_on_of_nodup_map books.ids_nodup first_mem second_mem same

theorem eq_of_place (books : Books v w resources owed marked stages quarantines) {first second : Resource}
    (first_mem : first ∈ resources) (second_mem : second ∈ resources) (same : first.place = second.place) :
    first = second :=
  List.inj_on_of_nodup_map books.places_nodup first_mem second_mem same

/-- The renames of a disposal do not reach the entries already in quarantine. -/
theorem origin_kept (books : Books v w resources owed marked stages quarantines) {resource : Resource}
    (member : resource ∈ resources) {newStages : List StageObligation}
    {newQuarantines : List QuarantineObligation} {newMarks : List Mark}
    (disposal : Disposal resource w x newStages newQuarantines newMarks) {entry : QuarantineObligation}
    (queued : entry ∈ quarantines) :
    origin x.moves entry.quarantineName = origin w.moves entry.quarantineName := by
  obtain ⟨extra, moves_eq, targets⟩ := disposal.moves_extend
  obtain ⟨id, bound, name⟩ := books.quarantines_named entry queued
  rw [moves_eq]
  apply origin_append_of_other
  intro move moved same
  rcases targets move moved with own | ⟨later, above, _, target⟩
  · exact books.named resource member id (by rw [← own, same, name])
  · have names : quarantineNameOf later = quarantineNameOf id := by rw [← target, same, name]
    have clash := quarantineNameOf_inj.mp names
    omega

theorem owners_dispose (books : Books v w resources owed marked stages quarantines) {resource other : Resource}
    (member : resource ∈ resources) (other_mem : other ∈ resources)
    {newStages : List StageObligation} {newQuarantines : List QuarantineObligation} {newMarks : List Mark}
    (disposal : Disposal resource w x newStages newQuarantines newMarks) :
    owners x.moves (stages ++ newStages) (quarantines ++ newQuarantines) other =
      owed other + if other = resource then newStages.length + newQuarantines.length else 0 := by
  have kept : quarantines.countP (origin x.moves ·.quarantineName = some other.place) =
      quarantines.countP (origin w.moves ·.quarantineName = some other.place) := by
    apply List.countP_congr
    intro entry queued
    rw [books.origin_kept member disposal queued]
  have counted := books.owners_eq other other_mem
  unfold owners at counted ⊢
  rw [List.countP_append, List.countP_append, kept]
  by_cases same : other = resource
  · subst same
    have all_stages : newStages.countP (·.id = other.id) = newStages.length :=
      List.countP_eq_length.mpr fun entry pushed => by simpa using disposal.owned entry pushed
    have all_quarantines :
        newQuarantines.countP (origin x.moves ·.quarantineName = some other.place) = newQuarantines.length :=
      List.countP_eq_length.mpr fun entry pushed => by simpa using (disposal.held entry pushed).1
    simp only [all_stages, all_quarantines, ↓reduceIte]
    omega
  · have no_stages : newStages.countP (·.id = other.id) = 0 := by
      refine List.countP_eq_zero.mpr fun entry pushed equal => same ?_
      exact books.eq_of_id other_mem member ((of_decide_eq_true equal).symm.trans (disposal.owned entry pushed))
    have no_quarantines :
        newQuarantines.countP (origin x.moves ·.quarantineName = some other.place) = 0 := by
      refine List.countP_eq_zero.mpr fun entry pushed equal => same ?_
      have places := (of_decide_eq_true equal).symm.trans (disposal.held entry pushed).1
      exact books.eq_of_place other_mem member (Option.some.inj places)
    simp only [no_stages, no_quarantines, if_neg same]
    omega

theorem dispose (books : Books v w resources owed marked stages quarantines) {resource : Resource}
    (member : resource ∈ resources) {newStages : List StageObligation}
    {newQuarantines : List QuarantineObligation} {newMarks : List Mark}
    (disposal : Disposal resource w x newStages newQuarantines newMarks) :
    Books v x resources
      (fun other => owed other + if other = resource then newStages.length + newQuarantines.length else 0)
      (marked ++ newMarks) (stages ++ newStages) (quarantines ++ newQuarantines) where
  stages_eq := by rw [disposal.stages_eq, books.stages_eq, List.append_assoc]
  quarantines_eq := by rw [disposal.quarantines_eq, books.quarantines_eq, List.append_assoc]
  made_eq := by rw [disposal.made_eq, books.made_eq]
  marks_eq := by rw [disposal.marks_eq, books.marks_eq, List.append_assoc]
  rolledBack_eq := disposal.rolledBack_eq.trans books.rolledBack_eq
  owners_eq := fun other other_mem => books.owners_dispose member other_mem disposal
  stages_known := by
    intro entry queued
    rcases List.mem_append.mp queued with earlier | pushed
    · exact books.stages_known entry earlier
    · exact ⟨resource, member, disposal.owned entry pushed⟩
  quarantines_known := by
    intro entry queued
    rcases List.mem_append.mp queued with earlier | pushed
    · rw [books.origin_kept member disposal earlier]
      exact books.quarantines_known entry earlier
    · exact ⟨resource, member, (disposal.held entry pushed).1⟩
  quarantines_named := by
    intro entry queued
    rcases List.mem_append.mp queued with earlier | pushed
    · obtain ⟨id, bound, name⟩ := books.quarantines_named entry earlier
      exact ⟨id, Nat.le_trans bound disposal.nextId_le, name⟩
    · obtain ⟨_, id, _, bound, name⟩ := disposal.held entry pushed
      exact ⟨id, bound, name⟩
  ids_le := fun other other_mem => Nat.le_trans (books.ids_le other other_mem) disposal.nextId_le
  ids_nodup := books.ids_nodup
  places_nodup := books.places_nodup
  named := books.named

theorem retain (books : Books v w resources owed marked stages quarantines) {resource : Resource}
    (member : resource ∈ resources) {entry : StageObligation} (owner : entry.id = resource.id) :
    Books v { w with pendingStages := w.pendingStages ++ [entry] } resources
      (fun other => owed other + if other = resource then 1 else 0) marked (stages ++ [entry])
      quarantines := by
  have idle : Disposal resource w w [] [] [] := Disposal.idle w.disposition (Nat.le_refl _)
  simpa using books.dispose member (idle.pushStage owner)

theorem untouched (books : Books v w resources owed marked stages quarantines)
    (unowed : ∀ resource ∈ resources, owed resource = 0) : stages = [] ∧ quarantines = [] := by
  constructor
  · apply List.eq_nil_iff_forall_not_mem.mpr
    intro entry queued
    obtain ⟨resource, member, owner⟩ := books.stages_known entry queued
    have counted := (books.owners_eq resource member).trans (unowed resource member)
    have positive : 0 < stages.countP (·.id = resource.id) :=
      List.countP_pos_iff.mpr ⟨entry, queued, by simpa using owner⟩
    unfold owners at counted
    omega
  · apply List.eq_nil_iff_forall_not_mem.mpr
    intro entry queued
    obtain ⟨resource, member, source⟩ := books.quarantines_known entry queued
    have counted := (books.owners_eq resource member).trans (unowed resource member)
    have positive : 0 < quarantines.countP (origin w.moves ·.quarantineName = some resource.place) :=
      List.countP_pos_iff.mpr ⟨entry, queued, by simpa using source⟩
    unfold owners at counted
    omega

end Books

def Mark.allocation : Mark → Option Nat
  | allocated stage => some stage
  | _ => none

def allocations (marked : List Mark) : List Nat := marked.filterMap Mark.allocation

def Mark.closes (stage : Nat) : Mark → Bool
  | settled other | unsettled other => other = stage
  | _ => false

/-- After each allocation comes exactly one terminal of its stage. -/
def EachCloses : List Mark → Prop
  | [] => True
  | .allocated stage :: rest => rest.countP (·.closes stage) = 1 ∧ EachCloses rest
  | _ :: rest => EachCloses rest

/-- Exactly one terminal follows each allocation, and there is no other terminal. -/
def Terminated (marked : List Mark) : Prop :=
  EachCloses marked ∧ ∀ mark ∈ marked, ∀ stage, mark.closes stage → stage ∈ allocations marked

/-- Every resource of the call is settled, or exactly one entry answers for it. -/
def Complete (v : Account) (marked : List Mark) (stages : List StageObligation)
    (quarantines : List QuarantineObligation) (w : Account) : Prop :=
  ∃ resources owed, Books v w resources owed marked stages quarantines ∧
    resources.map (·.id) = allocations marked ∧
    ∀ resource ∈ resources, owed resource = if .settled resource.id ∈ marked then 0 else 1

/-- What is left of a call. The resources are the directories it made, under the ids its
journal allocates; the entries are what it added to the two queues. -/
structure Accounted (v w : Account) (marked : List Mark) (resources : List Resource)
    (stages : List StageObligation) (quarantines : List QuarantineObligation) : Prop where
  stages_eq : w.pendingStages = v.pendingStages ++ stages
  quarantines_eq : w.pendingQuarantines = v.pendingQuarantines ++ quarantines
  marks_eq : w.marks = v.marks ++ marked
  made_eq : w.made = v.made ++ resources.map (·.place)
  allocated : resources.map (·.id) = allocations marked
  distinct : (resources.map (·.id)).Nodup ∧ (resources.map (·.place)).Nodup
  one_owner : ∀ resource ∈ resources,
    owners w.moves stages quarantines resource = if .settled resource.id ∈ marked then 0 else 1
  stages_known : ∀ entry ∈ stages, ∃ resource ∈ resources, entry.id = resource.id
  quarantines_known : ∀ entry ∈ quarantines,
    ∃ resource ∈ resources, origin w.moves entry.quarantineName = some resource.place
  rolled_back : v.rolledBack < w.rolledBack → stages = [] ∧ quarantines = []

theorem Complete.accounted {v w : Account} {marked : List Mark} {stages : List StageObligation}
    {quarantines : List QuarantineObligation} (complete : Complete v marked stages quarantines w)
    {count : Nat} (quiet : count = v.rolledBack ∨ stages = [] ∧ quarantines = []) :
    ∃ resources, Accounted v { w with rolledBack := count } marked resources stages quarantines := by
  obtain ⟨resources, owed, books, allocated, counts⟩ := complete
  refine ⟨resources, ?_⟩
  exact {
    stages_eq := books.stages_eq
    quarantines_eq := books.quarantines_eq
    marks_eq := books.marks_eq
    made_eq := books.made_eq
    allocated
    distinct := ⟨books.ids_nodup, books.places_nodup⟩
    one_owner := fun resource member => (books.owners_eq resource member).trans (counts resource member)
    stages_known := books.stages_known
    quarantines_known := books.quarantines_known
    rolled_back := by
      intro more
      rcases quiet with same | none
      · simp only [same, Nat.lt_irrefl] at more
      · exact none }

/-- The call left the books in order and its journal as it should be. -/
def Closed (v w : Account) : Prop :=
  ∃ marked stages quarantines, Complete v marked stages quarantines w ∧ Terminated marked

/-- As above, with every resource settled. -/
def Settled (v w : Account) : Prop := ∃ marked, Complete v marked [] [] w ∧ Terminated marked

/-- The outer stage is made and registered, and nothing has happened to it yet. -/
def Staged (v : Account) (stage : Resource) (w : Account) : Prop :=
  Books v w [stage] (fun _ => 0) [.allocated stage.id, .registered stage.id] [] []

/-- The outer stage and the child inside it are registered. -/
def Nested (v : Account) (stage child : Resource) (w : Account) : Prop :=
  Books v w [stage, child] (fun _ => 0)
    [.allocated stage.id, .registered stage.id, .allocated child.id, .registered child.id] [] []

section Exits

variable {v w x y : Account} {stage child : Resource}

theorem Settled.closed (settled : Settled v w) : Closed v w :=
  have ⟨marked, complete, terminated⟩ := settled
  ⟨marked, [], [], complete, terminated⟩

theorem settled_start (v : Account) : Settled v v :=
  ⟨[], ⟨[], fun _ => 0, Books.start v, rfl, by simp⟩, trivial, by simp⟩

theorem Staged.released (staged : Staged v stage w) (released : Released stage w [.settled stage.id] x) :
    Settled v x := by
  refine ⟨_, ⟨_, _, staged.dispose List.mem_cons_self released, rfl, ?_⟩, ?_⟩
  · simp
  · simp [Terminated, EachCloses, allocations, Mark.allocation, Mark.closes]

theorem Staged.entrusted (staged : Staged v stage w) (entrusted : Entrusted stage w [.unsettled stage.id] x) :
    Closed v x := by
  obtain ⟨stages, quarantines, one, disposal⟩ := entrusted
  refine ⟨_, _, _, ⟨_, _, staged.dispose List.mem_cons_self disposal, rfl, ?_⟩, ?_⟩
  · simp [one]
  · simp [Terminated, EachCloses, allocations, Mark.allocation, Mark.closes]

/-- A stage that was retained without a terminal. -/
theorem Staged.stranded (staged : Staged v stage w) (entrusted : Entrusted stage w [] x) :
    ∃ stages quarantines, Complete v [.allocated stage.id, .registered stage.id] stages quarantines x := by
  obtain ⟨stages, quarantines, one, disposal⟩ := entrusted
  refine ⟨_, _, _, _, staged.dispose List.mem_cons_self disposal, rfl, ?_⟩
  simp [one]

theorem not_terminated_stranded (stage : Nat) : ¬Terminated [.allocated stage, .registered stage] := by
  simp [Terminated, EachCloses, Mark.closes]

/-- The child is done with: gone, published or entrusted to one entry. -/
def ChildDone (v : Account) (stage child : Resource) (clean : Bool) (w : Account) : Prop :=
  ∃ owed stages quarantines, owed stage = 0 ∧ owed child = (if clean then 0 else 1) ∧
    Books v w [stage, child] owed
      [.allocated stage.id, .registered stage.id, .allocated child.id, .registered child.id,
        if clean then .settled child.id else .unsettled child.id] stages quarantines

theorem Nested.ids_ne (nested : Nested v stage child w) : stage.id ≠ child.id := by
  simpa using nested.ids_nodup

theorem Nested.child_ended (nested : Nested v stage child w) {result : Except BoundaryError Unit}
    (ended : Ended child w [.settled child.id] [.unsettled child.id] result x) :
    ChildDone v stage child result.isOk x := by
  have distinct : stage ≠ child := fun same => nested.ids_ne (congrArg Resource.id same)
  have member : child ∈ [stage, child] := by simp
  cases result with
  | ok _ =>
    refine ⟨_, _, _, ?_, ?_, nested.dispose member ended⟩
    · simp
    · simp [Except.isOk, Except.toBool]
  | error _ =>
    obtain ⟨stages, quarantines, one, disposal⟩ := ended
    refine ⟨_, _, _, ?_, ?_, nested.dispose member disposal⟩
    · simp [distinct]
    · simp [one, Except.isOk, Except.toBool]

theorem Nested.published (nested : Nested v stage child w) (moves : List Move) :
    ChildDone v stage child true { w with moves := moves, marks := w.marks ++ [.settled child.id] } :=
  ⟨_, _, _, rfl, rfl, (nested.move moves).mark (.settled child.id)⟩

theorem ChildDone.stage_released (done : ChildDone v stage child clean w)
    (released : Released stage w [.settled stage.id] x) :
    Closed v x ∧ (clean = true → Settled v x) := by
  obtain ⟨owed, stages, quarantines, stage_owed, child_owed, books⟩ := done
  have distinct : stage.id ≠ child.id := by simpa using books.ids_nodup
  have disposed := books.dispose List.mem_cons_self released
  have counts : ∀ resource ∈ [stage, child],
      (owed resource + if resource = stage then 0 else 0) =
        if .settled resource.id ∈ [Mark.allocated stage.id, .registered stage.id, .allocated child.id,
          .registered child.id, if clean then .settled child.id else .unsettled child.id] ++ [.settled stage.id]
        then 0 else 1 := by
    cases clean <;> simp_all [Ne.symm distinct]
  have terminated : Terminated ([.allocated stage.id, .registered stage.id, .allocated child.id,
      .registered child.id, if clean then .settled child.id else .unsettled child.id] ++
        [.settled stage.id]) := by
    cases clean <;>
      simp [Terminated, EachCloses, allocations, Mark.allocation, Mark.closes, distinct, Ne.symm distinct]
  have complete : Complete v _ _ _ x := ⟨_, _, disposed, by cases clean <;> rfl, counts⟩
  refine ⟨⟨_, _, _, complete, terminated⟩, fun settled => ⟨_, ?_, terminated⟩⟩
  have unowed : ∀ resource ∈ [stage, child], owed resource = 0 := by simp_all
  obtain ⟨no_stages, no_quarantines⟩ := books.untouched unowed
  rw [no_stages, no_quarantines] at complete
  exact complete

theorem ChildDone.stage_entrusted (done : ChildDone v stage child clean w)
    (entrusted : Entrusted stage w [.unsettled stage.id] x) : Closed v x := by
  obtain ⟨owed, stages, quarantines, stage_owed, child_owed, books⟩ := done
  obtain ⟨newStages, newQuarantines, one, disposal⟩ := entrusted
  have distinct : stage.id ≠ child.id := by simpa using books.ids_nodup
  have apart : child ≠ stage := fun same => distinct (congrArg Resource.id same.symm)
  refine ⟨_, _, _, ⟨_, _, books.dispose List.mem_cons_self disposal, by cases clean <;> rfl, ?_⟩, ?_⟩
  · cases clean <;> simp_all
  · cases clean <;>
      simp [Terminated, EachCloses, allocations, Mark.allocation, Mark.closes, distinct, Ne.symm distinct]

end Exits

end Darling.Boundary
