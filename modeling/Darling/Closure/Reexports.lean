import Mathlib.Data.List.Perm.Subperm
import Darling.Library.Associations
import Darling.Library.Distances

/-! `reexport_closure` of `closure_analyze.py`: the images that a client reaches through re-export lists, and the
names that they supply. -/
namespace Darling.Closure

/-- What the walk asks of the images. -/
structure Images (Path Real Name Symbol : Type) where
  real : Path → Real
  reexportsOf : Path → List Name
  resolve : Name → Option Path
  exportsOf : Path → List Symbol

/-- An image that is deployed is known by its real path, whichever path names it. -/
structure Deployment (Path Real Name Symbol : Type) extends Images Path Real Name Symbol where
  sameReexports : ∀ p q, real p = real q → reexportsOf p = reexportsOf q
  sameExports : ∀ p q, real p = real q → exportsOf p = exportsOf q

/-- The local variables of `reexport_closure`; `calls` are the arguments that `exports_of` was called with. -/
structure Walk (Path Real Name Symbol : Type) where
  names : List Symbol := []
  providers : List (Name × List Symbol) := []
  seen : List Real
  queue : List (Path × Nat)
  calls : List Path := []

variable {Path Real Name Symbol : Type} [DecidableEq Real] [DecidableEq Name]

section Code

variable (deployed : Images Path Real Name Symbol)

/-- The body of the inner loop. -/
def visit (depth : Nat) (walk : Walk Path Real Name Symbol) (installName : Name) : Walk Path Real Name Symbol :=
  match deployed.resolve installName with
  | none => walk
  | some path =>
    if deployed.real path ∈ walk.seen then walk
    else
      let got := deployed.exportsOf path
      { names := walk.names ++ got
        providers := put walk.providers installName got
        seen := walk.seen ++ [deployed.real path]
        queue := walk.queue ++ [(path, depth + 1)]
        calls := walk.calls ++ [path] }

variable (maxDepth : Int)

/-- The body of the outer loop for the entry that was popped. -/
def expand (current : Path) (depth : Nat) (walk : Walk Path Real Name Symbol) : Walk Path Real Name Symbol :=
  if maxDepth ≤ depth then walk else (deployed.reexportsOf current).foldl (visit deployed depth) walk

/-- The outer loop; `none` when the fuel is used up. -/
def walkImages : Nat → Walk Path Real Name Symbol → Option (Walk Path Real Name Symbol)
  | 0, _ => none
  | fuel + 1, walk =>
    match walk.queue with
    | [] => some walk
    | (current, depth) :: rest => walkImages fuel (expand deployed maxDepth current depth { walk with queue := rest })

def reexportClosure (fuel : Nat) (root : Path) : Option (Walk Path Real Name Symbol) :=
  walkImages deployed maxDepth fuel { seen := [deployed.real root], queue := [(root, 0)] }

/-- One image re-exports another. -/
def Reexports (image other : Real) : Prop :=
  ∃ path, deployed.real path = image ∧ ∃ name ∈ deployed.reexportsOf path, ∃ target,
    deployed.resolve name = some target ∧
    deployed.real target = other

end Code

variable {deployed : Images Path Real Name Symbol} {maxDepth : Int} {root : Path}

/-- What the inner loop adds: new images, each once, and all that the install names resolve to. -/
structure Adds (deployed : Images Path Real Name Symbol) (depth : Nat) (installNames : List Name)
    (before after : Walk Path Real Name Symbol) (new : List Path) : Prop where
  names : after.names = before.names ++ new.flatMap deployed.exportsOf
  seen : after.seen = before.seen ++ new.map deployed.real
  queue : after.queue = before.queue ++ new.map (·, depth + 1)
  calls : after.calls = before.calls ++ new
  fresh : before.seen.Nodup → after.seen.Nodup
  named : ∀ path ∈ new, ∃ name ∈ installNames, deployed.resolve name = some path
  met : ∀ name ∈ installNames, ∀ path, deployed.resolve name = some path → deployed.real path ∈ after.seen

theorem visit_adds (deployed : Images Path Real Name Symbol) (depth : Nat) (walk : Walk Path Real Name Symbol)
    (installName : Name) :
    ∃ new, Adds deployed depth [installName] walk (visit deployed depth walk installName) new := by
  unfold visit
  cases resolved : deployed.resolve installName with
  | none => exact ⟨[], by simp, by simp, by simp, by simp, id, by simp, by simp [resolved]⟩
  | some path =>
    by_cases known : deployed.real path ∈ walk.seen
    · exact ⟨[], by simp [known], by simp [known], by simp [known], by simp [known], by simp [known], by simp,
        by simp [resolved, known]⟩
    · refine ⟨[path], by simp [known], by simp [known], by simp [known], by simp [known], fun distinct => ?_, ?_, ?_⟩
      · simpa [known] using List.Nodup.append distinct (List.nodup_singleton _) (by simpa using known)
      · simp [resolved]
      · simp [resolved, known]

theorem visits_add (deployed : Images Path Real Name Symbol) (depth : Nat) (installNames : List Name)
    (walk : Walk Path Real Name Symbol) :
    ∃ new, Adds deployed depth installNames walk (installNames.foldl (visit deployed depth) walk) new := by
  induction installNames generalizing walk with
  | nil => exact ⟨[], by simp, by simp, by simp, by simp, id, by simp, by simp⟩
  | cons name rest induction =>
    obtain ⟨first, here⟩ := visit_adds deployed depth walk name
    obtain ⟨later, there⟩ := induction (visit deployed depth walk name)
    refine ⟨first ++ later, ?_, ?_, ?_, ?_, fun distinct => there.fresh (here.fresh distinct), ?_, ?_⟩
    · rw [List.foldl_cons, there.names, here.names, List.flatMap_append, List.append_assoc]
    · rw [List.foldl_cons, there.seen, here.seen, List.map_append, List.append_assoc]
    · rw [List.foldl_cons, there.queue, here.queue, List.map_append, List.append_assoc]
    · rw [List.foldl_cons, there.calls, here.calls, List.append_assoc]
    · intro path member
      rcases List.mem_append.mp member with inFirst | inLater
      · obtain ⟨found, same, resolved⟩ := here.named path inFirst
        exact ⟨found, List.mem_cons.mpr (.inl (List.mem_singleton.mp same)), resolved⟩
      · obtain ⟨found, among, resolved⟩ := there.named path inLater
        exact ⟨found, List.mem_cons_of_mem _ among, resolved⟩
    · intro found among path resolved
      rcases List.mem_cons.mp among with same | among
      · rw [List.foldl_cons, there.seen]
        exact List.mem_append_left _ (here.met found (List.mem_singleton.mpr same) path resolved)
      · exact there.met found among path resolved

/-- The walk before the head of its queue is expanded, or after the last one was: the images stand in layers by
their distance from the root. -/
structure Layered (deployed : Images Path Real Name Symbol) (maxDepth : Int) (root : Path)
    (walk : Walk Path Real Name Symbol) : Prop where
  images : walk.seen = deployed.real root :: walk.calls.map deployed.real
  distinct : walk.seen.Nodup
  names : walk.names = walk.calls.flatMap deployed.exportsOf
  depths : ∀ entry ∈ walk.queue, Distance (Reexports deployed) (deployed.real root) (deployed.real entry.1) entry.2
  ordered : walk.queue.Pairwise fun first second => first.2 ≤ second.2 ∧ second.2 ≤ first.2 + 1
  within : ∀ path ∈ walk.calls, ∃ n, Distance (Reexports deployed) (deployed.real root) (deployed.real path) n ∧
    (n : Int) ≤ maxDepth
  spread : ∀ image ∈ walk.seen, ∀ n, Distance (Reexports deployed) (deployed.real root) image n →
    (∃ path, (path, n) ∈ walk.queue ∧ deployed.real path = image) ∨ maxDepth ≤ n ∨
      ∀ other, Reexports deployed image other → other ∈ walk.seen

omit [DecidableEq Real] [DecidableEq Name] in
theorem Layered.start : Layered deployed maxDepth root { seen := [deployed.real root], queue := [(root, 0)] } where
  images := rfl
  distinct := List.nodup_singleton _
  names := rfl
  depths := by simpa using Distance.root_zero
  ordered := List.pairwise_singleton _ _
  within := by simp
  spread := by
    intro image member n distance
    rw [List.mem_singleton] at member
    subst member
    exact .inl ⟨root, by simp [distance.unique Distance.root_zero], rfl⟩

omit [DecidableEq Name] in
/-- Everything nearer than the head of the queue, or as near, has been seen. -/
theorem Layered.covered {walk : Walk Path Real Name Symbol}
    (layered : Layered deployed maxDepth root walk) {level : Nat}
    (ahead : ∀ entry ∈ walk.queue, level ≤ entry.2) (bound : (level : Int) ≤ maxDepth) (n : Nat) (image : Real)
    (distance : Distance (Reexports deployed) (deployed.real root) image n) (near : n ≤ level) : image ∈ walk.seen := by
  refine Distance.covered (· ∈ walk.seen) ?_ ?_ n image distance near
  · rw [layered.images]
    exact List.mem_cons_self
  · intro image n member distance below other next
    rcases layered.spread image member n distance with ⟨path, queued, -⟩ | deep | all
    · have := ahead _ queued
      omega
    · omega
    · exact all other next

omit [DecidableEq Name] in
/-- A new image is one step further than the one that re-exports it. -/
theorem Layered.found {walk : Walk Path Real Name Symbol}
    (layered : Layered deployed maxDepth root walk) {depth : Nat}
    (ahead : ∀ entry ∈ walk.queue, depth ≤ entry.2) (bound : (depth : Int) < maxDepth) {image other : Real}
    (distance : Distance (Reexports deployed) (deployed.real root) image depth) (next : Reexports deployed image other)
    (new : other ∉ walk.seen) : Distance (Reexports deployed) (deployed.real root) other (depth + 1) := by
  obtain ⟨shortest, near, reached⟩ := distance.after next
  have further : ¬ shortest ≤ depth := fun close =>
      new (layered.covered ahead (by omega) shortest other reached close)
  have same : shortest = depth + 1 := by omega
  exact same ▸ reached

theorem Layered.expanded {walk : Walk Path Real Name Symbol} (layered : Layered deployed maxDepth root walk)
    (alike : ∀ p q, deployed.real p = deployed.real q → deployed.reexportsOf p = deployed.reexportsOf q)
    {current : Path} {depth : Nat} {rest : List (Path × Nat)} (head : walk.queue = (current, depth) :: rest) :
    Layered deployed maxDepth root (expand deployed maxDepth current depth { walk with queue := rest }) := by
  have atHead : Distance (Reexports deployed) (deployed.real root) (deployed.real current) depth :=
    layered.depths (current, depth) (head ▸ List.mem_cons_self)
  have ordered := layered.ordered
  rw [head, List.pairwise_cons] at ordered
  have ahead : ∀ entry ∈ walk.queue, depth ≤ entry.2 := by
    intro entry member
    rw [head] at member
    rcases List.mem_cons.mp member with rfl | later
    · exact Nat.le_refl _
    · exact (ordered.1 entry later).1
  unfold expand
  split
  · rename_i deep
    refine { layered with depths := ?_, ordered := ordered.2, spread := ?_ }
    · exact fun entry member => layered.depths entry (head ▸ List.mem_cons_of_mem _ member)
    · intro image member n distance
      rcases layered.spread image member n distance with ⟨path, queued, same⟩ | far | all
      · rw [head] at queued
        rcases List.mem_cons.mp queued with first | later
        · cases first
          exact .inr (.inl deep)
        · exact .inl ⟨path, later, same⟩
      · exact .inr (.inl far)
      · exact .inr (.inr all)
  · rename_i shallow
    obtain ⟨new, adds⟩ := visits_add deployed depth (deployed.reexportsOf current) { walk with queue := rest }
    generalize (deployed.reexportsOf current).foldl (visit deployed depth) { walk with queue := rest } = after at adds
    have distinct := adds.fresh layered.distinct
    have reached (path : Path) (member : path ∈ new) :
        Distance (Reexports deployed) (deployed.real root) (deployed.real path) (depth + 1) := by
      obtain ⟨name, listed, resolved⟩ := adds.named path member
      refine layered.found ahead (by omega) atHead ⟨current, rfl, name, listed, path, resolved, rfl⟩ fun known => ?_
      rw [adds.seen] at distinct
      exact (List.nodup_append.mp distinct).2.2 _ known _ (List.mem_map_of_mem member) rfl
    refine ⟨?_, distinct, ?_, ?_, ?_, ?_, ?_⟩
    · rw [adds.seen, adds.calls, layered.images, List.map_append, List.cons_append]
    · rw [adds.names, adds.calls, layered.names, List.flatMap_append]
    · intro entry member
      rw [adds.queue] at member
      rcases List.mem_append.mp member with old | recent
      · exact layered.depths entry (head ▸ List.mem_cons_of_mem _ old)
      · obtain ⟨path, among, rfl⟩ := List.mem_map.mp recent
        exact reached path among
    · rw [adds.queue, List.pairwise_append]
      refine ⟨ordered.2, ?_, ?_⟩
      · rw [List.pairwise_map]
        exact List.pairwise_of_forall fun _ _ => by simp
      · intro entry member recent among
        obtain ⟨path, -, rfl⟩ := List.mem_map.mp among
        have := ordered.1 entry member
        constructor <;> simp <;> omega
    · intro path member
      rw [adds.calls] at member
      rcases List.mem_append.mp member with old | recent
      · exact layered.within path old
      · exact ⟨depth + 1, reached path recent, by push_cast; omega⟩
    · intro image member n distance
      rw [adds.seen] at member
      rcases List.mem_append.mp member with old | recent
      · rcases layered.spread image old n distance with ⟨path, queued, same⟩ | far | all
        · rw [head] at queued
          rcases List.mem_cons.mp queued with first | later
          -- The head itself: everything it re-exports has been met by the inner loop.
          · cases first
            refine .inr (.inr fun other next => ?_)
            obtain ⟨other', here, name, listed, target, resolved, rfl⟩ := next
            rw [alike other' current (here.trans same.symm)] at listed
            exact adds.met name listed target resolved
          · exact .inl ⟨path, adds.queue ▸ List.mem_append_left _ later, same⟩
        · exact .inr (.inl far)
        · exact .inr (.inr fun other next => adds.seen ▸ List.mem_append_left _ (all other next))
      · obtain ⟨path, among, rfl⟩ := List.mem_map.mp recent
        have same : n = depth + 1 := distance.unique (reached path among)
        subst same
        exact .inl ⟨path, adds.queue ▸ List.mem_append_right _ (List.mem_map_of_mem among), rfl⟩

/-- Every image that an expansion adds takes one place in the queue, and the expanded one re-exports it. -/
theorem expand_adds (deployed : Images Path Real Name Symbol) (maxDepth : Int) (current : Path) (depth : Nat)
    (walk : Walk Path Real Name Symbol) :
    ∃ new : List Path, (expand deployed maxDepth current depth walk).seen = walk.seen ++ new.map deployed.real ∧
      (expand deployed maxDepth current depth walk).queue.length = walk.queue.length + new.length ∧
      ∀ path ∈ new, (depth : Int) < maxDepth ∧ Reexports deployed (deployed.real current) (deployed.real path) := by
  unfold expand
  split
  · exact ⟨[], by simp⟩
  · obtain ⟨new, adds⟩ := visits_add deployed depth (deployed.reexportsOf current) walk
    refine ⟨new, adds.seen, by simp [adds.queue], fun path member => ⟨by omega, ?_⟩⟩
    obtain ⟨name, listed, resolved⟩ := adds.named path member
    exact ⟨current, rfl, name, listed, path, resolved, rfl⟩

/-- The walk ends once every image of a closed set has been popped. -/
theorem walkImages_ends {images : List Real}
    (alike : ∀ p q, deployed.real p = deployed.real q → deployed.reexportsOf p = deployed.reexportsOf q)
    (closed : ∀ image ∈ images, ∀ other, Reexports deployed image other → other ∈ images) (fuel : Nat)
    (walk : Walk Path Real Name Symbol) (layered : Layered deployed maxDepth root walk)
    (inside : ∀ image ∈ walk.seen, image ∈ images)
    (enough : walk.queue.length + images.length < fuel + walk.seen.length) :
    ∃ final, walkImages deployed maxDepth fuel walk = some final ∧ Layered deployed maxDepth root final ∧
      final.queue = [] := by
  induction fuel generalizing walk with
  | zero =>
    have fits := (List.subperm_of_subset layered.distinct inside).length_le
    omega
  | succ fuel induction =>
    unfold walkImages
    cases head : walk.queue with
    | nil => exact ⟨walk, rfl, layered, head⟩
    | cons entry rest =>
      obtain ⟨current, depth⟩ := entry
      obtain ⟨new, seen, queued, reexported⟩ := expand_adds deployed maxDepth current depth { walk with queue := rest }
      refine induction _ (layered.expanded alike head) ?_ ?_
      · intro image member
        rw [seen] at member
        rcases List.mem_append.mp member with old | recent
        · exact inside image old
        · obtain ⟨path, among, rfl⟩ := List.mem_map.mp recent
          obtain ⟨shallow, next⟩ := reexported path among
          have ordered := layered.ordered
          rw [head, List.pairwise_cons] at ordered
          have ahead : ∀ entry ∈ walk.queue, depth ≤ entry.2 := by
            intro entry member
            rw [head] at member
            rcases List.mem_cons.mp member with rfl | later
            · exact Nat.le_refl _
            · exact (ordered.1 entry later).1
          have distance := layered.depths (current, depth) (head ▸ List.mem_cons_self)
          have known := layered.covered ahead (by omega) depth _ distance (Nat.le_refl depth)
          exact closed _ (inside _ known) _ next
      · simp only [head, List.length_cons] at enough
        simp only [seen, queued, List.length_append, List.length_map]
        omega

theorem walkImages_more {fuel : Nat} {walk final : Walk Path Real Name Symbol}
    (ran : walkImages deployed maxDepth fuel walk = some final) (extra : Nat) :
    walkImages deployed maxDepth (fuel + extra) walk = some final := by
  induction fuel generalizing walk with
  | zero => cases ran
  | succ fuel induction =>
    rw [Nat.succ_add]
    unfold walkImages at ran ⊢
    cases head : walk.queue with
    | nil => simpa [head] using ran
    | cons entry rest =>
      simp only [head] at ran ⊢
      exact induction ran

section Levels

/-- Images are expanded, one after the other. -/
def expandAll (deployed : Images Path Real Name Symbol) (front : List (Path × Nat))
    (walk : Walk Path Real Name Symbol) :
    Walk Path Real Name Symbol :=
  front.foldl (fun now entry => (deployed.reexportsOf entry.1).foldl (visit deployed entry.2) now) walk

/-- The images of one depth are expanded. -/
def level (deployed : Images Path Real Name Symbol) (walk : Walk Path Real Name Symbol) : Walk Path Real Name Symbol :=
  expandAll deployed walk.queue { walk with queue := [] }

/-- The walk depth by depth, with so many depths left: the queue holds the images of a depth before those of the
next. -/
def levels (deployed : Images Path Real Name Symbol) : Nat → Walk Path Real Name Symbol → Walk Path Real Name Symbol
  | 0, walk => { walk with queue := [] }
  | left + 1, walk => levels deployed left (level deployed walk)

variable {walk : Walk Path Real Name Symbol}

/-- What waits in front does not matter to a visit. -/
theorem visits_waiting (depth : Nat) (installNames : List Name) (waiting : List (Path × Nat))
    (walk : Walk Path Real Name Symbol) :
    installNames.foldl (visit deployed depth) { walk with queue := waiting ++ walk.queue } =
      { installNames.foldl (visit deployed depth) walk with
        queue := waiting ++ (installNames.foldl (visit deployed depth) walk).queue } := by
  induction installNames generalizing walk with
  | nil => rfl
  | cons name rest induction =>
    have here : visit deployed depth { walk with queue := waiting ++ walk.queue } name =
        { visit deployed depth walk name with queue := waiting ++ (visit deployed depth walk name).queue } := by
      unfold visit
      cases deployed.resolve name with
      | none => rfl
      | some path =>
        dsimp only
        split
        · rfl
        · simp
    rw [List.foldl_cons, here, induction, List.foldl_cons]

/-- The images in front of the queue are popped and expanded. -/
theorem walkImages_front (front : List (Path × Nat))
    (shallow : ∀ entry ∈ front, (entry.2 : Int) < maxDepth) (fuel : Nat)
    (walk : Walk Path Real Name Symbol) :
    walkImages deployed maxDepth (front.length + fuel) { walk with queue := front ++ walk.queue } =
      walkImages deployed maxDepth fuel (expandAll deployed front walk) := by
  induction front generalizing walk with
  | nil => simp [expandAll]
  | cons entry front induction =>
    obtain ⟨here, later⟩ := List.forall_mem_cons.mp shallow
    rw [List.length_cons, Nat.add_right_comm, walkImages]
    simp only [List.cons_append, expand, if_neg (Int.not_le.mpr here)]
    rw [visits_waiting entry.2 (deployed.reexportsOf entry.1) front walk]
    exact induction later _

/-- The images of the last depth are popped. -/
theorem walkImages_deep (front : List (Path × Nat)) (deep : ∀ entry ∈ front, maxDepth ≤ entry.2) (fuel : Nat)
    (walk : Walk Path Real Name Symbol) :
    walkImages deployed maxDepth (front.length + fuel + 1) { walk with queue := front } =
      some { walk with queue := [] } := by
  induction front with
  | nil => simp [walkImages]
  | cons entry front induction =>
    obtain ⟨here, later⟩ := List.forall_mem_cons.mp deep
    rw [List.length_cons, Nat.add_right_comm front.length, walkImages]
    simp only [expand, if_pos here]
    exact induction later

/-- What expansions add to the queue was asked for its exports and is one deeper. -/
theorem expandAll_grows (depth : Nat) (front : List (Path × Nat)) (same : ∀ entry ∈ front, entry.2 = depth)
    (walk : Walk Path Real Name Symbol) :
    walk.calls ⊆ (expandAll deployed front walk).calls ∧
      ((∀ entry ∈ walk.queue, entry.1 ∈ walk.calls ∧ entry.2 = depth + 1) →
        ∀ entry ∈ (expandAll deployed front walk).queue, entry.1 ∈ (expandAll deployed front walk).calls ∧
          entry.2 = depth + 1) := by
  induction front generalizing walk with
  | nil => exact ⟨List.Subset.refl _, id⟩
  | cons first front induction =>
    obtain ⟨here, later⟩ := List.forall_mem_cons.mp same
    obtain ⟨new, adds⟩ := visits_add deployed first.2 (deployed.reexportsOf first.1) walk
    obtain ⟨grows, kept⟩ := induction later ((deployed.reexportsOf first.1).foldl (visit deployed first.2) walk)
    rw [adds.calls] at grows
    refine ⟨List.Subset.trans (List.subset_append_left _ _) grows, fun waiting => kept ?_⟩
    rw [adds.queue, adds.calls, here]
    refine List.forall_mem_append.mpr ⟨fun entry listed => ?_, List.forall_mem_map.mpr fun path added => ?_⟩
    · exact ⟨List.mem_append_left _ (waiting entry listed).1, (waiting entry listed).2⟩
    · exact ⟨List.mem_append_right _ added, rfl⟩

theorem level_grows {depth : Nat} (same : ∀ entry ∈ walk.queue, entry.2 = depth) :
    walk.calls ⊆ (level deployed walk).calls ∧
      ∀ entry ∈ (level deployed walk).queue, entry.1 ∈ (level deployed walk).calls ∧ entry.2 = depth + 1 := by
  obtain ⟨grows, next⟩ := @expandAll_grows _ _ _ _ _ _ deployed depth walk.queue same { walk with queue := [] }
  exact ⟨grows, next (by simp)⟩

theorem levels_grow {depth : Nat} (same : ∀ entry ∈ walk.queue, entry.2 = depth) (left : Nat) :
    walk.calls ⊆ (levels deployed left walk).calls := by
  induction left generalizing depth walk with
  | zero => exact List.Subset.refl _
  | succ left induction =>
    obtain ⟨grows, next⟩ := @level_grows _ _ _ _ _ _ deployed walk depth same
    exact List.Subset.trans grows (induction fun entry listed => (next entry listed).2)

/-- The loop over the queue goes depth by depth. -/
theorem walkImages_levels (left depth : Nat) (walk : Walk Path Real Name Symbol)
    (same : ∀ entry ∈ walk.queue, entry.2 = depth) :
    ∃ enough, ∀ fuel ≥ enough, walkImages deployed ((left + depth : Nat) : Int) fuel walk =
      some (levels deployed left walk) := by
  induction left generalizing depth walk with
  | zero =>
    refine ⟨walk.queue.length + 1, fun fuel enough => ?_⟩
    obtain ⟨extra, rfl⟩ : ∃ extra, fuel = walk.queue.length + extra + 1 := ⟨fuel - (walk.queue.length + 1), by omega⟩
    exact walkImages_deep walk.queue (fun entry listed => by rw [same entry listed]; omega) extra walk
  | succ left induction =>
    obtain ⟨enough, ends⟩ := induction (depth + 1) (level deployed walk) fun entry listed =>
        ((level_grows same).2 entry listed).2
    refine ⟨walk.queue.length + enough, fun fuel more => ?_⟩
    obtain ⟨rest, rfl⟩ : ∃ rest, fuel = walk.queue.length + rest := ⟨fuel - walk.queue.length, by omega⟩
    have shallow : ∀ entry ∈ walk.queue, (entry.2 : Int) < (left + (depth + 1) : Nat) := by
      intro entry listed
      rw [same entry listed]
      omega
    have front := @walkImages_front _ _ _ _ _ _ deployed _ walk.queue shallow rest { walk with queue := [] }
    rw [List.append_nil] at front
    rw [levels, ← ends rest (by omega), Nat.add_right_comm left 1 depth, Nat.add_assoc]
    exact front

/-- With fuel enough the closure is what the levels lead to, also where the real paths are not told apart. -/
theorem reexportClosure_levels (deployed : Images Path Real Name Symbol) (maxDepth : Nat) (root : Path) :
    ∃ enough, ∀ fuel ≥ enough, reexportClosure deployed maxDepth fuel root =
      some (levels deployed maxDepth { seen := [deployed.real root], queue := [(root, 0)] }) :=
  walkImages_levels maxDepth 0 _ (by simp)

/-- Two readings of the same images, which may resolve names to other paths and find other exports. -/
structure Alike (deployed other : Images Path Real Name Symbol) : Prop where
  real : other.real = deployed.real
  reexportsOf : other.reexportsOf = deployed.reexportsOf

variable {other : Images Path Real Name Symbol}

theorem visits_congr (alike : Alike deployed other) (depth : Nat) (installNames : List Name)
    (walk : Walk Path Real Name Symbol) (names : ∀ name ∈ installNames, other.resolve name = deployed.resolve name)
    (exports : ∀ path ∈ (installNames.foldl (visit deployed depth) walk).calls,
      other.exportsOf path = deployed.exportsOf path) :
    installNames.foldl (visit other depth) walk = installNames.foldl (visit deployed depth) walk := by
  induction installNames generalizing walk with
  | nil => rfl
  | cons name rest induction =>
    obtain ⟨first, later⟩ := List.forall_mem_cons.mp names
    obtain ⟨new, adds⟩ := visits_add deployed depth rest (visit deployed depth walk name)
    have here : visit other depth walk name = visit deployed depth walk name := by
      rw [List.foldl_cons, adds.calls] at exports
      unfold visit at exports ⊢
      rw [first, alike.real]
      cases found : deployed.resolve name with
      | none => rfl
      | some path =>
        by_cases known : deployed.real path ∈ walk.seen
        · simp only [known, if_true]
        · simp only [found, known, if_false] at exports ⊢
          rw [exports path (by simp)]
    rw [List.foldl_cons, here, induction _ later exports, List.foldl_cons]

theorem expandAll_congr (alike : Alike deployed other) {depth : Nat} (front : List (Path × Nat))
    (same : ∀ entry ∈ front, entry.2 = depth) (walk : Walk Path Real Name Symbol)
    (names : ∀ entry ∈ front, ∀ name ∈ deployed.reexportsOf entry.1, other.resolve name = deployed.resolve name)
    (exports : ∀ path ∈ (expandAll deployed front walk).calls, other.exportsOf path = deployed.exportsOf path) :
    expandAll other front walk = expandAll deployed front walk := by
  induction front generalizing walk with
  | nil => rfl
  | cons entry front induction =>
    obtain ⟨first, later⟩ := List.forall_mem_cons.mp names
    obtain ⟨_, same⟩ := List.forall_mem_cons.mp same
    have grows := (@expandAll_grows _ _ _ _ _ _ deployed depth front same
      ((deployed.reexportsOf entry.1).foldl (visit deployed entry.2) walk)).1
    have here := visits_congr alike entry.2 (deployed.reexportsOf entry.1) walk first fun path asked =>
        exports path (grows asked)
    have rest := induction same _ later exports
    unfold expandAll at rest ⊢
    rw [List.foldl_cons, List.foldl_cons, alike.reexportsOf, here]
    rw [alike.reexportsOf] at rest
    exact rest

/-- Two walks agree that read the same in the images that they ask about: names resolve alike in every image that is
expanded, and every image that is asked for its exports has the same. By induction on the depths that are left. -/
theorem levels_congr (alike : Alike deployed other) (left : Nat) {depth : Nat} (walk : Walk Path Real Name Symbol)
    (same : ∀ entry ∈ walk.queue, entry.2 = depth)
    (names : ∀ path, path ∈ walk.queue.map (·.1) ∨ path ∈ (levels deployed left walk).calls →
      ∀ name ∈ deployed.reexportsOf path, other.resolve name = deployed.resolve name)
    (exports : ∀ path ∈ (levels deployed (left + 1) walk).calls, other.exportsOf path = deployed.exportsOf path) :
    levels other (left + 1) walk = levels deployed (left + 1) walk := by
  induction left generalizing depth walk with
  | zero =>
    have here := expandAll_congr alike walk.queue same { walk with queue := [] }
      (fun entry listed => names entry.1 (.inl (List.mem_map_of_mem listed))) exports
    rw [levels, levels, level, here, ← level]
    rfl
  | succ left induction =>
    obtain ⟨_, next⟩ := @level_grows _ _ _ _ _ _ deployed walk depth same
    have deeper : ∀ entry ∈ (level deployed walk).queue, entry.2 = depth + 1 :=
      fun entry listed => (next entry listed).2
    have here := expandAll_congr alike walk.queue same { walk with queue := [] }
      (fun entry listed => names entry.1 (.inl (List.mem_map_of_mem listed)))
      fun path asked => exports path (levels_grow deeper (left + 1) asked)
    rw [levels, level, here, ← level]
    refine induction (level deployed walk) deeper (fun path met => names path (.inr ?_)) exports
    rcases met with queued | asked
    · obtain ⟨entry, listed, rfl⟩ := List.mem_map.mp queued
      exact levels_grow deeper left (next entry listed).1
    · exact asked

/-- The images, asked only for the symbols that are kept. -/
def Images.keeping (deployed : Images Path Real Name Symbol) (keep : Symbol → Bool) : Images Path Real Name Symbol :=
  { deployed with exportsOf := fun path => (deployed.exportsOf path).filter keep }

def Walk.keeping (walk : Walk Path Real Name Symbol) (keep : Symbol → Bool) : Walk Path Real Name Symbol :=
  { walk with
    names := walk.names.filter keep
    providers := walk.providers.map fun item => (item.1, item.2.filter keep) }

variable (keep : Symbol → Bool)

theorem visits_keeping (depth : Nat) (installNames : List Name) (walk : Walk Path Real Name Symbol) :
    installNames.foldl (visit (deployed.keeping keep) depth) (walk.keeping keep) =
      (installNames.foldl (visit deployed depth) walk).keeping keep := by
  induction installNames generalizing walk with
  | nil => rfl
  | cons name rest induction =>
    have here : visit (deployed.keeping keep) depth (walk.keeping keep) name =
        (visit deployed depth walk name).keeping keep := by
      simp only [visit, Images.keeping]
      cases deployed.resolve name with
      | none => rfl
      | some path =>
        by_cases known : deployed.real path ∈ walk.seen
        · have known' : deployed.real path ∈ (walk.keeping keep).seen := known
          simp only [known, known', if_true]
        · have known' : deployed.real path ∉ (walk.keeping keep).seen := known
          simp only [known, if_false, Walk.keeping, List.filter_append]
          rw [put_map]
    rw [List.foldl_cons, here, induction, List.foldl_cons]

/-- The walk looks at no symbol. -/
theorem levels_keeping (left : Nat) (walk : Walk Path Real Name Symbol) :
    levels (deployed.keeping keep) left (walk.keeping keep) = (levels deployed left walk).keeping keep := by
  have all (front : List (Path × Nat)) (walk : Walk Path Real Name Symbol) :
      expandAll (deployed.keeping keep) front (walk.keeping keep) = (expandAll deployed front walk).keeping keep := by
    induction front generalizing walk with
    | nil => rfl
    | cons entry front induction =>
      have here := @visits_keeping _ _ _ _ _ _ deployed keep entry.2 (deployed.reexportsOf entry.1) walk
      unfold expandAll at induction ⊢
      rw [List.foldl_cons, List.foldl_cons, ← induction, ← here]
      rfl
  induction left generalizing walk with
  | zero => rfl
  | succ left induction =>
    rw [levels, levels, ← induction]
    exact congrArg _ (all walk.queue { walk with queue := [] })

end Levels

/-- Over a finite re-export graph the walk ends. It has asked for the exports of each image once whose distance from
the root is at least one and at most `max_depth`, of no other one, and it returns the names that these export. -/
theorem reexport_closure_exact (deployed : Deployment Path Real Name Symbol) (maxDepth : Int) (root : Path)
    (images : List Real)
    (start : deployed.real root ∈ images)
    (closed : ∀ image ∈ images, ∀ other, Reexports deployed.toImages image other → other ∈ images) :
    ∃ final, (∀ fuel > images.length, reexportClosure deployed.toImages maxDepth fuel root = some final) ∧
      (final.calls.map deployed.real).Nodup ∧
      (∀ image, image ∈ final.calls.map deployed.real ↔
        ∃ n, Distance (Reexports deployed.toImages) (deployed.real root) image n ∧ 1 ≤ n ∧ (n : Int) ≤ maxDepth) ∧
      ∀ symbol, symbol ∈ final.names ↔
        ∃ path, symbol ∈ deployed.exportsOf path ∧
          ∃ n, Distance (Reexports deployed.toImages) (deployed.real root) (deployed.real path) n ∧ 1 ≤ n ∧
            (n : Int) ≤ maxDepth := by
  obtain ⟨final, ran, layered, empty⟩ := walkImages_ends deployed.sameReexports closed (images.length + 1)
    { seen := [deployed.real root], queue := [(root, 0)] }
    (Layered.start : Layered deployed.toImages maxDepth root _)
    (by simpa using start) (by simp; omega)
  have distinct : (deployed.real root :: final.calls.map deployed.real).Nodup := layered.images ▸ layered.distinct
  rw [List.nodup_cons] at distinct
  have called (image : Real) : image ∈ final.calls.map deployed.real ↔
      ∃ n, Distance (Reexports deployed.toImages) (deployed.real root) image n ∧ 1 ≤ n ∧ (n : Int) ≤ maxDepth := by
    constructor
    · intro member
      obtain ⟨path, among, rfl⟩ := List.mem_map.mp member
      obtain ⟨n, distance, bound⟩ := layered.within path among
      refine ⟨n, distance, Nat.one_le_iff_ne_zero.mpr ?_, bound⟩
      rintro rfl
      -- Only the root is at distance zero, and it was seen before the first call.
      rw [distance.eq_root] at member
      exact distinct.1 member
    · rintro ⟨n, distance, positive, bound⟩
      have known := layered.covered (by simp [empty] : ∀ entry ∈ final.queue, n ≤ entry.2) bound n image distance
          (Nat.le_refl n)
      rw [layered.images] at known
      rcases List.mem_cons.mp known with rfl | other
      · have := distance.unique Distance.root_zero
        omega
      · exact other
  refine ⟨final, fun fuel more => ?_, distinct.2, called, fun symbol => ?_⟩
  · obtain ⟨extra, rfl⟩ : ∃ extra, fuel = images.length + 1 + extra := ⟨fuel - (images.length + 1), by omega⟩
    exact walkImages_more ran extra
  · rw [layered.names, List.mem_flatMap]
    constructor
    · rintro ⟨path, among, exported⟩
      exact ⟨path, exported, (called _).mp (List.mem_map_of_mem among)⟩
    · rintro ⟨path, exported, reached⟩
      obtain ⟨other, among, same⟩ := List.mem_map.mp ((called _).mpr reached)
      exact ⟨other, among, deployed.sameExports path other same.symm ▸ exported⟩

/-- Four images in a cycle, the last one met by two ways and under a second path. -/
def hub : Deployment Nat Nat Nat Nat where
  real path := path % 4
  reexportsOf path := [[1, 2], [7], [3], [0]].getD (path % 4) []
  resolve name := some name
  exportsOf path := [path % 4]
  sameReexports _ _ same := by rw [same]
  sameExports _ _ same := by rw [same]

theorem reexport_closure_hub :
    ∃ final, reexportClosure hub.toImages 2 5 0 = some final ∧ final.calls = [1, 2, 7] ∧
      ∃ n, Distance (Reexports hub.toImages) 0 3 n ∧ 1 ≤ n ∧ (n : Int) ≤ 2 := by
  have closed : ∀ image ∈ [0, 1, 2, 3], ∀ other, Reexports hub.toImages image other → other ∈ [0, 1, 2, 3] := by
    rintro image - _ ⟨path, -, name, -, target, -, rfl⟩
    have : hub.real target < 4 := Nat.mod_lt target (by decide)
    simp only [List.mem_cons, List.not_mem_nil, or_false]
    omega
  obtain ⟨final, ran, -, called, -⟩ := reexport_closure_exact hub 2 0 [0, 1, 2, 3] (by decide) closed
  have here := ran 5 (by decide)
  have calls : (reexportClosure hub.toImages 2 5 0).map Walk.calls = some [1, 2, 7] := by decide
  rw [here, Option.map_some, Option.some.injEq] at calls
  exact ⟨final, here, calls, (called 3).mp (by rw [calls]; decide)⟩

end Darling.Closure
