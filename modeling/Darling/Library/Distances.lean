import Mathlib.Data.List.Nodup

/-! Shortest distances along a relation, and what a search that widens its frontier level by level has met. -/
namespace Darling

variable {α : Type}

/-- A path with this many edges. -/
inductive Steps (edge : α → α → Prop) : Nat → α → α → Prop where
  | refl (a : α) : Steps edge 0 a a
  | tail {length : Nat} {a b c : α} : Steps edge length a b → edge b c → Steps edge (length + 1) a c

/-- The number of edges of a shortest path. -/
def Distance (edge : α → α → Prop) (root target : α) (length : Nat) : Prop :=
  Steps edge length root target ∧ ∀ shorter < length, ¬ Steps edge shorter root target

namespace Distance

variable {edge : α → α → Prop} {root a b : α} {length other : Nat}

theorem root_zero : Distance edge root root 0 := ⟨.refl root, fun _ below => absurd below (Nat.not_lt_zero _)⟩

theorem eq_root (distance : Distance edge root a 0) : a = root := by
  cases distance.1 with
  | refl => rfl

theorem unique (first : Distance edge root a length) (second : Distance edge root a other) : length = other := by
  rcases Nat.lt_trichotomy length other with below | same | above
  · exact absurd first.1 (second.2 length below)
  · exact same
  · exact absurd second.1 (first.2 other above)

theorem of_steps (steps : Steps edge length root a) : ∃ shortest ≤ length, Distance edge root a shortest := by
  induction length using Nat.strongRecOn with
  | ind length induction =>
    by_cases shorter : ∃ less < length, Steps edge less root a
    · obtain ⟨less, below, found⟩ := shorter
      obtain ⟨shortest, bound, distance⟩ := induction less below found
      exact ⟨shortest, by omega, distance⟩
    · exact ⟨length, Nat.le_refl length, steps, fun less below found => shorter ⟨less, below, found⟩⟩

/-- The last edge of a shortest path starts one step nearer to the root. -/
theorem before (distance : Distance edge root b (length + 1)) : ∃ a, Distance edge root a length ∧ edge a b := by
  obtain ⟨steps, shortest⟩ := distance
  cases steps with
  | tail first last =>
    refine ⟨_, ⟨first, fun shorter below found => ?_⟩, last⟩
    exact shortest (shorter + 1) (by omega) (found.tail last)

/-- Along an edge the distance grows by one at most. -/
theorem after (distance : Distance edge root a length) (next : edge a b) :
    ∃ shortest ≤ length + 1, Distance edge root b shortest :=
  of_steps (distance.1.tail next)

/-- A set that contains the root and the successors of its members below a level contains everything up to that
level. -/
theorem covered (met : α → Prop) {level : Nat} (start : met root)
    (spread : ∀ a n, met a → Distance edge root a n → n < level → ∀ b, edge a b → met b) :
    ∀ n a, Distance edge root a n → n ≤ level → met a := by
  intro n
  induction n with
  | zero =>
    intro a distance _
    exact distance.eq_root ▸ start
  | succ n induction =>
    intro b distance bound
    obtain ⟨a, nearer, next⟩ := distance.before
    exact spread a n (induction a nearer (by omega)) nearer (by omega) b next

end Distance

end Darling
