import Mathlib.Data.List.Nodup
import Mathlib.Data.List.Perm.Subperm
import Mathlib.Logic.Relation

/-! Searches through a list of edges with a stack of the nodes still to be visited. Every edge is followed at most
once, so the number of edges bounds the turns of the loop. -/
namespace Darling.Searches

open Relation

variable {α : Type} [DecidableEq α]

/-- The ends of the edges that start at a node, in the order of the list. -/
def next (edges : List (α × α)) (node : α) : List α := (edges.filter (·.1 = node)).map Prod.snd

/-- The loop: a node that was seen is skipped, any other one is visited and its successors go on top of the stack,
so that the last of them comes first. -/
def search (edges : List (α × α)) : Nat → List α → List α → List α
  | 0, _, visited => visited
  | _ + 1, [], visited => visited
  | turns + 1, node :: pending, visited =>
    if node ∈ visited then search edges turns pending visited
    else search edges turns ((next edges node).reverse ++ pending) (visited ++ [node])

def Edge (edges : List (α × α)) (a b : α) : Prop := (a, b) ∈ edges

/-- Every node but the root stands behind one that leads to it. -/
def Preceded (edges : List (α × α)) (root : α) (nodes : List α) : Prop :=
  ∀ before node after, nodes = before ++ node :: after → node = root ∨ ∃ parent ∈ before, Edge edges parent node

variable {edges : List (α × α)} {root node : α} {pending visited : List α}

theorem mem_next {child : α} : child ∈ next edges node ↔ Edge edges node child := by
  simp only [next, Edge, List.mem_map, List.mem_filter, decide_eq_true_eq]
  constructor
  · rintro ⟨⟨parent, other⟩, ⟨listed, rfl⟩, rfl⟩
    exact listed
  · intro listed
    exact ⟨(node, child), ⟨listed, rfl⟩, rfl⟩

/-- The state of the loop: what waits was led to by a visited node, and what a visited node leads to waits or was
visited. -/
structure Searching (edges : List (α × α)) (root : α) (pending visited : List α) : Prop where
  distinct : visited.Nodup
  preceded : Preceded edges root visited
  waits : ∀ node ∈ pending, node = root ∨ ∃ parent ∈ visited, Edge edges parent node
  rooted : root ∈ pending ∨ root ∈ visited
  closed : ∀ parent ∈ visited, ∀ child, Edge edges parent child → child ∈ pending ∨ child ∈ visited

omit [DecidableEq α] in
theorem Searching.start (edges : List (α × α)) (root : α) : Searching edges root [root] [] where
  distinct := List.nodup_nil
  preceded := by
    intro before node after split
    simp at split
  waits := by simp
  rooted := by simp
  closed := by simp

omit [DecidableEq α] in
theorem Searching.skip (searching : Searching edges root (node :: pending) visited) (seen : node ∈ visited) :
    Searching edges root pending visited where
  distinct := searching.distinct
  preceded := searching.preceded
  waits := fun other listed => searching.waits other (List.mem_cons_of_mem _ listed)
  rooted := by
    rcases searching.rooted with waiting | done
    · rcases List.mem_cons.mp waiting with rfl | later
      · exact .inr seen
      · exact .inl later
    · exact .inr done
  closed := by
    intro parent listed child edge
    rcases searching.closed parent listed child edge with waiting | done
    · rcases List.mem_cons.mp waiting with rfl | later
      · exact .inr seen
      · exact .inl later
    · exact .inr done

omit [DecidableEq α] in
theorem Preceded.snoc (preceded : Preceded edges root visited)
    (led : node = root ∨ ∃ parent ∈ visited, Edge edges parent node) :
    Preceded edges root (visited ++ [node]) := by
  intro before other after split
  rcases List.eq_nil_or_concat after with rfl | ⟨rest, last, rfl⟩
  · obtain ⟨rfl, same⟩ := List.append_inj' split rfl
    cases same
    exact led
  · rw [List.concat_eq_append, ← List.cons_append, ← List.append_assoc] at split
    exact preceded before other rest (List.append_inj' split rfl).1

theorem Searching.visit (searching : Searching edges root (node :: pending) visited) (fresh : node ∉ visited) :
    Searching edges root ((next edges node).reverse ++ pending) (visited ++ [node]) where
  distinct := searching.distinct.append (List.nodup_singleton node) (List.disjoint_singleton.mpr fresh)
  preceded := searching.preceded.snoc (searching.waits node List.mem_cons_self)
  waits := by
    intro other listed
    rcases List.mem_append.mp listed with child | waiting
    · have edge : Edge edges node other := mem_next.mp (List.mem_reverse.mp child)
      exact .inr ⟨node, List.mem_append_right _ (List.mem_singleton_self node), edge⟩
    · rcases searching.waits other (List.mem_cons_of_mem _ waiting) with top | ⟨parent, there, edge⟩
      · exact .inl top
      · exact .inr ⟨parent, List.mem_append_left _ there, edge⟩
  rooted := by
    rcases searching.rooted with waiting | done
    · rcases List.mem_cons.mp waiting with rfl | later
      · exact .inr (List.mem_append_right _ (List.mem_singleton_self _))
      · exact .inl (List.mem_append_right _ later)
    · exact .inr (List.mem_append_left _ done)
  closed := by
    intro parent listed child edge
    rcases List.mem_append.mp listed with old | here
    · rcases searching.closed parent old child edge with waiting | done
      · rcases List.mem_cons.mp waiting with rfl | later
        · exact .inr (List.mem_append_right _ (List.mem_singleton_self _))
        · exact .inl (List.mem_append_right _ later)
      · exact .inr (List.mem_append_left _ done)
    · cases List.mem_singleton.mp here
      exact .inl (List.mem_append_left _ (List.mem_reverse.mpr (mem_next.mpr edge)))

/-- How many edges no visited node has used. -/
def unused (edges : List (α × α)) (visited : List α) : Nat := edges.countP (·.1 ∉ visited)

theorem unused_visit (edges : List (α × α)) (fresh : node ∉ visited) :
    unused edges (visited ++ [node]) + (next edges node).length = unused edges visited := by
  induction edges with
  | nil => rfl
  | cons edge rest ih =>
    simp only [unused, next, List.length_map, ← List.countP_eq_length_filter, List.countP_cons] at ih ⊢
    by_cases here : edge.1 = node
    · have old : decide (edge.1 ∉ visited ++ [node]) = false := by simp [here]
      have unseen : decide (edge.1 ∉ visited) = true := by simp [here, fresh]
      rw [old, unseen, decide_eq_true here, if_pos rfl, if_neg Bool.false_ne_true]
      omega
    · have same : (edge.1 ∉ visited ++ [node]) ↔ edge.1 ∉ visited := by simp [here]
      simp only [here, same, decide_false, if_false, Bool.false_eq_true] at ih ⊢
      omega

/-- With a turn for everything that waits and for every unused edge, the loop runs until nothing waits. -/
theorem search_ends (searching : Searching edges root pending visited) {turns : Nat}
    (enough : pending.length + unused edges visited ≤ turns) :
    Searching edges root [] (search edges turns pending visited) := by
  induction turns generalizing pending visited with
  | zero =>
    cases List.length_eq_zero_iff.mp (Nat.eq_zero_of_add_eq_zero_right (Nat.le_zero.mp enough))
    exact searching
  | succ turns ih =>
    cases pending with
    | nil => exact searching
    | cons node pending =>
      rw [search]
      rw [List.length_cons] at enough
      split
      next seen => exact ih (searching.skip seen) (by omega)
      next fresh =>
        have count := unused_visit edges fresh
        apply ih (searching.visit fresh)
        rw [List.length_append, List.length_reverse]
        omega

/-- A search lists what the root leads to, each node once and behind one that leads to it. -/
theorem search_reaches (edges : List (α × α)) (root : α) :
    let visited := search edges (edges.length + 1) [root] []
    visited.Nodup ∧ Preceded edges root visited ∧ ∀ node, node ∈ visited ↔ ReflTransGen (Edge edges) root node := by
  intro visited
  have ended : Searching edges root [] visited := by
    apply search_ends (.start edges root)
    have most : unused edges [] ≤ edges.length := List.countP_le_length
    rw [List.length_singleton]
    omega
  refine ⟨ended.distinct, ended.preceded, fun node => ⟨fun listed => ?_, fun led => ?_⟩⟩
  · -- By induction on how far in front the node stands, over the prefixes of the list.
    obtain ⟨before, after, split⟩ := List.append_of_mem listed
    induction len : before.length using Nat.strongRecOn generalizing before node after with
    | ind n ih =>
      rcases ended.preceded before node after split with rfl | ⟨parent, there, edge⟩
      · exact .refl
      · obtain ⟨first, rest, cut⟩ := List.append_of_mem there
        have shorter : first.length < n := by
          rw [← len, cut, List.length_append, List.length_cons]
          omega
        have listed : parent ∈ visited := by
          rw [split]
          exact List.mem_append_left _ there
        exact (ih first.length shorter parent listed first (rest ++ node :: after) (by rw [split, cut]; simp)
          rfl).tail edge
  · induction led with
    | refl => exact ended.rooted.resolve_left List.not_mem_nil
    | tail _ edge ih => exact (ended.closed _ ih _ edge).resolve_left List.not_mem_nil

end Darling.Searches
