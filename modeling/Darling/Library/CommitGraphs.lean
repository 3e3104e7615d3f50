import Mathlib.Logic.Relation

/-! Commit graphs: every commit names its parents, and a generation number grows from parent to child. -/
namespace Darling

/-- A history without cycles. -/
structure CommitGraph (κ : Type) where
  parents : κ → List κ
  generation : κ → Nat
  older : ∀ commit, ∀ parent ∈ parents commit, generation parent < generation commit

namespace CommitGraph

variable {κ : Type} (graph : CommitGraph κ)

/-- Zero or more steps from a commit to its parents lead from the newer commit to the older one. -/
def Ancestor (old new : κ) : Prop := Relation.ReflTransGen (fun child parent => parent ∈ graph.parents child) new old

variable [DecidableEq κ]

/-- Walk the parents for as many generations as the fuel allows. -/
def reaches (old : κ) : Nat → κ → Bool
  | 0, new => new = old
  | fuel + 1, new => new = old || (graph.parents new).any (reaches old fuel)

def isAncestor (old new : κ) : Bool := graph.reaches old (graph.generation new) new

theorem reaches_sound {old : κ} {fuel : Nat} {new : κ} (reached : graph.reaches old fuel new) :
    graph.Ancestor old new := by
  induction fuel generalizing new with
  | zero =>
    rw [of_decide_eq_true reached]
    exact .refl
  | succ fuel ih =>
    simp only [reaches, Bool.or_eq_true, decide_eq_true_eq, List.any_eq_true] at reached
    rcases reached with rfl | ⟨parent, listed, further⟩
    · exact .refl
    · exact .head listed (ih further)

/-- The generation bounds the length of every walk. -/
theorem reaches_complete {old new : κ} (above : graph.Ancestor old new) {fuel : Nat}
    (enough : graph.generation new ≤ fuel) : graph.reaches old fuel new := by
  induction above using Relation.ReflTransGen.head_induction_on generalizing fuel with
  | refl => cases fuel <;> simp [reaches]
  | @head child parent step _ ih =>
    have lower := graph.older _ _ step
    cases fuel with
    | zero => omega
    | succ fuel =>
      have found := ih (show graph.generation parent ≤ fuel by omega)
      simp only [reaches, Bool.or_eq_true, List.any_eq_true]
      exact .inr ⟨parent, step, found⟩

theorem isAncestor_iff {old new : κ} : graph.isAncestor old new ↔ graph.Ancestor old new :=
  ⟨graph.reaches_sound, fun above => graph.reaches_complete above (Nat.le_refl _)⟩

end CommitGraph

end Darling
