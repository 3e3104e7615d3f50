import Mathlib.Logic.Relation
import Mathlib.Logic.Function.Basic

/-! Parties that take turns on a shared state. An action is one atomic step of one of them, and a run takes the
actions in any order; an action that its party cannot take next has no successor. -/
namespace Darling.Interleavings

variable {S A : Type*}

/-- The states that the actions reach from a start while each of them meets a condition on the state before it. -/
def Reached (step : S → A → Option S) (meets : S → A → Prop) (start : S) : S → Prop :=
  Relation.ReflTransGen (fun s s' => ∃ a, meets s a ∧ step s a = some s') start

/-- Every order of the actions. -/
def Unrestricted (_ : S) (_ : A) : Prop := True

namespace Reached

variable {step : S → A → Option S} {meets : S → A → Prop} {start s : S}

/-- What holds at the start and along each action holds in every state reached. -/
theorem invariant {P : S → Prop} (reached : Reached step meets start s) (initial : P start)
    (keeps : ∀ s a s', P s → meets s a → step s a = some s' → P s') : P s := by
  induction reached with
  | refl => exact initial
  | tail _ turn ih =>
    obtain ⟨a, allowed, taken⟩ := turn
    exact keeps _ a _ ih allowed taken

theorem turn {s' : S} {a : A} (reached : Reached step meets start s) (allowed : meets s a)
    (taken : step s a = some s') :
    Reached step meets start s' :=
  Relation.ReflTransGen.tail reached ⟨a, allowed, taken⟩

end Reached

/-- The actions one after another, each only where the condition allows it. -/
def replay (step : S → A → Option S) (meets : S → A → Prop) [∀ s a, Decidable (meets s a)] : S → List A → Option S
  | s, [] => some s
  | s, a :: rest => if meets s a then (step s a).bind (replay step meets · rest) else none

theorem replay_reached {step : S → A → Option S} {meets : S → A → Prop} [∀ s a, Decidable (meets s a)] {start s s' : S}
    {actions : List A} (reached : Reached step meets start s) (replayed : replay step meets s actions = some s') :
    Reached step meets start s' := by
  induction actions generalizing s with
  | nil =>
    cases replayed
    exact reached
  | cons a rest ih =>
    rw [replay] at replayed
    split at replayed
    next allowed =>
      obtain ⟨next, taken, later⟩ := Option.bind_eq_some_iff.mp replayed
      exact ih (reached.turn allowed taken) later
    next => cases replayed

instance (s : S) (a : A) : Decidable (Unrestricted s a) := .isTrue trivial

end Darling.Interleavings
