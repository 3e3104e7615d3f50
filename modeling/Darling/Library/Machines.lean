import Mathlib.Data.List.Induction

/-! Machines that may refuse an event. A refused event is part of the run: it need not
leave the state unchanged, so acceptance is recorded separately from the transition. -/
namespace Darling

structure Machine (S E : Type*) where
  next : S → E → S
  accepts : S → E → Prop

namespace Machine

variable {S E : Type*} (m : Machine S E)

def run (s : S) (events : List E) : S := events.foldl m.next s

/-- The event would be accepted right after the given events. -/
def AcceptedAt (s : S) (before : List E) (event : E) : Prop := m.accepts (m.run s before) event

/-- Some event of the list was accepted when its turn came and has the property. -/
def Earlier (s : S) (events : List E) (p : E → Prop) : Prop :=
  ∃ first event rest, events = first ++ event :: rest ∧ m.AcceptedAt s first event ∧ p event

@[simp] theorem run_nil (s : S) : m.run s [] = s := rfl

@[simp] theorem run_cons (s : S) (event : E) (rest : List E) :
    m.run s (event :: rest) = m.run (m.next s event) rest := rfl

theorem run_append (s : S) (first rest : List E) :
    m.run s (first ++ rest) = m.run (m.run s first) rest := List.foldl_append

@[simp] theorem run_concat (s : S) (first : List E) (event : E) :
    m.run s (first ++ [event]) = m.next (m.run s first) event := by
  simp [run_append]

variable {m}

theorem run_invariant {P : S → Prop} {s : S}
    (step : ∀ s event, P s → P (m.next s event))
    (start : P s) (events : List E) : P (m.run s events) := by
  induction events generalizing s with
  | nil => exact start
  | cons event rest ih => exact ih (step s event start)

/-- An invariant that only holds of reachable states may use what is known so far. -/
theorem run_relation {relation : S → S → Prop} (refl : ∀ s, relation s s)
    (trans : ∀ a b c, relation a b → relation b c → relation a c)
    {P : S → Prop} (kept : ∀ s event, P s → P (m.next s event))
    (step : ∀ s event, P s → relation s (m.next s event))
    {s : S} (start : P s) (events : List E) : relation s (m.run s events) := by
  induction events generalizing s with
  | nil => exact refl s
  | cons event rest ih =>
    exact trans _ _ _ (step s event start) (ih (kept s event start))

/-- Induction along a run that sees the events so far. -/
theorem run_history {s : S} {P : List E → S → Prop} (start : P [] s)
    (step : ∀ before event, P before (m.run s before) →
      P (before ++ [event]) (m.next (m.run s before) event)) (events : List E) :
    P events (m.run s events) := by
  induction events using List.reverseRecOn with
  | nil => exact start
  | append_singleton before event ih => simpa using step before event ih

theorem earlier_concat {s : S} {before : List E} {event : E} {p : E → Prop} :
    m.Earlier s (before ++ [event]) p ↔
      m.Earlier s before p ∨ (m.AcceptedAt s before event ∧ p event) := by
  constructor
  · rintro ⟨first, seen, rest, split, accepted, holds⟩
    rcases List.eq_nil_or_concat rest with rfl | ⟨rest, last, rfl⟩
    · obtain ⟨rfl, same⟩ := List.append_inj' split rfl
      cases same
      exact Or.inr ⟨accepted, holds⟩
    · rw [List.concat_eq_append, ← List.cons_append, ← List.append_assoc] at split
      obtain ⟨rfl, _⟩ := List.append_inj' split rfl
      exact Or.inl ⟨first, seen, rest, rfl, accepted, holds⟩
  · rintro (⟨first, seen, rest, rfl, accepted, holds⟩ | ⟨accepted, holds⟩)
    · exact ⟨first, seen, rest ++ [event], by simp, accepted, holds⟩
    · exact ⟨before, event, [], rfl, accepted, holds⟩

@[simp] theorem not_earlier_nil {s : S} {p : E → Prop} : ¬m.Earlier s [] p := by
  rintro ⟨first, event, rest, split, _⟩
  simp at split

theorem Earlier.append {s : S} {before : List E} {p : E → Prop} (h : m.Earlier s before p)
    (rest : List E) : m.Earlier s (before ++ rest) p := by
  obtain ⟨first, event, tail, rfl, accepted, holds⟩ := h
  exact ⟨first, event, tail ++ rest, by simp, accepted, holds⟩

theorem Earlier.mono {s : S} {before : List E} {p q : E → Prop} (h : m.Earlier s before p)
    (weaker : ∀ event, p event → q event) : m.Earlier s before q := by
  obtain ⟨first, event, tail, split, accepted, holds⟩ := h
  exact ⟨first, event, tail, split, accepted, weaker _ holds⟩

/-- A condition that only accepted events of one class can end either survives the run
or was ended by such an event. -/
theorem pending {holds : S → Prop} {ends : E → Prop}
    (keeps : ∀ s event, holds s → holds (m.next s event) ∨ (m.accepts s event ∧ ends event))
    {s : S} (start : holds s) (events : List E) :
    holds (m.run s events) ∨ m.Earlier s events ends := by
  refine run_history (P := fun events s' => holds s' ∨ m.Earlier s events ends)
    (Or.inl start) ?_ events
  intro before event known
  rcases known with still | ended
  · rcases keeps _ event still with after | accepted
    · exact Or.inl after
    · exact Or.inr (earlier_concat.mpr (Or.inr accepted))
  · exact Or.inr (ended.append [event])

end Machine

end Darling
