import Darling.Library.Layouts

/-! Programs that stop at an index out of range or at arithmetic beyond 64 bits. -/
namespace Darling.Panics

open Codecs (Bytes fromLeBytes)
open Layouts (slice unpack)

inductive Panic where
  | index
  | overflow
  | diverged
  deriving DecidableEq

/-- A byte slice; no allocation is longer. -/
structure Buffer where
  bytes : Bytes
  bound : bytes.length < 2 ^ 63

/-- The result of an operation on 64-bit numbers. -/
def word (n : Nat) : Except Panic Nat := if n < 2 ^ 64 then .ok n else .error .overflow

/-- `bytes[start..]`. -/
def sliceFrom (bytes : Bytes) (start : Nat) : Except Panic Bytes :=
  if start ≤ bytes.length then .ok (bytes.drop start) else .error .index

/-- A little-endian number whose bytes are taken by their indices. -/
def little (width : Nat) (bytes : Bytes) (start : Nat) : Except Panic Nat :=
  if start + width ≤ bytes.length then .ok (fromLeBytes (slice bytes start (start + width))) else .error .index

/-- A big-endian number whose bytes are taken by their indices. -/
def big (width : Nat) (bytes : Bytes) (start : Nat) : Except Panic Nat :=
  if start + width ≤ bytes.length then .ok (fromLeBytes (slice bytes start (start + width)).reverse) else .error .index

/-- The program returns. -/
def Safe {α : Type} (run : Except Panic α) : Prop := ∃ value, run = .ok value

variable {α β : Type}

@[simp] theorem safe_ok (value : α) : Safe (.ok value : Except Panic α) := ⟨value, rfl⟩

@[simp] theorem safe_error (panic : Panic) : ¬Safe (.error panic : Except Panic α) := by rintro ⟨_, ⟨⟩⟩

theorem ok_bind (value : α) (next : α → Except Panic β) : (.ok value >>= next) = next value := rfl

theorem safe_bind {run : Except Panic α} {next : α → Except Panic β} :
    Safe (run >>= next) ↔ ∃ value, run = .ok value ∧ Safe (next value) := by
  cases run with
  | error panic =>
    simp only [bind, Except.bind, safe_error, false_iff, not_exists, not_and]
    intro _ returned
    cases returned
  | ok value => simp [bind, Except.bind]

theorem word_ok {n : Nat} (small : n < 2 ^ 64) : word n = .ok n := if_pos small

theorem word_eq_ok {n m : Nat} : word n = .ok m ↔ n < 2 ^ 64 ∧ n = m := by
  unfold word
  split
  · next small => simp only [Except.ok.injEq, small, true_and]
  · next large => simp only [reduceCtorEq, large, false_and]

theorem sliceFrom_ok {bytes : Bytes} {start : Nat} (inside : start ≤ bytes.length) :
    sliceFrom bytes start = .ok (bytes.drop start) :=
  if_pos inside

/-- A loop over a list in which every round returns. -/
theorem mapM_ok {round : α → Except Panic β} {result : α → β} {items : List α}
    (each : ∀ item ∈ items, round item = .ok (result item)) :
    items.mapM round = .ok (items.map result) := by
  induction items with
  | nil => rfl
  | cons item items ih =>
    rw [List.forall_mem_cons] at each
    rw [List.mapM_cons, each.1, ih each.2]
    rfl

end Darling.Panics
