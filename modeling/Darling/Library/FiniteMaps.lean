import Mathlib.Data.Finmap

/-! Removal of a whole set of keys from a finite map. The removed set is unordered, so
the fold is over a commuting family of erasures and the result depends on the set only. -/
namespace Finmap

variable {α : Type*} {β : α → Type*} [DecidableEq α]

instance erase_rightCommutative : RightCommutative (fun (m : Finmap β) (key : α) => m.erase key) :=
  ⟨fun _ _ _ => erase_erase⟩

def eraseAll (keys : Finset α) (m : Finmap β) : Finmap β :=
  keys.val.foldl (fun m key => m.erase key) m

@[simp] theorem eraseAll_empty (m : Finmap β) : m.eraseAll ∅ = m := rfl

theorem eraseAll_insert {key : α} {keys : Finset α} (fresh : key ∉ keys) (m : Finmap β) :
    m.eraseAll (Insert.insert key keys) = (m.erase key).eraseAll keys := by
  simp [eraseAll, Finset.insert_val_of_notMem fresh]

@[simp] theorem lookup_eraseAll (keys : Finset α) (m : Finmap β) (key : α) :
    (m.eraseAll keys).lookup key = if key ∈ keys then none else m.lookup key := by
  induction keys using Finset.induction_on generalizing m with
  | empty => simp
  | insert removed keys fresh ih =>
    rw [eraseAll_insert fresh, ih]
    by_cases same : key = removed
    · subst key; simp [fresh]
    · simp [same, lookup_erase_ne same]

@[simp] theorem mem_eraseAll (keys : Finset α) (m : Finmap β) (key : α) :
    key ∈ m.eraseAll keys ↔ key ∈ m ∧ key ∉ keys := by
  rw [← lookup_isSome, lookup_eraseAll, ← lookup_isSome]
  split <;> simp_all

end Finmap
