import Mathlib.Data.List.Nodup

/-! Association lists: with distinct keys a lookup finds the listed pairs and nothing else, and a dictionary is one
in the order of its insertions. -/
namespace Darling

variable {α β : Type} {items : List (α × β)} {key : α} {value : β}

section Lookups

variable [BEq α] [LawfulBEq α]

theorem lookup_cons_if [DecidableEq α] (key present : α) (value : β) (items : List (α × β)) :
    ((present, value) :: items).lookup key = if key = present then some value else items.lookup key := by
  by_cases same : key = present
  · simp [same]
  · have other : (key == present) = false := by simpa using same
    simp [List.lookup_cons, same, other]

theorem mem_of_lookup (found : items.lookup key = some value) : (key, value) ∈ items := by
  obtain ⟨before, after, listed, -⟩ := List.lookup_eq_some_iff.mp found
  rw [listed]
  exact List.mem_append_right _ List.mem_cons_self

theorem lookup_of_mem (distinct : (items.map (·.1)).Nodup) (listed : (key, value) ∈ items) :
    items.lookup key = some value := by
  induction items with
  | nil => cases listed
  | cons head rest ih =>
    obtain ⟨present, found⟩ := head
    rw [List.map_cons, List.nodup_cons] at distinct
    rcases List.mem_cons.mp listed with same | later
    · cases same
      simp
    · have other : (key == present) = false :=
        beq_false_of_ne fun e => distinct.1 (List.mem_map.mpr ⟨_, later, e⟩)
      rw [List.lookup_cons, other]
      exact ih distinct.2 later

end Lookups

section Dictionaries

variable [DecidableEq α] {other : α}

/-- The value of a key in a dictionary is set: a key that is there keeps its place. -/
def put (items : List (α × β)) (key : α) (value : β) : List (α × β) :=
  if items.any (·.1 = key) then items.map fun item => if item.1 = key then (key, value) else item
  else items ++ [(key, value)]

theorem put_fresh (fresh : key ∉ items.map (·.1)) : put items key value = items ++ [(key, value)] := by
  have none : ¬items.any (·.1 = key) = true := by
    simp only [List.any_eq_true, decide_eq_true_eq, not_exists, not_and]
    exact fun item listed same => fresh (List.mem_map.mpr ⟨item, listed, same⟩)
  rw [put, if_neg none]

theorem mem_put {item : α × β} (listed : item ∈ put items key value) :
    item = (key, value) ∨ item ∈ items ∧ item.1 ≠ key := by
  unfold put at listed
  split at listed
  · obtain ⟨old, before, rfl⟩ := List.mem_map.mp listed
    split
    · exact .inl rfl
    · next different => exact .inr ⟨before, different⟩
  · next absent =>
    rcases List.mem_append.mp listed with before | last
    · refine .inr ⟨before, fun same => absent (List.any_eq_true.mpr ⟨item, before, decide_eq_true same⟩)⟩
    · exact .inl (List.mem_singleton.mp last)

/-- What is done to every value is done to the one that is set. -/
theorem put_map {γ : Type} (f : β → γ) : put (items.map fun item => (item.1, f item.2)) key (f value) =
    (put items key value).map fun item => (item.1, f item.2) := by
  unfold put
  rw [List.any_map]
  split
  next here =>
    have present : items.any (·.1 = key) = true := here
    rw [if_pos present, List.map_map, List.map_map]
    refine List.map_congr_left fun item _ => ?_
    by_cases same : item.1 = key
    · simp [same]
    · simp [same]
  next here =>
    have absent : ¬items.any (·.1 = key) = true := here
    rw [if_neg absent, List.map_append, List.map_singleton]

section Lookup

variable [BEq α] [LawfulBEq α]

omit [DecidableEq α] in
theorem lookup_cons_ne {name : α} (differ : other ≠ name) (old : β) :
    ((name, old) :: items).lookup other = items.lookup other := by
  rw [List.lookup_cons, beq_false_of_ne differ]

theorem lookup_map_same (items : List (α × β)) (key : α) (value : β) (other : α) :
    (items.map fun item => if item.1 = key then (key, value) else item).lookup other =
      if other = key then (items.lookup key).map fun _ => value else items.lookup other := by
  induction items with
  | nil => simp
  | cons item items ih =>
    obtain ⟨name, old⟩ := item
    rw [List.map_cons]
    by_cases same : name = key
    · subst same
      rw [if_pos rfl]
      by_cases asked : other = name
      · subst asked
        simp
      · rw [lookup_cons_ne asked, lookup_cons_ne asked, ih, if_neg asked, if_neg asked]
    · rw [if_neg same]
      by_cases asked : other = name
      · subst asked
        simp [same]
      · rw [lookup_cons_ne asked, lookup_cons_ne asked, lookup_cons_ne (Ne.symm same), ih]

theorem lookup_put : (put items key value).lookup other = if other = key then some value else items.lookup other := by
  unfold put
  split
  · next present =>
    obtain ⟨item, listed, same⟩ := List.any_eq_true.mp present
    rw [lookup_map_same]
    split
    · cases found : items.lookup key with
      | none =>
        have differ := List.lookup_eq_none_iff.mp found item listed
        exact absurd (of_decide_eq_true same).symm (by simpa using differ)
      | some old => rfl
    · rfl
  · next absent =>
    have none : items.lookup key = none := by
      rw [List.lookup_eq_none_iff]
      intro item listed
      have differ : key ≠ item.1 := fun same =>
        absent (List.any_eq_true.mpr ⟨item, listed, decide_eq_true same.symm⟩)
      exact bne_iff_ne.mpr differ
    rw [List.lookup_append]
    by_cases asked : other = key
    · subst asked
      simp [none]
    · rw [lookup_cons_ne asked, if_neg asked, List.lookup_nil, Option.or_none]

end Lookup

end Dictionaries

end Darling
