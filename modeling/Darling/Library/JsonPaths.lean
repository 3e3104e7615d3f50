import Darling.Library.Associations
import Darling.Library.Jsons

/-! Places in JSON values, and the replacement of the values at many places at once. -/
namespace Darling.Jsons

open Points (Text)

/-- The name of a member or the position of an item. -/
inductive Step where
  | key (name : Text)
  | index (position : Nat)
  deriving DecidableEq

abbrev Path := List Step

def Parsed.child : Value → Step → Option Value
  | .obj members, .key name => members.lookup name
  | .arr items, .index position => items[position]?
  | _, _ => none

/-- What stands at a path. -/
def Parsed.locate : Value → Path → Option Value
  | value, [] => some value
  | value, step :: rest => (value.child step).bind (·.locate rest)

/-- Neither an object nor an array. -/
def Parsed.isScalar : Value → Bool
  | .arr _ => false
  | .obj _ => false
  | _ => true

mutual
/-- What a function has for a path stands there instead. -/
def Parsed.update (new : Path → Option Value) : Value → Value
  | .arr items => (new []).getD (.arr (updateItems new 0 items))
  | .obj members => (new []).getD (.obj (updateMembers new members))
  | value => (new []).getD value

def updateItems (new : Path → Option Value) (position : Nat) : List Value → List Value
  | [] => []
  | item :: rest => item.update (fun path => new (.index position :: path)) :: updateItems new (position + 1) rest

def updateMembers (new : Path → Option Value) : Members → Members
  | [] => []
  | (name, value) :: rest => (name, value.update fun path => new (.key name :: path)) :: updateMembers new rest
end

section Update

theorem update_here {new : Path → Option Value} {value : Value} (replaced : new [] = some value) (old : Value) :
    old.update new = value := by
  cases old <;> simp [Parsed.update, replaced]

mutual
theorem update_none : ∀ (value : Value) {new : Path → Option Value} (_ : ∀ path, new path = none),
    value.update new = value
  | .arr items, _, kept => by rw [Parsed.update, kept, updateItems_none items 0 kept]; rfl
  | .obj members, _, kept => by rw [Parsed.update, kept, updateMembers_none members kept]; rfl
  | .null, _, kept | .bool _, _, kept | .int _, _, kept | .float _, _, kept | .str _, _,
      kept => by simp [Parsed.update, kept]

theorem updateItems_none : ∀ (items : List Value) (position : Nat) {new : Path → Option Value}
    (_ : ∀ path, new path = none),
    updateItems new position items = items
  | [], _, _, _ => rfl
  | item :: rest, position, _, kept => by
    rw [updateItems, update_none item fun path => kept (.index position :: path),
      updateItems_none rest (position + 1) kept]

theorem updateMembers_none : ∀ (members : Members) {new : Path → Option Value} (_ : ∀ path, new path = none),
    updateMembers new members = members
  | [], _, _ => rfl
  | (name, value) :: rest, _, kept => by
    rw [updateMembers, update_none value fun path => kept (.key name :: path), updateMembers_none rest kept]
end

/-- Nothing is replaced below a place that is. -/
def Separate (first second : Path → Option Value) : Prop :=
  ∀ path rest value, first path = some value → second (path ++ rest) = none

theorem Separate.below {first second : Path → Option Value} (separate : Separate first second) (step : Step) :
    Separate (fun path => first (step :: path)) fun path => second (step :: path) :=
  fun path rest value replaced => separate (step :: path) rest value replaced

theorem Separate.update_here {first second : Path → Option Value} (separate : Separate first second) {value : Value}
    (replaced : first [] = some value) (old : Value) :
    (old.update first).update second = old.update fun path => (first path).or (second path) := by
  have below : ∀ path, second path = none := fun path => separate [] path value replaced
  rw [Jsons.update_here replaced, update_none value below, Jsons.update_here]
  rw [replaced, Option.some_or]

mutual
/-- Two replacements in turn are one. -/
theorem update_update : ∀ (value : Value) {first second : Path → Option Value} (_ : Separate first second),
    (value.update first).update second = value.update fun path => (first path).or (second path)
  | .arr items, first, second, separate => by
    cases replaced : first [] with
    | some value => exact separate.update_here replaced _
    | none =>
      have items := updateItems_updateItems items 0 separate
      simp only [Parsed.update, replaced, Option.getD_none, items, Option.none_or]
  | .obj members, first, second, separate => by
    cases replaced : first [] with
    | some value => exact separate.update_here replaced _
    | none =>
      have members := updateMembers_updateMembers members separate
      simp only [Parsed.update, replaced, Option.getD_none, members, Option.none_or]
  | .null, first, second, separate | .bool _, first, second, separate | .int _, first, second, separate
  | .float _, first, second, separate | .str _, first, second, separate => by
    cases replaced : first [] with
    | some value => exact separate.update_here replaced _
    | none => simp only [Parsed.update, replaced, Option.getD_none, Option.none_or]

theorem updateItems_updateItems : ∀ (items : List Value) (position : Nat) {first second : Path → Option Value}
    (_ : Separate first second),
    updateItems second position (updateItems first position items) =
      updateItems (fun path => (first path).or (second path)) position items
  | [], _, _, _, _ => rfl
  | item :: rest, position, first, second, separate => by
    rw [updateItems, updateItems, updateItems, update_update item (separate.below _),
      updateItems_updateItems rest (position + 1) separate]

theorem updateMembers_updateMembers : ∀ (members : Members) {first second : Path → Option Value}
    (_ : Separate first second),
    updateMembers second (updateMembers first members) = updateMembers (fun path =>
      (first path).or (second path)) members
  | [], _, _, _ => rfl
  | (name, value) :: rest, first, second, separate => by
    rw [updateMembers, updateMembers, updateMembers, update_update value (separate.below _),
      updateMembers_updateMembers rest separate]
end

theorem updateMembers_keys (new : Path → Option Value) (members : Members) :
    (updateMembers new members).map Prod.fst = members.map Prod.fst := by
  induction members with
  | nil => rfl
  | cons member rest ih =>
    obtain ⟨name, value⟩ := member
    rw [updateMembers, List.map_cons, List.map_cons, ih]

mutual
theorem update_distinct : ∀ (value : Value) {new : Path → Option Value} (_ : value.Distinct)
    (_ : ∀ path value, new path = some value → value.Distinct), (value.update new).Distinct
  | .arr items, new, distinct, values => by
    cases replaced : new [] with
    | some value => rw [update_here replaced]; exact values [] value replaced
    | none =>
      rw [Parsed.update, replaced, Option.getD_none, Parsed.Distinct]
      exact updateItems_distinct items 0 distinct values
  | .obj members, new, distinct, values => by
    cases replaced : new [] with
    | some value => rw [update_here replaced]; exact values [] value replaced
    | none =>
      rw [Parsed.update, replaced, Option.getD_none, Parsed.Distinct, updateMembers_keys]
      exact ⟨distinct.1, updateMembers_distinct members distinct.2 values⟩
  | .null, new, _, values | .bool _, new, _, values | .int _, new, _, values | .float _, new, _, values
  | .str _, new, _, values => by
    cases replaced : new [] with
    | some value => rw [update_here replaced]; exact values [] value replaced
    | none => simp [Parsed.update, replaced, Parsed.Distinct]

theorem updateItems_distinct : ∀ (items : List Value) (position : Nat) {new : Path → Option Value}
    (_ : distinctItems items)
    (_ : ∀ path value, new path = some value → value.Distinct), distinctItems (updateItems new position items)
  | [], _, _, _, _ => trivial
  | item :: rest, position, _, distinct, values =>
    ⟨update_distinct item distinct.1 fun path value => values (.index position :: path) value,
      updateItems_distinct rest (position + 1) distinct.2 values⟩

theorem updateMembers_distinct : ∀ (members : Members) {new : Path → Option Value} (_ : distinctMembers members)
    (_ : ∀ path value, new path = some value → value.Distinct), distinctMembers (updateMembers new members)
  | [], _, _, _ => trivial
  | (name, value) :: rest, _, distinct, values =>
    ⟨update_distinct value distinct.1 fun path value => values (.key name :: path) value,
      updateMembers_distinct rest distinct.2 values⟩
end

theorem getElem?_updateItems (new : Path → Option Value) (items : List Value) (start position : Nat) :
    (updateItems new start items)[position]? =
      items[position]?.map fun item => item.update fun path => new (.index (start + position) :: path) := by
  induction items generalizing start position with
  | nil => rfl
  | cons item rest ih =>
    cases position with
    | zero => simp [updateItems]
    | succ position =>
      rw [updateItems, List.getElem?_cons_succ, List.getElem?_cons_succ, ih, Nat.add_right_comm, Nat.add_assoc]

theorem lookup_updateMembers (new : Path → Option Value) (members : Members) (name : Text) :
    (updateMembers new members).lookup name =
      (members.lookup name).map fun value => value.update fun path => new (.key name :: path) := by
  induction members with
  | nil => rfl
  | cons member rest ih =>
    obtain ⟨other, value⟩ := member
    by_cases same : name = other
    · subst same
      simp [updateMembers]
    · have differs : (name == other) = false := by simpa using same
      simp only [updateMembers, List.lookup_cons, differs, ih]

theorem child_update {new : Path → Option Value} (kept : new [] = none) (value : Value) (step : Step) :
    (value.update new).child step = (value.child step).map fun child => child.update fun path =>
      new (step :: path) := by
  cases value with
  | arr items =>
    cases step with
    | index position => simp [Parsed.update, kept, Parsed.child, getElem?_updateItems]
    | key name => simp [Parsed.update, kept, Parsed.child]
  | obj members =>
    cases step with
    | index position => simp [Parsed.update, kept, Parsed.child]
    | key name => simp [Parsed.update, kept, Parsed.child, lookup_updateMembers]
  | _ => cases step <;> simp [Parsed.update, kept, Parsed.child]

/-- A place stays where no value above it is replaced. -/
theorem locate_update {path : Path} : ∀ {new : Path → Option Value} {value : Value}
    (_ : ∀ front rest, front ++ rest = path → rest ≠ [] → new front = none),
    (value.update new).locate path = (value.locate path).map fun old => old.update fun rest => new (path ++ rest) := by
  induction path with
  | nil => intros; rfl
  | cons step path ih =>
    intro new value kept
    rw [Parsed.locate, Parsed.locate, child_update (kept [] (step :: path) rfl (by simp))]
    cases value.child step with
    | none => rfl
    | some child => exact ih fun front rest split => kept (step :: front) rest (by rw [← split]; rfl)

end Update

section Equality

theorem sameItems_forall {first second : List Value} (each : List.Forall₂ (fun a b => a.same b = true) first second) :
    sameItems first second = true := by
  induction each with
  | nil => rfl
  | cons same _ ih => rw [sameItems, same, ih]; rfl

/-- Members in one order with the same values. -/
theorem sameMembers_forall {first second other : Members}
    (each : List.Forall₂ (fun a b => a.1 = b.1 ∧ a.2.same b.2 = true) first second)
    (found : ∀ member ∈ second, other.lookup member.1 = some member.2) : sameMembers first other = true := by
  induction each with
  | nil => rfl
  | @cons a b first second same _ ih =>
    obtain ⟨name, value⟩ := a
    rw [List.forall_mem_cons] at found
    obtain ⟨rfl, equal⟩ := same
    simp only [sameMembers, found.1, equal, ih found.2, Bool.and_self]

theorem same_obj {first second : Members}
    (each : List.Forall₂ (fun a b => a.1 = b.1 ∧ a.2.same b.2 = true) first second)
    (once : (second.map Prod.fst).Nodup) :
    (Parsed.obj first).same (.obj second) = true := by
  have members := sameMembers_forall each fun member listed => lookup_of_mem once listed
  rw [Parsed.same, members, each.length_eq]
  simp

mutual
theorem same_refl : ∀ (value : Value) (_ : value.Distinct), value.same value = true
  | .arr items, distinct => by rw [Parsed.same]; exact sameItems_forall (sameItems_refl items distinct)
  | .obj members, distinct => same_obj (sameMembers_refl members distinct.2) distinct.1
  | .null, _ => rfl
  | .str _, _ => by simp [Parsed.same]
  | .bool _, _ => by simp [Parsed.same, sameQuantity, Parsed.quantity]
  | .int _, _ => by simp [Parsed.same, sameQuantity, Parsed.quantity]
  | .float x, _ => by cases x <;> simp [Parsed.same, sameQuantity, Parsed.quantity, Compared.quantity]

theorem sameItems_refl : ∀ (items : List Value) (_ : distinctItems items),
    List.Forall₂ (fun a b => a.same b = true) items items
  | [], _ => .nil
  | item :: rest, distinct => .cons (same_refl item distinct.1) (sameItems_refl rest distinct.2)

theorem sameMembers_refl : ∀ (members : Members) (_ : distinctMembers members),
    List.Forall₂ (fun a b => a.1 = b.1 ∧ a.2.same b.2 = true) members members
  | [], _ => .nil
  | (_, value) :: rest, distinct => .cons ⟨rfl, same_refl value distinct.1⟩ (sameMembers_refl rest distinct.2)
end

end Equality

end Darling.Jsons
