import Darling.Library.JsonPaths

/-! `_value_at` and `_apply` of `generate_namespace_writer_registry.py`: the derived values put into the
parsed registry one after the other are put there all at once. -/
namespace Darling.Registry

open Jsons

/-- `cursor[step]`; a string has items too. -/
def getItem : Value → Step → Option Value
  | .obj members, .key name => members.lookup name
  | .arr items, .index position => items[position]?
  | .str text, .index position => text[position]?.map fun c => .str [c]
  | _, _ => none

/-- `_value_at`; an absent value is `none`. -/
def valueAt (document : Value) (path : Path) : Option Value := path.foldlM getItem document

/-- The assignment to a key of a dictionary. -/
def put (name : Points.Text) (value : Value) : Members → Members
  | [] => [(name, value)]
  | (other, old) :: rest => if other = name then (name, value) :: rest else (other, old) :: put name value rest

/-- `cursor[step] = value`; a position is no key of a registry. -/
def assign : Value → Step → Value → Option Value
  | .obj members, .key name, value => some (.obj (put name value members))
  | .arr items, .index position, value => if position < items.length then some
      (.arr (items.set position value)) else none
  | _, _, _ => none

/-- The walk along a path but its last step, which is assigned. There is no last step of the empty path. -/
def setAt : Value → Path → Value → Option Value
  | _, [], _ => none
  | cursor, [step], value => assign cursor step value
  | cursor, step :: rest, value => do
    let inner ← getItem cursor step
    assign cursor step (← setAt inner rest value)

/-- `_apply`; `none` where it raises. -/
def applyDerived (document : Value) (derived : List (Path × Value)) : Option Value :=
  derived.foldlM (fun updated (path, value) => setAt updated path value) document

/-- The derived value for a path. -/
def derivedAt (derived : List (Path × Value)) (path : Path) : Option Value := derived.lookup path

section Walking

theorem getItem_child {value child : Value} {step : Step} (found : value.child step = some child) :
    getItem value step = some child := by
  cases value <;> cases step <;> first | exact found | cases found

theorem valueAt_locate {path : Path} {value found : Value} (located : value.locate path = some found) :
    valueAt value path = some found := by
  induction path generalizing value with
  | nil => exact located
  | cons step path ih =>
    obtain ⟨child, here, below⟩ := Option.bind_eq_some_iff.mp located
    rw [valueAt, List.foldlM_cons, getItem_child here]
    exact ih below

theorem distinctItems_mem {items : List Value} {item : Value} (distinct : distinctItems items) (listed : item ∈ items) :
    item.Distinct := by
  induction items with
  | nil => cases listed
  | cons first rest ih =>
    rcases List.mem_cons.mp listed with rfl | later
    · exact distinct.1
    · exact ih distinct.2 later

theorem distinctMembers_mem {members : Members} {member : Points.Text × Value} (distinct : distinctMembers members)
    (listed : member ∈ members) : member.2.Distinct := by
  induction members with
  | nil => cases listed
  | cons first rest ih =>
    rcases List.mem_cons.mp listed with rfl | later
    · exact distinct.1
    · exact ih distinct.2 later

theorem child_distinct {value child : Value} {step : Step} (distinct : value.Distinct)
    (found : value.child step = some child) :
    child.Distinct := by
  cases value with
  | arr items =>
    cases step with
    | index position => exact distinctItems_mem distinct (List.mem_of_getElem? found)
    | key name => cases found
  | obj members =>
    cases step with
    | index position => cases found
    | key name => exact distinctMembers_mem distinct.2 (mem_of_lookup found)
  | _ => cases step <;> cases found

end Walking

section Assignment

variable {new : Path → Option Value}

theorem updateMembers_kept {members : Members} (kept : ∀ member ∈ members, ∀ path, new (.key member.1 :: path) = none) :
    updateMembers new members = members := by
  induction members with
  | nil => rfl
  | cons member rest ih =>
    obtain ⟨name, value⟩ := member
    rw [List.forall_mem_cons] at kept
    rw [updateMembers, update_none value kept.1, ih kept.2]

theorem put_update {members : Members} {name : Points.Text} {old : Value} (once : (members.map Prod.fst).Nodup)
    (kept : ∀ other path, other ≠ name → new (.key other :: path) = none) (found : members.lookup name = some old) :
    put name (old.update fun path => new (.key name :: path)) members = updateMembers new members := by
  induction members with
  | nil => cases found
  | cons member rest ih =>
    obtain ⟨other, value⟩ := member
    rw [List.map_cons, List.nodup_cons] at once
    by_cases same : other = name
    · subst same
      obtain rfl : value = old := by simpa using found
      have others : ∀ member ∈ rest, ∀ path, new (.key member.1 :: path) = none := fun member listed path =>
        kept member.1 path fun equal => once.1 (List.mem_map.mpr ⟨member, listed, equal⟩)
      rw [put, if_pos rfl, updateMembers, updateMembers_kept others]
    · have differs : (name == other) = false := by simpa using Ne.symm same
      rw [List.lookup_cons, differs] at found
      rw [put, if_neg same, updateMembers, update_none value fun path => kept other path same, ih once.2 found]

theorem set_update {items : List Value} {position : Nat} {old : Value}
    (kept : ∀ other path, other ≠ position → new (.index other :: path) = none) (found : items[position]? = some old) :
    items.set position (old.update fun path => new (.index position :: path)) = updateItems new 0 items := by
  refine List.ext_getElem? fun other => ?_
  rw [getElem?_updateItems, Nat.zero_add]
  by_cases same : other = position
  · subst same
    have bound := (List.getElem?_eq_some_iff.mp found).1
    rw [List.getElem?_set_self bound, found, Option.map_some]
  · rw [List.getElem?_set_ne (Ne.symm same)]
    cases items[other]? with
    | none => rfl
    | some item => rw [Option.map_some, update_none item fun path => kept other path same]

/-- The assignment of the child that is replaced, where nothing else is. -/
theorem assign_child {value old : Value} {step : Step} (distinct : value.Distinct) (here : new [] = none)
    (kept : ∀ other path, other ≠ step → new (other :: path) = none) (found : value.child step = some old) :
    assign value step (old.update fun path => new (step :: path)) = some (value.update new) := by
  cases value with
  | arr items =>
    cases step with
    | index position =>
      have items_ := set_update (fun other path differ => kept (.index other) path (by simpa using differ)) found
      have bound : position < items.length := (List.getElem?_eq_some_iff.mp found).1
      rw [assign, if_pos bound, items_, Parsed.update, here, Option.getD_none]
    | key name => cases found
  | obj members =>
    cases step with
    | index position => cases found
    | key name =>
      have members_ := put_update distinct.1 (fun other path differ =>
          kept (.key other) path (by simpa using differ)) found
      rw [assign, members_, Parsed.update, here, Option.getD_none]
  | _ => cases step <;> cases found

/-- One value is put where it belongs. -/
theorem setAt_update {path : Path} : ∀ {new : Path → Option Value} {document value : Value} (_ : document.Distinct)
    (_ : ∀ other, new other = if other = path then some value else none) (_ : path ≠ [])
    (_ : (document.locate path).isSome),
    setAt document path value = some (document.update new) := by
  induction path with
  | nil => intro _ _ _ _ _ some _; exact absurd rfl some
  | cons step rest ih =>
    intro new document value distinct replaced _ located
    obtain ⟨found, located⟩ := Option.isSome_iff_exists.mp located
    obtain ⟨child, here, below⟩ := Option.bind_eq_some_iff.mp located
    have kept : ∀ other path, other ≠ step → new (other :: path) = none := by
      intro other path differ
      simp [replaced, differ]
    have top : new [] = none := by simp [replaced]
    have assigned := assign_child distinct top kept here
    cases rest with
    | nil =>
      have last : child.update (fun path => new (step :: path)) = value := update_here (by simp [replaced]) child
      rw [last] at assigned
      exact assigned
    | cons next rest =>
      have inner : setAt child (next :: rest) value = some (child.update fun path => new (step :: path)) :=
        ih (child_distinct distinct here) (by intro other; simp [replaced]) (by simp) (by rw [below]; rfl)
      rw [setAt, getItem_child here]
      · simp only [Option.bind_eq_bind, Option.bind_some, inner, assigned]
      · simp

end Assignment

section Apply

/-- No path leads through another, and none stands twice. -/
abbrev Apart (derived : List (Path × Value)) : Prop := derived.Pairwise fun first second => ¬first.1 <+:
    second.1 ∧ ¬second.1 <+: first.1

/-- `_apply` puts every value where it belongs. -/
theorem applyDerived_update {derived : List (Path × Value)} : ∀ {document : Value} (_ : document.Distinct)
    (_ : ∀ entry ∈ derived, entry.2.Distinct) (_ : Apart derived)
    (_ : ∀ entry ∈ derived, entry.1 ≠ [] ∧ (document.locate entry.1).isSome),
    applyDerived document derived = some (document.update (derivedAt derived)) := by
  induction derived with
  | nil =>
    intro document _ _ _ _
    have kept : ∀ path, derivedAt [] path = none := fun _ => rfl
    rw [update_none document kept]
    rfl
  | cons entry rest ih =>
    intro document distinct values apart located
    obtain ⟨path, value⟩ := entry
    rw [List.forall_mem_cons] at values located
    obtain ⟨first, apart⟩ := List.pairwise_cons.mp apart
    let single : Path → Option Value := fun other => if other = path then some value else none
    have set : setAt document path value = some (document.update single) :=
      setAt_update distinct (fun _ => rfl) located.1.1 located.1.2
    have distinct' : (document.update single).Distinct := by
      refine update_distinct document distinct fun other found replaced => ?_
      obtain ⟨_, rfl⟩ : other = path ∧ value = found := by simpa [single] using replaced
      exact values.1
    have located' : ∀ entry ∈ rest, entry.1 ≠ [] ∧ ((document.update single).locate entry.1).isSome := by
      intro entry listed
      refine ⟨(located.2 entry listed).1, ?_⟩
      rw [locate_update, Option.isSome_map]
      · exact (located.2 entry listed).2
      · intro front behind split _
        refine if_neg fun same => (first entry listed).1 ?_
        exact ⟨behind, by rw [← same, split]⟩
    have separate : Separate single (derivedAt rest) := by
      intro other behind found replaced
      obtain ⟨rfl, _⟩ : other = path ∧ value = found := by simpa [single] using replaced
      rw [derivedAt, List.lookup_eq_none_iff]
      intro entry listed
      rw [bne_iff_ne]
      intro same
      exact (first entry listed).1 ⟨behind, same⟩
    have lookups : (fun other => (single other).or (derivedAt rest other)) = derivedAt ((path, value) :: rest) := by
      funext other
      by_cases same : other = path
      · subst same
        simp [single, derivedAt]
      · have differs : (other == path) = false := by simpa using same
        simp [single, derivedAt, same, List.lookup_cons, differs]
    rw [applyDerived, List.foldlM_cons]
    dsimp only
    rw [set]
    calc applyDerived (document.update single) rest
      _ = some ((document.update single).update (derivedAt rest)) := ih distinct' values.2 apart located'
      _ = some (document.update (derivedAt ((path, value) :: rest))) := by rw [update_update document separate, lookups]

end Apply

end Darling.Registry
