import Darling.Library.JsonWriting
import Darling.Registry.Scanner
import Darling.Registry.Updating

/-! `_splice` of `generate_namespace_writer_registry.py`: derived scalars written into the text of the
registry, against the derived values put into its parsed value. -/
namespace Darling.Registry

open Points (Point Text)
open Jsons
open Splices (flat_cons flat_append spans_append spans_unkeyed)

section Model

variable (doubles : Doubles)

/-- The loop of `_splice` over the derived values, with the edits that it collects. -/
def gather (text : Text) (document : Value) (spans : Spans) :
    List (Path × Value) → Except Failure (List (Splices.Edit Point))
  | [] => .ok []
  | (path, value) :: rest =>
    match spans.lookup path with
    | none =>
      if (valueAt document path).any (·.same value) then gather text document spans rest
      else .error (.notScalar path)
    | some (start, stop) => do
      let edits ← gather text document spans rest
      let rendered := dumps doubles value
      return if (text.take stop).drop start ≠ rendered then (start, stop, rendered) :: edits else edits

/-- `_splice`. -/
def splice (text : Text) (derived : List (Path × Value)) (document : Value) : Except Failure Text := do
  let spans ← scalarSpans text
  let edits ← gather doubles text document spans derived
  return Splices.applyEdits text (Splices.sortEdits edits)

/-- A dictionary from paths to JSON values. -/
structure Derived where
  entries : List (Path × Value)
  once : (entries.map Prod.fst).Nodup
  distinct : ∀ entry ∈ entries, entry.2.Distinct
  finite : ∀ entry ∈ entries, entry.2.Finite doubles

end Model

section Paths

variable {doubles : Doubles}

/-- The paths of a list are those with a property, each of them once. -/
def Lists (paths : List Path) (scope : Path → Prop) : Prop := paths.Nodup ∧ ∀ path, path ∈ paths ↔ scope path

theorem Lists.congr {paths : List Path} {scope scope' : Path → Prop} (lists : Lists paths scope)
    (same : ∀ path, scope path ↔ scope' path) : Lists paths scope' :=
  ⟨lists.1, fun path => (lists.2 path).trans (same path)⟩

theorem Lists.append {first second : List Path} {scope scope' : Path → Prop} (lists : Lists first scope)
    (lists' : Lists second scope') (disjoint : ∀ path, scope path → ¬scope' path) :
    Lists (first ++ second) fun path => scope path ∨ scope' path := by
  refine ⟨List.nodup_append.mpr ⟨lists.1, lists'.1, ?_⟩, ?_⟩
  · intro path here other there same
    subst same
    exact disjoint path ((lists.2 path).mp here) ((lists'.2 path).mp there)
  · intro path
    rw [List.mem_append, lists.2, lists'.2]

/-- A path that leads to a scalar of a value at another path. -/
def AtScalar (base : Path) (value : Value) (path : Path) : Prop :=
  ∃ rest scalar, path = base ++ rest ∧ value.locate rest = some scalar ∧ scalar.isScalar = true

theorem atScalar_child {base path : Path} {value : Value} (container : value.isScalar = false) :
    AtScalar base value path ↔ ∃ step child, value.child step = some child ∧ AtScalar (base ++ [step]) child path := by
  constructor
  · rintro ⟨rest, scalar, rfl, located, isScalar⟩
    cases rest with
    | nil =>
      obtain rfl : value = scalar := by simpa [Parsed.locate] using located
      simp [container] at isScalar
    | cons step rest =>
      obtain ⟨child, here, below⟩ := Option.bind_eq_some_iff.mp located
      exact ⟨step, child, here, rest, scalar, by simp, below, isScalar⟩
  · rintro ⟨step, child, here, rest, scalar, rfl, located, isScalar⟩
    exact ⟨step :: rest, scalar, by simp, by rw [Parsed.locate, here]; exact located, isScalar⟩

theorem atScalar_items {base path : Path} {items : List Value} :
    AtScalar base (.arr items) path ↔
      ∃ position item, items[position]? = some item ∧ AtScalar (base ++ [.index position]) item path := by
  rw [atScalar_child rfl]
  constructor
  · rintro ⟨step, child, here, below⟩
    cases step with
    | index position => exact ⟨position, child, here, below⟩
    | key name => cases here
  · rintro ⟨position, item, here, below⟩
    exact ⟨.index position, item, here, below⟩

theorem atScalar_members {base path : Path} {members : Members} (once : (members.map Prod.fst).Nodup) :
    AtScalar base (.obj members) path ↔ ∃ member ∈ members, AtScalar (base ++ [.key member.1]) member.2 path := by
  rw [atScalar_child rfl]
  constructor
  · rintro ⟨step, child, here, below⟩
    cases step with
    | index position => cases here
    | key name => exact ⟨(name, child), mem_of_lookup here, below⟩
  · rintro ⟨⟨name, value⟩, listed, below⟩
    exact ⟨.key name, value, lookup_of_mem once listed, below⟩

/-- Different steps lead to different places. -/
theorem atScalar_step {base path : Path} {step step' : Step} {value value' : Value}
    (here : AtScalar (base ++ [step]) value path)
    (there : AtScalar (base ++ [step']) value' path) : step = step' := by
  obtain ⟨rest, _, rfl, _⟩ := here
  obtain ⟨rest', _, same, _⟩ := there
  have same : base ++ step :: rest = base ++ step' :: rest' := by simpa using same
  exact (List.cons.inj (List.append_cancel_left same)).1

abbrev keys (pieces : List Piece) : List Path := pieces.filterMap Splices.Piece.key

theorem keys_append (first second : List Piece) : keys (first ++ second) = keys first ++ keys second :=
  List.filterMap_append

theorem keys_last (text : Text) : keys [⟨none, text⟩] = [] := rfl

theorem keys_unkeyed (text : Text) (pieces : List Piece) : keys (⟨none, text⟩ :: pieces) = keys pieces := rfl

theorem readNumber_isScalar {read : Text → Double} {text : Text} {value : Value}
    (found : readNumber read text = some value) :
    value.isScalar = true := by
  simp only [readNumber, Option.bind_eq_some_iff] at found
  obtain ⟨⟨number, rest⟩, _, ⟨fractional, rest'⟩, _, ⟨scaled, rest''⟩, _, ends⟩ := found
  dsimp only at ends
  split at ends
  · cases ends
  split at ends
  · cases ends
    rfl
  · cases ends
    rfl

theorem token_isScalar (token : Token doubles) : token.value.isScalar = true := by
  obtain ⟨text, value, scalar⟩ := token
  cases scalar with
  | string _ => rfl
  | bare read =>
    unfold readBare at read
    split at read
    · cases read
      rfl
    split at read
    · cases read
      rfl
    split at read
    · cases read
      rfl
    exact readNumber_isScalar read

theorem atScalar_scalar {base path : Path} {value : Value} (scalar : value.isScalar = true) :
    AtScalar base value path ↔ path = base := by
  constructor
  · rintro ⟨rest, found, rfl, located, _⟩
    cases rest with
    | nil => simp
    | cons step rest =>
      obtain ⟨child, here, _⟩ := Option.bind_eq_some_iff.mp located
      cases value with
      | arr items => cases scalar
      | obj members => cases scalar
      | _ => cases step <;> cases here
  · rintro rfl
    exact ⟨[], value, by simp, rfl, scalar⟩

theorem exists_cons_getElem? {α : Type} {first : α} {rest : List α} {property : Nat → α → Prop} :
    (∃ position item, (first :: rest)[position]? = some item ∧ property position item) ↔
      property 0 first ∨ ∃ position item, rest[position]? = some item ∧ property (position + 1) item := by
  constructor
  · rintro ⟨position, item, found, holds⟩
    cases position with
    | zero =>
      obtain rfl : first = item := by simpa using found
      exact .inl holds
    | succ position => exact .inr ⟨position, item, found, holds⟩
  · rintro (holds | ⟨position, item, found, holds⟩)
    · exact ⟨0, first, rfl, holds⟩
    · exact ⟨position + 1, item, found, holds⟩

mutual
/-- The pieces with a key are the scalars. -/
theorem keys_node : ∀ (node : Node doubles) (path : Path), node.value.Distinct →
    Lists (keys (nodePieces path node)) (AtScalar path node.value)
  | .scalar token, path, _ => by
    refine ⟨List.nodup_singleton path, fun found => ?_⟩
    rw [Node.value, atScalar_scalar (token_isScalar token)]
    exact List.mem_singleton
  | .emptyArray blank, path, _ => by
    refine ⟨List.nodup_nil, fun found => ?_⟩
    rw [Node.value, atScalar_items]
    simp [nodePieces]
  | .emptyObject blank, path, _ => by
    refine ⟨List.nodup_nil, fun found => ?_⟩
    rw [Node.value, atScalar_members (by simp)]
    simp [nodePieces]
  | .array items, path, distinct => by
    rw [Node.value] at distinct ⊢
    rw [nodePieces, keys_unkeyed, keys_append, keys_last, List.append_nil]
    refine (keys_items items path 0 distinct).congr fun found => ?_
    simp only [atScalar_items, Nat.zero_add]
  | .object members, path, distinct => by
    rw [Node.value] at distinct ⊢
    rw [nodePieces, keys_unkeyed, keys_append, keys_last, List.append_nil]
    exact (keys_members members path distinct.1 distinct.2).congr fun found => (atScalar_members distinct.1).symm

theorem keys_items : ∀ (items : Items doubles) (path : Path) (start : Nat), distinctItems items.values →
    Lists (keys (itemPieces path start items)) fun found =>
      ∃ position item, items.values[position]? = some item ∧ AtScalar (path ++ [.index (start + position)]) item found
  | .last before node after, path, start, distinct => by
    rw [itemPieces, keys_unkeyed, keys_append, keys_last, List.append_nil]
    refine (keys_node node (path ++ [.index start]) distinct.1).congr fun found => ?_
    simp [Items.values, List.getElem?_singleton]
  | .more before node after rest, path, start, distinct => by
    rw [itemPieces, keys_unkeyed, keys_append, keys_unkeyed]
    refine ((keys_node node (path ++ [.index start]) distinct.1).append
      (keys_items rest path (start + 1) distinct.2) ?_).congr ?_
    · rintro found here ⟨position, item, _, there⟩
      have same : Step.index start = .index (start + 1 + position) := atScalar_step here there
      simp only [Step.index.injEq] at same
      omega
    · intro found
      rw [Items.values, exists_cons_getElem?]
      simp only [Nat.add_zero, Nat.add_assoc, Nat.add_comm 1]

theorem keys_members : ∀ (members : Fields doubles) (path : Path), (members.values.map Prod.fst).Nodup →
    distinctMembers members.values →
    Lists (keys (memberPieces path members)) fun found =>
      ∃ member ∈ members.values, AtScalar (path ++ [.key member.1]) member.2 found
  | .last before key between ahead node after, path, _, distinct => by
    rw [memberPieces, keys_unkeyed, keys_append, keys_last, List.append_nil]
    refine (keys_node node (path ++ [.key key.name]) distinct.1).congr fun found => ?_
    simp [Fields.values]
  | .more before key between ahead node after rest, path, once, distinct => by
    rw [Fields.values, List.map_cons, List.nodup_cons] at once
    rw [memberPieces, keys_unkeyed, keys_append, keys_unkeyed]
    refine ((keys_node node (path ++ [.key key.name]) distinct.1).append
      (keys_members rest path once.2 distinct.2) ?_).congr ?_
    · rintro found here ⟨member, listed, there⟩
      have same : Step.key key.name = .key member.1 := atScalar_step here there
      simp only [Step.key.injEq] at same
      exact once.1 (List.mem_map.mpr ⟨member, listed, same.symm⟩)
    · intro found
      simp [Fields.values]
end

mutual
theorem nonempty_node : ∀ (node : Node doubles) (path : Path), ∀ piece ∈ nodePieces path node, piece.key.isSome →
    piece.text ≠ []
  | .scalar token, path => by
    obtain ⟨c, later, text, _⟩ := token.first
    simp [nodePieces, text]
  | .emptyArray blank, path => by simp [nodePieces]
  | .emptyObject blank, path => by simp [nodePieces]
  | .array items, path => by
    have inside := nonempty_items items path 0
    simp only [nodePieces, List.forall_mem_cons, List.forall_mem_append]
    simpa using inside
  | .object members, path => by
    have inside := nonempty_members members path
    simp only [nodePieces, List.forall_mem_cons, List.forall_mem_append]
    simpa using inside

theorem nonempty_items : ∀ (items : Items doubles) (path : Path) (start : Nat),
    ∀ piece ∈ itemPieces path start items, piece.key.isSome → piece.text ≠ []
  | .last before node after, path, start => by
    have here := nonempty_node node (path ++ [.index start])
    simp only [itemPieces, List.forall_mem_cons, List.forall_mem_append]
    simpa using here
  | .more before node after rest, path, start => by
    have here := nonempty_node node (path ++ [.index start])
    have later := nonempty_items rest path (start + 1)
    simp only [itemPieces, List.forall_mem_cons, List.forall_mem_append]
    exact ⟨by simp, here, by simp, later⟩

theorem nonempty_members : ∀ (members : Fields doubles) (path : Path),
    ∀ piece ∈ memberPieces path members, piece.key.isSome → piece.text ≠ []
  | .last before key between ahead node after, path => by
    have here := nonempty_node node (path ++ [.key key.name])
    simp only [memberPieces, List.forall_mem_cons, List.forall_mem_append]
    simpa using here
  | .more before key between ahead node after rest, path => by
    have here := nonempty_node node (path ++ [.key key.name])
    have later := nonempty_members rest path
    simp only [memberPieces, List.forall_mem_cons, List.forall_mem_append]
    exact ⟨by simp, here, by simp, later⟩
end

end Paths

section Replacing

variable {doubles : Doubles} {new : Path → Option Value}

/-- What is written for a path. -/
def rendered (doubles : Doubles) (new : Path → Option Value) (path : Path) : Option Text :=
  (new path).map (dumps doubles)

/-- The values for a value: none stands below another, and an object or an array is there already. -/
structure Fits (doubles : Doubles) (new : Path → Option Value) (value : Value) : Prop where
  distinct : ∀ path found, new path = some found → found.Distinct
  finite : ∀ path found, new path = some found → found.Finite doubles
  apart : ∀ path found step rest, new path = some found → new (path ++ step :: rest) = none
  equal : ∀ path found old, new path = some found → value.locate path = some old → old.isScalar = false →
    old.same found = true

theorem Fits.child {value child : Value} {step : Step} (fits : Fits doubles new value)
    (here : value.child step = some child) :
    Fits doubles (fun rest => new (step :: rest)) child where
  distinct path := fits.distinct (step :: path)
  finite path := fits.finite (step :: path)
  apart path := fits.apart (step :: path)
  equal path found old replaced located := fits.equal (step :: path) found old replaced
    (by rw [Parsed.locate, here]; exact located)

theorem replace_unkeyed (text : Text) : Splices.Piece.replace (rendered doubles new)
    (⟨none, text⟩ : Piece) = text := rfl

/-- Nothing is replaced in an object or an array that has a derived value itself. -/
theorem replaced_container {node : Node doubles} {path : Path} {value : Value} (container : node.value.isScalar = false)
    (distinct : node.value.Distinct) (fits : Fits doubles (fun rest => new (path ++ rest)) node.value)
    (replaced : new path = some value) :
    (nodePieces path node).flatMap (Splices.Piece.replace (rendered doubles new)) = node.text := by
  have kept : ∀ piece ∈ nodePieces path node, Splices.Piece.replace (rendered doubles new) piece = piece.text := by
    intro piece listed
    cases keyed : piece.key with
    | none => simp [Splices.Piece.replace, keyed]
    | some key =>
      have member : key ∈ keys (nodePieces path node) := List.mem_filterMap.mpr ⟨piece, listed, keyed⟩
      obtain ⟨rest, scalar, rfl, located, isScalar⟩ := ((keys_node node path distinct).2 key).mp member
      cases rest with
      | nil =>
        obtain rfl : node.value = scalar := by simpa [Parsed.locate] using located
        simp [container] at isScalar
      | cons step rest =>
        have below := fits.apart [] value step rest (by simpa using replaced)
        have below : new (path ++ step :: rest) = none := by simpa using below
        simp [Splices.Piece.replace, keyed, rendered, below]
  rw [← flat_nodePieces path node, Splices.flat, List.flatMap_congr kept]

/-- A tree with the text of the pieces and the value of the update. -/
def Replaces (doubles : Doubles) (text : Text) (value : Value) : Prop :=
  ∃ tree : Node doubles, tree.text = text ∧ tree.value.same value = true ∧ tree.value.Distinct

theorem update_scalar {value : Value} (scalar : value.isScalar = true) (kept : new [] = none) :
    value.update new = value := by
  cases value with
  | arr items => cases scalar
  | obj members => cases scalar
  | _ => simp [Parsed.update, kept]

theorem replaced_scalar (token : Token doubles) (path : Path) (distinct : token.value.Distinct)
    (fits : Fits doubles (fun rest => new (path ++ rest)) token.value) :
    Replaces doubles (Splices.Piece.replace (rendered doubles new) (⟨some path, token.text⟩ : Piece))
      (token.value.update fun rest => new (path ++ rest)) := by
  cases replaced : new path with
  | none =>
    have here : new (path ++ []) = none := by simpa using replaced
    rw [update_scalar (token_isScalar token) here]
    exact ⟨.scalar token, by simp [Splices.Piece.replace, rendered, replaced, Node.text],
      by rw [Node.value]; exact same_refl _ distinct, by rw [Node.value]; exact distinct⟩
  | some value =>
    have here : new (path ++ []) = some value := by simpa using replaced
    obtain ⟨tree, text, rfl⟩ := dumps_tree value (fits.finite [] value here)
    rw [update_here here]
    exact ⟨tree, by simp [Splices.Piece.replace, rendered, replaced, text], same_refl _ (fits.distinct [] _ here),
      fits.distinct [] _ here⟩

/-- An object or an array that has a derived value itself stays, for it has that value. -/
theorem replaced_equal {node : Node doubles} {path : Path} {value : Value} (container : node.value.isScalar = false)
    (distinct : node.value.Distinct) (fits : Fits doubles (fun rest => new (path ++ rest)) node.value)
    (replaced : new path = some value) :
    Replaces doubles ((nodePieces path node).flatMap (Splices.Piece.replace (rendered doubles new)))
      (node.value.update fun rest => new (path ++ rest)) := by
  have here : new (path ++ []) = some value := by simpa using replaced
  rw [replaced_container container distinct fits replaced, update_here here]
  exact ⟨node, rfl, fits.equal [] value node.value here rfl container, distinct⟩

theorem forall_names {first second : Members}
    (each : List.Forall₂ (fun a b => a.1 = b.1 ∧ a.2.same b.2 = true) first second) :
    first.map Prod.fst = second.map Prod.fst := by
  induction each with
  | nil => rfl
  | cons same _ ih => rw [List.map_cons, List.map_cons, same.1, ih]

theorem shifted (new : Path → Option Value) (path : Path) (step : Step) :
    (fun rest => new (path ++ [step] ++ rest)) = fun rest => new (path ++ step :: rest) := by
  funext rest
  rw [List.append_assoc, List.singleton_append]

mutual
/-- The text with the pieces replaced has the updated value. -/
theorem replaced_node : ∀ (node : Node doubles) (path : Path), node.value.Distinct →
    Fits doubles (fun rest => new (path ++ rest)) node.value →
    Replaces doubles ((nodePieces path node).flatMap (Splices.Piece.replace (rendered doubles new)))
      (node.value.update fun rest => new (path ++ rest))
  | .scalar token, path, distinct, fits => by
    rw [Node.value] at distinct fits ⊢
    rw [nodePieces, List.flatMap_singleton]
    exact replaced_scalar token path distinct fits
  | .emptyArray blank, path, distinct, fits => by
    cases replaced : new path with
    | some value => exact replaced_equal (by rw [Node.value]; rfl) distinct fits replaced
    | none =>
      refine ⟨.emptyArray blank, ?_, ?_, distinct⟩
      · rw [nodePieces, List.flatMap_singleton, replace_unkeyed, Node.text]
      · simp [Node.value, Parsed.update, replaced, updateItems, Parsed.same, sameItems]
  | .emptyObject blank, path, distinct, fits => by
    cases replaced : new path with
    | some value => exact replaced_equal (by rw [Node.value]; rfl) distinct fits replaced
    | none =>
      refine ⟨.emptyObject blank, ?_, ?_, distinct⟩
      · rw [nodePieces, List.flatMap_singleton, replace_unkeyed, Node.text]
      · simp [Node.value, Parsed.update, replaced, updateMembers, Parsed.same, sameMembers]
  | .array items, path, distinct, fits => by
    cases replaced : new path with
    | some value => exact replaced_equal (by rw [Node.value]; rfl) distinct fits replaced
    | none =>
      rw [Node.value] at distinct fits ⊢
      have each : ∀ position item, items.values[position]? = some item →
          Fits doubles (fun rest => new (path ++ .index (0 + position) :: rest)) item := by
        intro position item found
        rw [Nat.zero_add]
        exact fits.child (show (Parsed.arr items.values).child (.index position) = some item from found)
      obtain ⟨tree, text, same, distinct'⟩ := replaced_items items path 0 distinct each
      refine ⟨.array tree, ?_, ?_, by rw [Node.value]; exact distinct'⟩
      · rw [Node.text, text, nodePieces]
        simp [replace_unkeyed]
      · rw [Node.value, Parsed.update, List.append_nil, replaced, Option.getD_none, Parsed.same]
        exact sameItems_forall same
  | .object members, path, distinct, fits => by
    cases replaced : new path with
    | some value => exact replaced_equal (by rw [Node.value]; rfl) distinct fits replaced
    | none =>
      rw [Node.value] at distinct fits ⊢
      have each : ∀ member ∈ members.values, Fits doubles (fun rest => new (path ++ .key member.1 :: rest))
          member.2 := by
        rintro ⟨name, value⟩ listed
        exact fits.child (show (Parsed.obj members.values).child (.key name) =
          some value from lookup_of_mem distinct.1 listed)
      obtain ⟨tree, text, same, distinct'⟩ := replaced_members members path distinct.2 each
      have names : tree.values.map Prod.fst = members.values.map Prod.fst := by
        rw [forall_names same, updateMembers_keys]
      refine ⟨.object tree, ?_, ?_, by rw [Node.value]; exact ⟨by rw [names]; exact distinct.1, distinct'⟩⟩
      · rw [Node.text, text, nodePieces]
        simp [replace_unkeyed]
      · rw [Node.value, Parsed.update, List.append_nil, replaced, Option.getD_none]
        exact same_obj same (by rw [updateMembers_keys]; exact distinct.1)

theorem replaced_items : ∀ (items : Items doubles) (path : Path) (start : Nat), distinctItems items.values →
    (∀ position item, items.values[position]? = some item →
      Fits doubles (fun rest => new (path ++ .index (start + position) :: rest)) item) →
    ∃ tree : Items doubles, tree.text = (itemPieces path start items).flatMap
      (Splices.Piece.replace (rendered doubles new)) ∧
      List.Forall₂ (fun a b => a.same b = true) tree.values
        (updateItems (fun rest => new (path ++ rest)) start items.values) ∧
      distinctItems tree.values
  | .last before node after, path, start, distinct, each => by
    have fits := each 0 node.value rfl
    rw [Nat.add_zero, ← shifted] at fits
    obtain ⟨tree, text, same, distinct'⟩ := replaced_node node (path ++ [.index start]) distinct.1 fits
    rw [shifted] at same
    refine ⟨.last before tree after, ?_, .cons same .nil, ⟨distinct', trivial⟩⟩
    rw [Items.text, text, itemPieces]
    simp [replace_unkeyed]
  | .more before node after rest, path, start, distinct, each => by
    have fits := each 0 node.value rfl
    rw [Nat.add_zero, ← shifted] at fits
    have later : ∀ position item, rest.values[position]? = some item →
        Fits doubles (fun tail => new (path ++ .index (start + 1 + position) :: tail)) item := by
      intro position item found
      rw [Nat.add_assoc, Nat.add_comm 1]
      exact each (position + 1) item found
    obtain ⟨tree, text, same, distinct'⟩ := replaced_node node (path ++ [.index start]) distinct.1 fits
    obtain ⟨trees, texts, sames, distincts⟩ := replaced_items rest path (start + 1) distinct.2 later
    rw [shifted] at same
    refine ⟨.more before tree after trees, ?_, .cons same sames, ⟨distinct', distincts⟩⟩
    rw [Items.text, text, texts, itemPieces]
    simp [replace_unkeyed]

theorem replaced_members : ∀ (members : Fields doubles) (path : Path), distinctMembers members.values →
    (∀ member ∈ members.values, Fits doubles (fun rest => new (path ++ .key member.1 :: rest)) member.2) →
    ∃ tree : Fields doubles, tree.text = (memberPieces path members).flatMap
      (Splices.Piece.replace (rendered doubles new)) ∧
      List.Forall₂ (fun a b => a.1 = b.1 ∧ a.2.same b.2 = true) tree.values
        (updateMembers (fun rest => new (path ++ rest)) members.values) ∧
      distinctMembers tree.values
  | .last before key between ahead node after, path, distinct, each => by
    have fits := each (key.name, node.value) (by simp [Fields.values])
    rw [← shifted] at fits
    obtain ⟨tree, text, same, distinct'⟩ := replaced_node node (path ++ [.key key.name]) distinct.1 fits
    rw [shifted] at same
    refine ⟨.last before key between ahead tree after, ?_, .cons ⟨rfl, same⟩ .nil, ⟨distinct', trivial⟩⟩
    rw [Fields.text, text, memberPieces]
    simp [replace_unkeyed]
  | .more before key between ahead node after rest, path, distinct, each => by
    have fits := each (key.name, node.value) (by simp [Fields.values])
    rw [← shifted] at fits
    have later : ∀ member ∈ rest.values, Fits doubles (fun tail => new (path ++ .key member.1 :: tail)) member.2 :=
      fun member listed => each member (List.mem_cons_of_mem _ listed)
    obtain ⟨tree, text, same, distinct'⟩ := replaced_node node (path ++ [.key key.name]) distinct.1 fits
    obtain ⟨trees, texts, sames, distincts⟩ := replaced_members rest path distinct.2 later
    rw [shifted] at same
    refine ⟨.more before key between ahead tree after trees, ?_, .cons ⟨rfl, same⟩ sames, ⟨distinct', distincts⟩⟩
    rw [Fields.text, text, texts, memberPieces]
    simp [replace_unkeyed]
end

end Replacing

section Gathering

variable {doubles : Doubles} {text : Text} {document : Value} {spans : Spans}

/-- The edit for a derived value. -/
def editOf (doubles : Doubles) (text : Text) (spans : Spans) (entry : Path × Value) : Option (Splices.Edit Point) :=
  (spans.lookup entry.1).bind fun span =>
    if (text.take span.2).drop span.1 ≠ dumps doubles entry.2 then some
      (span.1, span.2, dumps doubles entry.2) else none

theorem editOf_eq_some {entry : Path × Value} {edit : Splices.Edit Point} :
    editOf doubles text spans entry = some edit ↔ spans.lookup entry.1 = some (edit.1, edit.2.1) ∧
      edit.2.2 = dumps doubles entry.2 ∧ (text.take edit.2.1).drop edit.1 ≠ edit.2.2 := by
  obtain ⟨start, stop, replacement⟩ := edit
  rw [editOf, Option.bind_eq_some_iff]
  constructor
  · rintro ⟨span, found, made⟩
    split at made
    · cases made
      exact ⟨found, rfl, ‹_›⟩
    · cases made
  · rintro ⟨found, rfl, differs⟩
    exact ⟨(start, stop), found, if_pos differs⟩

/-- A path without a span, for which the document has the derived value. -/
def Settled (document : Value) (spans : Spans) (entry : Path × Value) : Prop :=
  spans.lookup entry.1 = none → (valueAt document entry.1).any (·.same entry.2) = true

theorem gather_ok {derived : List (Path × Value)} : ∀ {edits : List (Splices.Edit Point)}
    (_ : gather doubles text document spans derived = .ok edits),
    edits = derived.filterMap (editOf doubles text spans) ∧ ∀ entry ∈ derived, Settled document spans entry := by
  induction derived with
  | nil =>
    intro edits gathered
    cases gathered
    exact ⟨rfl, by simp⟩
  | cons entry rest ih =>
    intro edits gathered
    obtain ⟨path, value⟩ := entry
    rw [gather] at gathered
    cases found : spans.lookup path with
    | none =>
      rw [found] at gathered
      dsimp only at gathered
      split at gathered
      · rename_i equal
        obtain ⟨made, settled⟩ := ih gathered
        have none : editOf doubles text spans (path, value) = none := by simp [editOf, found]
        exact ⟨by rw [made, List.filterMap_cons_none none], List.forall_mem_cons.mpr ⟨fun _ => equal, settled⟩⟩
      · cases gathered
    | some span =>
      rw [found] at gathered
      cases later : gather doubles text document spans rest with
      | error failure =>
        rw [later] at gathered
        cases gathered
      | ok edits' =>
        rw [later] at gathered
        cases gathered
        obtain ⟨made, settled⟩ := ih later
        refine ⟨?_, List.forall_mem_cons.mpr ⟨fun none => by simp [found] at none, settled⟩⟩
        rw [List.filterMap_cons, editOf, found, Option.bind_some, ← made]
        split <;> rfl

theorem gather_error {derived : List (Path × Value)} {failure : Failure}
    (gathered : gather doubles text document spans derived = .error failure) :
    ∃ entry ∈ derived, ¬Settled document spans entry := by
  induction derived generalizing failure with
  | nil => cases gathered
  | cons entry rest ih =>
    obtain ⟨path, value⟩ := entry
    rw [gather] at gathered
    cases found : spans.lookup path with
    | none =>
      rw [found] at gathered
      dsimp only at gathered
      split at gathered
      · obtain ⟨entry, listed, unsettled⟩ := ih gathered
        exact ⟨entry, List.mem_cons_of_mem _ listed, unsettled⟩
      · rename_i differs
        exact ⟨(path, value), List.mem_cons_self, fun settled => differs (settled found)⟩
    | some span =>
      rw [found] at gathered
      cases later : gather doubles text document spans rest with
      | error failure =>
        obtain ⟨entry, listed, unsettled⟩ := ih later
        exact ⟨entry, List.mem_cons_of_mem _ listed, unsettled⟩
      | ok edits =>
        rw [later] at gathered
        cases gathered

end Gathering

section Texts

variable {doubles : Doubles}

/-- The text of a document in pieces. -/
def pieces (document : Document doubles) : List Piece :=
  ⟨none, document.before.text⟩ :: (nodePieces [] document.node ++ [⟨none, document.after.text⟩])

theorem flat_pieces (document : Document doubles) : Splices.flat (pieces document) = document.text := by
  rw [pieces, flat_cons, flat_append, flat_nodePieces, Document.text]
  simp [Splices.flat]

theorem keys_pieces (document : Document doubles) : keys (pieces document) = keys (nodePieces [] document.node) := by
  rw [pieces, keys_unkeyed, keys_append, keys_last, List.append_nil]

theorem nonempty_pieces (document : Document doubles) : ∀ piece ∈ pieces document, piece.key.isSome →
    piece.text ≠ [] := by
  have inside := nonempty_node document.node []
  simp only [pieces, List.forall_mem_cons, List.forall_mem_append]
  simpa using inside

theorem scalarSpans_pieces (document : Document doubles) :
    scalarSpans document.text = .ok (Splices.spans 0 (pieces document)).reverse := by
  rw [scalarSpans_text, pieces, spans_unkeyed, spans_append, Nat.zero_add]
  simp [Splices.spans]

theorem spans_keys (start : Nat) (pieces : List Piece) : (Splices.spans start pieces).map Prod.fst = keys pieces := by
  induction pieces generalizing start with
  | nil => rfl
  | cons piece pieces ih =>
    obtain ⟨key, text⟩ := piece
    rw [Splices.spans, List.map_append, ih]
    cases key <;> rfl

/-- The span of a path is looked up where the piece stands. -/
theorem lookup_spans {document : Document doubles} (distinct : document.node.value.Distinct) {path : Path}
    {span : Nat × Nat} :
    (Splices.spans 0 (pieces document)).reverse.lookup path = some span ↔
      (path, span) ∈ Splices.spans 0 (pieces document) := by
  have once : ((Splices.spans 0 (pieces document)).reverse.map Prod.fst).Nodup := by
    rw [List.map_reverse, List.nodup_reverse, spans_keys, keys_pieces]
    exact (keys_node document.node [] distinct).1
  rw [← List.mem_reverse]
  exact ⟨mem_of_lookup, lookup_of_mem once⟩

/-- No two scalars start at one place. -/
theorem spans_start_injective (document : Document doubles) {first second : Path × Nat × Nat}
    (listed : first ∈ Splices.spans 0 (pieces document)) (listed' : second ∈ Splices.spans 0 (pieces document))
    (same : first.2.1 = second.2.1) : first = second := by
  have ordered : (Splices.spans 0 (pieces document)).Pairwise fun first second => first.2.1 ≠ second.2.1 :=
    (Splices.spans_ordered (nonempty_pieces document)).imp Nat.ne_of_lt
  have : Std.Symm fun first second : Path × Nat × Nat => first.2.1 ≠ second.2.1 := ⟨fun _ _ => Ne.symm⟩
  by_contra differ
  exact ordered.forall listed listed' differ same

/-- What has no span is no scalar. -/
theorem lookup_spans_none {document : Document doubles} (distinct : document.node.value.Distinct) {path : Path}
    {value : Value}
    (located : document.node.value.locate path = some value) :
    (Splices.spans 0 (pieces document)).reverse.lookup path = none ↔ value.isScalar = false := by
  have listed : path ∈ keys (pieces document) ↔ value.isScalar = true := by
    rw [keys_pieces, (keys_node document.node [] distinct).2]
    constructor
    · rintro ⟨rest, scalar, rfl, found, isScalar⟩
      have same : value = scalar := Option.some.inj (located.symm.trans found)
      rw [same]
      exact isScalar
    · exact fun isScalar => ⟨path, value, rfl, located, isScalar⟩
  rw [← Bool.not_eq_true, ← listed, ← spans_keys 0, List.mem_map]
  constructor
  · rintro none ⟨⟨_, span⟩, member, rfl⟩
    rw [(lookup_spans distinct).mpr member] at none
    cases none
  · intro absent
    cases found : (Splices.spans 0 (pieces document)).reverse.lookup path with
    | none => rfl
    | some span => exact absurd ⟨(path, span), (lookup_spans distinct).mp found, rfl⟩ absent

end Texts

section Splice

variable {doubles : Doubles} {document : Document doubles}

/-- Every edit is made once, and for a piece that changes. -/
theorem gathered_edits (distinct : document.node.value.Distinct) (derived : Derived doubles) :
    Splices.sortEdits (derived.entries.filterMap
      (editOf doubles document.text (Splices.spans 0 (pieces document)).reverse)) =
      (Splices.edits (rendered doubles (derivedAt derived.entries)) 0 (pieces document)).reverse := by
  refine Splices.sortEdits_eq (nonempty_pieces document) ?_ fun edit => ?_
  · refine List.Pairwise.filterMap _ ?_ (List.pairwise_map.mp derived.once)
    rintro entry other differ edit made edit' made' rfl
    have span := (lookup_spans distinct).mp (editOf_eq_some.mp made).1
    have span' := (lookup_spans distinct).mp (editOf_eq_some.mp made').1
    have same := spans_start_injective document span span' rfl
    exact differ (Prod.mk.inj same).1
  · have shape : [] ++ Splices.flat (pieces document) = document.text := flat_pieces document
    have edits := @Splices.mem_edits _ _ _ (rendered doubles (derivedAt derived.entries)) [] (pieces document) edit
    rw [shape, List.length_nil] at edits
    rw [edits, List.mem_filterMap]
    constructor
    · rintro ⟨⟨path, value⟩, listed, made⟩
      obtain ⟨found, replacement, differs⟩ := editOf_eq_some.mp made
      refine ⟨path, (lookup_spans distinct).mp found, ?_, differs⟩
      rw [rendered, derivedAt, lookup_of_mem derived.once listed, replacement]
      rfl
    · rintro ⟨path, found, replaced, differs⟩
      obtain ⟨value, listed, replacement⟩ := Option.map_eq_some_iff.mp replaced
      exact ⟨(path, value), mem_of_lookup listed,
        editOf_eq_some.mpr ⟨(lookup_spans distinct).mpr found, replacement.symm, differs⟩⟩

/-- Every path leads to something inside the document. -/
def Derived.Within (derived : Derived doubles) (value : Value) : Prop :=
  ∀ entry ∈ derived.entries, entry.1 ≠ [] ∧ (value.locate entry.1).isSome

/-- No path leads through another. -/
def Derived.PrefixFree (derived : Derived doubles) : Prop :=
  ∀ first ∈ derived.entries, ∀ second ∈ derived.entries, first.1 <+: second.1 → first.1 = second.1

theorem Derived.PrefixFree.apart {derived : Derived doubles} (free : derived.PrefixFree) : Apart derived.entries := by
  refine (List.pairwise_map.mp derived.once).imp_of_mem fun {first second} listed listed' differ => ?_
  exact ⟨fun below => differ (free first listed second listed' below),
    fun below => differ (free second listed' first listed below).symm⟩

/-- Where nothing is refused the derived values fit the document. -/
theorem Derived.fits {derived : Derived doubles} (free : derived.PrefixFree) (distinct : document.node.value.Distinct)
    (settled : ∀ entry ∈ derived.entries, Settled document.node.value
      (Splices.spans 0 (pieces document)).reverse entry) :
    Fits doubles (derivedAt derived.entries) document.node.value where
  distinct path found replaced := derived.distinct (path, found) (mem_of_lookup replaced)
  finite path found replaced := derived.finite (path, found) (mem_of_lookup replaced)
  apart path found step rest replaced := by
    cases below : derivedAt derived.entries (path ++ step :: rest) with
    | none => rfl
    | some other =>
      have same := free (path, found) (mem_of_lookup replaced) (_, other) (mem_of_lookup below) ⟨step :: rest, rfl⟩
      simp at same
  equal path found old replaced located container := by
    have equal := settled (path, found) (mem_of_lookup replaced) ((lookup_spans_none distinct located).mpr container)
    rwa [valueAt_locate located] at equal

/-- A text that is returned has the value that the derived values put into the document give, and differs from the old
one in scalars with derived values only. Nothing but a changed object or array is refused. -/
structure Updated (text : Text) (derived : Derived doubles) (document : Value)
    (outcome : Except Failure Text) : Prop where
  value : ∀ result, outcome = .ok result → ∃ value updated, loads doubles result = some value ∧ value.Distinct ∧
    applyDerived document derived.entries = some updated ∧ value.same updated = true
  unchanged : ∀ result, outcome = .ok result → ∃ pieces, Splices.flat pieces = text ∧
    scalarSpans text = .ok (Splices.spans 0 pieces).reverse ∧
    result = pieces.flatMap (Splices.Piece.replace (rendered doubles (derivedAt derived.entries)))
  refused : ∀ failure, outcome = .error failure → ∃ path value container, (path, value) ∈ derived.entries ∧
    document.locate path = some container ∧ container.isScalar = false ∧ container.same value = false

/-- Splicing is the update of the document. -/
theorem splice_updates {text : Text} {document : Value} (derived : Derived doubles)
    (parsed : loads doubles text = some document)
    (distinct : document.Distinct) (within : derived.Within document) (free : derived.PrefixFree) :
    Updated text derived document (splice doubles text derived.entries document) := by
  obtain ⟨tree, rfl, rfl⟩ := loads_eq_some.mp parsed
  have scanned := scalarSpans_pieces tree
  cases gathered : gather doubles tree.text tree.node.value (Splices.spans 0 (pieces tree)).reverse derived.entries with
  | error failure =>
    have refused : splice doubles tree.text derived.entries tree.node.value = .error failure := by
      rw [splice, scanned]
      simp [bind, Except.bind, gathered]
    rw [refused]
    refine ⟨nofun, nofun, fun _ _ => ?_⟩
    obtain ⟨⟨path, value⟩, listed, unsettled⟩ := gather_error gathered
    obtain ⟨container, located⟩ := Option.isSome_iff_exists.mp (within (path, value) listed).2
    simp only [Settled, Classical.not_imp, lookup_spans_none distinct located, valueAt_locate located] at unsettled
    exact ⟨path, value, container, listed, located, unsettled.1, by simpa using unsettled.2⟩
  | ok edits =>
    obtain ⟨made, settled⟩ := gather_ok gathered
    have applied := applyDerived_update distinct derived.distinct free.apart within
    have replaced := Splices.applyEdits_edits (rendered doubles (derivedAt derived.entries)) [] (pieces tree)
    rw [List.nil_append, List.nil_append, List.length_nil, flat_pieces] at replaced
    have returned : splice doubles tree.text derived.entries tree.node.value =
        .ok ((pieces tree).flatMap (Splices.Piece.replace (rendered doubles (derivedAt derived.entries)))) := by
      rw [splice, scanned]
      simp only [bind, Except.bind, gathered, made, gathered_edits distinct, replaced]
      rfl
    rw [returned]
    refine ⟨?_, ?_, nofun⟩
    · rintro _ ⟨⟩
      obtain ⟨node, written, same, distinct'⟩ :=
        replaced_node tree.node [] distinct (derived.fits free distinct settled)
      have text : (pieces tree).flatMap (Splices.Piece.replace (rendered doubles (derivedAt derived.entries))) =
          (Document.mk tree.before node tree.after).text := by
        rw [Document.text, written, pieces]
        simp [replace_unkeyed]
      rw [text]
      exact ⟨node.value, _, loads_text _, distinct', applied, same⟩
    · rintro _ ⟨⟩
      exact ⟨pieces tree, flat_pieces tree, scanned, rfl⟩

/-- An interpreter whose texts hold no doubles. -/
def noDoubles : Doubles where
  read _ := .negativeZero
  repr _ := []
  Finite _ := False
  reads _ := False.elim

def integer (n : Int) : Node noDoubles := .scalar ⟨Points.decimal n, .int n, .bare (readBare_decimal noDoubles n)⟩

def sampleTree : Document noDoubles :=
  ⟨noBlank, .array (.more noBlank (integer 1) noBlank
    (.last space (.array (.last noBlank (integer 7) noBlank)) noBlank)), noBlank⟩

def sampleValue : Value := .arr [.int 1, .arr [.int 7]]

def sample : Derived noDoubles where
  entries := [([.index 0], .int 2), ([.index 1], .arr [.int 7])]
  once := by decide
  distinct := by simp [Parsed.Distinct, distinctItems]
  finite := by simp [Parsed.Finite, finiteItems]

theorem sample_spliced : loads noDoubles (chars "[1, [7]]") = some sampleValue ∧
    Updated (chars "[1, [7]]") sample sampleValue (splice noDoubles (chars "[1, [7]]") sample.entries sampleValue) := by
  have parsed : loads noDoubles (chars "[1, [7]]") = some sampleValue :=
    loads_eq_some.mpr ⟨sampleTree, by decide +kernel, rfl⟩
  have distinct : sampleValue.Distinct := by simp [sampleValue, Parsed.Distinct, distinctItems]
  have within : sample.Within sampleValue := by simp [Derived.Within, sample, sampleValue, Parsed.locate, Parsed.child]
  have free : sample.PrefixFree := by simp [Derived.PrefixFree, sample]
  exact ⟨parsed, splice_updates sample parsed distinct within free⟩

/-- The text of a scalar is replaced, and the walk along the empty path has no last step. -/
theorem root_unapplied : loads noDoubles (chars "3") = some (.int 3) ∧ (Parsed.int 3).locate [] = some (.int 3) ∧
    splice noDoubles (chars "3") [([], .int 5)] (.int 3) = .ok (chars "5") ∧
      applyDerived (.int 3) [([], .int 5)] = none := by
  have parsed : loads noDoubles (chars "3") = some (.int 3) :=
    loads_eq_some.mpr ⟨⟨noBlank, integer 3, noBlank⟩, by decide +kernel, rfl⟩
  exact ⟨parsed, rfl, by decide +kernel, rfl⟩

end Splice

end Darling.Registry
