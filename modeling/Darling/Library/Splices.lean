import Mathlib.Data.List.Lex
import Mathlib.Data.List.Pairwise
import Mathlib.Data.List.Sort
import Mathlib.Data.Prod.Lex

/-! Texts in pieces, some of which have a key, and edits by position: applied from the last to the first,
they replace the pieces they were made for. -/
namespace Darling.Splices

variable {α κ : Type}

structure Piece (κ α : Type) where
  key : Option κ
  text : List α

/-- Where a piece starts, where it ends and what to put in its place. -/
abbrev Edit (α : Type) := Nat × Nat × List α

/-- `text[:start] + replacement + text[end:]`, edit after edit. -/
def applyEdits (text : List α) (edits : List (Edit α)) : List α :=
  edits.foldl (fun text edit => text.take edit.1 ++ edit.2.2 ++ text.drop edit.2.1) text

def flat (pieces : List (Piece κ α)) : List α := pieces.flatMap Piece.text

/-- The pieces with a key, where they stand. -/
def spans (start : Nat) : List (Piece κ α) → List (κ × Nat × Nat)
  | [] => []
  | piece :: rest =>
    (piece.key.map fun key => (key, start, start + piece.text.length)).toList ++ spans (start + piece.text.length) rest

theorem flat_cons (piece : Piece κ α) (pieces : List (Piece κ α)) :
    flat (piece :: pieces) = piece.text ++ flat pieces := by
  simp [flat]

theorem flat_append (first second : List (Piece κ α)) : flat (first ++ second) = flat first ++ flat second := by
  simp [flat]

theorem spans_append (start : Nat) (first second : List (Piece κ α)) :
    spans start (first ++ second) = spans start first ++ spans (start + (flat first).length) second := by
  induction first generalizing start with
  | nil => simp [spans, flat]
  | cons piece first ih =>
    rw [List.cons_append, spans, spans, ih, List.append_assoc, flat_cons, List.length_append, Nat.add_assoc]

theorem spans_unkeyed (start : Nat) (text : List α) (rest : List (Piece κ α)) :
    spans start (⟨none, text⟩ :: rest) = spans (start + text.length) rest := by
  simp [spans]

def Piece.replace (new : κ → Option (List α)) (piece : Piece κ α) : List α := (piece.key.bind new).getD piece.text

section Places

theorem spans_start {start : Nat} {pieces : List (Piece κ α)} : ∀ span ∈ spans start pieces, start ≤ span.2.1 := by
  induction pieces generalizing start with
  | nil => simp [spans]
  | cons piece pieces ih =>
    intro span listed
    rw [spans, List.mem_append] at listed
    rcases listed with here | later
    · simp only [Option.mem_toList, Option.map_eq_some_iff] at here
      obtain ⟨key, _, rfl⟩ := here
      exact Nat.le_refl _
    · exact Nat.le_trans (Nat.le_add_right _ _) (ih span later)

/-- The pieces with a key stand one behind the other. -/
theorem spans_ordered {start : Nat} {pieces : List (Piece κ α)}
    (some : ∀ piece ∈ pieces, piece.key.isSome → piece.text ≠ []) :
    (spans start pieces).Pairwise fun first second => first.2.1 < second.2.1 := by
  induction pieces generalizing start with
  | nil => exact List.Pairwise.nil
  | cons piece pieces ih =>
    rw [List.forall_mem_cons] at some
    rw [spans, List.pairwise_append]
    refine ⟨?_, ih some.2, ?_⟩
    · cases piece.key with
      | none => exact List.Pairwise.nil
      | some key => exact List.pairwise_singleton _ _
    · intro span here other later
      have behind := spans_start other later
      simp only [Option.mem_toList, Option.map_eq_some_iff] at here
      obtain ⟨key, keyed, rfl⟩ := here
      have length := List.length_pos_iff.mpr (some.1 (by rw [keyed]; rfl))
      dsimp only
      omega

end Places

section Edits

variable [LinearOrder α]

/-- The edits for the pieces that change. -/
def edits (new : κ → Option (List α)) (start : Nat) : List (Piece κ α) → List (Edit α)
  | [] => []
  | piece :: rest =>
    ((piece.key.bind new).bind fun text => if text =
      piece.text then none else some (start, start + piece.text.length, text)).toList ++
      edits new (start + piece.text.length) rest

/-- Edits compare as triples. -/
def rank (edit : Edit α) : Nat ×ₗ (Nat ×ₗ List α) := toLex (edit.1, toLex (edit.2.1, edit.2.2))

/-- The last edit first. -/
def sortEdits (edits : List (Edit α)) : List (Edit α) := edits.insertionSort fun first second =>
    rank second ≤ rank first

omit [LinearOrder α] in
theorem applyEdits_append (text : List α) (first second : List (Edit α)) :
    applyEdits text (first ++ second) = applyEdits (applyEdits text first) second := List.foldl_append

theorem applyEdits_edits (new : κ → Option (List α)) (lead : List α) (pieces : List (Piece κ α)) :
    applyEdits (lead ++ flat pieces) (edits new lead.length pieces).reverse =
      lead ++ pieces.flatMap (Piece.replace new) := by
  induction pieces generalizing lead with
  | nil => rfl
  | cons piece pieces ih =>
    have later := ih (lead ++ piece.text)
    rw [List.length_append] at later
    have shape : lead ++ flat (piece :: pieces) = lead ++ piece.text ++ flat pieces := by simp [flat]
    rw [edits, List.reverse_append, applyEdits_append, shape, later, List.flatMap_cons]
    cases replaced : piece.key.bind new with
    | none => simp [applyEdits, Piece.replace, replaced]
    | some text =>
      by_cases same : text = piece.text
      · simp [applyEdits, Piece.replace, replaced, same]
      · simp [applyEdits, Piece.replace, replaced, same]

theorem edits_sublist (new : κ → Option (List α)) (start : Nat) (pieces : List (Piece κ α)) :
    ((edits new start pieces).map fun edit => edit.1).Sublist ((spans start pieces).map fun span => span.2.1) := by
  induction pieces generalizing start with
  | nil => exact .slnil
  | cons piece pieces ih =>
    rw [edits, spans, List.map_append, List.map_append]
    refine List.Sublist.append ?_ (ih (start + piece.text.length))
    cases piece.key with
    | none => exact .slnil
    | some key =>
      rw [Option.bind_some]
      cases new key with
      | none => exact List.nil_sublist _
      | some text =>
        by_cases same : text = piece.text
        · simp [same]
        · simp [same]

/-- The edits stand one behind the other. -/
theorem edits_ordered {new : κ → Option (List α)} {start : Nat} {pieces : List (Piece κ α)}
    (some : ∀ piece ∈ pieces, piece.key.isSome → piece.text ≠ []) :
    (edits new start pieces).Pairwise fun first second => first.1 < second.1 := by
  have ordered : ((spans start pieces).map fun span => span.2.1).Pairwise (· < ·) :=
    List.pairwise_map.mpr (spans_ordered some)
  exact List.pairwise_map.mp (ordered.sublist (edits_sublist new start pieces))

/-- An edit is made for a piece whose text is to change. -/
theorem mem_edits {new : κ → Option (List α)} {lead : List α} {pieces : List (Piece κ α)} {edit : Edit α} :
    edit ∈ edits new lead.length pieces ↔ ∃ key, (key, edit.1, edit.2.1) ∈ spans lead.length pieces ∧
      new key = some edit.2.2 ∧
      ((lead ++ flat pieces).take edit.2.1).drop edit.1 ≠ edit.2.2 := by
  induction pieces generalizing lead with
  | nil => simp [edits, spans]
  | cons piece pieces ih =>
    have later := @ih (lead ++ piece.text)
    have shape : lead ++ piece.text ++ flat pieces = lead ++ flat (piece :: pieces) := by simp [flat]
    have slice : ((lead ++ flat (piece :: pieces)).take (lead.length + piece.text.length)).drop lead.length =
        piece.text := by
      rw [← shape, ← List.length_append, List.take_left, List.drop_left]
    rw [List.length_append, shape] at later
    rw [edits, spans, List.mem_append, later]
    simp only [List.mem_append, or_and_right, exists_or]
    refine or_congr ?_ Iff.rfl
    simp only [Option.mem_toList, Option.bind_eq_some_iff, Option.map_eq_some_iff]
    constructor
    · rintro ⟨text, ⟨key, keyed, replaced⟩, made⟩
      split at made
      · cases made
      · rename_i differs
        cases made
        exact ⟨key, ⟨key, keyed, rfl⟩, replaced, by rw [slice]; exact Ne.symm differs⟩
    · obtain ⟨first, last, text⟩ := edit
      rintro ⟨key, ⟨_, keyed, same⟩, replaced, differs⟩
      cases same
      have differs : piece.text ≠ text := by rwa [← slice]
      exact ⟨text, ⟨key, keyed, replaced⟩, if_neg (Ne.symm differs)⟩

theorem rank_le {first second : Edit α} (below : first.1 < second.1) : rank first ≤ rank second :=
  Prod.Lex.toLex_le_toLex.mpr (.inl below)

omit [LinearOrder α] in
theorem rank_injective : Function.Injective (rank : Edit α → _) := by
  rintro ⟨start, stop, text⟩ ⟨start', stop', text'⟩ same
  simpa [rank] using same

/-- Edits in any order are sorted to the last one first. -/
theorem sortEdits_eq {made : List (Edit α)} {new : κ → Option (List α)} {start : Nat} {pieces : List (Piece κ α)}
    (some : ∀ piece ∈ pieces, piece.key.isSome → piece.text ≠ []) (once : made.Nodup)
    (same : ∀ edit, edit ∈ made ↔ edit ∈ edits new start pieces) :
    sortEdits made = (edits new start pieces).reverse := by
  have ordered : (edits new start pieces).Pairwise fun first second => first.1 < second.1 := edits_ordered some
  have distinct : (edits new start pieces).Nodup := ordered.imp fun below equal => by
    rw [equal] at below
    omega
  have permuted : made.Perm (edits new start pieces) := (List.perm_ext_iff_of_nodup once distinct).mpr same
  have falling : (edits new start pieces).reverse.Pairwise fun first second => rank second ≤ rank first :=
    List.pairwise_reverse.mpr (ordered.imp rank_le)
  have : Std.Total fun first second : Edit α => rank second ≤ rank first := ⟨fun _ _ => le_total _ _⟩
  have : IsTrans (Edit α) fun first second => rank second ≤ rank first :=
    ⟨fun _ _ _ below below' => le_trans below' below⟩
  refine List.Perm.eq_of_pairwise ?_ (List.pairwise_insertionSort _ made) falling
    (((List.perm_insertionSort _ made).trans permuted).trans (List.reverse_perm _).symm)
  intro edit other _ _ below above
  exact rank_injective (le_antisymm above below)

end Edits

end Darling.Splices
