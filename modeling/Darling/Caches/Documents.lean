import Darling.Library.JsonValues
import Darling.Library.Texts
import Mathlib.Algebra.GroupWithZero.Nat
import Mathlib.Data.List.Sort

/-! JSON documents as the test caches read them back from disk: comparison and truth as the
interpreter has them, and the canonical form that `canonical_digest` of `test_store.py` hashes. -/
namespace Darling.Caches

export Texts (Text)

/-- A double of the interpreter: its value, and the doubles that are no number of their own. -/
inductive Floating where
  | finite (value : Rat)
  | negativeZero
  | infinite (negative : Bool)
  | nan
  deriving DecidableEq

instance floatingsCompared : Jsons.Compared Floating where
  quantity
    | .finite q => some (.finite q)
    | .negativeZero => some (.finite 0)
    | .infinite negative => some (.infinite negative)
    | .nan => none

/-- A parsed document. -/
abbrev Json := Jsons.Parsed Text Floating

abbrev Members := List (Text × Json)

/-- `dict.get`. -/
def Members.get (members : Members) (name : Text) : Json :=
  (members.lookup name).getD .null

/-- `{**base, **members}`; the order of the items is lost in the canonical form. -/
def Members.updating (base members : Members) : Members :=
  members ++ base.filter fun item => (members.lookup item.1).isNone

/-- The truth of a value in a condition. -/
def Json.truthy : Json → Bool
  | .null => false
  | .bool b => b
  | .int n => n != 0
  | .float (.finite q) => q != 0
  | .float .negativeZero => false
  | .float _ => true
  | .str text => !text.isEmpty
  | .arr items => !items.isEmpty
  | .obj members => !members.isEmpty

/-- `value or default`. -/
def Json.orElse (value default : Json) : Json := if value.truthy then value else default

section Markers

/-- What `json.loads(marker.read_text())` does: an `OSError`, a `JSONDecodeError`, another
`ValueError` that the readers let pass, or the document. -/
inductive Content where
  | unreadable
  | malformed
  | undecodable
  | document (value : Json)

/-- The path of the marker in an entry. -/
inductive MarkerFile where
  | absent
  | link
  | directory
  | file (content : Content)

/-- An exception that comes out of the reading of a marker. -/
inductive Raised where
  | decoding | attribute | foreignIdentity | occupied
  deriving DecidableEq

def schema : Json := .int 1

/-- The fields that `read_marker` compares. -/
def markerMatches (kind key : Text) (marker : Members) : Bool :=
  (marker.get "schema".toList).same schema && (marker.get "kind".toList).same (.str kind) &&
    (marker.get "key".toList).same (.str key)

def readMarker (kind : Text) (file : MarkerFile) (key : Text) : Except Raised (Option Members) :=
  match file with
  | .file .undecodable => .error .decoding
  | .file (.document (.obj marker)) => .ok (if markerMatches kind key marker then some marker else none)
  | _ => .ok none

theorem readMarker_some {kind : Text} {file : MarkerFile} {key : Text} {marker : Members} :
    readMarker kind file key = .ok (some marker) ↔
      file = .file (.document (.obj marker)) ∧ markerMatches kind key marker = true := by
  unfold readMarker
  split
  · simp
  · rename_i document
    by_cases h : markerMatches kind key document = true
    · simp only [h, ↓reduceIte, Except.ok.injEq, Option.some.injEq, MarkerFile.file.injEq,
        Content.document.injEq, Jsons.Parsed.obj.injEq]
      exact ⟨fun e => ⟨e, e ▸ h⟩, fun e => e.1⟩
    · simp only [h]
      constructor
      · intro e
        cases e
      · rintro ⟨e, accepted⟩
        cases e
        exact absurd accepted h
  · rename_i other
    constructor
    · intro e
      cases e
    · rintro ⟨e, -⟩
      exact absurd e (other marker)

end Markers

section Canonical

/-- The order of strings by code point. -/
def notAfter : Text → Text → Bool
  | [], _ => true
  | _ :: _, [] => false
  | a :: as, b :: bs => a < b || (a == b && notAfter as bs)

/-- In the order of the times of last use, and of the names where these are equal. -/
def usedBefore {τ α : Type} [LT τ] [DecidableLT τ] [DecidableEq τ] (notAfter : α → α → Bool) (a b : τ × α) : Bool :=
  a.1 < b.1 || (a.1 == b.1 && notAfter a.2 b.2)

theorem notAfter_refl (text : Text) : notAfter text text = true := by
  induction text with
  | nil => rfl
  | cons c rest ih => simp [notAfter, ih]

/-- `sort_keys`. -/
def sortKeys (members : Members) : Members :=
  members.insertionSort fun a b => notAfter a.1 b.1 = true

mutual
/-- The document with the keys of every object in order, as `json.dumps` writes it. -/
def Json.canonical : Json → Json
  | .arr items => .arr (canonicalItems items)
  | .obj members => .obj (sortKeys (canonicalMembers members))
  | .null => .null
  | .bool b => .bool b
  | .int n => .int n
  | .float x => .float x
  | .str text => .str text

def canonicalItems : List Json → List Json
  | [] => []
  | item :: rest => item.canonical :: canonicalItems rest

def canonicalMembers : Members → Members
  | [] => []
  | (name, value) :: rest => (name, value.canonical) :: canonicalMembers rest
end

theorem lookup_orderedInsert (name : Text) (item : Text × Json) (members : Members) :
    (members.orderedInsert (fun a b => notAfter a.1 b.1 = true) item).lookup name =
      (item :: members).lookup name := by
  induction members with
  | nil => rfl
  | cons head rest ih =>
    by_cases h : notAfter item.1 head.1 = true
    · simp [List.orderedInsert, h]
    -- The inserted item passes only members of another name.
    · have other : item.1 ≠ head.1 := fun e => h (e ▸ notAfter_refl item.1)
      obtain ⟨inserted, value⟩ := item
      obtain ⟨present, found⟩ := head
      rw [List.orderedInsert, if_neg h, List.lookup_cons, ih]
      by_cases hp : name = present
      · subst hp
        have : (name == inserted) = false := by simpa using Ne.symm other
        simp [List.lookup_cons, this]
      · have : (name == present) = false := by simpa using hp
        simp [List.lookup_cons, this]

theorem lookup_sortKeys (name : Text) (members : Members) :
    (sortKeys members).lookup name = members.lookup name := by
  induction members with
  | nil => rfl
  | cons item rest ih =>
    have step := lookup_orderedInsert name item (sortKeys rest)
    obtain ⟨present, value⟩ := item
    rw [List.lookup_cons, ih, ← List.lookup_cons] at step
    exact step

theorem lookup_canonicalMembers (name : Text) (members : Members) :
    (canonicalMembers members).lookup name = (members.lookup name).map Json.canonical := by
  induction members with
  | nil => rfl
  | cons item rest ih =>
    obtain ⟨present, value⟩ := item
    by_cases h : name = present
    · simp [canonicalMembers, h]
    · have : (name == present) = false := by simpa using h
      simp [canonicalMembers, List.lookup_cons, this, ih]

theorem get_canonical (members : Members) (name : Text) :
    (sortKeys (canonicalMembers members)).get name = (members.get name).canonical := by
  rw [Members.get, lookup_sortKeys, lookup_canonicalMembers, Members.get]
  cases members.lookup name with
  | none => simp [Json.canonical]
  | some value => rfl

theorem sortKeys_isEmpty (members : Members) : (sortKeys members).isEmpty = members.isEmpty := by
  have same := (List.perm_insertionSort (fun a b : Text × Json => notAfter a.1 b.1 = true) members).length_eq
  rw [Bool.eq_iff_iff, List.isEmpty_iff_length_eq_zero, List.isEmpty_iff_length_eq_zero]
  exact Eq.congr_left same

theorem Json.truthy_canonical (value : Json) : value.canonical.truthy = value.truthy := by
  cases value with
  | arr items => cases items <;> simp [Json.canonical, canonicalItems, Json.truthy]
  | obj members =>
    rw [Json.canonical, Json.truthy, Json.truthy, sortKeys_isEmpty]
    cases members <;> simp [canonicalMembers]
  | _ => simp [Json.canonical]

theorem Json.canonical_str {value : Json} {text : Text} (h : value.canonical = .str text) :
    value = .str text := by
  cases value <;> simp_all [Json.canonical]

end Canonical

section Spelling

/-- Spellings that end where they say: what follows one never changes how it reads. -/
def Delimited (spell : α → Text) : Prop :=
  ∀ a b rest more, spell a ++ rest = spell b ++ more → a = b ∧ rest = more

def spellNat : Nat → Text
  | 0 => ['.']
  | n + 1 => '+' :: spellNat n

def spellInt : Int → Text
  | .ofNat n => 'p' :: spellNat n
  | .negSucc n => 'n' :: spellNat n

def spellFloating : Floating → Text
  | .finite q => 'q' :: (spellInt q.num ++ spellNat q.den)
  | .negativeZero => ['z']
  | .infinite true => ['d']
  | .infinite false => ['u']
  | .nan => ['x']

def spellText : Text → Text
  | [] => ['.']
  | c :: rest => '+' :: c :: spellText rest

mutual
/-- A spelling without loss, to stand for a hash without collisions. -/
def Json.spell : Json → Text
  | .null => ['n']
  | .bool true => ['t']
  | .bool false => ['f']
  | .int n => 'i' :: spellInt n
  | .float x => 'r' :: spellFloating x
  | .str text => 's' :: spellText text
  | .arr items => 'a' :: spellItems items
  | .obj members => 'o' :: spellMembers members

def spellItems : List Json → Text
  | [] => ['.']
  | item :: rest => '+' :: (item.spell ++ spellItems rest)

def spellMembers : Members → Text
  | [] => ['.']
  | (name, value) :: rest => '+' :: (spellText name ++ (value.spell ++ spellMembers rest))
end

theorem spellNat_delimited : Delimited spellNat := by
  intro a
  induction a with
  | zero =>
    intro b rest more h
    cases b <;> simp_all [spellNat]
  | succ n ih =>
    intro b rest more h
    cases b with
    | zero => simp [spellNat] at h
    | succ m =>
      obtain ⟨e, tail⟩ := ih m rest more (by simpa [spellNat] using h)
      exact ⟨congrArg _ e, tail⟩

theorem spellInt_delimited : Delimited spellInt := by
  intro a b rest more h
  cases a <;> cases b <;> simp only [spellInt, List.cons_append, List.cons.injEq] at h
  case ofNat.negSucc => exact absurd h.1 (by decide)
  case negSucc.ofNat => exact absurd h.1 (by decide)
  case ofNat.ofNat n m =>
    obtain ⟨e, tail⟩ := spellNat_delimited n m rest more h.2
    exact ⟨congrArg _ e, tail⟩
  case negSucc.negSucc n m =>
    obtain ⟨e, tail⟩ := spellNat_delimited n m rest more h.2
    exact ⟨congrArg _ e, tail⟩

theorem spellFloating_delimited : Delimited spellFloating := by
  intro a b rest more h
  have split (x : Rat) (y : Rat) (h : spellFloating (.finite x) ++ rest = spellFloating (.finite y) ++ more) :
      x = y ∧ rest = more := by
    simp only [spellFloating, List.cons_append, List.append_assoc, List.cons.injEq, true_and] at h
    obtain ⟨num, tail⟩ := spellInt_delimited _ _ _ _ h
    obtain ⟨den, tail⟩ := spellNat_delimited _ _ _ _ tail
    exact ⟨Rat.ext num den, tail⟩
  cases a with
  | finite x =>
    cases b with
    | finite y =>
      obtain ⟨e, tail⟩ := split x y h
      exact ⟨congrArg _ e, tail⟩
    | infinite negative => cases negative <;> simp [spellFloating] at h
    | _ => simp [spellFloating] at h
  | infinite negative =>
    cases b with
    | infinite other => cases negative <;> cases other <;> simp_all [spellFloating]
    | _ => cases negative <;> simp [spellFloating] at h
  | _ =>
    cases b with
    | infinite negative => cases negative <;> simp [spellFloating] at h
    | _ => simp_all [spellFloating]

theorem spellText_delimited : Delimited spellText := by
  intro a
  induction a with
  | nil =>
    intro b rest more h
    cases b <;> simp_all [spellText]
  | cons c text ih =>
    intro b rest more h
    cases b with
    | nil => simp [spellText] at h
    | cons d other =>
      simp only [spellText, List.cons_append, List.cons.injEq, true_and] at h
      obtain ⟨e, tail⟩ := ih other rest more h.2
      exact ⟨by rw [h.1, e], tail⟩

mutual
theorem Json.spell_delimited : Delimited Json.spell
  | .null, b, rest, more, h => by
    cases b with
    | bool b => cases b <;> simp [Json.spell] at h
    | _ => simp_all [Json.spell]
  | .bool a, b, rest, more, h => by
    cases b with
    | bool b => cases a <;> cases b <;> simp_all [Json.spell]
    | _ => cases a <;> simp [Json.spell] at h
  | .int n, b, rest, more, h => by
    cases b with
    | bool b => cases b <;> simp [Json.spell] at h
    | int m =>
      obtain ⟨e, tail⟩ := spellInt_delimited n m rest more (by simpa [Json.spell] using h)
      exact ⟨congrArg _ e, tail⟩
    | _ => simp [Json.spell] at h
  | .float x, b, rest, more, h => by
    cases b with
    | bool b => cases b <;> simp [Json.spell] at h
    | float y =>
      obtain ⟨e, tail⟩ := spellFloating_delimited x y rest more (by simpa [Json.spell] using h)
      exact ⟨congrArg _ e, tail⟩
    | _ => simp [Json.spell] at h
  | .str text, b, rest, more, h => by
    cases b with
    | bool b => cases b <;> simp [Json.spell] at h
    | str other =>
      obtain ⟨e, tail⟩ := spellText_delimited text other rest more (by simpa [Json.spell] using h)
      exact ⟨congrArg _ e, tail⟩
    | _ => simp [Json.spell] at h
  | .arr items, b, rest, more, h => by
    cases b with
    | bool b => cases b <;> simp [Json.spell] at h
    | arr others =>
      obtain ⟨e, tail⟩ := spellItems_delimited items others rest more (by simpa [Json.spell] using h)
      exact ⟨congrArg _ e, tail⟩
    | _ => simp [Json.spell] at h
  | .obj members, b, rest, more, h => by
    cases b with
    | bool b => cases b <;> simp [Json.spell] at h
    | obj others =>
      obtain ⟨e, tail⟩ := spellMembers_delimited members others rest more (by simpa [Json.spell] using h)
      exact ⟨congrArg _ e, tail⟩
    | _ => simp [Json.spell] at h

theorem spellItems_delimited : Delimited spellItems
  | [], b, rest, more, h => by cases b <;> simp_all [spellItems]
  | item :: items, b, rest, more, h => by
    cases b with
    | nil => simp [spellItems] at h
    | cons other others =>
      simp only [spellItems, List.cons_append, List.append_assoc, List.cons.injEq, true_and] at h
      obtain ⟨first, tail⟩ := Json.spell_delimited item other _ _ h
      obtain ⟨later, tail⟩ := spellItems_delimited items others rest more tail
      exact ⟨by rw [first, later], tail⟩

theorem spellMembers_delimited : Delimited spellMembers
  | [], b, rest, more, h => by cases b <;> simp_all [spellMembers]
  | (name, value) :: members, b, rest, more, h => by
    cases b with
    | nil => simp [spellMembers] at h
    | cons other others =>
      simp only [spellMembers, List.cons_append, List.append_assoc, List.cons.injEq, true_and] at h
      obtain ⟨named, tail⟩ := spellText_delimited name other.1 _ _ h
      obtain ⟨first, tail⟩ := Json.spell_delimited value other.2 _ _ tail
      obtain ⟨later, tail⟩ := spellMembers_delimited members others rest more tail
      exact ⟨by rw [named, first, later], tail⟩
end

theorem Json.spell_injective : Function.Injective Json.spell := by
  intro a b h
  exact (Json.spell_delimited a b [] [] (by rw [h])).1

end Spelling

end Darling.Caches
