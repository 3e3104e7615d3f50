import Mathlib.Algebra.GroupWithZero.Nat
import Mathlib.Data.Fin.Basic
import Mathlib.Data.List.Basic

/-! Strings of code points that may hold lone surrogates, as Python has them: a file name that is not
UTF-8 is decoded to surrogates, and these have no strict encoding. -/
namespace Darling.Points

abbrev Point := Fin 0x110000

instance pointsExist : NeZero 0x110000 := ⟨by decide⟩

abbrev Text := List Point

def isSurrogate (point : Point) : Bool := 0xD800 ≤ point.val && point.val < 0xE000

/-- The bytes that the file system has for a code point. A surrogate stands for one byte. -/
def byteLength (point : Point) : Nat :=
  if point.val < 0x80 || isSurrogate point then 1
  else if point.val < 0x800 then 2
  else if point.val < 0x10000 then 3
  else 4

def Text.byteLength (text : Text) : Nat := (text.map Points.byteLength).sum

def charOf (point : Point) : Option Char :=
  if h : point.val.isValidChar then some ⟨point.val.toUInt32, by
    have small : point.val % 2 ^ 32 = point.val := Nat.mod_eq_of_lt (by omega)
    rwa [UInt32.isValidChar, Nat.toUInt32, UInt32.toNat_ofNat', small]⟩
  else none

def pointOf (char : Char) : Point := ⟨char.toNat, by
  have valid := char.valid
  simp only [UInt32.isValidChar, Nat.isValidChar] at valid
  show char.val.toNat < 0x110000
  omega⟩

/-- `text.encode()`. -/
def encode (text : Text) : Option (List UInt8) := do
  let chars ← text.mapM charOf
  return chars.flatMap String.utf8EncodeChar

/-- `str` of an integer. -/
def decimal (number : Int) : Text :=
  (if number < 0 then '-' :: Nat.toDigits 10 number.natAbs else Nat.toDigits 10 number.natAbs).map pointOf

theorem byteLength_pos (point : Point) : 0 < byteLength point := by
  unfold byteLength
  split
  · decide
  · split
    · decide
    · split <;> decide

/-- Two beginnings of one text with as many bytes are the same. -/
theorem eq_of_byteLength {first second rest others : Text} (joined : first ++ rest = second ++ others)
    (size : Text.byteLength first = Text.byteLength second) : first = second ∧ rest = others := by
  induction first generalizing second with
  | nil =>
    cases second with
    | nil => exact ⟨rfl, joined⟩
    | cons point second =>
      have some := byteLength_pos point
      simp only [Text.byteLength, List.map_cons, List.sum_cons, List.map_nil, List.sum_nil] at size
      omega
  | cons point first ih =>
    cases second with
    | nil =>
      have some := byteLength_pos point
      simp only [Text.byteLength, List.map_cons, List.sum_cons, List.map_nil, List.sum_nil] at size
      omega
    | cons other second =>
      obtain ⟨rfl, later⟩ := List.cons.inj joined
      have size' : Text.byteLength first = Text.byteLength second := by
        simpa [Text.byteLength] using size
      obtain ⟨rfl, tails⟩ := ih later size'
      exact ⟨rfl, tails⟩

theorem pointOf_charOf {point : Point} {char : Char} (found : charOf point = some char) : pointOf char = point := by
  simp only [charOf] at found
  split at found
  · cases found
    apply Fin.ext
    show (point.val.toUInt32).toNat = point.val
    simp
    omega
  · cases found

theorem pointOf_injective : Function.Injective pointOf := by
  intro first second same
  have values : first.val.toNat = second.val.toNat := Fin.mk.inj same
  exact Char.ext (UInt32.toNat_inj.mp values)

theorem utf8_injective : Function.Injective fun chars : List Char => chars.flatMap String.utf8EncodeChar := by
  intro first second same
  have bytes : first.utf8Encode = second.utf8Encode := by
    simp only [List.utf8Encode]
    rw [show first.flatMap String.utf8EncodeChar = second.flatMap String.utf8EncodeChar from same]
  have decoded := congrArg ByteArray.utf8Decode? bytes
  simpa using decoded

theorem mapM_charOf {text : Text} {chars : List Char} (found : text.mapM charOf = some chars) :
    chars.map pointOf = text := by
  induction text generalizing chars with
  | nil =>
    obtain rfl : chars = [] := by simpa using found.symm
    rfl
  | cons point text ih =>
    simp only [List.mapM_cons, Option.bind_eq_bind, Option.bind_eq_some_iff, Option.pure_def,
      Option.some.injEq] at found
    obtain ⟨char, here, rest, later, rfl⟩ := found
    rw [List.map_cons, pointOf_charOf here, ih later]

/-- What has no surrogate has an encoding, and nothing else. -/
theorem encode_isSome {text : Text} : (encode text).isSome ↔ ∀ point ∈ text, isSurrogate point = false := by
  have coded (point : Point) : (charOf point).isSome ↔ isSurrogate point = false := by
    simp only [charOf, isSurrogate, Nat.isValidChar]
    split <;> simp <;> omega
  induction text with
  | nil => simp [encode]
  | cons point text ih =>
    have split : (encode (point :: text)).isSome ↔ (charOf point).isSome ∧ (encode text).isSome := by
      simp only [encode, List.mapM_cons]
      cases charOf point <;> cases text.mapM charOf <;> simp
    rw [List.forall_mem_cons]
    exact split.trans (and_congr (coded point) ih)

theorem forall_mem_intercalate {p : Point → Prop} {separator : Point} (between : p separator) (parts : List Text) :
    (∀ point ∈ [separator].intercalate parts, p point) ↔ ∀ part ∈ parts, ∀ point ∈ part, p point := by
  induction parts with
  | nil => simp
  | cons part parts ih =>
    cases parts with
    | nil => simp
    | cons next parts =>
      rw [List.intercalate_cons_cons, List.forall_mem_append, List.forall_mem_append, ih, List.forall_mem_cons]
      simp [between]

theorem encode_append (first second : Text) :
    encode (first ++ second) = (encode first).bind fun bytes => (encode second).map (bytes ++ ·) := by
  simp only [encode, List.mapM_append]
  cases first.mapM charOf <;> cases second.mapM charOf <;> simp

theorem encode_injective {first second : Text} {bytes : List UInt8} (encoded : encode first = some bytes)
    (also : encode second = some bytes) : first = second := by
  simp only [encode, Option.bind_eq_bind, Option.bind_eq_some_iff, Option.pure_def, Option.some.injEq] at encoded also
  obtain ⟨chars, found, bytes_⟩ := encoded
  obtain ⟨others, found', bytes'⟩ := also
  rw [← mapM_charOf found, ← mapM_charOf found', utf8_injective (bytes_.trans bytes'.symm)]

theorem toDigits_injective : Function.Injective (Nat.toDigits 10) := by
  intro first second same
  rw [← Nat.ofDigitChars_ten_toDigits (n := first), same, Nat.ofDigitChars_ten_toDigits]

theorem isDigit_of_mem {char : Char} {number : Nat} (listed : char ∈ Nat.toDigits 10 number) : char.isDigit = true :=
  Nat.isDigit_of_mem_toDigits (by decide) (by decide) listed

theorem decimal_injective : Function.Injective decimal := by
  have sign {number : Nat} {others : List Char} : Nat.toDigits 10 number ≠ '-' :: others := by
    intro same
    have digit := isDigit_of_mem (show '-' ∈ Nat.toDigits 10 number by simp [same])
    revert digit
    decide
  intro first second same
  have texts := List.map_injective_iff.mpr pointOf_injective same
  by_cases below : first < 0
  · by_cases below' : second < 0
    · simp only [below, below', if_true, List.cons.injEq, true_and] at texts
      have values := toDigits_injective texts
      omega
    · simp only [below, below', if_true, if_false] at texts
      exact absurd texts.symm sign
  · by_cases below' : second < 0
    · simp only [below, below', if_true, if_false] at texts
      exact absurd texts sign
    · simp only [below, below', if_false] at texts
      have values := toDigits_injective texts
      omega

theorem nul_notMem_decimal (number : Int) : (0 : Point) ∉ decimal number := by
  intro listed
  obtain ⟨char, found, nul⟩ := List.mem_map.mp listed
  obtain rfl : char = Char.ofNat 0 := pointOf_injective nul
  have digit (value : Nat) : Char.ofNat 0 ∉ Nat.toDigits 10 value := fun found => by
    have digit := isDigit_of_mem found
    revert digit
    decide
  split at found
  · rcases List.mem_cons.mp found with minus | later
    · revert minus
      decide
    · exact digit _ later
  · exact digit _ found

theorem surrogate_notMem_decimal (number : Int) : ∀ point ∈ decimal number, isSurrogate point = false := by
  intro point listed
  obtain ⟨char, _, rfl⟩ := List.mem_map.mp listed
  have valid := char.valid
  simp only [UInt32.isValidChar, Nat.isValidChar] at valid
  simp only [isSurrogate, Bool.and_eq_false_iff, decide_eq_false_iff_not]
  show ¬0xD800 ≤ char.val.toNat ∨ ¬char.val.toNat < 0xE000
  omega

end Darling.Points
