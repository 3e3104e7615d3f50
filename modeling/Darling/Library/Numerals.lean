import Darling.Library.Layouts

/-! Numbers written in the digits of a base, read as Python's `int` reads bytes: blanks around them, a sign, the
mark of the base and single underscores between the digits are allowed. -/
namespace Darling.Numerals

open Codecs (Bytes)

def isBlank (byte : UInt8) : Bool := byte == 0x20 || 0x09 ≤ byte && byte ≤ 0x0D

/-- The value of a digit; 36 or more if the byte is none in any base. -/
def digitValue (byte : UInt8) : Nat :=
  if 0x30 ≤ byte ∧ byte ≤ 0x39 then byte.toNat - 0x30
  else if 0x61 ≤ byte ∧ byte ≤ 0x7A then byte.toNat - 0x61 + 10
  else if 0x41 ≤ byte ∧ byte ≤ 0x5A then byte.toNat - 0x41 + 10
  else 37

def numeral (base : Nat) (digits : Bytes) : Nat := digits.foldl (fun number digit => number * base + digitValue digit) 0

/-- Digits to the end, with single underscores between them. -/
def readDigits (base : Nat) : Bytes → Nat → Bool → Option Nat
  | [], number, behindDigit => if behindDigit then some number else none
  | byte :: rest, number, behindDigit =>
    if byte = 0x5F then (if behindDigit then readDigits base rest number false else none)
    else if digitValue byte < base then readDigits base rest (number * base + digitValue byte) true
    else none

/-- The letters that mark base 8 and base 16. -/
def marks (base : Nat) : Bytes := if base = 16 then [0x78, 0x58] else if base = 8 then [0x6F, 0x4F] else []

/-- What follows the mark of the base and the one underscore that may stand behind it. -/
def skipMark (base : Nat) (digits : Bytes) : Bytes :=
  match digits with
  | 0x30 :: mark :: rest =>
    if mark ∈ marks base then (match rest with | 0x5F :: rest => rest | _ => rest) else digits
  | _ => digits

def strip (bytes : Bytes) : Bytes := ((bytes.dropWhile isBlank).reverse.dropWhile isBlank).reverse

/-- `int(bytes, base)`; nothing where it raises a `ValueError`. -/
def parseInt (base : Nat) (bytes : Bytes) : Option Int :=
  match strip bytes with
  | 0x2B :: rest => (readDigits base (skipMark base rest) 0 false).map Int.ofNat
  | 0x2D :: rest => (readDigits base (skipMark base rest) 0 false).map (-Int.ofNat ·)
  | digits => (readDigits base (skipMark base digits) 0 false).map Int.ofNat

variable {base : Nat} {digits : Bytes}

theorem readDigits_digits (plain : ∀ digit ∈ digits, digitValue digit < base) (small : base ≤ 16) (number : Nat)
    (behindDigit : Bool)
    (some : digits = [] → behindDigit = true) :
    readDigits base digits number behindDigit =
      .some (digits.foldl (fun number digit => number * base + digitValue digit) number) := by
  induction digits generalizing number behindDigit with
  | nil => simp [readDigits, some]
  | cons digit rest induction =>
    rw [List.forall_mem_cons] at plain
    have other : digit ≠ 0x5F := by
      rintro rfl
      have := plain.1
      have none : digitValue 0x5F = 37 := by decide
      omega
    rw [readDigits, if_neg other, if_pos plain.1, induction plain.2 _ true fun _ => rfl]
    rfl

theorem strip_plain (clear : ∀ byte ∈ digits, isBlank byte = false) : strip digits = digits := by
  have whole (bytes : Bytes) (clear : ∀ byte ∈ bytes, isBlank byte = false) : bytes.dropWhile isBlank = bytes := by
    cases bytes with
    | nil => rfl
    | cons byte rest => rw [List.dropWhile_cons_of_neg (by simp [clear byte List.mem_cons_self])]
  rw [strip, whole digits clear, whole _ fun byte member => clear byte (List.mem_reverse.mp member),
    List.reverse_reverse]

/-- The bytes that mean something else are no digits. -/
theorem digitValue_other {byte : UInt8} (other : isBlank byte = true ∨ byte ∈ [0x2B, 0x2D, 0x78, 0x58, 0x6F, 0x4F]) :
    16 ≤ digitValue byte := by
  have all : ∀ number : Fin 256, isBlank (UInt8.ofNat number) = true ∨
      UInt8.ofNat number ∈ [0x2B, 0x2D, 0x78, 0x58, 0x6F, 0x4F] →
      16 ≤ digitValue (UInt8.ofNat number) := by decide +kernel
  have same : UInt8.ofNat byte.toNat = byte := UInt8.ofNat_toNat
  exact same ▸ all ⟨byte.toNat, byte.toNat_lt⟩ (by simpa [same] using other)

theorem skipMark_plain (no : ∀ byte ∈ digits, byte ∉ marks base) : skipMark base digits = digits := by
  unfold skipMark
  split
  · rename_i mark rest
    rw [if_neg (no mark (by simp))]
  · rfl

/-- Digits alone are the number that they spell. -/
theorem parseInt_digits (known : base = 8 ∨ base = 16) (plain : ∀ digit ∈ digits, digitValue digit < base)
    (some : digits ≠ []) :
    parseInt base digits = .some (numeral base digits : Int) := by
  have only (byte : UInt8) (member : byte ∈ digits) :
      ¬ (isBlank byte = true ∨ byte ∈ [0x2B, 0x2D, 0x78, 0x58, 0x6F, 0x4F]) := by
    intro other
    have := plain byte member
    have := digitValue_other other
    omega
  have bare : strip digits = digits := strip_plain fun byte
      member => by simpa using fun blank => only byte member (.inl blank)
  have unmarked : skipMark base digits = digits := by
    refine skipMark_plain fun byte member marked => only byte member (.inr ?_)
    rcases known with rfl | rfl <;> simp [marks] at marked ⊢ <;> grind
  have read : readDigits base digits 0 false = .some (numeral base digits) :=
    readDigits_digits plain (by omega) 0 false fun none => absurd none some
  rw [parseInt, bare]
  split
  · exact absurd (.inr (by simp)) (only 0x2B List.mem_cons_self)
  · exact absurd (.inr (by simp)) (only 0x2D List.mem_cons_self)
  · rw [unmarked, read]
    rfl

end Darling.Numerals
