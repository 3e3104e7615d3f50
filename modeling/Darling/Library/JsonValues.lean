import Mathlib.Data.Rat.Defs

/-! Parsed JSON values over the texts and the doubles of a reader, compared as the interpreter compares them. -/
namespace Darling.Jsons

/-- A parsed value. The members of an object are the items of a dictionary. -/
inductive Parsed (τ φ : Type) where
  | null
  | bool (b : Bool)
  | int (n : Int)
  | float (x : φ)
  | str (text : τ)
  | arr (items : List (Parsed τ φ))
  | obj (members : List (τ × Parsed τ φ))

inductive Quantity where
  | finite (value : Rat)
  | infinite (negative : Bool)
  deriving DecidableEq

/-- The number that a double compares as. No number equals a NaN, which has none. -/
class Compared (φ : Type) where
  quantity : φ → Option Quantity

variable {τ φ : Type} [BEq τ] [Compared φ]

/-- The number that a value compares as; Booleans are integers. -/
def Parsed.quantity : Parsed τ φ → Option Quantity
  | .bool b => some (.finite (if b then 1 else 0))
  | .int n => some (.finite n)
  | .float x => Compared.quantity x
  | _ => none

/-- `==` of two numbers. -/
def sameQuantity (a b : Parsed τ φ) : Bool :=
  match a.quantity, b.quantity with
  | some x, some y => x == y
  | _, _ => false

mutual
/-- `==` of the interpreter. -/
def Parsed.same : Parsed τ φ → Parsed τ φ → Bool
  | .null, .null => true
  | .str a, .str b => a == b
  | .arr a, .arr b => sameItems a b
  | .obj a, .obj b => a.length == b.length && sameMembers a b
  | a, b => sameQuantity a b

def sameItems : List (Parsed τ φ) → List (Parsed τ φ) → Bool
  | [], [] => true
  | a :: as, b :: bs => a.same b && sameItems as bs
  | _, _ => false

def sameMembers : List (τ × Parsed τ φ) → List (τ × Parsed τ φ) → Bool
  | [], _ => true
  | (name, a) :: rest, other =>
    (match other.lookup name with
      | some b => a.same b
      | none => false) && sameMembers rest other
end

end Darling.Jsons
