import Mathlib.Data.List.Basic

/-! The well-formed byte sequences of UTF-8, as an automaton whose state is what must follow. -/
namespace Darling.Utf8

/-- The ranges of the bytes behind a lead byte. -/
def follows (lead : UInt8) : Option (List (UInt8 × UInt8)) :=
  if lead ≤ 0x7F then some []
  else if 0xC2 ≤ lead ∧ lead ≤ 0xDF then some [(0x80, 0xBF)]
  else if lead = 0xE0 then some [(0xA0, 0xBF), (0x80, 0xBF)]
  else if lead = 0xED then some [(0x80, 0x9F), (0x80, 0xBF)]
  else if 0xE1 ≤ lead ∧ lead ≤ 0xEF then some [(0x80, 0xBF), (0x80, 0xBF)]
  else if lead = 0xF0 then some [(0x90, 0xBF), (0x80, 0xBF), (0x80, 0xBF)]
  else if 0xF1 ≤ lead ∧ lead ≤ 0xF3 then some [(0x80, 0xBF), (0x80, 0xBF), (0x80, 0xBF)]
  else if lead = 0xF4 then some [(0x80, 0x8F), (0x80, 0xBF), (0x80, 0xBF)]
  else none

def step (pending : List (UInt8 × UInt8)) (byte : UInt8) : Option (List (UInt8 × UInt8)) :=
  match pending with
  | [] => follows byte
  | (low, high) :: rest => if low ≤ byte ∧ byte ≤ high then some rest else none

def wellFormed (bytes : List UInt8) : Bool := bytes.foldlM step [] == some []

theorem wellFormed_nil : wellFormed [] = true := rfl

/-- Behind a well-formed prefix the automaton starts again. -/
theorem wellFormed_append {first : List UInt8} (formed : wellFormed first = true) (rest : List UInt8) :
    wellFormed (first ++ rest) = wellFormed rest := by
  have whole : first.foldlM step [] = some [] := eq_of_beq formed
  rw [wellFormed, List.foldlM_append, whole]
  rfl

end Darling.Utf8
