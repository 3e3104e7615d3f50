import Darling.Library.Codecs
import Mathlib.Algebra.Group.Int.Defs

/-! Values at fixed offsets of a byte string: numbers in little-endian order, slices and strings that end with a
zero. -/
namespace Darling.Layouts

open Codecs (Bytes toLeBytes fromLeBytes)

variable {blob : Bytes} {offset : Nat}

/-- `blob[start:stop]` for a start and a stop that are no negative numbers. -/
def slice (blob : Bytes) (start stop : Nat) : Bytes := (blob.take stop).drop start

/-- A number of so many bytes, if the blob has them all. -/
def unpack (width : Nat) (blob : Bytes) (offset : Nat) : Option Nat :=
  if offset + width ≤ blob.length then some (fromLeBytes (slice blob offset (offset + width))) else none

/-- The offset of the first zero at or after the start. -/
def findZero (blob : Bytes) (start : Nat) : Option Nat := ((blob.drop start).findIdx? (· == 0)).map (start + ·)

/-- The number that a field of so many bits stands for in two's complement. -/
def signed (bits value : Nat) : Int := if 2 ^ (bits - 1) ≤ value then (value : Int) - 2 ^ bits else value

/-- The bytes stand in the blob from the offset on. -/
def Placed (blob : Bytes) (offset : Nat) (bytes : Bytes) : Prop := bytes <+: blob.drop offset

theorem slice_eq (start stop : Nat) : slice blob start stop = (blob.drop start).take (stop - start) := by
  rw [slice, List.drop_take]

namespace Placed

variable {bytes more : Bytes}

theorem append_iff : Placed blob offset (bytes ++ more) ↔ Placed blob offset bytes ∧
    Placed blob (offset + bytes.length) more := by
  unfold Placed
  rw [← List.drop_drop]
  constructor
  · rintro ⟨rest, whole⟩
    rw [← whole, List.append_assoc]
    exact ⟨List.prefix_append _ _, by simp⟩
  · rintro ⟨⟨rest, first⟩, ⟨last, second⟩⟩
    rw [← first, List.drop_left] at second
    rw [← first, ← second]
    exact ⟨last, by simp⟩

theorem inside (placed : Placed blob offset bytes) (some : bytes ≠ []) : offset + bytes.length ≤ blob.length := by
  have fits := List.IsPrefix.length_le placed
  have positive := List.length_pos_of_ne_nil some
  rw [List.length_drop] at fits
  omega

theorem slice (placed : Placed blob offset bytes) : slice blob offset (offset + bytes.length) = bytes := by
  rw [slice_eq, Nat.add_sub_cancel_left]
  exact List.prefix_iff_eq_take.mp placed |>.symm

theorem unpack {width number : Nat} (placed : Placed blob offset (toLeBytes width number)) (wide : 0 < width)
    (bound : number < 256 ^ width) : unpack width blob offset = some number := by
  have nonempty : toLeBytes width number ≠ [] := by
    rw [ne_eq, ← List.length_eq_zero_iff, Codecs.toLeBytes_length]
    omega
  have inside := placed.inside nonempty
  have found := placed.slice
  rw [Codecs.toLeBytes_length] at inside found
  rw [Layouts.unpack, if_pos inside, found, Codecs.fromLeBytes_toLeBytes width number bound]

/-- What stands before a cut is still there. -/
theorem take {cut : Nat} (placed : Placed blob offset bytes) (room : offset + bytes.length ≤ cut) :
    Placed (blob.take cut) offset bytes := by
  obtain ⟨rest, whole⟩ := placed
  refine ⟨rest.take (cut - offset - bytes.length), ?_⟩
  have all : bytes.take (cut - offset) = bytes := List.take_of_length_le (by omega)
  rw [List.drop_take, ← whole, List.take_append, all]

/-- A string that ends with a zero is found from its start. -/
theorem findZero {name : Bytes} (placed : Placed blob offset (name ++ [0])) (clean : 0 ∉ name) :
    findZero blob offset = some (offset + name.length) := by
  obtain ⟨rest, whole⟩ := placed
  have first : (name ++ [0] ++ rest).findIdx? (· == 0) = some name.length := by
    rw [List.append_assoc, List.findIdx?_append, List.findIdx?_eq_none_iff.mpr]
    · simp [List.findIdx?_cons]
    · intro byte member
      simpa using fun same : byte = 0 => clean (same ▸ member)
  rw [Layouts.findZero, ← whole, first, Option.map_some]

end Placed

/-- What ends at the first zero has none itself. -/
theorem findZero_some {stop : Nat} (found : findZero blob offset = some stop) :
    Placed blob offset (slice blob offset stop ++ [0]) ∧ 0 ∉ slice blob offset stop ∧
      stop = offset + (slice blob offset stop).length := by
  obtain ⟨index, at_, rfl⟩ := Option.map_eq_some_iff.mp found
  obtain ⟨below, zero, before⟩ := List.findIdx?_eq_some_iff_getElem.mp at_
  rw [slice_eq, Nat.add_sub_cancel_left]
  refine ⟨?_, ?_, ?_⟩
  · have last : (blob.drop offset).take (index + 1) = (blob.drop offset).take index ++ [0] := by
      rw [List.take_add_one, List.getElem?_eq_getElem below]
      simpa using zero
    rw [← last]
    exact List.take_prefix _ _
  · intro member
    obtain ⟨place, inside, same⟩ := List.getElem_of_mem member
    rw [List.length_take] at inside
    rw [List.getElem_take] at same
    have := before place (by omega)
    simp [same] at this
  · rw [List.length_take]
    omega

theorem unpack_some {width number : Nat} (found : unpack width blob offset = some number) :
    offset + width ≤ blob.length ∧ number = fromLeBytes (slice blob offset (offset + width)) := by
  unfold unpack at found
  split at found
  · rename_i inside
    exact ⟨inside, (Option.some.inj found).symm⟩
  · cases found

theorem unpack_lt {width number : Nat} (found : unpack width blob offset = some number) : number < 256 ^ width := by
  obtain ⟨inside, rfl⟩ := unpack_some found
  have bound := Codecs.fromLeBytes_lt (slice blob offset (offset + width))
  have exact : (slice blob offset (offset + width)).length = width := by
    rw [slice_eq, List.length_take, List.length_drop]
    omega
  rwa [exact] at bound

end Darling.Layouts
