import Darling.Diag.CoreNotes
import Mathlib.Tactic.Tauto

/-! `MachoSegments`: the segments of a Mach-O file and the image address of a file offset, and where reading them
panics. -/
namespace Darling.MachO

open Codecs (Bytes)
open Layouts (unpack)
open Panics

/-- Where a segment stands in the whole file, its address and its size in the file. -/
structure Segment where
  file : Nat
  vmaddr : Nat
  size : Nat
  deriving DecidableEq

def cpuX86_64 : Nat := 0x01000007
def magic32 : Nat := 0xFEEDFACE
def magic64 : Nat := 0xFEEDFACF
def lcSegment : Nat := 0x1
def lcSegment64 : Nat := 0x19

section Code

variable (raw : Bytes)

/-- The offset of the first x86_64 slice in the table of a universal file, from an entry on. -/
def findSlice (stride : Nat) : Nat → Nat → Except Panic (Option Nat)
  | 0, _ => return none
  | count + 1, i => do
    let o ← word (8 + stride * i)
    let stop ← word (o + stride)
    if raw.length < stop then return none
    if (← big 4 raw o) = cpuX86_64 then
      return some (← if stride = 32 then big 8 raw (o + 8) else big 4 raw (o + 8))
    findSlice stride count (i + 1)

/-- The start of the slice; the magic is matched on its bytes. -/
def chooseSlice : Except Panic (Option Nat) :=
  match raw.take 4 with
  | [0xCA, 0xFE, 0xBA, 0xBE] => do findSlice raw 20 (← big 4 raw 4) 0
  | [0xCA, 0xFE, 0xBA, 0xBF] => do findSlice raw 32 (← big 4 raw 4) 0
  | [0xCF, 0xFA, 0xED, 0xFE] => return some 0
  | [0xCE, 0xFA, 0xED, 0xFE] => return some 0
  | _ => return none

/-- The segment of a command, if it is one. -/
def segmentAt (sixtyfour : Bool) (slice o cmd : Nat) : Except Panic (List Segment) := do
  if cmd = lcSegment64 ∧ sixtyfour then
    return [⟨← word (slice + (← little 8 raw (o + 40))), ← little 8 raw (o + 24), ← little 8 raw (o + 48)⟩]
  else if cmd = lcSegment ∧ !sixtyfour then
    return [⟨← word (slice + (← little 4 raw (o + 32))), ← little 4 raw (o + 24), ← little 4 raw (o + 36)⟩]
  else return []

/-- The loop over the load commands. -/
def loadCommands (sixtyfour : Bool) (slice : Nat) : Nat → Nat → Except Panic (List Segment)
  | 0, _ => return []
  | count + 1, o => do
    if raw.length < (← word (o + 8)) then return []
    let cmd ← little 4 raw o
    let cmdsize ← little 4 raw (o + 4)
    if cmdsize < 8 then return []
    let next ← word (o + cmdsize)
    if raw.length < next then return []
    let here ← segmentAt raw sixtyfour slice o cmd
    let rest ← loadCommands sixtyfour slice count next
    return here ++ rest

/-- `MachoSegments::load` of what is read from the path. -/
def load : Except Panic (Option (List Segment)) := do
  if raw.length < 32 then return none
  let some slice ← chooseSlice raw | return none
  if raw.length < (← word (slice + 32)) then return none
  let magic ← little 4 raw slice
  if magic ≠ magic32 ∧ magic ≠ magic64 then return none
  let ncmds ← little 4 raw (slice + 16)
  let segs ← loadCommands raw (magic == magic64) slice ncmds (slice + 32)
  return if segs = [] then none else some segs

/-- `image_addr`. -/
def imageAddr (offset : Nat) : List Segment → Except Panic (Option Nat)
  | [] => return none
  | seg :: rest => do
    if seg.file ≤ offset then
      if offset < (← word (seg.file + seg.size)) then
        return some (← word (seg.vmaddr + (offset - seg.file)))
      else imageAddr offset rest
    else imageAddr offset rest

def imageAddrOf (offset : Nat) : Except Panic (Option Nat) := do
  let some segs ← load raw | return none
  imageAddr offset segs

end Code

section Layout

variable (raw : Bytes)

/-- A number at an offset; zero outside of the file. -/
def u32 (o : Nat) : Nat := (unpack 4 raw o).getD 0

def u64 (o : Nat) : Nat := (unpack 8 raw o).getD 0

structure Command where
  offset : Nat
  cmd : Nat
  size : Nat
  deriving DecidableEq

/-- The load commands that stand in the file with all their bytes, up to the first that does not. -/
def commands : Nat → Nat → List Command
  | 0, _ => []
  | count + 1, o =>
    if o + 8 ≤ raw.length ∧ 8 ≤ u32 raw (o + 4) ∧ o + u32 raw (o + 4) ≤ raw.length then
      ⟨o, u32 raw o, u32 raw (o + 4)⟩ :: commands count (o + u32 raw (o + 4))
    else []

/-- The fields of a command that the loop reads. -/
def segmentOf (sixtyfour : Bool) (slice : Nat) (command : Command) : Option Segment :=
  if command.cmd = lcSegment64 ∧ sixtyfour then
    some ⟨slice + u64 raw (command.offset + 40), u64 raw (command.offset + 24), u64 raw (command.offset + 48)⟩
  else if command.cmd = lcSegment ∧ !sixtyfour then
    some ⟨slice + u32 raw (command.offset + 32), u32 raw (command.offset + 24), u32 raw (command.offset + 36)⟩
  else none

/-- The fields of the command stand in the file, and the segment starts below 2^64. -/
def Complete (sixtyfour : Bool) (slice : Nat) (command : Command) : Prop :=
  (command.cmd = lcSegment64 ∧ sixtyfour = true →
    command.offset + 56 ≤ raw.length ∧ slice + u64 raw (command.offset + 40) < 2 ^ 64) ∧
  (command.cmd = lcSegment ∧ sixtyfour = false → command.offset + 40 ≤ raw.length)

/-- A big-endian number at an offset; zero outside of the file. -/
def be (width o : Nat) : Nat :=
  if o + width ≤ raw.length then Codecs.fromLeBytes (Layouts.slice raw o (o + width)).reverse else 0

/-- The slice of the first x86_64 entry that stands in the file. -/
def tableSlice (stride : Nat) : Nat → Nat → Option Nat
  | 0, _ => none
  | count + 1, i =>
    if raw.length < 8 + stride * i + stride then none
    else if be raw 4 (8 + stride * i) = cpuX86_64 then some (be raw (if stride = 32 then 8 else 4) (8 + stride * i + 8))
    else tableSlice stride count (i + 1)

/-- Where the slice starts that is read. -/
def chosen : Option Nat :=
  if raw.length < 32 then none
  else
    match raw.take 4 with
    | [0xCA, 0xFE, 0xBA, 0xBE] => tableSlice raw 20 (be raw 4 4) 0
    | [0xCA, 0xFE, 0xBA, 0xBF] => tableSlice raw 32 (be raw 4 4) 0
    | [0xCF, 0xFA, 0xED, 0xFE] => some 0
    | [0xCE, 0xFA, 0xED, 0xFE] => some 0
    | _ => none

/-- The header of a slice stands in the file. -/
def isImage (slice : Nat) : Bool := slice + 32 ≤ raw.length && (u32 raw slice == magic32 || u32 raw slice == magic64)

def isSixtyfour (slice : Nat) : Bool := u32 raw slice == magic64

def commandsOf (slice : Nat) : List Command := commands raw (u32 raw (slice + 16)) (slice + 32)

/-- The segments of the slice that is read. -/
def segmentsOf : List Segment :=
  match chosen raw with
  | none => []
  | some slice => if isImage raw slice then (commandsOf raw slice).filterMap
      (segmentOf raw (isSixtyfour raw slice) slice) else []

/-- The header of the slice ends below 2^64, and the segment commands are in the file with all the fields that are
read. -/
structure Readable : Prop where
  header : ∀ slice, chosen raw = some slice → slice + 32 < 2 ^ 64
  complete : ∀ slice, chosen raw = some slice → isImage raw slice = true →
    ∀ command ∈ commandsOf raw slice, Complete raw (isSixtyfour raw slice) slice command

end Layout

section Reading

variable {raw : Bytes}

theorem little_eq_ok {o width number : Nat} :
    little width raw o = .ok number ↔ o + width ≤ raw.length ∧ (unpack width raw o).getD 0 = number := by
  unfold little unpack
  split <;> simp [*]

theorem little4_ok {o : Nat} (inside : o + 4 ≤ raw.length) : little 4 raw o = .ok (u32 raw o) :=
  little_eq_ok.mpr ⟨inside, rfl⟩

theorem little8_ok {o : Nat} (inside : o + 8 ≤ raw.length) : little 8 raw o = .ok (u64 raw o) :=
  little_eq_ok.mpr ⟨inside, rfl⟩

theorem u32_lt (o : Nat) : u32 raw o < 2 ^ 32 := by
  unfold u32
  cases found : unpack 4 raw o with
  | none => exact Nat.two_pow_pos 32
  | some number => exact Layouts.unpack_lt found

theorem big_ok {o width : Nat} (inside : o + width ≤ raw.length) : big width raw o = .ok (be raw width o) := by
  rw [big, if_pos inside, be, if_pos inside]

theorem be_lt (width o : Nat) : be raw width o < 256 ^ width := by
  unfold be
  split
  · rename_i inside
    have bound := Codecs.fromLeBytes_lt (Layouts.slice raw o (o + width)).reverse
    have length : (Layouts.slice raw o (o + width)).length = width := by
      rw [Layouts.slice_eq, List.length_take, List.length_drop]
      omega
    rwa [List.length_reverse, length] at bound
  · exact Nat.pow_pos (by decide)

theorem findSlice_eq {stride : Nat} (known : stride = 20 ∨ stride = 32) {count i : Nat}
    (small : i + count ≤ 2 ^ 32) : findSlice raw stride count i = .ok (tableSlice raw stride count i) := by
  induction count generalizing i with
  | zero => rfl
  | succ count ih =>
    have least : stride * i ≤ 32 * 2 ^ 32 := Nat.mul_le_mul (by omega) (by omega)
    rw [findSlice, tableSlice, word_ok (by omega)]
    simp only [bind, Except.bind]
    rw [word_ok (by omega)]
    dsimp only
    by_cases outside : raw.length < 8 + stride * i + stride
    · rw [if_pos outside, if_pos outside]
      rfl
    · rw [if_neg outside, if_neg outside, big_ok (by omega)]
      dsimp only [pure, Except.pure]
      by_cases cpu : be raw 4 (8 + stride * i) = cpuX86_64
      · rw [if_pos cpu, if_pos cpu]
        rcases known with rfl | rfl
        · rw [if_neg (by omega), if_neg (by omega), big_ok (by omega)]
        · rw [if_pos rfl, if_pos rfl, big_ok (by omega)]
      · rw [if_neg cpu, if_neg cpu, ih (by omega)]

theorem chooseSlice_eq (long : ¬raw.length < 32) : chooseSlice raw = .ok (chosen raw) := by
  have count := @be_lt raw 4 4
  have table (stride : Nat) (known : stride = 20 ∨ stride = 32) :
      (do findSlice raw stride (← big 4 raw 4) 0 : Except Panic (Option Nat)) =
        .ok (tableSlice raw stride (be raw 4 4) 0) := by
    rw [big_ok (by omega)]
    exact findSlice_eq known (by omega)
  unfold chooseSlice chosen
  rw [if_neg long]
  split
  · exact table 20 (.inl rfl)
  · exact table 32 (.inr rfl)
  · rfl
  · rfl
  · rfl

variable {sixtyfour : Bool} {slice : Nat}

theorem segmentAt_eq (near : slice < 2 ^ 63) {command : Command} (complete : Complete raw sixtyfour slice command) :
    segmentAt raw sixtyfour slice command.offset command.cmd = .ok (segmentOf raw sixtyfour slice command).toList := by
  unfold segmentAt segmentOf
  by_cases wide : command.cmd = lcSegment64 ∧ sixtyfour = true
  · obtain ⟨inside, start⟩ := complete.1 wide
    rw [if_pos wide, if_pos wide, little8_ok (by omega), little8_ok (by omega), little8_ok (by omega)]
    simp only [bind, Except.bind]
    rw [word_ok start]
    rfl
  by_cases narrow : command.cmd = lcSegment ∧ (!sixtyfour) = true
  · have inside := complete.2 (by simpa using narrow)
    have small := @u32_lt raw (command.offset + 32)
    rw [if_neg wide, if_neg wide, if_pos narrow, if_pos narrow, little4_ok (by omega), little4_ok (by omega),
      little4_ok (by omega)]
    simp only [bind, Except.bind]
    rw [word_ok (show slice + u32 raw (command.offset + 32) < 2 ^ 64 by omega)]
    rfl
  · rw [if_neg wide, if_neg wide, if_neg narrow, if_neg narrow]
    rfl

theorem segmentAt_complete {command : Command}
    (safe : Safe (segmentAt raw sixtyfour slice command.offset command.cmd)) :
    Complete raw sixtyfour slice command := by
  unfold segmentAt at safe
  constructor
  · intro wide
    rw [if_pos wide] at safe
    simp only [safe_bind, little_eq_ok, word_eq_ok] at safe
    obtain ⟨_, ⟨_, rfl⟩, _, ⟨start, _⟩, _, _, _, ⟨inside, _⟩, _⟩ := safe
    exact ⟨inside, start⟩
  · intro narrow
    rw [if_neg (by simp [narrow]), if_pos (by simp [narrow])] at safe
    simp only [safe_bind, little_eq_ok, word_eq_ok] at safe
    obtain ⟨_, _, _, _, _, _, _, ⟨inside, _⟩, _⟩ := safe
    exact inside

/-- The loop gives the segments of the commands. -/
theorem loadCommands_eq (bound : raw.length < 2 ^ 63) (near : slice < 2 ^ 63) : ∀ {count o : Nat} (_ : o ≤ raw.length)
    (_ : ∀ command ∈ commands raw count o, Complete raw sixtyfour slice command),
    loadCommands raw sixtyfour slice count o = .ok ((commands raw count o).filterMap (segmentOf raw sixtyfour slice))
  | 0, _, _, _ => rfl
  | count + 1, o, inside, complete => by
    rw [commands] at complete ⊢
    rw [loadCommands, word_ok (by omega)]
    simp only [bind, Except.bind]
    by_cases header : o + 8 ≤ raw.length
    · rw [if_neg (by omega), little4_ok (by omega), little4_ok (by omega)]
      dsimp only
      have small := @u32_lt raw (o + 4)
      by_cases least : u32 raw (o + 4) < 8
      · rw [if_pos least, if_neg (by omega)]
        rfl
      · rw [if_neg least, word_ok (by omega)]
        dsimp only
        by_cases fits : o + u32 raw (o + 4) ≤ raw.length
        · rw [if_pos ⟨header, by omega, fits⟩, List.forall_mem_cons] at complete
          have here := segmentAt_eq near complete.1
          dsimp only at here
          rw [if_neg (by omega), if_pos ⟨header, by omega, fits⟩, here]
          dsimp only
          rw [loadCommands_eq bound near fits complete.2, List.filterMap_cons]
          cases segmentOf raw sixtyfour slice _ <;> rfl
        · rw [if_pos (by omega), if_neg (by omega)]
          rfl
    · rw [if_pos (by omega), if_neg (by omega)]
      rfl

theorem loadCommands_complete (bound : raw.length < 2 ^ 63) : ∀ {count o : Nat} (_ : o ≤ raw.length)
    (_ : Safe (loadCommands raw sixtyfour slice count o)), ∀ command ∈ commands raw count o,
    Complete raw sixtyfour slice command
  | 0, _, _, _ => by simp [commands]
  | count + 1, o, inside, safe => by
    rw [commands]
    split
    · rename_i framed
      obtain ⟨header, least, fits⟩ := framed
      have small := @u32_lt raw (o + 4)
      rw [loadCommands, word_ok (by omega), little4_ok (by omega), little4_ok (by omega)] at safe
      simp only [ok_bind] at safe
      rw [if_neg (by omega), if_neg (by omega), word_ok (by omega), ok_bind, if_neg (by omega)] at safe
      obtain ⟨here, found, later⟩ := safe_bind.mp safe
      obtain ⟨rest, after, _⟩ := safe_bind.mp later
      refine List.forall_mem_cons.mpr ⟨?_, loadCommands_complete bound fits ⟨rest, after⟩⟩
      exact segmentAt_complete ⟨here, found⟩
    · simp

theorem isImage_iff {slice : Nat} :
    isImage raw slice = true ↔ slice + 32 ≤ raw.length ∧ (u32 raw slice = magic32 ∨ u32 raw slice = magic64) := by
  simp [isImage]

theorem load_eq (bound : raw.length < 2 ^ 63) (readable : Readable raw) :
    load raw = .ok (if segmentsOf raw = [] then none else some (segmentsOf raw)) := by
  unfold load
  by_cases short : raw.length < 32
  · have none : chosen raw = none := by rw [chosen, if_pos short]
    rw [if_pos short, segmentsOf, none]
    rfl
  rw [if_neg short, chooseSlice_eq short, ok_bind]
  cases slice : chosen raw with
  | none => rw [segmentsOf, slice]; rfl
  | some start =>
    have complete := readable.complete start slice
    dsimp only
    rw [word_ok (readable.header start slice), ok_bind]
    by_cases image : isImage raw start = true
    · obtain ⟨inside, magic⟩ := isImage_iff.mp image
      have segments : segmentsOf raw = (commandsOf raw start).filterMap
          (segmentOf raw (isSixtyfour raw start) start) := by
        simp only [segmentsOf, slice, image, if_true]
      rw [if_neg (by omega), little4_ok (by omega), ok_bind, if_neg (by tauto), little4_ok (by omega), ok_bind,
        ← isSixtyfour, loadCommands_eq bound (by omega) inside (complete image), ok_bind, segments]
      rfl
    · have segments : segmentsOf raw = [] := by simp only [segmentsOf, slice, image, if_false, Bool.false_eq_true]
      rw [segments, if_pos rfl]
      rw [isImage_iff] at image
      by_cases inside : start + 32 ≤ raw.length
      · rw [if_neg (by omega), little4_ok (by omega), ok_bind, if_pos (by tauto)]
        rfl
      · rw [if_pos (by omega)]
        rfl

theorem readable_of_load (bound : raw.length < 2 ^ 63) (safe : Safe (load raw)) : Readable raw := by
  unfold load at safe
  by_cases short : raw.length < 32
  · have none : chosen raw = none := by rw [chosen, if_pos short]
    exact ⟨by simp [none], by simp [none]⟩
  rw [if_neg short, chooseSlice_eq short, ok_bind] at safe
  cases found : chosen raw with
  | none => exact ⟨by simp [found], by simp [found]⟩
  | some slice =>
    rw [found] at safe
    dsimp only at safe
    obtain ⟨_, header, later⟩ := safe_bind.mp safe
    obtain ⟨small, rfl⟩ := word_eq_ok.mp header
    refine ⟨?_, ?_⟩
    · rw [found]
      rintro _ ⟨⟩
      exact small
    · rw [found]
      rintro _ ⟨⟩ image
      obtain ⟨inside, magic⟩ := isImage_iff.mp image
      rw [if_neg (by omega), little4_ok (by omega), ok_bind, if_neg (by tauto), little4_ok (by omega), ok_bind] at later
      obtain ⟨segs, read, _⟩ := safe_bind.mp later
      exact loadCommands_complete bound inside ⟨segs, read⟩

/-- A file is loaded without a panic exactly when it is readable. -/
theorem load_safe (bound : raw.length < 2 ^ 63) : Safe (load raw) ↔ Readable raw :=
  ⟨readable_of_load bound, fun readable => ⟨_, load_eq bound readable⟩⟩

end Reading

section Addresses

variable {raw : Bytes}

def Segment.Contains (seg : Segment) (offset : Nat) : Prop := seg.file ≤ offset ∧ offset < seg.file + seg.size

instance (seg : Segment) (offset : Nat) : Decidable (seg.Contains offset) := inferInstanceAs (Decidable (_ ∧ _))

/-- The segments end below 2^64, and so does every address of an offset that is looked up in them. -/
structure Addressable (segs : List Segment) : Prop where
  ends : ∀ seg ∈ segs, seg.file + seg.size < 2 ^ 64
  addresses : ∀ front seg back, segs = front ++ seg :: back → ∀ offset, seg.Contains offset →
    (∀ other ∈ front, ¬other.Contains offset) → seg.vmaddr + (offset - seg.file) < 2 ^ 64

theorem imageAddr_skip {seg : Segment} {offset : Nat} (outside : ¬seg.Contains offset)
    (small : seg.file + seg.size < 2 ^ 64)
    (rest : List Segment) : imageAddr offset (seg :: rest) = imageAddr offset rest := by
  rw [imageAddr]
  by_cases start : seg.file ≤ offset
  · rw [if_pos start, word_ok small, ok_bind, if_neg fun below => outside ⟨start, below⟩]
  · rw [if_neg start]

theorem imageAddr_here {seg : Segment} {offset : Nat} (inside : seg.Contains offset)
    (small : seg.file + seg.size < 2 ^ 64)
    (rest : List Segment) : imageAddr offset (seg :: rest) = (word (seg.vmaddr + (offset - seg.file))).map some := by
  rw [imageAddr, if_pos inside.1, word_ok small, ok_bind, if_pos inside.2]
  cases word (seg.vmaddr + (offset - seg.file)) <;> rfl

theorem imageAddr_skips {offset : Nat} {front : List Segment} (outside : ∀ seg ∈ front, ¬seg.Contains offset)
    (small : ∀ seg ∈ front, seg.file + seg.size < 2 ^ 64) (rest : List Segment) :
    imageAddr offset (front ++ rest) = imageAddr offset rest := by
  induction front with
  | nil => rfl
  | cons seg front ih =>
    rw [List.forall_mem_cons] at outside small
    rw [List.cons_append, imageAddr_skip outside.1 small.1, ih outside.2 small.2]

/-- Where the segments are addressable, no offset panics. -/
theorem Addressable.safe {segs : List Segment} (addressable : Addressable segs) (offset : Nat) :
    Safe (imageAddr offset segs) := by
  by_cases found : ∃ seg ∈ segs, seg.Contains offset
  · obtain ⟨front, seg, back, rfl, inside, before⟩ : ∃ front seg back, segs = front ++ seg :: back ∧
      seg.Contains offset ∧
        ∀ other ∈ front, ¬other.Contains offset := by
      obtain ⟨seg, first⟩ : ∃ seg, segs.find? (fun seg => decide (seg.Contains offset)) = some seg := by
        rw [← Option.isSome_iff_exists, List.find?_isSome]
        simpa using found
      obtain ⟨inside, front, back, split, before⟩ := List.find?_eq_some_iff_append.mp first
      exact ⟨front, seg, back, split, by simpa using inside, by simpa using before⟩
    have small : ∀ other ∈ front, other.file + other.size < 2 ^ 64 := fun other listed =>
      addressable.ends other (List.mem_append_left _ listed)
    rw [imageAddr_skips before small, imageAddr_here inside (addressable.ends seg (by simp)),
      word_ok (addressable.addresses front seg back rfl offset inside before)]
    exact safe_ok _
  · have outside : ∀ seg ∈ segs, ¬seg.Contains offset := fun seg listed inside => found ⟨seg, listed, inside⟩
    have skipped := imageAddr_skips outside addressable.ends []
    rw [List.append_nil] at skipped
    rw [skipped]
    exact safe_ok _

/-- The last offset is compared with the end of every segment. -/
theorem imageAddr_last {segs : List Segment} (below : ∀ seg ∈ segs, seg.file < 2 ^ 64)
    (safe : Safe (imageAddr (2 ^ 64 - 1) segs)) :
    ∀ seg ∈ segs, seg.file + seg.size < 2 ^ 64 := by
  induction segs with
  | nil => simp
  | cons seg segs ih =>
    rw [List.forall_mem_cons] at below ⊢
    have small : seg.file + seg.size < 2 ^ 64 := by
      rw [imageAddr, if_pos (by omega)] at safe
      obtain ⟨_, ends, _⟩ := safe_bind.mp safe
      exact (word_eq_ok.mp ends).1
    have outside : ¬seg.Contains (2 ^ 64 - 1) := fun inside => by
      have := inside.2
      omega
    rw [imageAddr_skip outside small] at safe
    exact ⟨small, ih below.2 safe⟩

theorem addressable_of_safe {segs : List Segment} (below : ∀ seg ∈ segs, seg.file < 2 ^ 64)
    (safe : ∀ offset < 2 ^ 64, Safe (imageAddr offset segs)) : Addressable segs := by
  have ends := imageAddr_last below (safe (2 ^ 64 - 1) (by omega))
  refine ⟨ends, ?_⟩
  rintro front seg back rfl offset inside before
  have small := ends seg (by simp)
  have returned := safe offset (by have := inside.2; omega)
  rw [imageAddr_skips before fun other listed => ends other (List.mem_append_left _ listed),
    imageAddr_here inside small] at returned
  by_contra large
  rw [word, if_neg large] at returned
  exact safe_error _ returned

theorem segmentsOf_below (readable : Readable raw) (bound : raw.length < 2 ^ 63) :
    ∀ seg ∈ segmentsOf raw, seg.file < 2 ^ 64 := by
  intro seg listed
  unfold segmentsOf at listed
  split at listed
  · cases listed
  · rename_i slice found
    split at listed
    · rename_i image
      obtain ⟨command, among, made⟩ := List.mem_filterMap.mp listed
      have complete := readable.complete slice found image command among
      have inside := (isImage_iff.mp image).1
      unfold segmentOf at made
      split at made
      · rename_i wide
        cases made
        exact (complete.1 wide).2
      · split at made
        · have small := @u32_lt raw (command.offset + 32)
          cases made
          dsimp only
          omega
        · cases made
    · cases listed

/-- Looking up any offset in a file panics nowhere exactly when the file is readable and its segments are
addressable. -/
theorem imageAddrOf_safe (bound : raw.length < 2 ^ 63) :
    (∀ offset < 2 ^ 64, Safe (imageAddrOf raw offset)) ↔ Readable raw ∧ Addressable (segmentsOf raw) := by
  constructor
  · intro safe
    have readable : Readable raw := by
      obtain ⟨segs, read, _⟩ := safe_bind.mp (safe 0 (by omega))
      exact (load_safe bound).mp ⟨segs, read⟩
    refine ⟨readable, addressable_of_safe (segmentsOf_below readable bound) fun offset small => ?_⟩
    have returned := safe offset small
    rw [imageAddrOf, load_eq bound readable, ok_bind] at returned
    by_cases none : segmentsOf raw = []
    · rw [none]
      exact safe_ok _
    · rw [if_neg none] at returned
      exact returned
  · rintro ⟨readable, addressable⟩ offset small
    rw [imageAddrOf, load_eq bound readable, ok_bind]
    by_cases none : segmentsOf raw = []
    · rw [if_pos none]
      exact safe_ok _
    · rw [if_neg none]
      exact addressable.safe offset

end Addresses

section Readers

open Cores (Record parseCoreNotes framesOf Overflows parseCoreNotes_safe latin1)
open Diag (Text)

/-- Where the two readers of binary files panic nowhere. -/
theorem readers_safe (lossy : Bytes → Text) (raw : Buffer) (out : Record) :
    (Safe (parseCoreNotes lossy raw out) ∧ ∀ offset < 2 ^ 64, Safe (imageAddrOf raw.bytes offset)) ↔
      (∀ note ∈ framesOf raw.bytes, ¬Overflows note) ∧ Readable raw.bytes ∧ Addressable (segmentsOf raw.bytes) := by
  rw [parseCoreNotes_safe, imageAddrOf_safe raw.bound]

/-- A table of mapped files with 2^64 - 1 entries. -/
def hugeTable : Buffer :=
  ⟨[0, 0, 0, 0, 8, 0, 0, 0, 0x45, 0x4C, 0x49, 0x46, 0xFF, 0xFF, 0xFF, 0xFF, 0xFF, 0xFF, 0xFF, 0xFF], by decide⟩

/-- A segment command of eight bytes at the end of the file. -/
def cutSegment : Bytes :=
  [0xCF, 0xFA, 0xED, 0xFE] ++ List.replicate 12 0 ++ [1, 0, 0, 0] ++ List.replicate 12 0 ++ [0x19, 0, 0, 0, 8, 0, 0, 0]

theorem hostile_panics : ¬Safe (parseCoreNotes latin1 hugeTable {}) ∧ ¬Safe (imageAddrOf cutSegment 0) := by
  have overflow : parseCoreNotes latin1 hugeTable {} = .error .overflow := by decide +kernel
  have index : imageAddrOf cutSegment 0 = .error .index := by decide +kernel
  rw [overflow, index]
  exact ⟨safe_error _, safe_error _⟩

end Readers

end Darling.MachO
