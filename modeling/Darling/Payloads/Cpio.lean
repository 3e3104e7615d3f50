import Darling.Library.Checks
import Darling.Library.Numerals

/-! `_iter_cpio` of `xcode_system_resources.py`: the two shapes of a cpio archive, read member by member. -/
namespace Darling.Payloads

open Codecs (Bytes)
open Layouts (slice Placed)
open Numerals (parseInt numeral digitValue)

/-- What is yielded for a member. Decoding with surrogate escapes loses nothing, so texts are kept as bytes. -/
structure Member where
  name : Bytes
  mode : Int
  data : Bytes
  linkTarget : Option Bytes
  deriving DecidableEq, Repr

/-- What an `XcodeSystemResourcesError` says. -/
inductive Refusal where
  | notNewc
  | notOdc
  | nonOctal (field : Bytes)
  | emptyName
  | truncated (name : Bytes) (missing : Int)
  deriving DecidableEq, Repr

/-- How an iteration ends. Without enough fuel it is unfinished. -/
inductive Ending where
  | finished
  | refused (refusal : Refusal)
  | valueError
  | overflowError
  | unfinished
  deriving DecidableEq, Repr

structure Iteration where
  yielded : List Member
  ending : Ending
  deriving DecidableEq, Repr

def Iteration.after (member : Member) (iteration : Iteration) : Iteration :=
  { iteration with yielded := member :: iteration.yielded }

/-- The end of a slice, counted from the end of the bytes if it is negative. -/
def sliceIndex (length : Nat) (index : Int) : Nat := if index < 0 then (index + length).toNat else index.toNat

/-- `archive[start:stop]`. -/
def pySlice (archive : Bytes) (start stop : Int) : Bytes :=
  slice archive (sliceIndex archive.length start) (sliceIndex archive.length stop)

def trailerName : Bytes := [0x54, 0x52, 0x41, 0x49, 0x4C, 0x45, 0x52, 0x21, 0x21, 0x21]

/-- `stat.S_ISLNK`, which takes no negative mode. -/
def isLink (mode : Int) : Option Bool := if mode < 0 then none else some (mode.toNat &&& 0o170000 == 0o120000)

/-- The member is yielded and the loop goes on. -/
def yieldMember (name : Bytes) (mode : Int) (data : Bytes) (rest : Iteration) : Iteration :=
  match isLink mode with
  | none => ⟨[], .overflowError⟩
  | some link => rest.after ⟨name, mode, data, if link then some data else none⟩

section Loops

variable (archive : Bytes)

def newcMagics : List Bytes := [[0x30, 0x37, 0x30, 0x37, 0x30, 0x31], [0x30, 0x37, 0x30, 0x37, 0x30, 0x32]]

def odcMagic : Bytes := [0x30, 0x37, 0x30, 0x37, 0x30, 0x37]

/-- The bytes to the next multiple of four. -/
def padding (position : Int) : Int := -position % 4

/-- The fields of a newc header. -/
def newcFields (header : Bytes) : Option (List Int) :=
  (List.range 13).mapM fun index => parseInt 16 (slice header (6 + index * 8) (14 + index * 8))

/-- The loop over a newc archive. -/
def newcLoop : Nat → Int → Iteration
  | 0, _ => ⟨[], .unfinished⟩
  | fuel + 1, position =>
    if position + 110 ≤ archive.length then
      let header := pySlice archive position (position + 110)
      if header.take 6 ∉ newcMagics then ⟨[], .refused .notNewc⟩
      else
        match newcFields header with
        | none => ⟨[], .valueError⟩
        | some fields =>
          let mode := fields.getD 1 0
          let filesize := fields.getD 6 0
          let namesize := fields.getD 11 0
          let nameStart := position + 110
          let name := pySlice archive nameStart (nameStart + namesize - 1)
          let dataStart := nameStart + namesize + padding (nameStart + namesize)
          let data := pySlice archive dataStart (dataStart + filesize)
          let position := dataStart + filesize + padding (dataStart + filesize)
          if name = trailerName then ⟨[], .finished⟩
          else yieldMember name mode data (newcLoop fuel position)
    else ⟨[], .finished⟩

def odcFieldWidths : List Nat := [6, 6, 6, 6, 6, 6, 6, 11, 6, 11]

def odcHeaderSize : Nat := 6 + odcFieldWidths.sum

/-- The fields of an odc header from a cursor on, or the first that is not octal. -/
def odcFields (header : Bytes) : Nat → List Nat → Except Bytes (List Int)
  | _, [] => .ok []
  | cursor, width :: widths =>
    match parseInt 8 (slice header cursor (cursor + width)) with
    | none => .error (slice header cursor (cursor + width))
    | some value => (odcFields header (cursor + width) widths).map (value :: ·)

/-- `_iter_cpio_odc`. Its second loop never starts: where the first ends, not even the shorter header is left. -/
def odcLoop : Nat → Int → Iteration
  | 0, _ => ⟨[], .unfinished⟩
  | fuel + 1, position =>
    if position + odcHeaderSize ≤ archive.length then
      let header := pySlice archive position (position + odcHeaderSize)
      if header.take 6 ≠ odcMagic then ⟨[], .refused .notOdc⟩
      else
        match odcFields header 6 odcFieldWidths with
        | .error field => ⟨[], .refused (.nonOctal field)⟩
        | .ok values =>
          let mode := values.getD 2 0
          let namesize := values.getD 8 0
          let filesize := values.getD 9 0
          if namesize < 1 then ⟨[], .refused .emptyName⟩
          else
            let nameStart := position + odcHeaderSize
            let name := pySlice archive nameStart (nameStart + namesize - 1)
            let dataStart := nameStart + namesize
            let data := pySlice archive dataStart (dataStart + filesize)
            if (data.length : Int) ≠ filesize then ⟨[], .refused (.truncated name (filesize - data.length))⟩
            else if name = trailerName then ⟨[], .finished⟩
            else yieldMember name mode data (odcLoop fuel (dataStart + filesize))
    else ⟨[], .finished⟩

/-- `_iter_cpio`. -/
def iterCpio (fuel : Nat) : Iteration :=
  if archive.take 6 = odcMagic then odcLoop archive fuel 0 else newcLoop archive fuel 0

end Loops

/-! The archives themselves. -/

inductive Shape where
  | newc
  | odc
  deriving DecidableEq, Repr

structure Packed where
  name : Bytes
  mode : Nat
  data : Bytes
  deriving DecidableEq, Repr

/-- What a reader owes for the member. -/
def Packed.member (packed : Packed) : Member :=
  ⟨packed.name, packed.mode, packed.data, if packed.mode &&& 0o170000 = 0o120000 then some packed.data else none⟩

namespace Shape

def headerSize : Shape → Nat
  | newc => 110
  | odc => 76

/-- The bytes after so many. -/
def pad : Shape → Nat → Nat
  | newc, length => (4 - length % 4) % 4
  | odc, _ => 0

/-- A header is the magic and fields of digits, of which three count. -/
def Header : Shape → Nat → Nat → Nat → Bytes → Prop
  | newc, mode, namesize, filesize, header => header.length = 110 ∧ header.take 6 ∈ newcMagics ∧
      (∀ byte ∈ header.drop 6, digitValue byte < 16) ∧ numeral 16 (slice header 14 22) = mode ∧
      numeral 16 (slice header 94 102) = namesize ∧ numeral 16 (slice header 54 62) = filesize
  | odc, mode, namesize, filesize, header => header.length = 76 ∧ header.take 6 = odcMagic ∧
      (∀ byte ∈ header.drop 6, digitValue byte < 8) ∧ numeral 8 (slice header 18 24) = mode ∧
      numeral 8 (slice header 59 65) = namesize ∧ numeral 8 (slice header 65 76) = filesize

instance (shape : Shape) (mode namesize filesize : Nat) (header : Bytes) :
    Decidable (shape.Header mode namesize filesize header) :=
  match shape with
  | newc =>
    have : Decidable (∀ byte ∈ header.drop 6, digitValue byte < 16) := List.decidableBAll ..
    inferInstanceAs (Decidable (_ ∧ _))
  | odc =>
    have : Decidable (∀ byte ∈ header.drop 6, digitValue byte < 8) := List.decidableBAll ..
    inferInstanceAs (Decidable (_ ∧ _))

/-- A member as it stands in the archive. -/
def Record (shape : Shape) (packed : Packed) (record : Bytes) : Prop :=
  ∃ header gap tail, shape.Header packed.mode (packed.name.length + 1) packed.data.length header ∧
    gap.length = shape.pad (shape.headerSize + (packed.name.length + 1)) ∧ tail.length = shape.pad packed.data.length ∧
    record = header ++ (packed.name ++ [0] ++ gap) ++ (packed.data ++ tail)

/-- The archive of the members, with the trailer behind them and anything behind the trailer. -/
def Archive (shape : Shape) (members : List Packed) (archive : Bytes) : Prop :=
  (∀ packed ∈ members, packed.name ≠ trailerName) ∧ ∃ records header mode rest,
    Codecs.Reads.Listed shape.Record members records ∧ shape.Header mode (trailerName.length + 1) 0 header ∧
    archive = records ++ (header ++ (trailerName ++ [0] ++ rest))

/-- Where the data of a member start, from the start of its record. -/
def dataOffset (shape : Shape) (packed : Packed) : Nat :=
  shape.headerSize + (packed.name.length + 1) + shape.pad (shape.headerSize + (packed.name.length + 1))

def size (shape : Shape) (packed : Packed) : Nat :=
  shape.dataOffset packed + packed.data.length + shape.pad packed.data.length

/-- The cut lies behind the header of a member with data and before the end of its record, where the records start at a
position. -/
def CutIn (shape : Shape) (cut : Nat) : Nat → List Packed → Prop
  | _, [] => False
  | position, packed :: rest =>
    packed.data ≠ [] ∧ position + shape.headerSize ≤ cut ∧ cut < position + shape.size packed ∨
      CutIn shape cut (position + shape.size packed) rest

/-- The cut is one that the reader notices. An odc record ends with its data. -/
def Noticed (shape : Shape) (members : List Packed) (cut : Nat) : Prop := shape = .odc ∧ shape.CutIn cut 0 members

end Shape

section Headers

variable {archive header : Bytes} {position mode namesize filesize : Nat}

theorem pySlice_nat (start stop : Nat) : pySlice archive start stop = slice archive start stop := by
  have index (length place : Nat) : sliceIndex length place = place := by
    rw [sliceIndex, if_neg (by omega), Int.toNat_natCast]
  rw [pySlice, index, index]

/-- A field of a header is digits. -/
theorem parseInt_field {base start stop : Nat} (known : base = 8 ∨ base = 16)
    (digits : ∀ byte ∈ header.drop 6, digitValue byte < base) (behind : 6 ≤ start) (some : start < stop)
    (room : stop ≤ header.length) :
    parseInt base (slice header start stop) = .some (numeral base (slice header start stop) : Int) := by
  apply Numerals.parseInt_digits known
  · intro byte member
    apply digits
    rw [Layouts.slice_eq] at member
    have later : header.drop start = (header.drop 6).drop (start - 6) := by
      rw [List.drop_drop]
      congr
      omega
    exact List.mem_of_mem_drop (later ▸ List.mem_of_mem_take member)
  · rw [ne_eq, ← List.length_eq_zero_iff, Layouts.slice_eq, List.length_take, List.length_drop]
    omega

theorem newcFields_header (form : Shape.newc.Header mode namesize filesize header) :
    ∃ fields, newcFields header = some fields ∧ fields.getD 1 0 = mode ∧ fields.getD 11 0 = namesize ∧
      fields.getD 6 0 = filesize := by
  obtain ⟨sized, -, digits, rfl, rfl, rfl⟩ := form
  refine ⟨(List.range 13).map fun index => (numeral 16 (slice header (6 + index * 8) (14 + index * 8)) : Int), ?_,
    rfl, rfl, rfl⟩
  refine mapM_some fun index member => parseInt_field (.inr rfl) digits (by omega) (by omega) ?_
  rw [List.mem_range] at member
  omega

theorem odcFields_header (form : Shape.odc.Header mode namesize filesize header) :
    ∃ fields, odcFields header 6 odcFieldWidths = .ok fields ∧ fields.getD 2 0 = mode ∧ fields.getD 8 0 = namesize ∧
      fields.getD 9 0 = filesize := by
  obtain ⟨sized, -, digits, rfl, rfl, rfl⟩ := form
  have field (start stop : Nat) (behind : 6 ≤ start ∧ start < stop ∧ stop ≤ 76) :=
    parseInt_field (.inl rfl) digits behind.1 behind.2.1 (by omega : stop ≤ header.length)
  simp only [odcFieldWidths, odcFields, Nat.reduceAdd, field 6 12 (by decide), field 12 18 (by decide),
    field 18 24 (by decide),
    field 24 30 (by decide), field 30 36 (by decide), field 36 42 (by decide), field 42 48 (by decide),
      field 48 59 (by decide),
    field 59 65 (by decide), field 65 76 (by decide), Except.map]
  exact ⟨_, rfl, rfl, rfl, rfl⟩

variable (fuel : Nat)

/-- What the newc loop does behind a whole header. -/
theorem newcLoop_header (form : Shape.newc.Header mode namesize filesize header)
    (placed : Placed archive position header)
    (aligned : position % 4 = 0) (named : 1 ≤ namesize) :
    newcLoop archive (fuel + 1) position =
      let start := position + (110 + namesize + Shape.newc.pad (110 + namesize))
      let name := slice archive (position + 110) (position + 110 + (namesize - 1))
      let data := slice archive start (start + filesize)
      if name = trailerName then ⟨[], .finished⟩
      else yieldMember name mode data (newcLoop archive fuel (start + filesize + Shape.newc.pad filesize : Nat)) := by
  obtain ⟨fields, parsed, isMode, isName, isFile⟩ := newcFields_header form
  obtain ⟨sized, magic, -⟩ := form
  have room := placed.inside (by rw [ne_eq, ← List.length_eq_zero_iff]; omega)
  have whole := placed.slice
  rw [sized] at room whole
  have read : pySlice archive position (position + 110) = header := by
    rw [← whole]
    exact pySlice_nat position (position + 110)
  rw [newcLoop, if_pos (by omega)]
  have start : (position : Int) + 110 + namesize + padding ((position : Int) + 110 + namesize) =
      (position + (110 + namesize + Shape.newc.pad (110 + namesize)) : Nat) := by
    simp only [padding, Shape.pad]
    omega
  have next : ((position + (110 + namesize + Shape.newc.pad (110 + namesize)) : Nat) : Int) + filesize +
        padding (((position + (110 + namesize + Shape.newc.pad (110 + namesize)) : Nat) : Int) + filesize) =
      (position + (110 + namesize + Shape.newc.pad (110 + namesize)) + filesize + Shape.newc.pad filesize : Nat) := by
    simp only [padding, Shape.pad]
    omega
  have nameEnd : (position : Int) + 110 + namesize - 1 = (position + 110 + (namesize - 1) : Nat) := by omega
  have nameStart : (position : Int) + 110 = (position + 110 : Nat) := rfl
  simp only [read, magic, not_true_eq_false, ↓reduceIte, parsed, isMode, isName, isFile, start, next, nameEnd]
  rw [nameStart, pySlice_nat, ← Int.natCast_add, pySlice_nat]

/-- What the odc loop does behind a whole header. -/
theorem odcLoop_header (form : Shape.odc.Header mode namesize filesize header) (placed : Placed archive position header)
    (named : 1 ≤ namesize) :
    odcLoop archive (fuel + 1) position =
      let start := position + (76 + namesize)
      let name := slice archive (position + 76) (position + 76 + (namesize - 1))
      let data := slice archive start (start + filesize)
      if data.length ≠ filesize then ⟨[], .refused (.truncated name (filesize - data.length))⟩
      else if name = trailerName then ⟨[], .finished⟩
      else yieldMember name mode data (odcLoop archive fuel (start + filesize : Nat)) := by
  obtain ⟨fields, parsed, isMode, isName, isFile⟩ := odcFields_header form
  obtain ⟨sized, magic, -⟩ := form
  have room := placed.inside (by rw [ne_eq, ← List.length_eq_zero_iff]; omega)
  have whole := placed.slice
  rw [sized] at room whole
  have size : (odcHeaderSize : Int) = 76 := rfl
  have read : pySlice archive position (position + 76) = header := by
    rw [← whole]
    exact pySlice_nat position (position + 76)
  rw [odcLoop, size, if_pos (by omega)]
  have start : (position : Int) + 76 + namesize = (position + (76 + namesize) : Nat) := by omega
  have nameEnd : ((position + (76 + namesize) : Nat) : Int) - 1 = (position + 76 + (namesize - 1) : Nat) := by omega
  have nameStart : (position : Int) + 76 = (position + 76 : Nat) := rfl
  have named : ¬ (namesize : Int) < 1 := by omega
  simp only [read, magic, ne_eq, not_true_eq_false, ↓reduceIte, parsed, isMode, isName, isFile, named, start, nameEnd]
  rw [nameStart, pySlice_nat, ← Int.natCast_add, pySlice_nat]
  simp only [Int.natCast_inj]

end Headers

section Records

variable {archive record : Bytes} {position cut fuel : Nat} {packed : Packed} {shape : Shape}

theorem yieldMember_nat (name : Bytes) (mode : Nat) (data : Bytes) (rest : Iteration) :
    yieldMember name mode data rest =
      rest.after ⟨name, mode, data, if mode &&& 0o170000 = 0o120000 then some data else none⟩ := by
  rw [yieldMember, isLink, if_neg (by omega), Int.toNat_natCast]
  simp only [beq_iff_eq]

theorem header_length {mode namesize filesize : Nat} {header : Bytes}
    (form : shape.Header mode namesize filesize header) :
    header.length = shape.headerSize := by
  cases shape with
  | newc => exact form.1
  | odc => exact form.1

theorem record_length (form : shape.Record packed record) : record.length = shape.size packed := by
  obtain ⟨header, gap, tail, formed, gapped, tailed, rfl⟩ := form
  simp only [List.length_append, List.length_singleton, header_length formed, gapped, tailed, Shape.size,
    Shape.dataOffset]
  omega

/-- The parts of a record where the reader looks for them. -/
theorem record_parts (form : shape.Record packed record) (placed : Placed archive position record) :
    ∃ header, shape.Header packed.mode (packed.name.length + 1) packed.data.length header ∧
      Placed archive position header ∧
      Placed archive (position + shape.headerSize) packed.name ∧
        Placed archive (position + shape.dataOffset packed) packed.data := by
  obtain ⟨header, gap, tail, formed, gapped, tailed, rfl⟩ := form
  simp only [Placed.append_iff, List.length_append, List.length_singleton, header_length formed, gapped] at placed
  obtain ⟨⟨first, ⟨⟨named, -⟩, -⟩⟩, ⟨data, -⟩⟩ := placed
  refine ⟨header, formed, first, named, ?_⟩
  have same : position + shape.dataOffset packed = position + (shape.headerSize + (packed.name.length + 1 +
      shape.pad (shape.headerSize + (packed.name.length + 1)))) := by
    unfold Shape.dataOffset
    omega
  rw [same]
  exact data

/-- What stands in the archive where the name and the data of a member belong. -/
def found (shape : Shape) (archive : Bytes) (position : Nat) (packed : Packed) : Packed :=
  ⟨slice archive (position + shape.headerSize) (position + shape.headerSize + packed.name.length), packed.mode,
    slice archive (position + shape.dataOffset packed) (position + shape.dataOffset packed + packed.data.length)⟩

theorem found_record (form : shape.Record packed record) (placed : Placed archive position record) :
    found shape archive position packed = packed := by
  obtain ⟨header, formed, first, name, data⟩ := record_parts form placed
  rw [found, name.slice, data.slice]

theorem found_data_length (shape : Shape) (archive : Bytes) (position : Nat) (packed : Packed) :
    (found shape archive position packed).data.length =
    min packed.data.length (archive.length - (position + shape.dataOffset packed)) := by
  unfold found
  simp only [Layouts.slice_eq, List.length_take, List.length_drop, Nat.add_sub_cancel_left]

/-- The loop over the archives of a shape. -/
def Shape.loop : Shape → Bytes → Nat → Int → Iteration
  | newc => newcLoop
  | odc => odcLoop

/-- The records of a shape start here. -/
def Shape.Aligned : Shape → Nat → Prop
  | newc, position => position % 4 = 0
  | odc, _ => True

theorem aligned_next (aligned : shape.Aligned position) (packed : Packed) :
    shape.Aligned (position + shape.size packed) := by
  cases shape with
  | newc =>
    simp only [Shape.Aligned, Shape.size, Shape.dataOffset, Shape.pad, Shape.headerSize] at aligned ⊢
    omega
  | odc => exact True.intro

/-- One turn of a loop behind the header of a member. Only the odc loop compares the length of the data. -/
theorem loop_turn {header : Bytes} (form : shape.Header packed.mode (packed.name.length + 1) packed.data.length header)
    (placed : Placed archive position header) (aligned : shape.Aligned position) :
    shape.loop archive (fuel + 1) position =
      if shape = .odc ∧ (found shape archive position packed).data.length ≠ packed.data.length then
        ⟨[], .refused (.truncated (found shape archive position packed).name
          (packed.data.length - (found shape archive position packed).data.length))⟩
      else if (found shape archive position packed).name = trailerName then ⟨[], .finished⟩
      else (shape.loop archive fuel (position + shape.size packed : Nat)).after
        (found shape archive position packed).member := by
  cases shape with
  | newc =>
    have next :
        newcLoop archive fuel (position + (110 + (packed.name.length + 1) + Shape.newc.pad
        (110 + (packed.name.length + 1))) +
        packed.data.length + Shape.newc.pad packed.data.length :
          Nat) = newcLoop archive fuel (position + Shape.newc.size packed : Nat) := by
      congr 2
      simp only [Shape.size, Shape.dataOffset, Shape.headerSize]
      omega
    rw [Shape.loop, newcLoop_header fuel form placed aligned (by omega)]
    simp only [yieldMember_nat, next, Nat.add_sub_cancel, reduceCtorEq, false_and, ↓reduceIte]
    rfl
  | odc =>
    have next : odcLoop archive fuel (position + (76 + (packed.name.length + 1)) + packed.data.length : Nat) =
        odcLoop archive fuel (position + Shape.odc.size packed : Nat) := by
      congr 2
      simp only [Shape.size, Shape.dataOffset, Shape.headerSize, Shape.pad]
      omega
    rw [Shape.loop, odcLoop_header fuel form placed (by omega)]
    simp only [yieldMember_nat, next, Nat.add_sub_cancel, true_and]
    rfl

/-- Without room for a header a loop finishes. -/
theorem loop_behind (behind : archive.length < position + shape.headerSize) :
    shape.loop archive (fuel + 1) position = ⟨[], .finished⟩ := by
  cases shape with
  | newc =>
    have behind : archive.length < position + 110 := behind
    rw [Shape.loop, newcLoop, if_neg (by omega)]
  | odc =>
    have behind : archive.length < position + 76 := behind
    have size : (odcHeaderSize : Int) = 76 := rfl
    rw [Shape.loop, odcLoop, size, if_neg (by omega)]

end Records

section Archives

variable {shape : Shape} {members : List Packed} {records : Bytes} {mode : Nat} {header rest : Bytes}

/-- The member that ends an archive. -/
def trailer (mode : Nat) : Packed := ⟨trailerName, mode, []⟩

/-- The trailer has no data to compare. -/
theorem loop_trailer {archive : Bytes} {position fuel : Nat}
    (form : shape.Header mode (trailerName.length + 1) 0 header)
    (placed : Placed archive position header) (aligned : shape.Aligned position) :
    shape.loop archive (fuel + 1) position =
      if (found shape archive position (trailer mode)).name = trailerName then ⟨[], .finished⟩
      else (shape.loop archive fuel (position + shape.size (trailer mode) : Nat)).after
        (found shape archive position (trailer mode)).member := by
  have formed : shape.Header (trailer mode).mode ((trailer mode).name.length + 1) (trailer mode).data.length header :=
    form
  have empty : (found shape archive position (trailer mode)).data.length = (trailer mode).data.length := by
    rw [found_data_length]
    exact Nat.zero_min _
  rw [loop_turn formed placed aligned, if_neg fun differs => differs.2 empty]

/-- The loop yields the members of a whole archive. -/
theorem loop_exact (listed : Codecs.Reads.Listed shape.Record members records)
    (form : shape.Header mode (trailerName.length + 1) 0 header) (front : Bytes) (aligned : shape.Aligned front.length)
    (named : ∀ packed ∈ members, packed.name ≠ trailerName) (fuel : Nat) (enough : members.length < fuel) :
    shape.loop (front ++ (records ++ (header ++ (trailerName ++ [0] ++ rest)))) fuel front.length =
      ⟨members.map Packed.member, .finished⟩ := by
  induction listed generalizing front fuel with
  | nil =>
    obtain ⟨fuel, rfl⟩ := Nat.exists_eq_add_one_of_ne_zero (Nat.ne_of_gt enough)
    have placed : Placed (front ++ ([] ++ (header ++ (trailerName ++ [0] ++ rest)))) front.length
        (header ++ trailerName) := by
      rw [Placed, List.drop_left]
      exact ⟨[0] ++ rest, by simp⟩
    obtain ⟨first, name⟩ := Placed.append_iff.mp placed
    rw [header_length form] at name
    have named : (found shape (front ++ ([] ++ (header ++ (trailerName ++ [0] ++ rest)))) front.length
        (trailer mode)).name = trailerName :=
      name.slice
    rw [loop_trailer form first aligned, if_pos named]
    rfl
  | cons one more induction =>
    rename_i packed record members records
    obtain ⟨fuel, rfl⟩ := Nat.exists_eq_add_one_of_ne_zero (Nat.ne_of_gt (Nat.zero_lt_of_lt enough))
    rw [List.forall_mem_cons] at named
    rw [List.length_cons] at enough
    have placed : Placed (front ++ (record ++ records ++ (header ++ (trailerName ++ [0] ++ rest))))
        front.length record := by
      rw [Placed, List.drop_left, List.append_assoc]
      exact List.prefix_append _ _
    obtain ⟨first, formed, there, -, -⟩ := record_parts one placed
    have next : front.length + shape.size packed = (front ++ record).length := by
      rw [List.length_append, record_length one]
    have later := induction (front ++ record) (next ▸ aligned_next aligned packed) named.2 fuel (by omega)
    rw [loop_turn formed there aligned, found_record one placed, if_neg (fun differs => differs.2 rfl),
      if_neg named.1, next]
    simp only [List.append_assoc] at later ⊢
    rw [later]
    rfl

theorem CutIn.behind {cut position : Nat} (noticed : shape.CutIn cut position members) :
    position + shape.headerSize ≤ cut := by
  induction members generalizing position with
  | nil => exact noticed.elim
  | cons packed rest induction =>
    rcases noticed with ⟨-, behind, -⟩ | later
    · exact behind
    · have := induction later
      omega

/-- How the loop over the first bytes of an archive ends. -/
def Ends (shape : Shape) (cut position : Nat) (members : List Packed) (iteration : Iteration) : Prop :=
  (shape = .odc ∧ shape.CutIn cut position members → ∃ refusal, iteration.ending = .refused refusal) ∧
    (¬ (shape = .odc ∧ shape.CutIn cut position members) → iteration.ending = .finished)

theorem Ends.finished {cut position : Nat} (unnoticed : shape = .odc → ¬ shape.CutIn cut position members)
    (yielded : List Member) :
    Ends shape cut position members ⟨yielded, .finished⟩ :=
  ⟨fun noticed => absurd noticed.2 (unnoticed noticed.1), fun _ => rfl⟩

/-- The loop over the first bytes of an archive notices what the shape lets it notice. -/
theorem loop_cut (listed : Codecs.Reads.Listed shape.Record members records)
    (form : shape.Header mode (trailerName.length + 1) 0 header) (front : Bytes) (aligned : shape.Aligned front.length)
    (named : ∀ packed ∈ members, packed.name ≠ trailerName) (cut fuel : Nat) (enough : members.length + 1 < fuel) :
    Ends shape cut front.length members
      (shape.loop ((front ++ (records ++ (header ++ (trailerName ++ [0] ++ rest)))).take cut) fuel front.length) := by
  induction listed generalizing front fuel with
  | nil =>
    obtain ⟨fuel, rfl⟩ := Nat.exists_eq_add_of_lt enough
    have placed : Placed (front ++ ([] ++ (header ++ (trailerName ++ [0] ++ rest)))) front.length
        (header ++ trailerName) := by
      rw [Placed, List.drop_left]
      exact ⟨[0] ++ rest, by simp⟩
    generalize front ++ ([] ++ (header ++ (trailerName ++ [0] ++ rest))) = whole at placed ⊢
    obtain ⟨first, name⟩ := Placed.append_iff.mp placed
    rw [header_length form] at name
    have short : (whole.take cut).length ≤ cut := by
      rw [List.length_take]
      omega
    by_cases room : front.length + shape.headerSize ≤ cut
    · rw [loop_trailer form (first.take (by rw [header_length form]; exact room)) aligned]
      by_cases complete : front.length + shape.headerSize + trailerName.length ≤ cut
      · have named : (found shape (whole.take cut) front.length (trailer mode)).name = trailerName :=
          (name.take complete).slice
        rw [if_pos named]
        exact .finished (fun _ => id) _
      · split
        · exact .finished (fun _ => id) _
        · -- The name is cut, so the next header would stand behind the end.
          have size : shape.headerSize + trailerName.length ≤ shape.size (trailer mode) := by
            simp only [Shape.size, Shape.dataOffset, trailer]
            omega
          rw [List.length_nil, Nat.zero_add, Nat.add_comm 1 fuel, loop_behind (by omega)]
          exact .finished (fun _ => id) _
    · rw [loop_behind (by omega)]
      exact .finished (fun _ => id) _
  | cons one more induction =>
    rename_i packed record members records
    obtain ⟨fuel, rfl⟩ := Nat.exists_eq_add_one_of_ne_zero (Nat.ne_of_gt (Nat.zero_lt_of_lt enough))
    rw [List.forall_mem_cons] at named
    rw [List.length_cons] at enough
    have placed : Placed (front ++ (record ++ records ++ (header ++ (trailerName ++ [0] ++ rest))))
        front.length record := by
      rw [Placed, List.drop_left, List.append_assoc]
      exact List.prefix_append _ _
    have next : front.length + shape.size packed = (front ++ record).length := by
      rw [List.length_append, record_length one]
    have later := induction (front ++ record) (next ▸ aligned_next aligned packed) named.2 fuel (by omega)
    have same : front ++ record ++ (records ++ (header ++ (trailerName ++ [0] ++ rest))) =
        front ++ (record ++ records ++ (header ++ (trailerName ++ [0] ++ rest))) := by simp
    have long : front.length + shape.size packed
        ≤ (front ++ (record ++ records ++ (header ++ (trailerName ++ [0] ++ rest)))).length := by
      rw [next, ← same]
      exact (List.prefix_append _ _).length_le
    rw [same] at later
    generalize front ++ (record ++ records ++ (header ++ (trailerName ++ [0] ++ rest))) = whole at placed later long ⊢
    have sized : (whole.take cut).length = min cut whole.length := List.length_take
    have header_ : shape.headerSize ≤ shape.size packed := by
      simp only [Shape.size, Shape.dataOffset]
      omega
    by_cases room : front.length + shape.headerSize ≤ cut
    · obtain ⟨first, formed, there, -, -⟩ := record_parts one placed
      rw [loop_turn formed (there.take (by rw [header_length formed]; exact room)) aligned]
      have counted := found_data_length shape (whole.take cut) front.length packed
      split
      · rename_i differs
        obtain ⟨rfl, short⟩ := differs
        have some : packed.data ≠ [] := by
          intro none
          rw [none, List.length_nil] at counted short
          omega
        have size : Shape.odc.size packed = Shape.odc.dataOffset packed + packed.data.length := rfl
        refine ⟨fun _ => ⟨_, rfl⟩, fun unnoticed => absurd ⟨rfl, .inl ⟨some, room, ?_⟩⟩ unnoticed⟩
        omega
      · rename_i agrees
        -- An odc loop that goes on has seen all data of the member.
        have seen (odc : shape = .odc) :
            ¬ (packed.data ≠ [] ∧ front.length + shape.headerSize ≤ cut ∧ cut < front.length + shape.size packed) := by
          rintro ⟨some, -, inside⟩
          subst odc
          have size : Shape.odc.size packed = Shape.odc.dataOffset packed + packed.data.length := rfl
          have positive := List.length_pos_of_ne_nil some
          exact agrees ⟨rfl, by omega⟩
        split
        · rename_i stops
          refine .finished (fun odc noticed => ?_) _
          rcases noticed with here | rest
          · exact seen odc here
          · have behind := CutIn.behind rest
            have whole_ := placed.take (by rw [record_length one]; omega : front.length + record.length ≤ cut)
            rw [found_record one whole_] at stops
            exact named.1 stops
        · rw [next]
          refine ⟨fun noticed => later.1 ⟨noticed.1, ?_⟩, fun unnoticed => later.2 fun noticed =>
            unnoticed ⟨noticed.1, .inr ?_⟩⟩
          · exact next ▸ noticed.2.resolve_left (seen noticed.1)
          · exact next ▸ noticed.2
    · rw [loop_behind (by omega)]
      refine .finished (fun _ noticed => ?_) _
      have := CutIn.behind noticed
      omega

/-- An archive begins with the magic of its shape. -/
theorem archive_magic {archive : Bytes} (form : shape.Archive members archive) :
    ∃ mode namesize filesize first, shape.Header mode namesize filesize first ∧ first <+: archive := by
  obtain ⟨-, records, header, mode, rest, listed, formed, rfl⟩ := form
  cases listed with
  | nil => exact ⟨_, _, _, header, formed, List.prefix_append _ _⟩
  | cons one more =>
    obtain ⟨first, gap, tail, formed, -, -, rfl⟩ := one
    refine ⟨_, _, _, first, formed, ?_⟩
    simp only [List.append_assoc]
    exact List.prefix_append _ _

/-- The reader takes the loop of the shape, unless not even the magic is left. -/
theorem iterCpio_loop {archive : Bytes} (form : shape.Archive members archive) (cut fuel : Nat) (room : 6 ≤ cut) :
    iterCpio (archive.take cut) fuel = shape.loop (archive.take cut) fuel 0 := by
  obtain ⟨mode, namesize, filesize, first, formed, rest, rfl⟩ := archive_magic form
  have magic : ((first ++ rest).take cut).take 6 = first.take 6 := by
    have six : 6 ≤ first.length := by
      rw [header_length formed]
      cases shape <;> decide
    rw [List.take_take, Nat.min_eq_left room, List.take_append_of_le_length six]
  unfold iterCpio
  rw [magic]
  cases shape with
  | newc =>
    have other : first.take 6 ≠ odcMagic := by
      intro same
      have known := formed.2.1
      rw [same] at known
      revert known
      decide
    rw [if_neg other]
    rfl
  | odc =>
    rw [if_pos formed.2.1]
    rfl

theorem iterCpio_short {archive : Bytes} (fuel : Nat) (short : archive.length < 6) :
    iterCpio archive (fuel + 1) = ⟨[], .finished⟩ := by
  have other : archive.take 6 ≠ odcMagic := by
    intro same
    have lengths := congrArg List.length same
    rw [List.length_take] at lengths
    simp only [odcMagic, List.length_cons, List.length_nil] at lengths
    omega
  rw [iterCpio, if_neg other, newcLoop, if_neg (by omega)]

/-- The members of an archive are yielded in order. Of its first bytes alone the reader raises its error exactly if
the archive is an odc one and the cut lies behind the header of a member with data and before their end; otherwise
it finishes. -/
theorem cpio_truncation_noticed_iff (shape : Shape) (members : List Packed) (archive : Bytes) (fuel : Nat)
    (form : shape.Archive members archive) (enough : members.length + 1 < fuel) :
    iterCpio archive fuel = ⟨members.map Packed.member, .finished⟩ ∧
      ∀ cut, ((∃ refusal, (iterCpio (archive.take cut) fuel).ending = .refused refusal) ↔ shape.Noticed members cut) ∧
        (¬ shape.Noticed members cut → (iterCpio (archive.take cut) fuel).ending = .finished) := by
  obtain ⟨named, records, header, mode, rest, listed, formed, same⟩ := id form
  have start : shape.Aligned ([] : Bytes).length := by cases shape <;> simp [Shape.Aligned]
  constructor
  · have long : 6 ≤ archive.length := by
      have size := header_length formed
      have large : 6 ≤ shape.headerSize := by cases shape <;> decide
      rw [same, List.length_append, List.length_append]
      omega
    have whole := iterCpio_loop form archive.length fuel long
    rw [List.take_length] at whole
    rw [whole, same]
    exact loop_exact listed formed [] start named fuel (by omega)
  · intro cut
    have ends : Ends shape cut 0 members (iterCpio (archive.take cut) fuel) := by
      by_cases room : 6 ≤ cut
      · rw [iterCpio_loop form cut fuel room, same]
        exact loop_cut listed formed [] start named cut fuel enough
      · obtain ⟨fuel, rfl⟩ := Nat.exists_eq_add_one_of_ne_zero (Nat.ne_of_gt (Nat.zero_lt_of_lt enough))
        rw [iterCpio_short fuel (by rw [List.length_take]; omega)]
        refine .finished (fun _ noticed => ?_) _
        have behind := CutIn.behind noticed
        have large : 6 ≤ shape.headerSize := by cases shape <;> decide
        omega
    refine ⟨⟨fun refused => ?_, ends.1⟩, ends.2⟩
    by_contra unnoticed
    obtain ⟨refusal, raised⟩ := refused
    rw [ends.2 unnoticed] at raised
    cases raised

/-- The bytes of a text in ASCII. -/
def ascii (text : String) : Bytes := text.toList.map fun letter => UInt8.ofNat letter.toNat

/-- The headers of the file `a` of four bytes and of the trailer. -/
def sampleHeader : Shape → Bytes
  | .newc =>
      ascii "07070100000000000081A40000000000000000000000010000000000000004000000000000000000000000000000000000000200000000"
  | .odc => ascii "0707070000000000001006440000000000000000010000000000000000000000200000000004"

def sampleTrailer : Shape → Bytes
  | .newc =>
      ascii "07070100000000000000000000000000000000000000010000000000000000000000000000000000000000000000000000000B00000000"
  | .odc => ascii "0707070000000000000000000000000000000000010000000000000000000001300000000000"

def samplePacked : Packed := ⟨[0x61], 0o100644, ascii "hi!!"⟩

/-- An archive with this one member. -/
def sample (shape : Shape) : Bytes :=
  sampleHeader shape ++ ([0x61] ++ [0] ++ []) ++ (ascii "hi!!" ++ []) ++
    (sampleTrailer shape ++ (trailerName ++ [0] ++ []))

theorem sample_archive (shape : Shape) : shape.Archive [samplePacked] (sample shape) := by
  have header : shape.Header 0o100644 2 4 (sampleHeader shape) := by
    cases shape <;> rw [sampleHeader, ascii, String.toList_ofList] <;> decide +kernel
  have last : shape.Header 0 11 0 (sampleTrailer shape) := by
    cases shape <;> rw [sampleTrailer, ascii, String.toList_ofList] <;> decide +kernel
  have record : shape.Record samplePacked (sampleHeader shape ++ ([0x61] ++ [0] ++ []) ++ (ascii "hi!!" ++ [])) :=
    ⟨sampleHeader shape, [], [], header, by cases shape <;> rfl, by cases shape <;> rfl, rfl⟩
  exact ⟨by decide, _, _, 0, [], .cons record .nil, last, by rw [List.append_nil, sample]⟩

theorem cpio_odc_sample : iterCpio (sample .odc) 3 = ⟨[samplePacked.member], .finished⟩ ∧
    ∃ refusal, (iterCpio ((sample .odc).take 80) 3).ending = .refused refusal := by
  have both := cpio_truncation_noticed_iff .odc [samplePacked] (sample .odc) 3 (sample_archive .odc) (by decide)
  refine ⟨both.1, (both.2 80).1.mpr ⟨rfl, .inl ⟨?_, ?_, ?_⟩⟩⟩ <;> decide +kernel

/-- A newc archive that is cut inside the data of its member is read to the end without an error. -/
theorem cpio_newc_sample_cut :
    Shape.newc.Archive [samplePacked] (sample .newc) ∧ (sample .newc).take 114 ≠ sample .newc ∧
      iterCpio ((sample .newc).take 114) 3 = ⟨[⟨[0x61], 0o100644, ascii "hi", none⟩], .finished⟩ :=
  ⟨sample_archive .newc, by decide +kernel, by decide +kernel⟩

end Archives

end Darling.Payloads
