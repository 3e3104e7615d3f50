import Darling.Closure.Commands

/-! `chained_fixup_imports` of `closure_analyze.py` against the three import tables that dyld reads. -/
namespace Darling.Closure

open Codecs (Bytes toLeBytes fromLeBytes)
open Layouts (slice unpack findZero signed Placed)

/-- An import of an image. -/
structure Import where
  name : Bytes
  libOrdinal : Int
  weak : Bool
  eager : Bool
  deriving DecidableEq, Repr

structure FixupImport extends Import where
  addend : Int
  deriving DecidableEq, Repr

section Reader

/-- The fields of an entry before its name is looked up. -/
structure RawImport where
  lib : Nat
  weak : Nat
  nameoff : Nat
  addend : Int
  deriving DecidableEq, Repr

variable (blob : Bytes)

/-- The entry at an index of the table; nothing for an imports format that the reader does not know. -/
def rawImport (fmt importsOff i : Nat) : Decoded (Option RawImport) :=
  if fmt = 1 then do
    let value ← field 4 blob (importsOff + 4 * i)
    return some ⟨value &&& 0xFF, (value >>> 8) &&& 1, value >>> 9, 0⟩
  else if fmt = 2 then do
    let value ← field 4 blob (importsOff + 8 * i)
    let addend ← field 4 blob (importsOff + 8 * i + 4)
    return some ⟨value &&& 0xFF, (value >>> 8) &&& 1, value >>> 9, signed 32 addend⟩
  else if fmt = 3 then do
    let value ← field 8 blob (importsOff + 12 * i)
    let addend ← field 4 blob (importsOff + 12 * i + 8)
    return some ⟨value &&& 0xFFFF, (value >>> 16) &&& 1, value >>> 32, addend⟩
  else return none

/-- The sign rule of the reader, the same one for an ordinal of eight and of sixteen bits. -/
def ordinalOf (lib : Nat) : Int := if 127 < lib then (lib : Int) - 256 else lib

/-- The import, if its name ends. -/
def namedImport (symbolsOff : Nat) (raw : RawImport) : Option FixupImport :=
  match findZero blob (symbolsOff + raw.nameoff) with
  | some stop => some
    { name := slice blob (symbolsOff + raw.nameoff) stop, libOrdinal := ordinalOf raw.lib, weak := raw.weak != 0,
      eager := true, addend := raw.addend }
  | none => none

/-- The loop over the entries from an index on. -/
def readImports (fmt importsOff symbolsOff : Nat) : Nat → Nat → List FixupImport → Decoded (List FixupImport)
  | 0, _, imports => return imports
  | count + 1, i, imports => do
    match ← rawImport blob fmt importsOff i with
    | none => return imports
    | some raw =>
      readImports fmt importsOff symbolsOff count (i + 1) (imports ++ (namedImport blob symbolsOff raw).toList)

/-- `chained_fixup_imports`. -/
def chainedFixupImports : Decoded (List FixupImport) :=
  if blob.length < 28 then return []
  else do
    let importsOff ← field 4 blob 8
    let symbolsOff ← field 4 blob 12
    let count ← field 4 blob 16
    let fmt ← field 4 blob 20
    readImports blob fmt importsOff symbolsOff count 0 []

end Reader

/-! What dyld lays out. -/

inductive ImportFormat where
  | plain
  | addend
  | addend64
  deriving DecidableEq, Repr

namespace ImportFormat

def number : ImportFormat → Nat
  | plain => 1
  | addend => 2
  | addend64 => 3

/-- The bytes of one entry. -/
def stride : ImportFormat → Nat
  | plain => 4
  | addend => 8
  | addend64 => 16

end ImportFormat

/-- An import as the linker means it. -/
structure DyldImport where
  name : Bytes
  ordinal : Int
  weak : Bool
  addend : Int
  deriving DecidableEq, Repr

namespace DyldImport

/-- The import that a reader owes. Every chained fixup is eager. -/
def read (wanted : DyldImport) : FixupImport :=
  { name := wanted.name, libOrdinal := wanted.ordinal, weak := wanted.weak, eager := true, addend := wanted.addend }

/-- The format has room for the import. The ordinals above 0xF0, or 0xFFF0, are the negative ones. -/
def Fits (wanted : DyldImport) : ImportFormat → Prop
  | .plain => -15 ≤ wanted.ordinal ∧ wanted.ordinal ≤ 0xF0 ∧ wanted.addend = 0
  | .addend => -15 ≤ wanted.ordinal ∧ wanted.ordinal ≤ 0xF0 ∧ -2 ^ 31 ≤ wanted.addend ∧ wanted.addend < 2 ^ 31
  | .addend64 => -15 ≤ wanted.ordinal ∧ wanted.ordinal ≤ 0xFFF0 ∧ 0 ≤ wanted.addend ∧ wanted.addend < 2 ^ 64

/-- The word of the two formats with an ordinal of eight bits. -/
def shortWord (wanted : DyldImport) (nameoff : Nat) : Nat :=
  (wanted.ordinal % 256).toNat + 256 * wanted.weak.toNat + 512 * nameoff

/-- The word of the format with an ordinal of sixteen bits and fifteen reserved ones. -/
def longWord (wanted : DyldImport) (nameoff reserved : Nat) : Nat :=
  (wanted.ordinal % 65536).toNat + 65536 * wanted.weak.toNat + 131072 * reserved + 4294967296 * nameoff

/-- The entry of the import in the table. -/
def entry (wanted : DyldImport) (nameoff reserved : Nat) : ImportFormat → Bytes
  | .plain => toLeBytes 4 (wanted.shortWord nameoff)
  | .addend => toLeBytes 4 (wanted.shortWord nameoff) ++ toLeBytes 4 (wanted.addend % 2 ^ 32).toNat
  | .addend64 => toLeBytes 8 (wanted.longWord nameoff reserved) ++ toLeBytes 8 wanted.addend.toNat

end DyldImport

/-- The numbers of the header of the payload. -/
structure FixupsHeader where
  version : Nat
  starts : Nat
  importsOff : Nat
  symbolsOff : Nat
  symbolsFormat : Nat
  deriving DecidableEq, Repr

/-- A name stands at the offset, with the zero that ends it. -/
def Spells (blob : Bytes) (offset : Nat) (name : Bytes) : Prop := Placed blob offset (name ++ [0]) ∧ 0 ∉ name

/-- The payload holds the imports in a format: the header, the table and the names. -/
structure Encodes (header : FixupsHeader) (format : ImportFormat) (imports : List DyldImport)
    (blob : Bytes) : Prop where
  heading : Placed blob 0 (toLeBytes 4 header.version ++ toLeBytes 4 header.starts ++ toLeBytes 4 header.importsOff ++
    toLeBytes 4 header.symbolsOff ++ toLeBytes 4 imports.length ++ toLeBytes 4 format.number ++ toLeBytes 4
      header.symbolsFormat)
  offsets : header.importsOff < 2 ^ 32 ∧ header.symbolsOff < 2 ^ 32 ∧ imports.length < 2 ^ 32
  fits : ∀ wanted ∈ imports, wanted.Fits format
  entries : ∀ (i : Nat) (inside : i < imports.length), ∃ nameoff reserved,
    nameoff < (if format = .addend64 then 2 ^ 32 else 2 ^ 23) ∧ reserved < 2 ^ 15 ∧
      Placed blob (header.importsOff + format.stride * i) (imports[i].entry nameoff reserved format) ∧
      Spells blob (header.symbolsOff + nameoff) imports[i].name

section Words

variable (header : FixupsHeader) (blob : Bytes)

/-- A word of the table of imports. -/
def word (k : Nat) : Nat := (unpack 4 blob (header.importsOff + 4 * k)).getD 0

/-- Three words of the table, as they stand at a stride of twelve bytes, spell the import under the sign rule of the
reader. -/
def SpelledAt (i : Nat) (wanted : DyldImport) : Prop :=
  ordinalOf (word header blob (3 * i) % 65536) = wanted.ordinal ∧
    (word header blob (3 * i) / 65536 % 2 = 1 ↔ wanted.weak = true) ∧
    Spells blob (header.symbolsOff + word header blob (3 * i + 1)) wanted.name ∧
    (word header blob (3 * i + 2) : Int) = wanted.addend

/-- Where the reader returns what the linker encoded. -/
def WellRead (format : ImportFormat) (imports : List DyldImport) : Prop :=
  match format with
  | .plain | .addend => ∀ wanted ∈ imports, wanted.ordinal ≤ 127
  | .addend64 =>
    match imports with
    | [] => True
    | [only] => 0 ≤ only.ordinal ∧ only.ordinal ≤ 127 ∧ only.addend < 2 ^ 32
    | _ => ∀ (i : Nat) (inside : i < imports.length), SpelledAt header blob i imports[i]

end Words

section Exact

variable {blob : Bytes} {header : FixupsHeader} {format : ImportFormat} {imports : List DyldImport}

/-- A filter that keeps as many as there are keeps each. -/
theorem filterMap_eq_iff {α β : Type} {f : α → Option β} {xs : List α} {ys : List β} (same : xs.length = ys.length) :
    xs.filterMap f = ys ↔ xs.map f = ys.map some := by
  induction xs generalizing ys with
  | nil => cases ys <;> simp_all
  | cons x xs induction =>
    cases ys with
    | nil => simp at same
    | cons y ys =>
      rw [List.length_cons, List.length_cons, Nat.succ_inj] at same
      rw [List.map_cons, List.map_cons, List.cons.injEq, ← induction same]
      cases kept : f x with
      | some z => rw [List.filterMap_cons_some kept, List.cons.injEq, Option.some.injEq]
      | none =>
        rw [List.filterMap_cons_none kept]
        have shorter := List.length_filterMap_le f xs
        constructor
        · intro all
          have := congrArg List.length all
          rw [List.length_cons] at this
          omega
        · rintro ⟨impossible, -⟩
          cases impossible

theorem readImports_all {fmt importsOff symbolsOff : Nat} (raws : Nat → RawImport) (count i : Nat)
    (acc : List FixupImport)
    (found : ∀ j, i ≤ j → j < i + count → rawImport blob fmt importsOff j = .ok (some (raws j))) :
    readImports blob fmt importsOff symbolsOff count i acc =
      .ok (acc ++ (List.range' i count).filterMap fun j => namedImport blob symbolsOff (raws j)) := by
  induction count generalizing i acc with
  | zero => simp [readImports, pure, Except.pure]
  | succ count induction =>
    rw [readImports, found i (Nat.le_refl i) (by omega)]
    simp only [bind, Except.bind]
    rw [induction (i + 1) _ fun j low high => found j (by omega) (by omega), List.range'_succ, List.filterMap_cons,
      List.append_assoc]
    cases namedImport blob symbolsOff (raws i) <;> simp

/-- The loop returns the imports exactly if each entry gives its own. -/
theorem readImports_iff {fmt importsOff symbolsOff : Nat} (raws : Nat → RawImport)
    (found : ∀ i < imports.length, rawImport blob fmt importsOff i = .ok (some (raws i))) :
    readImports blob fmt importsOff symbolsOff imports.length 0 [] = .ok (imports.map DyldImport.read) ↔
      ∀ (i : Nat) (inside : i < imports.length), namedImport blob symbolsOff (raws i) = some imports[i].read := by
  rw [readImports_all raws imports.length 0 [] fun j _ below => found j (by omega), List.nil_append, Except.ok.injEq,
    filterMap_eq_iff (by simp), ← List.range_eq_range']
  constructor
  · intro same i inside
    have at_ := congrArg (·[i]?) same
    simpa [inside] using at_
  · intro each
    apply List.ext_getElem (by simp)
    intro i inside _
    rw [List.length_map, List.length_range] at inside
    simpa using each i inside

theorem namedImport_iff {symbolsOff : Nat} {raw : RawImport} {wanted : DyldImport} :
    namedImport blob symbolsOff raw = some wanted.read ↔
      Spells blob (symbolsOff + raw.nameoff) wanted.name ∧ ordinalOf raw.lib = wanted.ordinal ∧
        (raw.weak ≠ 0 ↔ wanted.weak = true) ∧ raw.addend = wanted.addend := by
  unfold namedImport
  cases found : findZero blob (symbolsOff + raw.nameoff) with
  | none =>
    simp only [reduceCtorEq, false_iff]
    rintro ⟨⟨placed, clean⟩, -⟩
    rw [placed.findZero clean] at found
    cases found
  | some stop =>
    obtain ⟨placed, clean, ends⟩ := Layouts.findZero_some found
    have named : slice blob (symbolsOff + raw.nameoff) stop = wanted.name ↔
        Spells blob (symbolsOff + raw.nameoff) wanted.name := by
      constructor
      · intro same
        exact ⟨same ▸ placed, same ▸ clean⟩
      · rintro ⟨there, none⟩
        have stops := there.findZero none
        rw [found, Option.some.injEq] at stops
        rw [stops]
        exact (Placed.append_iff.mp there).1.slice
    rw [← named]
    simp only [DyldImport.read, Option.some.injEq, FixupImport.mk.injEq, Import.mk.injEq, and_assoc, true_and]
    rw [Bool.eq_iff_iff, bne_iff_ne]

/-- The header is read as it stands. -/
theorem chainedFixupImports_eq (encodes : Encodes header format imports blob) :
    chainedFixupImports blob = readImports blob format.number header.importsOff header.symbolsOff
      imports.length 0 [] := by
  obtain ⟨low, high, many⟩ := encodes.offsets
  have heading := encodes.heading
  have long := heading.inside (by simp [← List.length_eq_zero_iff])
  simp only [List.length_append, Codecs.toLeBytes_length] at long
  simp only [Placed.append_iff, Codecs.toLeBytes_length, List.length_append] at heading
  obtain ⟨⟨⟨⟨⟨⟨-, -⟩, imports_⟩, symbols⟩, count⟩, number⟩, -⟩ := heading
  have known : format.number < 256 ^ 4 := by cases format <;> decide
  rw [chainedFixupImports, if_neg (by omega), field, field, field, field, imports_.unpack (by decide) (by omega),
    symbols.unpack (by decide) (by omega), count.unpack (by decide) (by omega), number.unpack (by decide) known]
  rfl

theorem shortWord_lt {wanted : DyldImport} {nameoff : Nat} (bound : nameoff < 2 ^ 23) :
    wanted.shortWord nameoff < 256 ^ 4 := by
  have := wanted.weak.toNat_lt
  rw [DyldImport.shortWord]
  omega

theorem longWord_lt {wanted : DyldImport} {nameoff reserved : Nat} (bound : nameoff < 2 ^ 32)
    (small : reserved < 2 ^ 15) :
    wanted.longWord nameoff reserved < 256 ^ 8 := by
  have := wanted.weak.toNat_lt
  rw [DyldImport.longWord]
  omega

/-- The masks and shifts of the reader on the word of an ordinal of eight bits. -/
theorem shortWord_fields (wanted : DyldImport) (nameoff : Nat) :
    wanted.shortWord nameoff &&& 0xFF = (wanted.ordinal % 256).toNat ∧
      (wanted.shortWord nameoff >>> 8) &&& 1 = wanted.weak.toNat ∧ wanted.shortWord nameoff >>> 9 = nameoff := by
  have bit := wanted.weak.toNat_lt
  have low (n : Nat) : n &&& 0xFF = n % 256 := Nat.and_two_pow_sub_one_eq_mod n 8
  have one (n : Nat) : n &&& 1 = n % 2 := Nat.and_two_pow_sub_one_eq_mod n 1
  rw [low, one, Nat.shiftRight_eq_div_pow, Nat.shiftRight_eq_div_pow, DyldImport.shortWord]
  omega

/-- What the sign rule makes of an ordinal of eight bits. -/
theorem ordinalOf_short {ordinal : Int} (low : -15 ≤ ordinal) (high : ordinal ≤ 0xF0) :
    ordinalOf (ordinal % 256).toNat = ordinal ↔ ordinal ≤ 127 := by
  unfold ordinalOf
  split <;> omega

/-- The raw entry of the two formats with an ordinal of eight bits. -/
theorem rawImport_short (encodes : Encodes header format imports blob) (short : format ≠ .addend64) {i : Nat}
    (inside : i < imports.length) :
    ∃ nameoff, Spells blob (header.symbolsOff + nameoff) imports[i].name ∧
      rawImport blob format.number header.importsOff i =
        .ok (some ⟨(imports[i].ordinal % 256).toNat, imports[i].weak.toNat, nameoff, imports[i].addend⟩) := by
  obtain ⟨nameoff, reserved, bound, -, placed, spelled⟩ := encodes.entries i inside
  rw [if_neg short] at bound
  have fits := encodes.fits imports[i] (List.getElem_mem inside)
  obtain ⟨lib, weak, offset⟩ := shortWord_fields imports[i] nameoff
  refine ⟨nameoff, spelled, ?_⟩
  cases format with
  | plain =>
    have value := placed.unpack (by decide) (shortWord_lt bound)
    simp only [rawImport, ImportFormat.number, ImportFormat.stride, ↓reduceIte, field] at value ⊢
    rw [value]
    simp only [lib, weak, offset, fits.2.2, bind, Except.bind, pure, Except.pure]
  | addend =>
    obtain ⟨first, second⟩ := Placed.append_iff.mp placed
    rw [Codecs.toLeBytes_length] at second
    have value := first.unpack (by decide) (shortWord_lt bound)
    have addend := second.unpack (by decide) (by omega)
    simp only [rawImport, ImportFormat.number, ImportFormat.stride, ↓reduceIte, field] at value addend ⊢
    rw [value, addend]
    have sign : signed 32 (imports[i].addend % 2 ^ 32).toNat = imports[i].addend := by
      have := fits.2.2
      unfold signed
      split <;> omega
    simp only [lib, weak, offset, sign, bind, Except.bind, pure, Except.pure, Nat.reduceEqDiff, ↓reduceIte]
  | addend64 => exact absurd rfl short

/-- The two halves of a number of eight bytes. -/
theorem unpack_halves {offset : Nat} (inside : offset + 8 ≤ blob.length) :
    unpack 8 blob offset = some ((unpack 4 blob offset).getD 0 + 2 ^ 32 * (unpack 4 blob (offset + 4)).getD 0) := by
  have low : (unpack 4 blob offset).getD 0 = fromLeBytes (slice blob offset (offset + 4)) := by
    rw [unpack, if_pos (by omega), Option.getD_some]
  have high : (unpack 4 blob (offset + 4)).getD 0 = fromLeBytes (slice blob (offset + 4) (offset + 4 + 4)) := by
    rw [unpack, if_pos (by omega), Option.getD_some]
  have split : slice blob offset (offset + 8) = slice blob offset (offset + 4) ++ slice blob (offset + 4)
      (offset + 4 + 4) := by
    simp only [Layouts.slice_eq, Nat.add_sub_cancel_left, ← List.drop_drop]
    exact List.take_add (i := 4) (j := 4)
  have sized : (slice blob offset (offset + 4)).length = 4 := by
    rw [Layouts.slice_eq, List.length_take, List.length_drop]
    omega
  have base : 256 ^ 4 = 2 ^ 32 := by decide
  rw [unpack, if_pos inside, low, high, split, Codecs.fromLeBytes_append, sized, base]

theorem word_lt (header : FixupsHeader) (blob : Bytes) (k : Nat) : word header blob k < 2 ^ 32 := by
  unfold word
  cases found : unpack 4 blob (header.importsOff + 4 * k) with
  | none => simp
  | some number =>
    have := Layouts.unpack_lt found
    simpa using this

/-- The raw entry of the format with an ordinal of sixteen bits, read at a stride of twelve bytes. -/
theorem rawImport_long (encodes : Encodes header .addend64 imports blob) {i : Nat} (inside : i < imports.length) :
    rawImport blob 3 header.importsOff i = .ok
      (some ⟨word header blob (3 * i) % 65536, word header blob (3 * i) / 65536 % 2,
      word header blob (3 * i + 1), word header blob (3 * i + 2)⟩) := by
  obtain ⟨nameoff, reserved, -, -, placed, -⟩ := encodes.entries i inside
  have room := placed.inside (by simp [← List.length_eq_zero_iff, DyldImport.entry])
  simp only [DyldImport.entry, ImportFormat.stride, List.length_append, Codecs.toLeBytes_length] at room
  have lower := word_lt header blob (3 * i)
  have middle := word_lt header blob (3 * i + 1)
  have value : field 8 blob (header.importsOff + 12 * i) =
      .ok (word header blob (3 * i) + 2 ^ 32 * word header blob (3 * i + 1)) := by
    rw [field, unpack_halves (by omega), word, word,
      (by omega : header.importsOff + 4 * (3 * i + 1) = header.importsOff + 12 * i + 4),
      (by omega : header.importsOff + 4 * (3 * i) = header.importsOff + 12 * i)]
  have addend : field 4 blob (header.importsOff + 12 * i + 8) = .ok (word header blob (3 * i + 2)) := by
    rw [field, word, (by omega : header.importsOff + 4 * (3 * i + 2) = header.importsOff + 12 * i + 8), unpack,
      if_pos (by omega), Option.getD_some]
  have low (n : Nat) : n &&& 0xFFFF = n % 65536 := Nat.and_two_pow_sub_one_eq_mod n 16
  have one (n : Nat) : n &&& 1 = n % 2 := Nat.and_two_pow_sub_one_eq_mod n 1
  simp only [rawImport, Nat.reduceEqDiff, ↓reduceIte, value, addend, bind, Except.bind, pure, Except.pure, low, one,
    Nat.shiftRight_eq_div_pow]
  congr 3 <;> omega

/-- The first entry is read where it stands, and loses the upper half of its addend. -/
theorem spelledAt_first (encodes : Encodes header .addend64 imports blob) (some : 0 < imports.length) :
    SpelledAt header blob 0 imports[0] ↔ 0 ≤ imports[0].ordinal ∧ imports[0].ordinal ≤ 127 ∧
      imports[0].addend < 2 ^ 32 := by
  obtain ⟨nameoff, reserved, bound, small, placed, spelled⟩ := encodes.entries 0 some
  obtain ⟨least, most, positive, wide⟩ := encodes.fits imports[0] (List.getElem_mem some)
  rw [if_pos rfl] at bound
  have room := placed.inside (by simp [← List.length_eq_zero_iff, DyldImport.entry])
  obtain ⟨first, second⟩ := Placed.append_iff.mp placed
  simp only [DyldImport.entry, List.length_append, Codecs.toLeBytes_length, Nat.mul_zero,
    Nat.add_zero] at room first second
  have value := first.unpack (by decide) (longWord_lt bound small)
  have addend := second.unpack (by decide) (by omega)
  rw [unpack_halves (by omega), Option.some.injEq] at value addend
  have word0 : (unpack 4 blob header.importsOff).getD 0 = word header blob (3 * 0) := rfl
  have word1 : (unpack 4 blob (header.importsOff + 4)).getD 0 = word header blob (3 * 0 + 1) := rfl
  have word2 : (unpack 4 blob (header.importsOff + 8)).getD 0 = word header blob (3 * 0 + 2) := rfl
  have bit := imports[0].weak.toNat_lt
  have weak : imports[0].weak = true ↔ imports[0].weak.toNat = 1 := by cases imports[0].weak <;> simp
  have lower := word_lt header blob (3 * 0)
  have last := word_lt header blob (3 * 0 + 2)
  rw [word0, word1, DyldImport.longWord] at value
  rw [word2] at addend
  have named : word header blob (3 * 0 + 1) = nameoff := by omega
  unfold SpelledAt ordinalOf
  rw [named, weak]
  constructor
  · rintro ⟨ordinal, -, -, exact_⟩
    split at ordinal <;> omega
  · rintro ⟨low, high, half⟩
    refine ⟨?_, ?_, spelled, ?_⟩
    · split <;> omega
    · omega
    · omega

theorem readImports_long (encodes : Encodes header .addend64 imports blob) :
    readImports blob 3 header.importsOff header.symbolsOff imports.length 0 [] = .ok (imports.map DyldImport.read) ↔
      ∀ (i : Nat) (inside : i < imports.length), SpelledAt header blob i imports[i] := by
  rw [readImports_iff _ fun i inside => rawImport_long encodes inside]
  refine forall₂_congr fun i inside => ?_
  rw [namedImport_iff, SpelledAt]
  constructor
  · rintro ⟨spelled, ordinal, weak, addend⟩
    exact ⟨ordinal, by rw [← weak]; simp only; omega, spelled, addend⟩
  · rintro ⟨ordinal, weak, spelled, addend⟩
    exact ⟨spelled, ordinal, by rw [← weak]; simp only; omega, addend⟩

theorem readImports_short (encodes : Encodes header format imports blob) (short : format ≠ .addend64) :
    readImports blob format.number header.importsOff header.symbolsOff imports.length 0 [] =
      .ok (imports.map DyldImport.read) ↔
      ∀ wanted ∈ imports, wanted.ordinal ≤ 127 := by
  have read (i : Nat) : ∃ raw, ∀ inside : i < imports.length,
      rawImport blob format.number header.importsOff i = .ok (some raw) ∧
        (namedImport blob header.symbolsOff raw = some imports[i].read ↔ imports[i].ordinal ≤ 127) := by
    by_cases inside : i < imports.length
    · obtain ⟨nameoff, spelled, found⟩ := rawImport_short encodes short inside
      have fits : -15 ≤ imports[i].ordinal ∧ imports[i].ordinal ≤ 0xF0 := by
        have fits := encodes.fits imports[i] (List.getElem_mem inside)
        cases format with
        | plain => exact ⟨fits.1, fits.2.1⟩
        | addend => exact ⟨fits.1, fits.2.1⟩
        | addend64 => exact absurd rfl short
      refine ⟨_, fun _ => ⟨found, ?_⟩⟩
      rw [namedImport_iff, ordinalOf_short fits.1 fits.2]
      have weak : imports[i].weak.toNat ≠ 0 ↔ imports[i].weak = true := by cases imports[i].weak <;> simp
      simp [spelled, weak]
    · exact ⟨⟨0, 0, 0, 0⟩, fun below => absurd below inside⟩
  choose raws each using read
  rw [readImports_iff raws fun i inside => (each i inside).1, List.forall_mem_iff_getElem]
  exact forall₂_congr fun i inside => (each i inside).2

/-- The reader returns the encoded imports exactly if no ordinal of eight bits is above 127 and, in the format with
addends of 64 bits, a stride of twelve bytes, an ordinal of eight bits and an addend of 32 bits do no harm. -/
theorem chained_imports_exact_iff (header : FixupsHeader) (format : ImportFormat) (imports : List DyldImport)
    (blob : Bytes)
    (encodes : Encodes header format imports blob) :
    chainedFixupImports blob = .ok (imports.map DyldImport.read) ↔ WellRead header blob format imports := by
  rw [chainedFixupImports_eq encodes]
  cases format with
  | plain => exact readImports_short encodes (by decide)
  | addend => exact readImports_short encodes (by decide)
  | addend64 =>
    refine (readImports_long encodes).trans ?_
    rcases imports with _ | ⟨only, _ | ⟨next, rest⟩⟩
    · simp [WellRead]
    · have first := spelledAt_first encodes (by simp)
      constructor
      · intro each
        exact first.mp (each 0 (by simp))
      · intro good i inside
        obtain rfl : i = 0 := by simpa using inside
        exact first.mpr good
    · rfl

/-- A payload in the first format with one import, `_a` of the 200th library. -/
def manyLibraries : Bytes :=
  [0, 0, 0, 0, 0, 0, 0, 0, 28, 0, 0, 0, 32, 0, 0, 0, 1, 0, 0, 0, 1, 0, 0, 0, 0, 0, 0, 0] ++ [200, 0, 0,
    0] ++ [0x5F, 0x61, 0]

/-- The same import of the third library, with an addend, in the third format. -/
def oneLibrary : Bytes :=
  [0, 0, 0, 0, 0, 0, 0, 0, 28, 0, 0, 0, 44, 0, 0, 0, 1, 0, 0, 0, 3, 0, 0, 0, 0, 0, 0, 0] ++
    [3, 0, 0, 0, 0, 0, 0, 0] ++ [16, 0, 0, 0, 0, 0, 0, 0] ++ [0x5F, 0x61, 0]

theorem chained_imports_one_library :
    chainedFixupImports oneLibrary = .ok [DyldImport.read ⟨[0x5F, 0x61], 3, false, 16⟩] := by
  refine (chained_imports_exact_iff ⟨0, 0, 28, 44, 0⟩ .addend64 [⟨[0x5F, 0x61], 3, false, 16⟩] oneLibrary
    ⟨?_, ?_, ?_, ?_⟩).mpr ?_
  · unfold Placed
    decide
  · decide
  · simp [DyldImport.Fits]
  · intro i inside
    obtain rfl : i = 0 := by simpa using inside
    rw [List.getElem_cons_zero]
    refine ⟨0, 0, by decide, by decide, ?_, ?_, ?_⟩
    · unfold Placed
      decide
    · unfold Placed
      decide
    · decide
  · simp [WellRead]

/-- The reader takes the 200th library for one of the special ordinals. -/
theorem chained_imports_many_libraries :
    Encodes ⟨0, 0, 28, 32, 0⟩ .plain [⟨[0x5F, 0x61], 200, false, 0⟩] manyLibraries ∧
      chainedFixupImports manyLibraries ≠ .ok [DyldImport.read ⟨[0x5F, 0x61], 200, false, 0⟩] := by
  refine ⟨⟨?_, ?_, ?_, ?_⟩, ?_⟩
  · unfold Placed
    decide
  · decide
  · simp [DyldImport.Fits]
  · intro i inside
    obtain rfl : i = 0 := by simpa using inside
    rw [List.getElem_cons_zero]
    refine ⟨0, 0, by decide, by decide, ?_, ?_, ?_⟩
    · unfold Placed
      decide
    · unfold Placed
      decide
    · decide
  · have ran : chainedFixupImports manyLibraries = .ok [⟨⟨[0x5F, 0x61], -56, false, true⟩, 0⟩] := by rfl
    rw [ran]
    simp [DyldImport.read]

end Exact

end Darling.Closure
