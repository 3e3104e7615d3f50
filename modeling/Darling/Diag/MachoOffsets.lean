import Darling.Diag.MachoSegments

/-! `macho_vmaddr_for_fileoff`, the second translation of file offsets, against `MachoSegments`. -/
namespace Darling.MachO

open Codecs (Bytes)
open Layouts (unpack)
open Panics

section Code

variable (data : Bytes) (fileOff : Nat)

def bigAt (width o : Nat) : Option Nat := if o + width ≤ data.length then some (be data width o) else none

/-- Whether the slice counts; `slice_base` is then added. -/
def segmentStart (sliceBase : Nat) (sliceRelative : Bool) (fileoff : Nat) : Except Panic Nat :=
  if sliceRelative then word (sliceBase + fileoff) else pure fileoff

/-- The loop of `thin_vmaddr_for_fileoff`; offsets are those of bytes in memory and small. -/
def thinCommands (sliceBase : Nat) (sliceRelative : Bool) : Nat → Nat → Except Panic (Option Nat)
  | 0, _ => return none
  | count + 1, off =>
    match unpack 4 data off, unpack 4 data (off + 4) with
    | some cmd, some cmdsize =>
      if cmdsize = 0 then return none
      else if cmd = lcSegment64 then
        match unpack 8 data (off + 24), unpack 8 data (off + 40), unpack 8 data (off + 48) with
        | some vmaddr, some fileoff, some filesize => do
          let segStart ← segmentStart sliceBase sliceRelative fileoff
          if segStart ≤ fileOff ∧ fileOff < min (segStart + filesize) (2 ^ 64 - 1) then
            return some (← word (vmaddr + (fileOff - segStart)))
          else thinCommands sliceBase sliceRelative count (off + cmdsize)
        | _, _, _ => return none
      else thinCommands sliceBase sliceRelative count (off + cmdsize)
    | _, _ => return none

/-- `thin_vmaddr_for_fileoff`. -/
def thinVmaddrForFileoff (sliceBase : Nat) (sliceRelative : Bool) : Except Panic (Option Nat) :=
  match unpack 4 data sliceBase, unpack 4 data (sliceBase + 16) with
  | some magic, some ncmds =>
    if magic ≠ magic64 then return none else thinCommands data fileOff sliceBase sliceRelative ncmds (sliceBase + 32)
  | _, _ => return none

/-- The loop over the slices of a universal file. -/
def fatSlices : Nat → Nat → Except Panic (Option Nat)
  | 0, _ => return none
  | count + 1, i =>
    match bigAt data 4 (8 + i * 20 + 8) with
    | none => return none
    | some off => do
      match ← thinVmaddrForFileoff data fileOff off true with
      | some vmaddr => return some vmaddr
      | none => fatSlices count (i + 1)

/-- `macho_vmaddr_for_fileoff` of what is read from the path. -/
def machoVmaddrForFileoff : Except Panic (Option Nat) :=
  match bigAt data 4 0 with
  | none => return none
  | some magic =>
    if magic = 0xCAFEBABE then
      match bigAt data 4 4 with
      | none => return none
      | some count => fatSlices data fileOff count 0
    else thinVmaddrForFileoff data fileOff 0 false

end Code

section Files

variable (raw : Bytes)

/-- The segments of a 64-bit image that starts at an offset. -/
def segmentsAt (base : Nat) : List Segment := (commandsOf raw base).filterMap (segmentOf raw true base)

/-- A 64-bit image between two offsets: every command has all its bytes, and the segments stand in the image, apart from
each other, with addresses below 2^64. -/
structure Image (base stop : Nat) : Prop where
  header : base + 32 ≤ stop
  inside : stop ≤ raw.length
  magic : u32 raw base = magic64
  framed : (commandsOf raw base).length = u32 raw (base + 16)
  full : ∀ command ∈ commandsOf raw base, command.cmd = lcSegment64 → 72 ≤ command.size
  ends : ∀ seg ∈ segmentsAt raw base, seg.file + seg.size ≤ stop
  addresses : ∀ seg ∈ segmentsAt raw base, seg.vmaddr + seg.size ≤ 2 ^ 64
  apart : (segmentsAt raw base).Pairwise fun first second => ∀ offset, first.Contains offset → ¬second.Contains offset

/-- The width of the offsets and sizes in a table with entries of so many bytes. -/
def offsetWidth (stride : Nat) : Nat := if stride = 32 then 8 else 4

variable (stride : Nat)

def sliceCount : Nat := be raw 4 4

def sliceCpu (i : Nat) : Nat := be raw 4 (8 + stride * i)

def sliceOffset (i : Nat) : Nat := be raw (offsetWidth stride) (8 + stride * i + 8)

def sliceSize (i : Nat) : Nat := be raw (offsetWidth stride) (8 + stride * i + 8 + offsetWidth stride)

/-- The slices of a universal file, of which those for 64 bits are images and none overlaps another. -/
structure Universal : Prop where
  table : 8 + stride * sliceCount raw ≤ raw.length
  inside : ∀ i < sliceCount raw, sliceOffset raw stride i + sliceSize raw stride i ≤ raw.length
  images : ∀ i < sliceCount raw, u32 raw (sliceOffset raw stride i) = magic64 →
    Image raw (sliceOffset raw stride i) (sliceOffset raw stride i + sliceSize raw stride i)
  apart : ∀ i < sliceCount raw, ∀ j < sliceCount raw, i ≠ j → ∀ offset,
    ¬(sliceOffset raw stride i ≤ offset ∧ offset < sliceOffset raw stride i + sliceSize raw stride i ∧
      sliceOffset raw stride j ≤ offset ∧ offset < sliceOffset raw stride j + sliceSize raw stride j)

/-- The first entry of the table for x86_64. -/
structure First (index : Nat) : Prop where
  below : index < sliceCount raw
  cpu : sliceCpu raw stride index = cpuX86_64
  before : ∀ i < index, sliceCpu raw stride i ≠ cpuX86_64
  magic : u32 raw (sliceOffset raw stride index) = magic64

inductive Kind where
  | thin
  | universal32
  | universal64
  deriving DecidableEq

/-- A well-formed file of a kind, and where its x86_64 image starts. -/
inductive File : Kind → Nat → Prop where
  | thin (magic : raw.take 4 = [0xCF, 0xFA, 0xED, 0xFE]) (image : Image raw 0 raw.length) : File .thin 0
  | universal32 (magic : raw.take 4 = [0xCA, 0xFE, 0xBA, 0xBE]) (universal : Universal raw 20) {index : Nat}
      (first : First raw 20 index) : File .universal32 (sliceOffset raw 20 index)
  | universal64 (magic : raw.take 4 = [0xCA, 0xFE, 0xBA, 0xBF]) (universal : Universal raw 32) {index : Nat}
      (first : First raw 32 index) : File .universal64 (sliceOffset raw 32 index)

end Files

section Loading

variable {raw : Bytes} {base stop : Nat}

theorem commands_inside {count o : Nat} : ∀ command ∈ commands raw count o,
    command.offset + command.size ≤ raw.length := by
  induction count generalizing o with
  | zero => simp [commands]
  | succ count ih =>
    rw [commands]
    split
    · rename_i framed
      exact List.forall_mem_cons.mpr ⟨framed.2.2, ih⟩
    · simp

theorem mem_segmentsAt {seg : Segment} : seg ∈ segmentsAt raw base ↔ ∃ command ∈ commandsOf raw base,
    command.cmd = lcSegment64 ∧
    seg = ⟨base + u64 raw (command.offset + 40), u64 raw (command.offset + 24), u64 raw (command.offset + 48)⟩ := by
  simp [segmentsAt, List.mem_filterMap, segmentOf, eq_comm]

theorem Image.complete (image : Image raw base stop) (bound : raw.length < 2 ^ 63) :
    ∀ command ∈ commandsOf raw base, Complete raw true base command := by
  intro command listed
  refine ⟨fun wide => ?_, fun narrow => absurd narrow.2 (by simp)⟩
  have full := image.full command listed wide.1
  have inside := commands_inside command listed
  have ends := image.ends _ (mem_segmentsAt.mpr ⟨command, listed, wide.1, rfl⟩)
  have stops := image.inside
  dsimp only at ends
  exact ⟨by omega, by omega⟩

/-- The segments of the chosen slice are those of the image that stands there. -/
theorem Image.load (image : Image raw base stop) (bound : raw.length < 2 ^ 63) (found : chosen raw = some base) :
    Readable raw ∧ segmentsOf raw = segmentsAt raw base := by
  have header := image.header
  have inside := image.inside
  have isImage_ : isImage raw base = true := isImage_iff.mpr ⟨by omega, .inr image.magic⟩
  have wide : isSixtyfour raw base = true := by rw [isSixtyfour, image.magic]; rfl
  refine ⟨⟨?_, ?_⟩, ?_⟩
  · rw [found]
    rintro _ ⟨⟩
    omega
  · rw [found]
    rintro _ ⟨⟩ _
    rw [wide]
    exact image.complete bound
  · simp only [segmentsOf, found, isImage_, if_true, wide]
    rfl

/-- A segment of the image before which no other contains an offset that it contains. -/
theorem Image.split (image : Image raw base stop) {seg : Segment} (listed : seg ∈ segmentsAt raw base) {offset : Nat}
    (contains : seg.Contains offset) :
    ∃ front back, segmentsAt raw base = front ++ seg :: back ∧ ∀ other ∈ front, ¬other.Contains offset := by
  obtain ⟨front, back, shape⟩ := List.append_of_mem listed
  refine ⟨front, back, shape, fun other before inside => ?_⟩
  have apart := image.apart
  rw [shape, List.pairwise_append] at apart
  exact apart.2.2 other before seg List.mem_cons_self offset inside contains

/-- `image_addr` gives the address of an offset in the image. -/
theorem Image.imageAddrOf (image : Image raw base stop) (bound : raw.length < 2 ^ 63) (found : chosen raw = some base)
    {seg : Segment} (listed : seg ∈ segmentsAt raw base) {offset : Nat} (contains : seg.Contains offset) :
    imageAddrOf raw offset = .ok (some (seg.vmaddr + (offset - seg.file))) := by
  obtain ⟨readable, segments⟩ := image.load bound found
  obtain ⟨front, back, shape, before⟩ := image.split listed contains
  have small : ∀ other ∈ segmentsAt raw base, other.file + other.size < 2 ^ 64 := by
    intro other among
    have := image.ends other among
    have := image.inside
    omega
  have address : seg.vmaddr + (offset - seg.file) < 2 ^ 64 := by
    have := image.addresses seg listed
    have := contains.1
    have := contains.2
    omega
  have some_ : segmentsOf raw ≠ [] := by
    rw [segments]
    exact List.ne_nil_of_mem listed
  rw [MachO.imageAddrOf, load_eq bound readable, ok_bind, if_neg some_, segments]
  dsimp only
  rw [shape] at small ⊢
  rw [imageAddr_skips before fun other among => small other (List.mem_append_left _ among),
    imageAddr_here contains (small seg (by simp)), word_ok address]
  rfl

theorem tableSlice_first {stride index : Nat} (first : First raw stride index)
    (table : 8 + stride * sliceCount raw ≤ raw.length) :
    ∀ i count, i + count = sliceCount raw → i ≤ index → tableSlice raw stride count i =
      some (sliceOffset raw stride index)
  | i, 0, all, below => by
    have := first.below
    omega
  | i, count + 1, all, below => by
    have fits : stride * i + stride ≤ stride * sliceCount raw := by
      rw [← Nat.mul_succ]
      exact Nat.mul_le_mul_left _ (by omega)
    rw [tableSlice, if_neg (by omega), ← sliceCpu]
    by_cases here : i = index
    · subst here
      rw [if_pos first.cpu]
      rfl
    · rw [if_neg (first.before i (by omega))]
      exact tableSlice_first first table (i + 1) count (by omega) (by omega)

end Loading

section Translating

variable {raw : Bytes} {base stop offset : Nat}

/-- The address of an offset in the first of the segments that contains it. -/
def addressIn (offset : Nat) : List Segment → Option Nat
  | [] => none
  | seg :: rest =>
    if seg.Contains offset then some (seg.vmaddr + (offset - seg.file)) else addressIn offset rest

theorem addressIn_none {segs : List Segment} (outside : ∀ seg ∈ segs, ¬seg.Contains offset) :
    addressIn offset segs = none := by
  induction segs with
  | nil => rfl
  | cons seg segs ih =>
    rw [List.forall_mem_cons] at outside
    rw [addressIn, if_neg outside.1, ih outside.2]

theorem addressIn_split {front back : List Segment} {seg : Segment} (before : ∀ other ∈ front, ¬other.Contains offset)
    (contains : seg.Contains offset) : addressIn offset (front ++ seg :: back) =
    some (seg.vmaddr + (offset - seg.file)) := by
  induction front with
  | nil => exact if_pos contains
  | cons other front ih =>
    rw [List.forall_mem_cons] at before
    rw [List.cons_append, addressIn, if_neg before.1, ih before.2]

theorem unpack_u32 {o : Nat} (inside : o + 4 ≤ raw.length) : unpack 4 raw o = some (u32 raw o) := by
  simp [u32, unpack, inside]

theorem unpack_u64 {o : Nat} (inside : o + 8 ≤ raw.length) : unpack 8 raw o = some (u64 raw o) := by
  simp [u64, unpack, inside]

theorem segmentStart_eq {relative : Bool} (known : relative = true ∨ base = 0) {fileoff : Nat}
    (small : base + fileoff < 2 ^ 64) :
    segmentStart base relative fileoff = .ok (base + fileoff) := by
  unfold segmentStart
  cases relative with
  | true => exact word_ok small
  | false =>
    obtain rfl : base = 0 := by simpa using known
    rw [Nat.zero_add]
    rfl

/-- The commands of the second walker, where all of them are framed. -/
theorem thinCommands_eq (bound : raw.length < 2 ^ 63) {relative : Bool} (known : relative = true ∨ base = 0) :
    ∀ {count o : Nat}
    (_ : (commands raw count o).length = count)
    (_ : ∀ command ∈ commands raw count o, command.cmd = lcSegment64 → 72 ≤ command.size)
    (_ : ∀ seg ∈ (commands raw count o).filterMap (segmentOf raw true base),
      seg.file + seg.size ≤ raw.length ∧ seg.vmaddr + seg.size ≤ 2 ^ 64),
    thinCommands raw offset base relative count o =
      .ok (addressIn offset ((commands raw count o).filterMap (segmentOf raw true base)))
  | 0, _, _, _, _ => rfl
  | count + 1, o, framed, full, fits => by
    rw [commands] at framed full fits ⊢
    split at framed
    · rename_i frame
      obtain ⟨header, least, whole⟩ := frame
      rw [if_pos ⟨header, least, whole⟩] at full fits ⊢
      rw [List.forall_mem_cons] at full
      have later := @thinCommands_eq bound relative known count (o + u32 raw (o + 4)) (by simpa using framed) full.2
      rw [thinCommands, unpack_u32 (by omega), unpack_u32 (by omega)]
      dsimp only
      rw [if_neg (by omega)]
      by_cases segment : u32 raw o = lcSegment64
      · have wide := full.1 segment
        have made : segmentOf raw true base ⟨o, u32 raw o, u32 raw (o + 4)⟩ =
            some ⟨base + u64 raw (o + 40), u64 raw (o + 24), u64 raw (o + 48)⟩ := by simp [segmentOf, segment]
        rw [List.filterMap_cons_some made, List.forall_mem_cons] at fits
        dsimp only at fits wide
        have start := segmentStart_eq known (show base + u64 raw (o + 40) < 2 ^ 64 by omega)
        rw [if_pos segment, unpack_u64 (by omega), unpack_u64 (by omega), unpack_u64 (by omega),
          List.filterMap_cons_some made,
          addressIn]
        dsimp only
        rw [start, ok_bind, Nat.min_eq_left (by omega)]
        have contained : Segment.Contains ⟨base + u64 raw (o + 40), u64 raw (o + 24), u64 raw (o + 48)⟩ offset ↔
            base + u64 raw (o + 40) ≤ offset ∧ offset < base + u64 raw (o + 40) + u64 raw (o + 48) := Iff.rfl
        by_cases contains : base + u64 raw (o + 40) ≤ offset ∧ offset < base + u64 raw (o + 40) + u64 raw (o + 48)
        · rw [if_pos contains, if_pos (contained.mpr contains), word_ok (by omega)]
          rfl
        · rw [if_neg contains, if_neg (contained.not.mpr contains), later fits.2]
      · have none : segmentOf raw true base ⟨o, u32 raw o, u32 raw (o + 4)⟩ = none := by simp [segmentOf, segment]
        rw [List.filterMap_cons_none none] at fits
        rw [if_neg segment, List.filterMap_cons_none none, later fits]
    · simp at framed

theorem Image.thinVmaddr (image : Image raw base stop) (bound : raw.length < 2 ^ 63) {relative : Bool}
    (known : relative = true ∨ base = 0) :
    thinVmaddrForFileoff raw offset base relative = .ok (addressIn offset (segmentsAt raw base)) := by
  have header := image.header
  have inside := image.inside
  rw [thinVmaddrForFileoff, unpack_u32 (by omega), unpack_u32 (by omega)]
  dsimp only
  rw [if_neg (by simp [image.magic])]
  refine thinCommands_eq bound known image.framed image.full fun seg listed => ⟨?_, image.addresses seg listed⟩
  exact Nat.le_trans (image.ends seg listed) inside

/-- What the second walker finds in a slice that does not hold the offset. -/
theorem Universal.other {stride : Nat} (universal : Universal raw stride) (bound : raw.length < 2 ^ 63) {i j : Nat}
    (here : i < sliceCount raw) (there : j < sliceCount raw) (differ : i ≠ j)
    (inside : sliceOffset raw stride j ≤ offset ∧ offset < sliceOffset raw stride j + sliceSize raw stride j) :
    thinVmaddrForFileoff raw offset (sliceOffset raw stride i) true = .ok none := by
  by_cases magic : u32 raw (sliceOffset raw stride i) = magic64
  · have image := universal.images i here magic
    rw [image.thinVmaddr bound (.inl rfl), addressIn_none]
    intro seg listed contains
    have ends := image.ends seg listed
    obtain ⟨command, _, _, rfl⟩ := mem_segmentsAt.mp listed
    have start := contains.1
    have below := contains.2
    dsimp only at ends start below
    exact universal.apart i here j there differ offset ⟨by omega, by omega, inside.1, inside.2⟩
  · unfold thinVmaddrForFileoff
    split
    · rename_i found ncmds header _
      have other : found ≠ magic64 := by
        rw [u32, header] at magic
        exact magic
      rw [if_pos other]
      rfl
    · rfl

theorem fatSlices_first {index : Nat} (universal : Universal raw 20) (bound : raw.length < 2 ^ 63)
    (below : index < sliceCount raw)
    (inside : sliceOffset raw 20 index ≤ offset ∧ offset < sliceOffset raw 20 index + sliceSize raw 20 index)
    {address : Nat}
    (found : thinVmaddrForFileoff raw offset (sliceOffset raw 20 index) true = .ok (some address)) :
    ∀ i count, i + count = sliceCount raw → i ≤ index → fatSlices raw offset count i = .ok (some address)
  | i, 0, all, least => by omega
  | i, count + 1, all, least => by
    have table := universal.table
    have entry : bigAt raw 4 (8 + i * 20 + 8) = some (sliceOffset raw 20 i) := by
      rw [bigAt, if_pos (by omega), sliceOffset, Nat.mul_comm]
      rfl
    rw [fatSlices, entry]
    dsimp only
    by_cases here : i = index
    · subst here
      rw [found]
      rfl
    · rw [universal.other bound (by omega) below here inside, ok_bind]
      exact fatSlices_first universal bound below inside found (i + 1) count (by omega) (by omega)

end Translating

section Agreement

variable {raw : Bytes} {base stop offset : Nat}

theorem take_length {bytes : Bytes} (magic : raw.take 4 = bytes) (four : bytes.length = 4) : 4 ≤ raw.length := by
  have length := congrArg List.length magic
  rw [List.length_take, four] at length
  omega

theorem bigAt_magic {bytes : Bytes} (magic : raw.take 4 = bytes) (four : bytes.length = 4) :
    bigAt raw 4 0 = some (Codecs.fromLeBytes bytes.reverse) := by
  have length := take_length magic four
  rw [bigAt, if_pos (by omega), be, if_pos (by omega), Layouts.slice, List.drop_zero, magic]

theorem u32_magic {bytes : Bytes} (magic : raw.take 4 = bytes) (four : bytes.length = 4) :
    unpack 4 raw 0 = some (Codecs.fromLeBytes bytes) := by
  have length := take_length magic four
  rw [unpack, if_pos (by omega), Layouts.slice, List.drop_zero, magic]

theorem Image.long (image : Image raw base stop) : ¬raw.length < 32 := by
  have := image.header
  have := image.inside
  omega

theorem First.image {stride index : Nat} (first : First raw stride index) (universal : Universal raw stride) :
    Image raw (sliceOffset raw stride index) (sliceOffset raw stride index + sliceSize raw stride index) :=
  universal.images index first.below first.magic

/-- An offset in a segment is in the slice. -/
theorem Image.holds (image : Image raw base stop) {seg : Segment} (listed : seg ∈ segmentsAt raw base)
    (contains : seg.Contains offset) :
    base ≤ offset ∧ offset < stop := by
  have ends := image.ends seg listed
  obtain ⟨command, _, _, rfl⟩ := mem_segmentsAt.mp listed
  have start := contains.1
  have below := contains.2
  dsimp only at ends start below
  omega

/-- The second walker on an image finds the address that the load commands give. -/
theorem Image.address (image : Image raw base stop) (bound : raw.length < 2 ^ 63) {relative : Bool}
    (known : relative = true ∨ base = 0) {seg : Segment} (listed : seg ∈ segmentsAt raw base)
    (contains : seg.Contains offset) :
    thinVmaddrForFileoff raw offset base relative = .ok (some (seg.vmaddr + (offset - seg.file))) := by
  obtain ⟨front, back, shape, before⟩ := image.split listed contains
  rw [image.thinVmaddr bound known, shape, addressIn_split before contains]

/-- The chosen slice of a well-formed file is its x86_64 image. -/
theorem File.chosen {kind : Kind} (file : File raw kind base) : ∃ stop, Image raw base stop ∧
    chosen raw = some base := by
  cases file with
  | thin magic image =>
    refine ⟨_, image, ?_⟩
    rw [MachO.chosen, if_neg image.long, magic]
    rfl
  | universal32 magic universal first =>
    refine ⟨_, first.image universal, ?_⟩
    rw [MachO.chosen, if_neg (first.image universal).long, magic]
    exact tableSlice_first first universal.table 0 _ (Nat.zero_add _) (Nat.zero_le _)
  | universal64 magic universal first =>
    refine ⟨_, first.image universal, ?_⟩
    rw [MachO.chosen, if_neg (first.image universal).long, magic]
    exact tableSlice_first first universal.table 0 _ (Nat.zero_add _) (Nat.zero_le _)

/-- Both translations give the address of every offset in the x86_64 image exactly when the table is no 64-bit one. -/
theorem translators_agree {raw : Buffer} {kind : Kind} (file : File raw.bytes kind base) {seg : Segment}
    (listed : seg ∈ segmentsAt raw.bytes base) (contains : seg.Contains offset) :
    (imageAddrOf raw.bytes offset = .ok (some (seg.vmaddr + (offset - seg.file))) ∧
      machoVmaddrForFileoff raw.bytes offset = .ok (some (seg.vmaddr + (offset - seg.file)))) ↔
        kind ≠ .universal64 := by
  obtain ⟨stop, image, found⟩ := file.chosen
  have loaded := image.imageAddrOf raw.bound found listed contains
  have translated : machoVmaddrForFileoff raw.bytes offset = .ok (some (seg.vmaddr + (offset - seg.file))) ↔
      kind ≠ .universal64 := by
    cases file with
    | thin magic image =>
      rw [machoVmaddrForFileoff, bigAt_magic magic rfl]
      dsimp only
      rw [if_neg (by decide), image.address raw.bound (.inr rfl) listed contains]
      simp
    | @universal32 magic universal index first =>
      have image := first.image universal
      have address := image.address raw.bound (.inl rfl) listed contains
      have count : bigAt raw.bytes 4 4 = some (sliceCount raw.bytes) := by
        have := image.long
        rw [bigAt, if_pos (by omega), sliceCount]
      rw [machoVmaddrForFileoff, bigAt_magic magic rfl]
      dsimp only
      rw [if_pos (by decide), count]
      dsimp only
      rw [fatSlices_first universal raw.bound first.below (image.holds listed contains) address 0 _ (Nat.zero_add _)
        (Nat.zero_le _)]
      simp
    | universal64 magic universal first =>
      have long := (first.image universal).long
      have none : machoVmaddrForFileoff raw.bytes offset = .ok none := by
        rw [machoVmaddrForFileoff, bigAt_magic magic rfl]
        dsimp only
        rw [if_neg (by decide), thinVmaddrForFileoff, u32_magic magic rfl, unpack_u32 (by omega)]
        dsimp only
        rw [if_pos (by decide)]
        rfl
      rw [none]
      simp
  rw [translated]
  exact and_iff_right loaded

/-- An image of one segment, all of which it is, at 0x1000. -/
def oneSegment : Bytes :=
  [0xCF, 0xFA, 0xED, 0xFE] ++ List.replicate 12 0 ++ [1, 0, 0, 0] ++ List.replicate 12 0 ++
    ([0x19, 0, 0, 0, 72, 0, 0, 0] ++ List.replicate 16 0 ++ [0, 0x10, 0, 0, 0, 0, 0, 0] ++ [104, 0, 0, 0, 0, 0, 0, 0] ++
      List.replicate 8 0 ++ [104, 0, 0, 0, 0, 0, 0, 0] ++ List.replicate 16 0)

def thinFile : Buffer := ⟨oneSegment, by decide +kernel⟩

/-- The image in a universal file with a 64-bit table. -/
def wideFile : Buffer :=
  ⟨[0xCA, 0xFE, 0xBA, 0xBF, 0, 0, 0, 1] ++ [1, 0, 0, 7, 0, 0, 0, 3] ++ [0, 0, 0, 0, 0, 0, 0, 40] ++
    [0, 0, 0, 0, 0, 0, 0, 104] ++
    List.replicate 8 0 ++ oneSegment, by decide +kernel⟩

/-- An image with one segment command. -/
theorem image_one {base stop : Nat} {command : Command} {seg : Segment} (header : base + 32 ≤ stop)
    (inside : stop ≤ raw.length)
    (magic : u32 raw base = magic64) (framed : commandsOf raw base = [command]) (count : u32 raw (base + 16) = 1)
    (full : 72 ≤ command.size) (segments : segmentsAt raw base = [seg]) (ends : seg.file + seg.size ≤ stop)
    (address : seg.vmaddr + seg.size ≤ 2 ^ 64) : Image raw base stop where
  header := header
  inside := inside
  magic := magic
  framed := by rw [framed, count]; rfl
  full := by
    rw [framed, List.forall_mem_singleton]
    exact fun _ => full
  ends := by rwa [segments, List.forall_mem_singleton]
  addresses := by rwa [segments, List.forall_mem_singleton]
  apart := by rw [segments]; exact List.pairwise_singleton _ _

theorem thinFile_agrees : File thinFile.bytes .thin 0 ∧ ⟨0, 0x1000, 104⟩ ∈ segmentsAt thinFile.bytes 0 ∧
    imageAddrOf thinFile.bytes 50 = .ok (some (0x1000 + 50)) ∧ machoVmaddrForFileoff thinFile.bytes 50 =
      .ok (some (0x1000 + 50)) := by
  have segments : segmentsAt thinFile.bytes 0 = [⟨0, 0x1000, 104⟩] := by decide +kernel
  have commands_ : commandsOf thinFile.bytes 0 = [⟨32, 0x19, 72⟩] := by decide +kernel
  have image : Image thinFile.bytes 0 thinFile.bytes.length :=
    image_one (by decide +kernel) (Nat.le_refl _) (by decide +kernel) commands_ (by decide +kernel) (by decide) segments
      (by decide +kernel) (by decide)
  have file : File thinFile.bytes .thin 0 := .thin (by decide) image
  have listed : ⟨0, 0x1000, 104⟩ ∈ segmentsAt thinFile.bytes 0 := by
    rw [segments]
    exact List.mem_singleton_self _
  exact ⟨file, listed, (translators_agree file listed ⟨by decide, by decide⟩).mpr (by decide)⟩

/-- The second translation takes a 64-bit table for a thin file. -/
theorem wideFile_differs : File wideFile.bytes .universal64 40 ∧ ⟨40, 0x1000, 104⟩ ∈ segmentsAt wideFile.bytes 40 ∧
    imageAddrOf wideFile.bytes 90 = .ok (some (0x1000 + 50)) ∧ machoVmaddrForFileoff wideFile.bytes 90 = .ok none := by
  have segments : segmentsAt wideFile.bytes 40 = [⟨40, 0x1000, 104⟩] := by decide +kernel
  have commands_ : commandsOf wideFile.bytes 40 = [⟨72, 0x19, 72⟩] := by decide +kernel
  have image : Image wideFile.bytes 40 (40 + 104) :=
    image_one (by decide) (by decide +kernel) (by decide +kernel) commands_ (by decide +kernel) (by decide) segments
      (by decide) (by decide)
  have count : sliceCount wideFile.bytes = 1 := by decide +kernel
  have offset : sliceOffset wideFile.bytes 32 0 = 40 := by decide +kernel
  have size : sliceSize wideFile.bytes 32 0 = 104 := by decide +kernel
  have universal : Universal wideFile.bytes 32 := by
    refine ⟨by rw [count]; decide +kernel, ?_, ?_, ?_⟩
    · rw [count]
      intro i below
      obtain rfl : i = 0 := by omega
      rw [offset, size]
      decide +kernel
    · rw [count]
      intro i below _
      obtain rfl : i = 0 := by omega
      rw [offset, size]
      exact image
    · rw [count]
      intro i below j below' differ
      omega
  have first : First wideFile.bytes 32 0 :=
    ⟨by rw [count]; decide, by decide +kernel, by simp, by rw [offset]; exact image.magic⟩
  have file := File.universal64 (by decide) universal first
  rw [offset] at file
  have listed : ⟨40, 0x1000, 104⟩ ∈ segmentsAt wideFile.bytes 40 := by
    rw [segments]
    exact List.mem_singleton_self _
  exact ⟨file, listed, by decide +kernel, by decide +kernel⟩

end Agreement

end Darling.MachO
