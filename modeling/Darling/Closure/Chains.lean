import Mathlib.Data.Nat.Bitwise
import Darling.Closure.Commands

/-! `chained_pointer_format` of `closure_analyze.py`: the chains of a page are walked through the memory that the
file backs. -/
namespace Darling.Closure

open Codecs (Bytes fromLeBytes)
open Layouts (slice unpack)

section Reader

/-- The file backs the whole range through this segment. -/
def Backs (segment : Segment) (address : Int) (size : Nat) : Prop :=
  segment.vmaddr ≤ address ∧ address + size ≤ segment.vmaddr + min segment.vmsize segment.filesize

instance (segment : Segment) (address : Int) (size : Nat) : Decidable (Backs segment address size) :=
  inferInstanceAs (Decidable (_ ∧ _))

/-- Where a range stands in the slice and in the file. -/
structure Location where
  segment : Bytes
  sliceFileOffset : Nat
  fileOffset : Nat
  deriving DecidableEq, Repr

variable (image : Entry) (data blob : Bytes)

/-- `vm_file_location`. -/
def vmFileLocation (address : Int) (size : Nat) : Decoded (Location × Segment) :=
  match image.segments.filter (Backs · address size) with
  | [segment] => do
    require (0 ≤ address ∧ 1 ≤ size) (.valueError "VM range is not uniquely file-backed")
    let offset := segment.fileoff + address.toNat - segment.vmaddr
    return (⟨segment.name, offset, image.sliceOffset + offset⟩, segment)
  | _ => .error (.valueError "VM range is not uniquely file-backed")

/-- `read_pointer` of `resolve_pointer`, on a file with this content. -/
def readPointer (vm : Nat) : Decoded Nat := do
  let (location, _) ← vmFileLocation image vm 8
  let bytes := slice data location.fileOffset (location.fileOffset + 8)
  require (bytes.length = 8) (.valueError "short read of pointer slot")
  return fromLeBytes bytes

/-- A number of the metadata. -/
def peek (width offset : Nat) : Nat := (unpack width blob offset).getD 0

/-- The check of `_chain_unpack`. What it returns is then peeked. -/
def chainUnpack (size offset : Nat) : Decoded Unit :=
  require (offset + size ≤ blob.length) (.valueError "truncated chained fixups metadata")

/-- The loop over an overflow list of starts. -/
def multiStarts : List Nat → Decoded (List Nat)
  | [] => .error (.valueError "unterminated chained multi-start list")
  | value :: rest =>
    if value &&& 0x8000 ≠ 0 then return [value &&& 0x7FFF]
    else do
      let others ← multiStarts rest
      return (value &&& 0x7FFF) :: others

/-- The starts of the chains of a page. -/
def chainStarts (table : List Nat) (pageCount start : Nat) : Decoded (List Nat) :=
  if start &&& 0x8000 ≠ 0 then do
    require (pageCount ≤ start &&& 0x7FFF) (.valueError "invalid chained multi-start index")
    multiStarts (table.drop (start &&& 0x7FFF))
  else return [start]

/-- What the walk needs to know of a page. -/
structure ChainPage where
  format : Nat
  pageVm : Nat
  pageSize : Nat
  starts : List Nat
  deriving DecidableEq, Repr

/-- The metadata part of `chained_pointer_format`. -/
def chainPage (imageBase : Nat) (address : Int) : Decoded ChainPage := do
  chainUnpack blob 28 0
  let version := peek blob 4 0
  let starts := peek blob 4 4
  require (version = 0) (.valueError "unsupported chained fixups version")
  require (28 ≤ starts) (.valueError "invalid chained starts offset")
  chainUnpack blob 4 starts
  let count := peek blob 4 starts
  require (count ≤ image.segments.length) (.valueError "chained segment count exceeds load-command segments")
  chainUnpack blob (4 * count) (starts + 4)
  let (_, wanted) ← vmFileLocation image address 8
  let index := image.segments.idxOf wanted
  let offset := peek blob 4 (starts + 4 + 4 * index)
  require (index < count ∧ offset ≠ 0) (.valueError "VM slot is not a chained fixup (no segment starts)")
  let info := starts + offset
  require (starts + 4 + count * 4 ≤ info) (.valueError "chained segment starts overlap image starts table")
  chainUnpack blob 22 info
  let size := peek blob 4 info
  let pageSize := peek blob 2 (info + 4)
  let fmt := peek blob 2 (info + 6)
  let segmentOffset := peek blob 8 (info + 8)
  let pageCount := peek blob 2 (info + 20)
  require (22 + 2 * pageCount ≤ size ∧ info + size ≤ blob.length ∧
    size % 2 = 0) (.valueError "invalid chained segment starts size")
  require (pageSize = 0x1000 ∨ pageSize = 0x4000) (.valueError "unsupported chained page size")
  require (fmt = 2 ∨ fmt = 6) (.valueError "unsupported chained pointer format")
  let segmentVm := imageBase + segmentOffset
  require (segmentVm = wanted.vmaddr) (.valueError "chained segment VM offset disagrees with load command")
  -- An address that has a location is not negative and not below its segment.
  let pageIndex := (address.toNat - segmentVm) / pageSize
  require (pageIndex < pageCount) (.valueError "VM slot is not a chained fixup (outside page starts)")
  let tableCount := (size - 22) / 2
  chainUnpack blob (2 * tableCount) (info + 22)
  let table := (List.range tableCount).map fun i => peek blob 2 (info + 22 + 2 * i)
  let start := table.getD pageIndex 0
  require (start ≠ 0xFFFF) (.valueError "VM slot is not a chained fixup (page has no starts)")
  let chains ← chainStarts table pageCount start
  return ⟨fmt, segmentVm + pageIndex * pageSize, pageSize, chains⟩

/-- What the walk has seen. -/
structure ChainWalk where
  found : Bool
  visited : List Nat
  deriving DecidableEq, Repr

/-- The distance to the next slot of a chain. -/
def next (raw : Nat) : Nat := (raw >>> 51) &&& 0xFFF

variable (address : Int) (stop : Nat)

/-- One chain, from a slot on. -/
def walkChain (current : Nat) (walk : ChainWalk) : Decoded ChainWalk :=
  if _ : current ∈ walk.visited ∨ stop < current + 8 then
    .error (.valueError "overlapping chain or chained next outside page")
  else
    match readPointer image data current with
    | .error raised => .error raised
    | .ok raw =>
      let walk := ⟨walk.found || current == address, walk.visited ++ [current]⟩
      if last : next raw = 0 then .ok walk else walkChain (current + next raw * 4) walk
termination_by stop - current
decreasing_by omega

/-- The loop over the chains of a page. -/
def walkChains (page : ChainPage) : List Nat → ChainWalk → Decoded ChainWalk
  | [], walk => return walk
  | start :: rest, walk => do
    require (start % 4 = 0 ∧ start + 8 ≤ page.pageSize) (.valueError "invalid chained page start")
    let walk ← walkChain image data address (page.pageVm + page.pageSize) (page.pageVm + start) walk
    walkChains page rest walk

/-- `chained_pointer_format` with the slots that it has read, in order. -/
def chainedPointerWalk (imageBase : Nat) : Decoded (Nat × List Nat) := do
  let page ← chainPage image blob imageBase address
  let walk ← walkChains image data address page page.starts ⟨false, []⟩
  require (walk.found = true) (.valueError "VM slot is not a member of this page's chained fixups")
  return (page.format, walk.visited)

/-- `chained_pointer_format`. -/
def chainedPointerFormat (imageBase : Nat) : Decoded Nat := do
  let (format, _) ← chainedPointerWalk image data blob address imageBase
  return format

end Reader

/-! What the metadata describe. -/

/-- One segment at one index backs the range, and no other does. -/
def Backed (image : Entry) (address : Int) (size : Nat) (segment : Segment) (index : Nat) : Prop :=
  ∃ before after, image.segments = before ++ segment :: after ∧ before.length = index ∧ Backs segment address size ∧
    ∀ other ∈ before ++ after, ¬ Backs other address size

section Layout

variable (blob : Bytes) (index : Nat)

def startsAt : Nat := peek blob 4 4

def segmentCount : Nat := peek blob 4 (startsAt blob)

/-- The offset of the starts of a segment, from the starts of the image. -/
def segmentStarts : Nat := peek blob 4 (startsAt blob + 4 + 4 * index)

def infoAt : Nat := startsAt blob + segmentStarts blob index

def infoSize : Nat := peek blob 4 (infoAt blob index)

def pageSizeAt : Nat := peek blob 2 (infoAt blob index + 4)

def formatAt : Nat := peek blob 2 (infoAt blob index + 6)

def segmentOffsetAt : Nat := peek blob 8 (infoAt blob index + 8)

def pageCountAt : Nat := peek blob 2 (infoAt blob index + 20)

/-- The starts of the pages, and behind them the overflow lists. -/
def tableAt : List Nat := (List.range ((infoSize blob index - 22) / 2)).map fun i =>
    peek blob 2 (infoAt blob index + 22 + 2 * i)

/-- The page of an address, with the chains that start in it. -/
def pageAt (segment : Segment) (address : Int) (starts : List Nat) : ChainPage :=
  ⟨formatAt blob index, segment.vmaddr + (address.toNat - segment.vmaddr) / pageSizeAt blob index *
    pageSizeAt blob index,
    pageSizeAt blob index, starts⟩

/-- The entry of the page of an address. -/
def startAt (segment : Segment) (address : Int) : Nat :=
  (tableAt blob index).getD ((address.toNat - segment.vmaddr) / pageSizeAt blob index) 0

end Layout

/-- The chains that an entry of the table starts: one, or those of an overflow list, whose last value is marked. The
entry 0xFFFF starts none. -/
inductive Starts (table : List Nat) (pageCount : Nat) : Nat → List Nat → Prop where
  | single {start : Nat} (unmarked : start < 0x8000) : Starts table pageCount start [start]
  | multi {index last : Nat} {values rest : List Nat} (some : index ≠ 0x7FFF) (overflow : pageCount ≤ index)
      (listed : table.drop index = values ++ (0x8000 + last) :: rest) (unmarked : ∀ value ∈ values, value < 0x8000) :
      Starts table pageCount (0x8000 + index) (values ++ [last])

/-- The offsets of the metadata are in bounds, the page size and the format are supported, and the segment is where
the load command says. -/
structure Metadata (image : Entry) (blob : Bytes) (imageBase : Nat) (address : Int) (segment : Segment)
    (index : Nat) : Prop where
  header : 28 ≤ blob.length ∧ peek blob 4 0 = 0 ∧ 28 ≤ startsAt blob
  images : startsAt blob + 4 + 4 * segmentCount blob ≤ blob.length ∧ segmentCount blob ≤ image.segments.length
  listed : index < segmentCount blob ∧ segmentStarts blob index ≠ 0 ∧
    4 + 4 * segmentCount blob ≤ segmentStarts blob index
  room : infoAt blob index + 22 ≤ blob.length ∧ infoAt blob index + infoSize blob index ≤ blob.length
  table : 22 + 2 * pageCountAt blob index ≤ infoSize blob index ∧ infoSize blob index % 2 = 0
  pages : pageSizeAt blob index = 0x1000 ∨ pageSizeAt blob index = 0x4000
  format : formatAt blob index = 2 ∨ formatAt blob index = 6
  placed : imageBase + segmentOffsetAt blob index = segment.vmaddr
  inside : (address.toNat - segment.vmaddr) / pageSizeAt blob index < pageCountAt blob index

section Pages

variable {image : Entry} {blob : Bytes} {imageBase : Nat} {address : Int}

theorem vmFileLocation_ok {size : Nat} {location : Location} {segment : Segment} :
    vmFileLocation image address size = .ok (location, segment) ↔
      0 ≤ address ∧ 1 ≤ size ∧ (∃ index, Backed image address size segment index) ∧
        location = ⟨segment.name, segment.fileoff + address.toNat - segment.vmaddr,
          image.sliceOffset + (segment.fileoff + address.toNat - segment.vmaddr)⟩ := by
  have only : image.segments.filter (Backs · address size) = [segment] ↔
      ∃ index, Backed image address size segment index := by
    rw [List.filter_eq_cons_iff]
    constructor
    · rintro ⟨before, after, listed, none, backs, rest⟩
      refine ⟨before.length, before, after, listed, rfl, by simpa using backs, ?_⟩
      rw [List.filter_eq_nil_iff] at rest
      intro other member
      rcases List.mem_append.mp member with early | late
      · simpa using none other early
      · simpa using rest other late
    · rintro ⟨-, before, after, listed, rfl, backs, none⟩
      refine ⟨before, after, listed, ?_, by simpa using backs, ?_⟩
      · intro other member
        simpa using none other (List.mem_append_left _ member)
      · rw [List.filter_eq_nil_iff]
        intro other member
        simpa using none other (List.mem_append_right _ member)
  rw [← only]
  unfold vmFileLocation
  split
  · rename_i found listed
    rw [listed, require_bind_ok, pure_ok, Prod.mk.injEq, List.cons.injEq]
    constructor
    · rintro ⟨⟨positive, some⟩, rfl, rfl⟩
      exact ⟨positive, some, ⟨rfl, rfl⟩, rfl⟩
    · rintro ⟨positive, some, ⟨rfl, -⟩, rfl⟩
      exact ⟨⟨positive, some⟩, rfl, rfl⟩
  · rename_i other
    constructor
    · intro impossible
      cases impossible
    · rintro ⟨-, -, listed, -⟩
      exact absurd listed (other segment)

theorem Backed.idxOf {size index : Nat} {segment : Segment} (backed : Backed image address size segment index) :
    image.segments.idxOf segment = index := by
  obtain ⟨before, after, listed, rfl, backs, none⟩ := backed
  have apart : segment ∉ before := fun member => none segment (List.mem_append_left _ member) backs
  rw [listed, List.idxOf_append_of_notMem apart, List.idxOf_cons_self, Nat.add_zero]

/-- The two masks of an entry of the table. -/
theorem marked_iff {value : Nat} (bound : value < 0x10000) :
    (value &&& 0x8000 ≠ 0 ↔ 0x8000 ≤ value) ∧ value &&& 0x7FFF = value % 0x8000 := by
  refine ⟨?_, Nat.and_two_pow_sub_one_eq_mod value 15⟩
  have bit : value &&& 0x8000 = (value.testBit 15).toNat * 2 ^ 15 := Nat.and_two_pow value 15
  rw [bit, Nat.testBit_eq_decide_div_mod_eq]
  by_cases high : 0x8000 ≤ value
  · have one : value / 2 ^ 15 % 2 = 1 := by omega
    rw [one]
    simp [high]
  · have zero : value / 2 ^ 15 % 2 = 0 := by omega
    rw [zero]
    simp [high]

theorem multiStarts_ok {values starts : List Nat} (bound : ∀ value ∈ values, value < 0x10000) :
    multiStarts values = .ok starts ↔ ∃ front last rest, values = front ++ (0x8000 + last) :: rest ∧
      (∀ value ∈ front, value < 0x8000) ∧ starts = front ++ [last] := by
  induction values generalizing starts with
  | nil => simp [multiStarts]
  | cons value rest induction =>
    rw [List.forall_mem_cons] at bound
    obtain ⟨mark, low⟩ := marked_iff bound.1
    by_cases marked : 0x8000 ≤ value
    · rw [multiStarts, if_pos (mark.mpr marked), pure_ok, low]
      constructor
      · rintro rfl
        refine ⟨[], value % 0x8000, rest, ?_, by simp, rfl⟩
        rw [List.nil_append]
        congr
        omega
      · rintro ⟨front, last, behind, listed, unmarked, rfl⟩
        cases front with
        | nil =>
          obtain ⟨rfl, -⟩ := List.cons.inj listed
          rw [List.nil_append]
          congr
          omega
        | cons first front =>
          obtain ⟨rfl, -⟩ := List.cons.inj listed
          have := unmarked value List.mem_cons_self
          omega
    · rw [multiStarts, if_neg (mt mark.mp marked), bind_ok, low, Nat.mod_eq_of_lt (by omega)]
      simp only [pure_ok, induction bound.2]
      constructor
      · rintro ⟨-, ⟨front, last, behind, rfl, unmarked, rfl⟩, rfl⟩
        exact ⟨value :: front, last, behind, rfl, List.forall_mem_cons.mpr ⟨by omega, unmarked⟩, rfl⟩
      · rintro ⟨front, last, behind, listed, unmarked, rfl⟩
        cases front with
        | nil =>
          obtain ⟨rfl, -⟩ := List.cons.inj listed
          omega
        | cons first front =>
          obtain ⟨rfl, rfl⟩ := List.cons.inj listed
          exact ⟨_, ⟨front, last, behind, rfl, (List.forall_mem_cons.mp unmarked).2, rfl⟩, rfl⟩

theorem chainStarts_ok {table : List Nat} {pageCount start : Nat} {starts : List Nat}
    (bound : ∀ value ∈ table, value < 0x10000) (small : start < 0x10000) :
    start ≠ 0xFFFF ∧ chainStarts table pageCount start = .ok starts ↔ Starts table pageCount start starts := by
  obtain ⟨mark, low⟩ := marked_iff small
  by_cases marked : 0x8000 ≤ start
  · have later : ∀ value ∈ table.drop (start % 0x8000), value < 0x10000 :=
      fun value member => bound value (List.mem_of_mem_drop member)
    rw [chainStarts, if_pos (mark.mpr marked), require_bind_ok, low, multiStarts_ok later]
    constructor
    · rintro ⟨some, overflow, front, last, rest, listed, unmarked, rfl⟩
      have whole : start = 0x8000 + start % 0x8000 := by omega
      rw [whole]
      exact .multi (by omega) overflow listed unmarked
    · intro listed
      cases listed with
      | single unmarked => omega
      | multi some overflow listed unmarked =>
        rw [Nat.add_mod_left, Nat.mod_eq_of_lt (by omega)]
        exact ⟨by omega, overflow, _, _, _, listed, unmarked, rfl⟩
  · rw [chainStarts, if_neg (mt mark.mp marked), pure_ok]
    constructor
    · rintro ⟨-, rfl⟩
      exact .single (by omega)
    · intro listed
      cases listed with
      | single => exact ⟨by omega, rfl⟩
      | multi => omega

theorem peek_lt (width offset : Nat) : peek blob width offset < 256 ^ width := by
  unfold peek
  cases found : unpack width blob offset with
  | none => exact Nat.pow_pos (by decide)
  | some number => exact Layouts.unpack_lt found

theorem tableAt_lt {index : Nat} : ∀ value ∈ tableAt blob index, value < 0x10000 := by
  intro value member
  obtain ⟨i, -, rfl⟩ := List.mem_map.mp member
  exact peek_lt 2 _

theorem startAt_lt {index : Nat} {segment : Segment} : startAt blob index segment address < 0x10000 := by
  unfold startAt
  rw [List.getD_eq_getElem?_getD]
  cases found : (tableAt blob index)[(address.toNat - segment.vmaddr) / pageSizeAt blob index]? with
  | none => simp
  | some value => exact tableAt_lt value (List.mem_of_getElem? found)

/-- The metadata part finds a page exactly if the metadata describe it. -/
theorem chainPage_ok {page : ChainPage} :
    chainPage image blob imageBase address = .ok page ↔ 0 ≤ address ∧ ∃ segment index starts,
      Backed image address 8 segment index ∧ Metadata image blob imageBase address segment index ∧
        Starts (tableAt blob index) (pageCountAt blob index) (startAt blob index segment address) starts ∧
        page = pageAt blob index segment address starts := by
  simp only [chainPage, chainUnpack, bind_ok, require_ok, exists_const, Prod.exists, vmFileLocation_ok, pure_ok]
  constructor
  · rintro ⟨whole, version, low, -, few, images, location, segment, ⟨positive, -, ⟨index, backed⟩, -⟩, rest⟩
    rw [backed.idxOf] at rest
    obtain ⟨⟨listed, some⟩, behind, room, ⟨table, inside, even⟩, pages, format, placed, page, -, present, starts,
        chains, rfl⟩ := rest
    rw [placed] at page present chains
    have chained : Starts (tableAt blob index) (pageCountAt blob index) (startAt blob index segment address) starts :=
      (chainStarts_ok tableAt_lt startAt_lt).mp ⟨present, chains⟩
    refine ⟨positive, segment, index, starts, backed, ?_, chained, ?_⟩
    · refine ⟨⟨by omega, version, low⟩, ⟨images, few⟩, ⟨listed, some, ?_⟩, ⟨room, inside⟩, ⟨table, even⟩, pages,
        format, placed, page⟩
      unfold segmentStarts segmentCount startsAt
      omega
    · rw [pageAt, placed]
      rfl
  · rintro ⟨positive, segment, index, starts, backed, described, chained, rfl⟩
    obtain ⟨present, chains⟩ := (chainStarts_ok tableAt_lt startAt_lt).mpr chained
    obtain ⟨⟨whole, version, low⟩, ⟨images, few⟩, ⟨listed, some, behind⟩, ⟨room, inside⟩, ⟨table, even⟩, pages, format,
        placed, page⟩ :=
      described
    refine ⟨by omega, version, low, ?_, few, images, _, segment, ⟨positive, by decide, ⟨index, backed⟩, rfl⟩, ?_⟩
    · change startsAt blob + 4 ≤ blob.length
      omega
    · rw [backed.idxOf]
      refine ⟨⟨listed, some⟩, ?_, room, ⟨table, inside, even⟩, pages, format, placed, ?_⟩
      · change startsAt blob + 4 + segmentCount blob * 4 ≤ startsAt blob + segmentStarts blob index
        omega
      · have same : imageBase + peek blob 8 (peek blob 4 4 + peek blob 4 (peek blob 4 4 + 4 + 4 * index) + 8) =
          segment.vmaddr :=
          placed
        rw [same]
        refine ⟨page, ?_, present, starts, chains, rfl⟩
        change infoAt blob index + 22 + 2 * ((infoSize blob index - 22) / 2) ≤ blob.length
        omega

end Pages

/-- The slots that a chain reaches from a first one. -/
inductive Reached (image : Entry) (data : Bytes) (first : Nat) : Nat → Prop where
  | first : Reached image data first first
  | next {slot raw : Nat} (reached : Reached image data first slot) (read : readPointer image data slot = .ok raw) :
      Reached image data first (slot + 4 * next raw)

section Walks

variable {image : Entry} {data : Bytes} {address : Int} {stop : Nat}

theorem Reached.le {first slot : Nat} (reached : Reached image data first slot) : first ≤ slot := by
  induction reached with
  | first => exact Nat.le_refl _
  | next _ _ induction => omega

/-- A chain goes on behind its first slot. -/
theorem Reached.cases {first raw slot : Nat} (read : readPointer image data first = .ok raw) :
    Reached image data first slot ↔ slot = first ∨ Reached image data (first + 4 * Closure.next raw) slot := by
  constructor
  · intro reached
    induction reached with
    | first => exact .inl rfl
    | next reached found induction =>
      rcases induction with rfl | later
      · rw [read] at found
        cases found
        exact .inr .first
      · exact .inr (.next later found)
  · rintro (rfl | later)
    · exact .first
    · induction later with
      | first => exact .next .first read
      | next _ found induction => exact .next induction found

/-- What a walk from a slot has read. -/
structure Walked (image : Entry) (data : Bytes) (address : Int) (stop first : Nat) (slots : List Nat)
    (before after : ChainWalk) : Prop where
  visited : after.visited = before.visited ++ slots
  reached : ∀ slot, slot ∈ slots ↔ Reached image data first slot
  inside : ∀ slot ∈ slots, slot + 8 ≤ stop ∧ ∃ raw, readPointer image data slot = .ok raw
  found : after.found = true ↔ before.found = true ∨ ∃ slot ∈ slots, (slot : Int) = address

/-- A chain ends where the next field is zero. -/
theorem Reached.last {first raw slot : Nat} (read : readPointer image data first = .ok raw)
    (last : Closure.next raw = 0) :
    Reached image data first slot ↔ slot = first := by
  constructor
  · intro reached
    induction reached with
    | first => rfl
    | next _ found same =>
      subst same
      rw [read] at found
      cases found
      rw [last]
      rfl
  · rintro rfl
    exact .first

/-- A walk that ends has read its chain. -/
theorem walkChain_sound (current : Nat) (walk final : ChainWalk)
    (walked : walkChain image data address stop current walk = .ok final) :
    ∃ slots, Walked image data address stop current slots walk final := by
  fun_induction walkChain image data address stop current walk with
  | case1 => cases walked
  | case2 => cases walked
  | case3 current walk refused raw read after last =>
    obtain rfl : after = final := Except.ok.inj walked
    refine ⟨[current], rfl, fun slot => ?_, ?_, by simp [after]⟩
    · rw [Reached.last read last, List.mem_singleton]
    · simp only [List.mem_singleton, forall_eq]
      exact ⟨by omega, raw, read⟩
  | case4 current walk refused raw read after last induction =>
    obtain ⟨slots, walked⟩ := induction walked
    rw [Nat.mul_comm] at walked
    refine ⟨current :: slots, ?_, fun slot => ?_, ?_, ?_⟩
    · rw [walked.visited, List.append_assoc]
      rfl
    · rw [List.mem_cons, walked.reached, Reached.cases read]
    · rw [List.forall_mem_cons]
      exact ⟨⟨by omega, raw, read⟩, walked.inside⟩
    · rw [walked.found]
      simp [after, or_assoc]

/-- A walk ends if its chain stays inside the page, the file backs it and nothing of it has been read. -/
theorem walkChain_complete (address : Int) (current : Nat) (walk : ChainWalk)
    (clear : ∀ slot, Reached image data current slot →
      slot ∉ walk.visited ∧ slot + 8 ≤ stop ∧ ∃ raw, readPointer image data slot = .ok raw) :
    ∃ final, walkChain image data address stop current walk = .ok final := by
  fun_induction walkChain image data address stop current walk with
  | case1 current walk refused =>
    obtain ⟨new, room, -⟩ := clear current .first
    rcases refused with old | short
    · exact absurd old new
    · omega
  | case2 current walk refused raised failed =>
    obtain ⟨-, -, raw, read⟩ := clear current .first
    rw [read] at failed
    cases failed
  | case3 => exact ⟨_, rfl⟩
  | case4 current walk refused raw read after last induction =>
    apply induction
    rw [Nat.mul_comm]
    intro slot later
    obtain ⟨new, rest⟩ := clear slot ((Reached.cases read).mpr (.inr later))
    refine ⟨?_, rest⟩
    have behind := later.le
    have apart : slot ≠ current := by omega
    simp [after, new, apart]

variable {page : ChainPage}

/-- What the walks over the chains of a page have read. -/
structure Covered (image : Entry) (data : Bytes) (address : Int) (page : ChainPage) (starts : List Nat)
    (before after : ChainWalk) : Prop where
  visited : ∀ slot, slot ∈ after.visited ↔
    slot ∈ before.visited ∨ ∃ start ∈ starts, Reached image data (page.pageVm + start) slot
  inside : ∀ slot ∈ after.visited, slot ∈ before.visited ∨
    page.pageVm ≤ slot ∧ slot + 8 ≤ page.pageVm + page.pageSize ∧ ∃ raw, readPointer image data slot = .ok raw
  found : after.found = true ↔
    before.found = true ∨ ∃ start ∈ starts, ∃ slot, Reached image data (page.pageVm + start) slot ∧
      (slot : Int) = address

theorem walkChains_sound (starts : List Nat) (walk final : ChainWalk)
    (walked : walkChains image data address page starts walk = .ok final) :
    Covered image data address page starts walk final := by
  induction starts generalizing walk with
  | nil =>
    rw [walkChains, pure_ok] at walked
    subst walked
    exact ⟨by simp, fun _ old => .inl old, by simp⟩
  | cons start rest induction =>
    rw [walkChains, require_bind_ok, bind_ok] at walked
    obtain ⟨-, middle, one, more⟩ := walked
    obtain ⟨slots, here⟩ := walkChain_sound _ _ _ one
    have there := induction _ more
    refine ⟨fun slot => ?_, fun slot member => ?_, ?_⟩
    · rw [there.visited, here.visited, List.mem_append, here.reached]
      simp [or_assoc]
    · rcases there.inside slot member with early | late
      · rw [here.visited, List.mem_append] at early
        rcases early with old | new
        · exact .inl old
        · obtain ⟨room, read⟩ := here.inside slot new
          have behind := ((here.reached slot).mp new).le
          exact .inr ⟨by omega, room, read⟩
      · exact .inr late
    · rw [there.found, here.found]
      simp [or_assoc, here.reached]

/-- The chains of a page: their starts are aligned, their slots stand in the page and are backed by the file, and no
two of them meet. The load-command parser lets no segment end after the file. -/
structure Chained (image : Entry) (data : Bytes) (page : ChainPage) : Prop where
  aligned : ∀ start ∈ page.starts, start % 4 = 0
  inside : ∀ start ∈ page.starts, ∀ slot, Reached image data (page.pageVm + start) slot →
    slot + 8 ≤ page.pageVm + page.pageSize
  disjoint : page.starts.Pairwise fun one other =>
    ∀ slot, Reached image data (page.pageVm + one) slot → ¬ Reached image data (page.pageVm + other) slot
  backed : ∀ start ∈ page.starts, ∀ slot, Reached image data (page.pageVm + start) slot →
    ∃ segment index, Backed image slot 8 segment index
  present : ∀ segment ∈ image.segments, image.sliceOffset + segment.fileoff + segment.filesize ≤ data.length

theorem readPointer_backed {slot raw : Nat} (read : readPointer image data slot = .ok raw) :
    ∃ segment index, Backed image slot 8 segment index := by
  rw [readPointer, bind_ok] at read
  obtain ⟨⟨location, segment⟩, found, -⟩ := read
  obtain ⟨-, -, ⟨index, backed⟩, -⟩ := vmFileLocation_ok.mp found
  exact ⟨segment, index, backed⟩

theorem readPointer_present {slot index : Nat} {segment : Segment} (backed : Backed image slot 8 segment index)
    (present : ∀ segment ∈ image.segments, image.sliceOffset + segment.fileoff + segment.filesize ≤ data.length) :
    ∃ raw, readPointer image data slot = .ok raw := by
  have found := vmFileLocation_ok.mpr ⟨Int.natCast_nonneg slot, by decide, ⟨index, backed⟩, rfl⟩
  obtain ⟨before, after, listed, -, ⟨low, high⟩, -⟩ := backed
  have ends := present segment (by simp [listed])
  have sized : (slice data (image.sliceOffset + (segment.fileoff + slot - segment.vmaddr))
      (image.sliceOffset + (segment.fileoff + slot - segment.vmaddr) + 8)).length = 8 := by
    rw [Layouts.slice_eq, List.length_take, List.length_drop]
    omega
  exact ⟨fromLeBytes (slice data (image.sliceOffset + (segment.fileoff + slot - segment.vmaddr)) _),
    bind_ok.mpr ⟨_, found, require_bind_ok.mpr ⟨sized, rfl⟩⟩⟩

theorem walkChains_complete (starts : List Nat) (walk : ChainWalk)
    (clear : ∀ start ∈ starts, start % 4 = 0 ∧ ∀ slot, Reached image data (page.pageVm + start) slot →
      slot ∉ walk.visited ∧ slot + 8 ≤ page.pageVm + page.pageSize ∧ ∃ raw, readPointer image data slot = .ok raw)
    (disjoint : starts.Pairwise fun one other =>
      ∀ slot, Reached image data (page.pageVm + one) slot → ¬ Reached image data (page.pageVm + other) slot) :
    ∃ final, walkChains image data address page starts walk = .ok final := by
  induction starts generalizing walk with
  | nil => exact ⟨walk, rfl⟩
  | cons start rest induction =>
    rw [List.forall_mem_cons] at clear
    rw [List.pairwise_cons] at disjoint
    obtain ⟨⟨aligned, here⟩, later⟩ := clear
    obtain ⟨middle, one⟩ := walkChain_complete address _ walk here
    obtain ⟨slots, walked⟩ := walkChain_sound _ _ _ one
    have others : ∃ final, walkChains image data address page rest middle = .ok final := by
      apply induction middle _ disjoint.2
      intro other member
      refine ⟨(later other member).1, fun slot reached => ?_⟩
      obtain ⟨new, inside⟩ := (later other member).2 slot reached
      refine ⟨?_, inside⟩
      rw [walked.visited, List.mem_append, walked.reached]
      exact fun either => either.elim new fun mine => disjoint.1 other member slot mine reached
    obtain ⟨final, more⟩ := others
    obtain ⟨-, room, -⟩ := here _ .first
    exact ⟨final, require_bind_ok.mpr ⟨⟨aligned, by omega⟩, bind_ok.mpr ⟨middle, one, more⟩⟩⟩

end Walks

/-- A format is returned only for a slot of the chains of its own page, after reads that stay in the page and in one
file-backed range each; and it is returned for every such slot if the metadata are well formed. -/
theorem chained_pointer_exact (image : Entry) (data blob : Bytes) (imageBase : Nat) (address : Int) :
    (∀ format, chainedPointerFormat image data blob address imageBase = .ok format →
      ∃ segment index starts slots, Backed image address 8 segment index ∧
        Starts (tableAt blob index) (pageCountAt blob index) (startAt blob index segment address) starts ∧
        format = formatAt blob index ∧
        (∃ start ∈ starts, ∃ slot, Reached image data ((pageAt blob index segment address starts).pageVm + start) slot ∧
          (slot : Int) = address) ∧
        chainedPointerWalk image data blob address imageBase = .ok (format, slots) ∧
        ∀ slot ∈ slots, (pageAt blob index segment address starts).pageVm ≤ slot ∧
          slot + 8 ≤ (pageAt blob index segment address starts).pageVm + pageSizeAt blob index ∧
          ∃ segment index, Backed image slot 8 segment index) ∧
    ∀ segment index starts, Backed image address 8 segment index → Metadata image blob imageBase address segment index →
      Starts (tableAt blob index) (pageCountAt blob index) (startAt blob index segment address) starts →
      Chained image data (pageAt blob index segment address starts) →
      (∃ start ∈ starts, ∃ slot, Reached image data ((pageAt blob index segment address starts).pageVm + start) slot ∧
        (slot : Int) = address) →
      chainedPointerFormat image data blob address imageBase = .ok (formatAt blob index) := by
  constructor
  · intro format returned
    obtain ⟨⟨other, slots⟩, walked, same⟩ := bind_ok.mp returned
    obtain rfl : other = format := pure_ok.mp same
    obtain ⟨page, described, ran⟩ := bind_ok.mp walked
    obtain ⟨walk, chains, rest⟩ := bind_ok.mp ran
    obtain ⟨found, same⟩ := require_bind_ok.mp rest
    obtain ⟨rfl, rfl⟩ := Prod.mk.inj (pure_ok.mp same)
    obtain ⟨-, segment, index, starts, backed, -, started, rfl⟩ := chainPage_ok.mp described
    have covered := walkChains_sound _ _ _ chains
    refine ⟨segment, index, starts, _, backed, started, rfl, ?_, walked, fun slot member => ?_⟩
    · rcases covered.found.mp found with already | somewhere
      · cases already
      · exact somewhere
    · rcases covered.inside slot member with old | ⟨low, high, raw, read⟩
      · cases old
      · exact ⟨low, high, readPointer_backed read⟩
  · rintro segment index starts backed described started chained ⟨start, member, slot, reached, rfl⟩
    have found : chainPage image blob imageBase slot = .ok (pageAt blob index segment slot starts) :=
      chainPage_ok.mpr ⟨Int.natCast_nonneg slot, segment, index, starts, backed, described, started, rfl⟩
    obtain ⟨walk, chains⟩ : ∃ walk, walkChains image data slot (pageAt blob index segment slot starts) starts ⟨false,
        []⟩ = .ok walk := by
      apply walkChains_complete _ _ _ chained.disjoint
      intro other listed
      refine ⟨chained.aligned other listed, fun place there => ⟨by simp, chained.inside other listed place there, ?_⟩⟩
      obtain ⟨owner, number, owned⟩ := chained.backed other listed place there
      exact readPointer_present owned chained.present
    have present : walk.found = true := (walkChains_sound _ _ _ chains).found.mpr
        (.inr ⟨start, member, slot, reached, rfl⟩)
    have walked : chainedPointerWalk image data blob slot imageBase = .ok (formatAt blob index, walk.visited) :=
      bind_ok.mpr ⟨_, found, bind_ok.mpr ⟨walk, chains, require_bind_ok.mpr ⟨present, rfl⟩⟩⟩
    exact bind_ok.mpr ⟨_, walked, rfl⟩

/-- An image with one segment of one pointer, which a chain of its own rebases. -/
def oneChain : Entry :=
  { cputype := 0, sliceOffset := 0, sliceSize := 8, segments := [⟨[0x5F, 0x44], 0x1000, 8, 0, 8⟩] }

def oneChainFixups : Bytes :=
  [0, 0, 0, 0, 28, 0, 0, 0] ++ List.replicate 20 0 ++ [1, 0, 0, 0, 8, 0, 0, 0] ++
    [24, 0, 0, 0, 0, 16, 2, 0, 0, 0, 0, 0, 0, 0, 0, 0, 0, 0, 0, 0, 1, 0] ++ [0, 0]

theorem chained_pointer_one_chain :
    chainedPointerFormat oneChain (List.replicate 8 0) oneChainFixups 0x1000 0x1000 = .ok 2 := by
  have read : readPointer oneChain (List.replicate 8 0) 0x1000 = .ok 0 := by rfl
  have only (slot : Nat) : Reached oneChain (List.replicate 8 0) 0x1000 slot ↔ slot = 0x1000 :=
    Reached.last read (by decide)
  have backed : Backed oneChain 0x1000 8 ⟨[0x5F, 0x44], 0x1000, 8, 0, 8⟩ 0 := ⟨[], [], rfl, rfl, by decide, by simp⟩
  refine (chained_pointer_exact oneChain (List.replicate 8 0) oneChainFixups 0x1000 0x1000).2
    ⟨[0x5F, 0x44], 0x1000, 8, 0, 8⟩ 0 [0] backed ?_ (.single (by decide)) ?_ ⟨0, by simp, 0x1000, .first, rfl⟩
  · constructor <;> decide
  · have page : pageAt oneChainFixups 0 ⟨[0x5F, 0x44], 0x1000, 8, 0, 8⟩ 0x1000 [0] = ⟨2, 0x1000, 0x1000, [0]⟩ := by
      decide
    rw [page]
    refine ⟨by decide, ?_, by simp, ?_, by decide⟩
    · simp only [List.mem_singleton, forall_eq, Nat.add_zero, only]
      decide
    · simp only [List.mem_singleton, forall_eq, Nat.add_zero, only]
      exact ⟨_, _, backed⟩

end Darling.Closure
