import Darling.Diag.Selection
import Darling.Library.Panics
import Mathlib.Algebra.Group.Int.Defs

/-! `parse_core_notes`: the notes of a core, with the threads, the signal and the mapped files that they record. -/
namespace Darling.Cores

open Codecs (Bytes toLeBytes)
open Diag (Text trim)
open Layouts (slice unpack signed Placed)
open Panics

def gprCount : Nat := 27
def prstatusRegsAt : Nat := 112
def prstatusBytes : Nat := prstatusRegsAt + gprCount * 8
def prstatusPidAt : Nat := 32
def prpsinfoPsargsAt : Nat := 56
def prpsinfoPsargsLen : Nat := 80

def ntPrstatus : Nat := 1
def ntPrpsinfo : Nat := 3
def ntFile : Nat := 0x46494C45
def ntSiginfo : Nat := 0x53494749

structure CoreThread where
  lwp : Nat
  regs : List Nat
  deriving DecidableEq

structure CoreSignal where
  signo : Int
  errno : Int
  code : Int
  addr : Nat
  deriving DecidableEq

/-- A mapping of a file: where it starts and ends, the offset in the file and the path. -/
structure CoreMap where
  start : Nat
  stop : Nat
  offset : Nat
  path : Text
  deriving DecidableEq

/-- What the notes are read into. -/
structure Record where
  threads : List CoreThread := []
  sig : Option CoreSignal := none
  maps : List CoreMap := []
  filePage : Nat := 0
  args : Text := []
  deriving DecidableEq

section Reading

def leU32 (bytes : Bytes) : Option Nat := unpack 4 bytes 0

def leU64 (bytes : Bytes) : Option Nat := unpack 8 bytes 0

/-- `bytes[start.min(bytes.len())..]`. -/
def behind (bytes : Bytes) (start : Nat) : Bytes := bytes.drop (min start bytes.length)

/-- `NT_PRSTATUS`. -/
def readPrstatus (desc : Bytes) (out : Record) : Except Panic Record := do
  let lwp := (leU32 (behind desc prstatusPidAt)).getD 0
  if prstatusBytes ≤ desc.length then
    let regs ← (List.range gprCount).mapM fun i => do
      return (leU64 (← sliceFrom desc (prstatusRegsAt + i * 8))).getD 0
    return { out with threads := out.threads ++ [⟨lwp, regs⟩] }
  else return out

/-- A word of `NT_SIGINFO` as `i32`. -/
def wordAt (desc : Bytes) (start : Nat) : Int := ((leU32 (behind desc start)).map (signed 32)).getD 0

/-- `NT_SIGINFO`. -/
def readSiginfo (desc : Bytes) (out : Record) : Record :=
  { out with sig := some ⟨wordAt desc 0, wordAt desc 4, wordAt desc 8, (leU64 (behind desc 16)).getD 0⟩ }

/-- The entries of `NT_FILE` from one on, so many at most. -/
def readEntries (desc : Bytes) : Nat → Nat → Except Panic (List (Nat × Nat × Nat))
  | 0, _ => return []
  | count + 1, i => do
    let e ← word (16 + i * 24)
    let second ← word (e + 8)
    let third ← word (e + 16)
    match leU64 (behind desc e), leU64 (behind desc second), leU64 (behind desc third) with
    | some a, some b, some c => return (a, b, c) :: (← readEntries desc count (i + 1))
    | _, _, _ => return []

/-- The paths of `NT_FILE` from a place on, so many at most; a missing zero ends them. -/
def readNames (lossy : Bytes → Text) (desc : Bytes) : Nat → Nat → List Text
  | 0, _ => []
  | count + 1, p =>
    if desc.length < p then []
    else
      match (desc.drop p).findIdx? (· == 0) with
      | none => []
      | some rel => lossy (slice desc p (p + rel)) :: readNames lossy desc count (p + rel + 1)

/-- `NT_FILE`. -/
def readFile (lossy : Bytes → Text) (desc : Bytes) (out : Record) : Except Panic Record :=
  match leU64 desc with
  | none => return out
  | some count => do
    let ents ← readEntries desc count 0
    let p ← word (16 + count * 24)
    let names := readNames lossy desc ents.length p
    return { out with
      filePage := (leU64 (behind desc 8)).getD out.filePage
      maps := out.maps ++ List.zipWith (fun entry path => ⟨entry.1, entry.2.1, entry.2.2, path⟩) ents names }

/-- `NT_PRPSINFO`. -/
def readPrpsinfo (lossy : Bytes → Text) (desc : Bytes) (out : Record) : Record :=
  let stop := min (prpsinfoPsargsAt + prpsinfoPsargsLen) desc.length
  if prpsinfoPsargsAt < stop then
    let raw := slice desc prpsinfoPsargsAt stop
    let cut := (raw.findIdx? (· == 0)).getD raw.length
    if out.args = [] then { out with args := trim (lossy (raw.take cut)) } else out
  else out

def readNote (lossy : Bytes → Text) (out : Record) (note : Nat × Bytes) : Except Panic Record :=
  if note.1 = ntPrstatus then readPrstatus note.2 out
  else if note.1 = ntSiginfo then return readSiginfo note.2 out
  else if note.1 = ntFile then readFile lossy note.2 out
  else if note.1 = ntPrpsinfo then return readPrpsinfo lossy note.2 out
  else return out

/-- The loop over the notes, from an offset on. -/
def readNotes (lossy : Bytes → Text) (notes : Bytes) : Nat → Nat → Record → Except Panic Record
  | 0, _, _ => .error .diverged
  | fuel + 1, off, out => do
    let head ← word (off + 12)
    if head ≤ notes.length then
      match leU32 (notes.drop off), leU32 (notes.drop (off + 4)), leU32 (notes.drop (off + 8)) with
      | some nsz, some dsz, some ntype =>
        let doff ← word (off + 12 + (nsz + 3) / 4 * 4)
        let stop ← word (doff + dsz)
        if stop ≤ notes.length then
          let out ← readNote lossy out (ntype, slice notes doff stop)
          let next ← word (stop + 3)
          readNotes lossy notes fuel (next / 4 * 4) out
        else return out
      | _, _, _ => return out
    else return out

/-- `parse_core_notes`; every note takes twelve bytes at least. -/
def parseCoreNotes (lossy : Bytes → Text) (notes : Buffer) (out : Record) : Except Panic Record :=
  readNotes lossy notes.bytes (notes.bytes.length + 1) 0 out

end Reading

section Framing

/-- The types and descriptors of the notes from an offset on. -/
def frames (notes : Bytes) : Nat → Nat → List (Nat × Bytes)
  | 0, _ => []
  | fuel + 1, off =>
    match unpack 4 notes off, unpack 4 notes (off + 4), unpack 4 notes (off + 8) with
    | some nsz, some dsz, some ntype =>
      let doff := off + 12 + (nsz + 3) / 4 * 4
      if doff + dsz ≤ notes.length then
        (ntype, slice notes doff (doff + dsz)) :: frames notes fuel ((doff + dsz + 3) / 4 * 4)
      else []
    | _, _, _ => []

/-- The notes of a buffer. -/
def framesOf (notes : Bytes) : List (Nat × Bytes) := frames notes (notes.length + 1) 0

theorem unpack_drop {width : Nat} (positive : 0 < width) (bytes : Bytes) (start : Nat) :
    unpack width (bytes.drop start) 0 = unpack width bytes start := by
  have same : width ≤ (bytes.drop start).length ↔ start + width ≤ bytes.length := by
    rw [List.length_drop]
    omega
  simp only [unpack, Layouts.slice_eq, List.drop_drop, Nat.zero_add, Nat.add_zero, Nat.sub_zero,
    Nat.add_sub_cancel_left, same]

theorem leU32_drop (bytes : Bytes) (start : Nat) : leU32 (bytes.drop start) = unpack 4 bytes start :=
  unpack_drop (by omega) bytes start

theorem leU64_drop (bytes : Bytes) (start : Nat) : leU64 (bytes.drop start) = unpack 8 bytes start :=
  unpack_drop (by omega) bytes start

theorem behind_eq (bytes : Bytes) (start : Nat) : behind bytes start = bytes.drop start := by
  rw [behind]
  by_cases inside : start ≤ bytes.length
  · rw [Nat.min_eq_left inside]
  · rw [Nat.min_eq_right (by omega), List.drop_length, List.drop_of_length_le (by omega)]

theorem unpack_isSome {width : Nat} {bytes : Bytes} {start : Nat} (inside : start + width ≤ bytes.length) :
    ∃ number, unpack width bytes start = some number := ⟨_, if_pos inside⟩

theorem unpack_none {width : Nat} {bytes : Bytes} {start : Nat} (outside : bytes.length < start + width) :
    unpack width bytes start = none := if_neg (by omega)

/-- The loop reads the notes one after the other. -/
theorem readNotes_frames (lossy : Bytes → Text) {notes : Bytes} (bound : notes.length < 2 ^ 63) :
    ∀ {fuel off : Nat} (out : Record)
    (_ : notes.length + 3 < off + 12 * fuel) (_ : off ≤ notes.length + 3),
    readNotes lossy notes fuel off out = (frames notes fuel off).foldlM (readNote lossy) out
  | 0, off, out, enough, near => by omega
  | fuel + 1, off, out, enough, near => by
    rw [readNotes, frames, word_ok (by omega)]
    simp only [leU32_drop, bind, Except.bind]
    by_cases header : off + 12 ≤ notes.length
    · obtain ⟨nsz, first⟩ := unpack_isSome (show off + 4 ≤ notes.length by omega)
      obtain ⟨dsz, second⟩ := unpack_isSome (show off + 4 + 4 ≤ notes.length by omega)
      obtain ⟨ntype, third⟩ := unpack_isSome (show off + 8 + 4 ≤ notes.length by omega)
      have small := Layouts.unpack_lt first
      have small' := Layouts.unpack_lt second
      rw [if_pos header, first, second, third]
      dsimp only
      rw [word_ok (by omega)]
      dsimp only
      rw [word_ok (by omega)]
      dsimp only
      by_cases inside : off + 12 + (nsz + 3) / 4 * 4 + dsz ≤ notes.length
      · rw [if_pos inside, if_pos inside, List.foldlM_cons]
        cases readNote lossy out _ with
        | error panic => rfl
        | ok out =>
          dsimp only
          rw [word_ok (by omega)]
          exact readNotes_frames lossy bound out (by omega) (by omega)
      · rw [if_neg inside, if_neg inside]
        rfl
    · rw [if_neg header]
      cases unpack 4 notes off with
      | none => rfl
      | some nsz =>
        cases unpack 4 notes (off + 4) with
        | none => rfl
        | some dsz => rw [unpack_none (by omega)]; rfl

theorem parseCoreNotes_frames (lossy : Bytes → Text) (notes : Buffer) (out : Record) :
    parseCoreNotes lossy notes out = (framesOf notes.bytes).foldlM (readNote lossy) out :=
  readNotes_frames lossy notes.bound out (by omega) (by omega)

theorem frames_length {notes : Bytes} {fuel off : Nat} :
    ∀ note ∈ frames notes fuel off, note.2.length ≤ notes.length := by
  induction fuel generalizing off with
  | zero => simp [frames]
  | succ fuel ih =>
    rw [frames]
    split
    · dsimp only
      split
      · rw [List.forall_mem_cons]
        refine ⟨?_, ih⟩
        rw [Layouts.slice_eq, List.length_take, List.length_drop]
        omega
      · simp
    · simp

end Framing

section Notes

variable {lossy : Bytes → Text}

/-- The thread of a descriptor that is long enough. -/
def threadOf (desc : Bytes) : Option CoreThread :=
  if prstatusBytes ≤ desc.length then
    some ⟨(unpack 4 desc prstatusPidAt).getD 0, (List.range gprCount).map fun i =>
      (unpack 8 desc (prstatusRegsAt + i * 8)).getD 0⟩
  else none

theorem readPrstatus_eq (desc : Bytes) (out : Record) :
    readPrstatus desc out = .ok { out with threads := out.threads ++ (threadOf desc).toList } := by
  unfold readPrstatus threadOf
  by_cases long : prstatusBytes ≤ desc.length
  · have each : ∀ i ∈ List.range gprCount, (do return (leU64 (← sliceFrom desc (prstatusRegsAt + i * 8))).getD 0 :
      Except Panic Nat) =
        .ok ((unpack 8 desc (prstatusRegsAt + i * 8)).getD 0) := by
      intro i listed
      have below : i < gprCount := List.mem_range.mp listed
      rw [sliceFrom_ok (by simp only [prstatusBytes, prstatusRegsAt, gprCount] at *; omega), ← leU64_drop]
      rfl
    rw [if_pos long, if_pos long, mapM_ok each, behind_eq, leU32_drop]
    rfl
  · rw [if_neg long, if_neg long]
    simp [pure, Except.pure]

/-- The entries of `NT_FILE` as they stand. -/
def entriesOf (desc : Bytes) : Nat → Nat → List (Nat × Nat × Nat)
  | 0, _ => []
  | count + 1, i =>
    match unpack 8 desc (16 + i * 24), unpack 8 desc (16 + i * 24 + 8), unpack 8 desc (16 + i * 24 + 16) with
    | some a, some b, some c => (a, b, c) :: entriesOf desc count (i + 1)
    | _, _, _ => []

theorem readEntries_eq {desc : Bytes} (bound : desc.length < 2 ^ 63) {count i : Nat} (inside : i * 24 ≤ desc.length) :
    readEntries desc count i = .ok (entriesOf desc count i) := by
  induction count generalizing i with
  | zero => rfl
  | succ count ih =>
    rw [readEntries, entriesOf, word_ok (by omega)]
    simp only [bind, Except.bind]
    rw [word_ok (by omega)]
    dsimp only
    rw [word_ok (by omega)]
    simp only [behind_eq, leU64_drop]
    cases unpack 8 desc (16 + i * 24) with
    | none => rfl
    | some a =>
      cases unpack 8 desc (16 + i * 24 + 8) with
      | none => rfl
      | some b =>
        cases third : unpack 8 desc (16 + i * 24 + 16) with
        | none => rfl
        | some c =>
          have more := (Layouts.unpack_some third).1
          dsimp only
          rw [ih (by omega)]
          rfl

/-- The end of the table of `NT_FILE` is beyond 64 bits. -/
def Overflows (note : Nat × Bytes) : Prop :=
  note.1 = ntFile ∧ ∃ count, unpack 8 note.2 0 = some count ∧ 2 ^ 64 ≤ 16 + count * 24

/-- The mappings of a table. -/
def mapsOf (lossy : Bytes → Text) (desc : Bytes) (count : Nat) : List CoreMap :=
  List.zipWith (fun entry path => ⟨entry.1, entry.2.1, entry.2.2, path⟩) (entriesOf desc count 0)
    (readNames lossy desc (entriesOf desc count 0).length (16 + count * 24))

theorem readFile_eq {desc : Bytes} (bound : desc.length < 2 ^ 63) {count : Nat} (counted : unpack 8 desc 0 = some count)
    (small : 16 + count * 24 < 2 ^ 64) (out : Record) :
    readFile lossy desc out = .ok { out with
      filePage := (unpack 8 desc 8).getD out.filePage
      maps := out.maps ++ mapsOf lossy desc count } := by
  rw [readFile, show leU64 desc = some count from counted]
  simp only [bind, Except.bind, readEntries_eq bound (show 0 * 24 ≤ desc.length by omega)]
  rw [word_ok small, behind_eq, leU64_drop]
  rfl

theorem readNote_safe {note : Nat × Bytes} (bound : note.2.length < 2 ^ 63) (out : Record) :
    Safe (readNote lossy out note) ↔ ¬Overflows note := by
  obtain ⟨ntype, desc⟩ := note
  unfold readNote
  by_cases status : ntype = ntPrstatus
  · rw [if_pos status, readPrstatus_eq]
    simp [Overflows, status, show ntPrstatus ≠ ntFile by decide]
  by_cases signal : ntype = ntSiginfo
  · rw [if_neg status, if_pos signal]
    simp [Overflows, signal, show ntSiginfo ≠ ntFile by decide, pure, Except.pure]
  by_cases file : ntype = ntFile
  · rw [if_neg status, if_neg signal, if_pos file]
    cases counted : unpack 8 desc 0 with
    | none => simp [readFile, show leU64 desc = none from counted, Overflows, counted, pure, Except.pure]
    | some count =>
      by_cases small : 16 + count * 24 < 2 ^ 64
      · rw [readFile_eq bound counted small]
        simp only [safe_ok, true_iff]
        rintro ⟨_, count', counted', large⟩
        obtain rfl : count = count' := Option.some.inj (counted.symm.trans counted')
        omega
      · rw [readFile, show leU64 desc = some count from counted]
        simp only [bind, Except.bind, readEntries_eq bound (show 0 * 24 ≤ desc.length by omega), word,
          if_neg small, safe_error,
          false_iff, not_not]
        exact ⟨file, count, counted, by omega⟩
  · rw [if_neg status, if_neg signal, if_neg file]
    split <;> simp [Overflows, file, pure, Except.pure]

/-- The core notes are read without a panic exactly when no table of mapped files ends beyond 64 bits. -/
theorem parseCoreNotes_safe (notes : Buffer) (out : Record) :
    Safe (parseCoreNotes lossy notes out) ↔ ∀ note ∈ framesOf notes.bytes, ¬Overflows note := by
  have short : ∀ note ∈ framesOf notes.bytes, note.2.length < 2 ^ 63 := fun note listed =>
    Nat.lt_of_le_of_lt (frames_length note listed) notes.bound
  rw [parseCoreNotes_frames]
  generalize framesOf notes.bytes = list at short
  induction list generalizing out with
  | nil => simp [pure, Except.pure]
  | cons note list ih =>
    rw [List.forall_mem_cons] at short
    rw [List.foldlM_cons, safe_bind, List.forall_mem_cons]
    constructor
    · rintro ⟨out', read, later⟩
      exact ⟨(readNote_safe short.1 out).mp ⟨out', read⟩, (ih out' short.2).mp later⟩
    · rintro ⟨here, later⟩
      obtain ⟨out', read⟩ := (readNote_safe short.1 out).mpr here
      exact ⟨out', read, (ih out' short.2).mpr later⟩

end Notes

section Written

/-- `NT_PRSTATUS` of full size. -/
structure Prstatus where
  before : Bytes
  thread : CoreThread
  between : Bytes
  after : Bytes
  before_length : before.length = prstatusPidAt
  between_length : between.length = prstatusRegsAt - (prstatusPidAt + 4)
  lwp_lt : thread.lwp < 2 ^ 32
  regs_length : thread.regs.length = gprCount
  regs_lt : ∀ reg ∈ thread.regs, reg < 2 ^ 64

def Prstatus.desc (status : Prstatus) : Bytes :=
  status.before ++ (toLeBytes 4 status.thread.lwp ++
    (status.between ++ (status.thread.regs.flatMap (toLeBytes 8) ++ status.after)))

/-- `i32` in two's complement. -/
def toInt32 (number : Int) : Bytes := toLeBytes 4 (number % 2 ^ 32).toNat

def isInt32 (number : Int) : Prop := -2 ^ 31 ≤ number ∧ number < 2 ^ 31

instance (number : Int) : Decidable (isInt32 number) := inferInstanceAs (Decidable (_ ∧ _))

/-- `NT_SIGINFO` of full size. -/
structure Siginfo where
  signal : CoreSignal
  between : Bytes
  after : Bytes
  between_length : between.length = 4
  signo : isInt32 signal.signo
  errno : isInt32 signal.errno
  code : isInt32 signal.code
  addr_lt : signal.addr < 2 ^ 64

def Siginfo.desc (info : Siginfo) : Bytes :=
  toInt32 info.signal.signo ++ (toInt32 info.signal.errno ++ (toInt32 info.signal.code ++ (info.between ++
    (toLeBytes 8 info.signal.addr ++ info.after))))

/-- An entry of `NT_FILE` with its path. -/
structure FileEntry where
  start : Nat
  stop : Nat
  offset : Nat
  path : Bytes
  start_lt : start < 2 ^ 64
  stop_lt : stop < 2 ^ 64
  offset_lt : offset < 2 ^ 64
  path_clean : 0 ∉ path

def FileEntry.row (entry : FileEntry) : Bytes :=
  toLeBytes 8 entry.start ++ (toLeBytes 8 entry.stop ++ toLeBytes 8 entry.offset)

def FileEntry.map (lossy : Bytes → Text) (entry : FileEntry) : CoreMap :=
  ⟨entry.start, entry.stop, entry.offset, lossy entry.path⟩

/-- `NT_FILE`: the entries, then as many paths. -/
structure FileTable where
  page : Nat
  entries : List FileEntry
  after : Bytes
  page_lt : page < 2 ^ 64

def FileTable.desc (table : FileTable) : Bytes :=
  toLeBytes 8 table.entries.length ++ (toLeBytes 8 table.page ++ (table.entries.flatMap FileEntry.row ++
    (table.entries.flatMap (fun entry => entry.path ++ [0]) ++ table.after)))

inductive Content where
  | prstatus (status : Prstatus)
  | siginfo (info : Siginfo)
  | file (table : FileTable)
  | prpsinfo (desc : Bytes)
  | unknown (ntype : Nat) (desc : Bytes) (small : ntype < 2 ^ 32)
      (other : ntype ≠ ntPrstatus ∧ ntype ≠ ntSiginfo ∧ ntype ≠ ntFile ∧ ntype ≠ ntPrpsinfo)

def Content.ntype : Content → Nat
  | .prstatus _ => ntPrstatus
  | .siginfo _ => ntSiginfo
  | .file _ => ntFile
  | .prpsinfo _ => ntPrpsinfo
  | .unknown ntype _ _ _ => ntype

def Content.desc : Content → Bytes
  | .prstatus status => status.desc
  | .siginfo info => info.desc
  | .file table => table.desc
  | .prpsinfo desc => desc
  | .unknown _ desc _ _ => desc

/-- A note whose name and descriptor are padded to four bytes. -/
structure Note where
  name : Bytes
  namePad : Bytes
  content : Content
  descPad : Bytes
  name_lt : name.length < 2 ^ 32
  desc_lt : content.desc.length < 2 ^ 32
  name_padded : name.length + namePad.length = (name.length + 3) / 4 * 4
  desc_padded : content.desc.length + descPad.length = (content.desc.length + 3) / 4 * 4

def Note.bytes (note : Note) : Bytes :=
  toLeBytes 4 note.name.length ++ (toLeBytes 4 note.content.desc.length ++ (toLeBytes 4 note.content.ntype ++
    (note.name ++ (note.namePad ++ (note.content.desc ++ note.descPad)))))

def Content.thread : Content → Option CoreThread
  | .prstatus status => some status.thread
  | _ => none

def Content.signal : Content → Option CoreSignal
  | .siginfo info => some info.signal
  | _ => none

def Content.maps (lossy : Bytes → Text) : Content → List CoreMap
  | .file table => table.entries.map (FileEntry.map lossy)
  | _ => []

end Written

section Frames

theorem Content.ntype_lt (content : Content) : content.ntype < 2 ^ 32 := by
  cases content with
  | unknown ntype desc small other => exact small
  | prstatus _ => exact show ntPrstatus < 2 ^ 32 by decide
  | siginfo _ => exact show ntSiginfo < 2 ^ 32 by decide
  | file _ => exact show ntFile < 2 ^ 32 by decide
  | prpsinfo _ => exact show ntPrpsinfo < 2 ^ 32 by decide

theorem Note.bytes_length (note : Note) :
    note.bytes.length = 12 + (note.name.length + 3) / 4 * 4 + (note.content.desc.length + 3) / 4 * 4 := by
  have first := note.name_padded
  have second := note.desc_padded
  simp only [Note.bytes, List.length_append, Codecs.toLeBytes_length]
  omega

theorem placed_append (lead bytes rest : Bytes) : Placed (lead ++ (bytes ++ rest)) lead.length bytes := by
  rw [Placed, List.drop_left]
  exact List.prefix_append _ _

/-- The notes of a buffer behind some whole words are the notes that were written. -/
theorem frames_notes (notes : List Note) : ∀ (lead : Bytes) (fuel : Nat), lead.length % 4 = 0 → notes.length ≤ fuel →
    frames (lead ++ notes.flatMap Note.bytes) fuel lead.length = notes.map fun note =>
      (note.content.ntype, note.content.desc) := by
  induction notes with
  | nil =>
    intro lead fuel _ _
    rw [List.flatMap_nil, List.append_nil]
    cases fuel with
    | zero => rfl
    | succ fuel => rw [frames, unpack_none (by omega)]; rfl
  | cons note notes ih =>
    intro lead fuel aligned enough
    obtain ⟨fuel, rfl⟩ : ∃ n, fuel = n + 1 := ⟨fuel - 1, by simp at enough; omega⟩
    have later := ih (lead ++ note.bytes) fuel (by rw [List.length_append, note.bytes_length]; omega)
        (by simpa using enough)
    have whole : lead ++ (note :: notes).flatMap Note.bytes = lead ++ note.bytes ++ notes.flatMap Note.bytes := by simp
    have placed : Placed (lead ++ note.bytes ++ notes.flatMap Note.bytes) lead.length note.bytes := by
      rw [List.append_assoc]
      exact placed_append lead note.bytes _
    have total : (lead ++ note.bytes ++ notes.flatMap Note.bytes).length =
        lead.length + note.bytes.length + (notes.flatMap Note.bytes).length := by simp only [List.length_append]
    rw [List.length_append] at later
    rw [whole]
    generalize lead ++ note.bytes ++ notes.flatMap Note.bytes = blob at later placed total
    rw [note.bytes_length] at total later
    rw [Note.bytes] at placed
    simp only [Placed.append_iff, Codecs.toLeBytes_length] at placed
    obtain ⟨nsz, dsz, ntype, _, _, desc, _⟩ := placed
    have padded := note.name_padded
    have start : lead.length + 12 + (note.name.length + 3) / 4 * 4 =
        lead.length + 4 + 4 + 4 + note.name.length + note.namePad.length := by
      omega
    have next : (lead.length + 12 + (note.name.length + 3) / 4 * 4 + note.content.desc.length + 3) / 4 * 4 =
        lead.length + (12 + (note.name.length + 3) / 4 * 4 + (note.content.desc.length + 3) / 4 * 4) := by
      omega
    rw [frames, nsz.unpack (by omega) note.name_lt, dsz.unpack (by omega) note.desc_lt,
      show lead.length + 8 = lead.length + 4 + 4 from rfl, ntype.unpack (by omega) note.content.ntype_lt]
    dsimp only
    rw [if_pos (by omega), next, later, List.map_cons, start, desc.slice]

end Frames

section Contents

variable {lossy : Bytes → Text}

theorem placed_self (bytes : Bytes) : Placed bytes 0 bytes := List.prefix_refl bytes

/-- Words that stand one behind the other. -/
theorem words_placed {blob : Bytes} {words : List Nat} :
    ∀ {offset : Nat} (_ : Placed blob offset (words.flatMap (toLeBytes 8)))
    (_ : ∀ number ∈ words, number < 2 ^ 64),
    (List.range words.length).map (fun i => (unpack 8 blob (offset + i * 8)).getD 0) = words := by
  induction words with
  | nil => intros; rfl
  | cons number words ih =>
    intro offset placed small
    rw [List.forall_mem_cons] at small
    rw [List.flatMap_cons, Placed.append_iff, Codecs.toLeBytes_length] at placed
    have later := ih placed.2 small.2
    have shift (i : Nat) : offset + (i + 1) * 8 = offset + 8 + i * 8 := by omega
    rw [List.length_cons, List.range_succ_eq_map, List.map_cons, List.map_map, Nat.zero_mul, Nat.add_zero,
      placed.1.unpack (by omega) small.1]
    simp only [Function.comp_def, Nat.succ_eq_add_one, shift, later, Option.getD_some]

theorem words_length (words : List Nat) : (words.flatMap (toLeBytes 8)).length = words.length * 8 := by
  induction words with
  | nil => rfl
  | cons number words ih =>
    rw [List.flatMap_cons, List.length_append, Codecs.toLeBytes_length, ih, List.length_cons]
    omega

theorem Prstatus.thread_placed (status : Prstatus) {blob : Bytes} (placed : Placed blob 0 status.desc) :
    threadOf blob = some status.thread := by
  have long : prstatusBytes ≤ blob.length := by
    have fits := List.IsPrefix.length_le placed
    simp only [Prstatus.desc, List.length_append, Codecs.toLeBytes_length, words_length, status.before_length,
      status.between_length, status.regs_length, prstatusRegsAt, prstatusPidAt, gprCount, List.drop_zero] at fits
    simp only [prstatusBytes, prstatusRegsAt, gprCount]
    omega
  simp only [Prstatus.desc, Placed.append_iff, Codecs.toLeBytes_length, status.before_length, status.between_length,
    Nat.zero_add] at placed
  obtain ⟨_, lwp, _, regs, _⟩ := placed
  have found := words_placed regs status.regs_lt
  rw [status.regs_length] at found
  have spot : prstatusPidAt + 4 + (prstatusRegsAt - (prstatusPidAt + 4)) = prstatusRegsAt := by decide
  rw [spot] at found
  rw [threadOf, if_pos long, lwp.unpack (by omega) status.lwp_lt, found]
  rfl

theorem signed_toInt32 {number : Int} (int32 : isInt32 number) : signed 32 (number % 2 ^ 32).toNat = number := by
  obtain ⟨low, high⟩ := int32
  unfold signed
  split <;> omega

theorem wordAt_placed {blob : Bytes} {start : Nat} {number : Int} (int32 : isInt32 number)
    (placed : Placed blob start (toInt32 number)) :
    wordAt blob start = number := by
  rw [wordAt, behind_eq, leU32_drop, placed.unpack (by omega) (by omega), Option.map_some, signed_toInt32 int32]
  rfl

theorem toInt32_length (number : Int) : (toInt32 number).length = 4 := Codecs.toLeBytes_length _ _

theorem Siginfo.signal_placed (info : Siginfo) {blob : Bytes} (placed : Placed blob 0 info.desc) (out : Record) :
    readSiginfo blob out = { out with sig := some info.signal } := by
  simp only [Siginfo.desc, Placed.append_iff, toInt32_length, info.between_length, Nat.zero_add] at placed
  obtain ⟨signo, errno, code, _, addr, _⟩ := placed
  rw [readSiginfo, wordAt_placed info.signo signo, wordAt_placed info.errno errno,
    wordAt_placed info.code code, behind_eq,
    leU64_drop, addr.unpack (by omega) info.addr_lt]
  rfl

theorem FileEntry.row_length (entry : FileEntry) : entry.row.length = 24 := by simp [FileEntry.row]

theorem entriesOf_placed {blob : Bytes} {entries : List FileEntry} : ∀ {i : Nat}
    (_ : Placed blob (16 + i * 24) (entries.flatMap FileEntry.row)),
    entriesOf blob entries.length i = entries.map fun entry => (entry.start, entry.stop, entry.offset) := by
  induction entries with
  | nil => intros; rfl
  | cons entry entries ih =>
    intro i placed
    rw [List.flatMap_cons, Placed.append_iff, entry.row_length, show 16 + i * 24 + 24 =
      16 + (i + 1) * 24 by omega] at placed
    obtain ⟨row, rest⟩ := placed
    simp only [FileEntry.row, Placed.append_iff, Codecs.toLeBytes_length] at row
    obtain ⟨start, stop, offset⟩ := row
    rw [List.length_cons, entriesOf, start.unpack (by omega) entry.start_lt, stop.unpack (by omega) entry.stop_lt,
      show 16 + i * 24 + 16 = 16 + i * 24 + 8 + 8 from rfl, offset.unpack (by omega) entry.offset_lt]
    dsimp only
    rw [ih rest, List.map_cons]

theorem readNames_placed {blob : Bytes} {entries : List FileEntry} : ∀ {p : Nat}
    (_ : Placed blob p (entries.flatMap fun entry => entry.path ++ [0])),
    readNames lossy blob entries.length p = entries.map fun entry => lossy entry.path := by
  induction entries with
  | nil => intros; rfl
  | cons entry entries ih =>
    intro p placed
    rw [List.flatMap_cons, Placed.append_iff, List.length_append, List.length_singleton, ← Nat.add_assoc] at placed
    obtain ⟨path, rest⟩ := placed
    have inside := path.inside (by simp)
    have zero := path.findZero entry.path_clean
    obtain ⟨rel, found, same⟩ := Option.map_eq_some_iff.mp zero
    obtain rfl : rel = entry.path.length := Nat.add_left_cancel same
    have text := (Placed.append_iff.mp path).1.slice
    rw [List.length_cons, readNames, if_neg (by omega), found]
    dsimp only
    rw [text, ih rest, List.map_cons]

theorem rows_length (entries : List FileEntry) : (entries.flatMap FileEntry.row).length = entries.length * 24 := by
  induction entries with
  | nil => rfl
  | cons entry entries ih =>
    rw [List.flatMap_cons, List.length_append, entry.row_length, ih, List.length_cons]
    omega

theorem FileTable.maps_placed (table : FileTable) {blob : Bytes} (placed : Placed blob 0 table.desc)
    (counted : table.entries.length < 2 ^ 64) : unpack 8 blob 0 = some table.entries.length ∧
      mapsOf lossy blob table.entries.length = table.entries.map (FileEntry.map lossy) := by
  simp only [FileTable.desc, Placed.append_iff, Codecs.toLeBytes_length, rows_length, Nat.zero_add] at placed
  obtain ⟨count, _, rows, paths, _⟩ := placed
  have entries := entriesOf_placed (show Placed blob (16 + 0 * 24) _ from rows)
  have names : readNames lossy blob table.entries.length (16 + table.entries.length * 24) = _ := readNames_placed paths
  refine ⟨count.unpack (by omega) counted, ?_⟩
  rw [mapsOf, entries, List.length_map, names, List.zipWith_map, List.zipWith_self]
  rfl

/-- What a note adds to the record. -/
structure Extends (lossy : Bytes → Text) (contents : List Content) (before after : Record) : Prop where
  threads : after.threads = before.threads ++ contents.filterMap Content.thread
  sig : after.sig = (contents.filterMap Content.signal).getLast?.or before.sig
  maps : after.maps = before.maps ++ contents.flatMap (Content.maps lossy)

theorem readNote_content (content : Content) (short : content.desc.length < 2 ^ 32) (out : Record) :
    ∃ result, readNote lossy out (content.ntype, content.desc) = .ok result ∧ Extends lossy [content] out result := by
  cases content with
  | prstatus status =>
    have thread := status.thread_placed (placed_self status.desc)
    refine ⟨{ out with threads := out.threads ++ [status.thread] }, ?_, rfl, rfl, by simp [Content.maps]⟩
    rw [readNote, Content.ntype, if_pos rfl, Content.desc, readPrstatus_eq, thread]
    rfl
  | siginfo info =>
    refine ⟨{ out with sig := some info.signal },
      ?_, by simp [Content.thread], by simp [Content.signal], by simp [Content.maps]⟩
    rw [readNote, Content.ntype, if_neg (show ntSiginfo ≠ ntPrstatus by decide), if_pos rfl, Content.desc,
      info.signal_placed (placed_self info.desc)]
    rfl
  | file table =>
    have counted : table.entries.length * 24 ≤ table.desc.length := by
      simp only [FileTable.desc, List.length_append, rows_length]
      omega
    have short : table.desc.length < 2 ^ 32 := short
    obtain ⟨count, maps⟩ := @FileTable.maps_placed lossy table _ (placed_self table.desc) (by omega)
    have read := @readFile_eq lossy table.desc (by omega) _ count (by omega) out
    have result : readNote lossy out (ntFile, table.desc) = readFile lossy table.desc out := by
      rw [readNote, if_neg (show ntFile ≠ ntPrstatus by decide), if_neg (show ntFile ≠ ntSiginfo by decide), if_pos rfl]
    refine ⟨_, result.trans read, ⟨?_, ?_, ?_⟩⟩
    · simp [Content.thread]
    · simp [Content.signal]
    · simp [maps, Content.maps]
  | prpsinfo desc =>
    refine ⟨readPrpsinfo lossy desc out, rfl, ?_⟩
    unfold readPrpsinfo
    dsimp only
    split
    · split
      · exact ⟨by simp [Content.thread], by simp [Content.signal], by simp [Content.maps]⟩
      · exact ⟨by simp [Content.thread], by simp [Content.signal], by simp [Content.maps]⟩
    · exact ⟨by simp [Content.thread], by simp [Content.signal], by simp [Content.maps]⟩
  | unknown ntype desc small other =>
    refine ⟨out, ?_, by simp [Content.thread], by simp [Content.signal], by simp [Content.maps]⟩
    rw [readNote, Content.ntype, if_neg other.1, if_neg other.2.1, if_neg other.2.2.1, if_neg other.2.2.2]
    rfl

theorem Extends.cons {content : Content} {contents : List Content} {before middle after : Record}
    (first : Extends lossy [content] before middle) (rest : Extends lossy contents middle after) :
    Extends lossy (content :: contents) before after := by
  refine ⟨?_, ?_, ?_⟩
  · rw [rest.threads, first.threads, List.append_assoc, ← List.filterMap_append]
    rfl
  · rw [rest.sig, first.sig]
    simp [Option.or_assoc]
  · rw [rest.maps, first.maps, List.append_assoc, ← List.flatMap_append]
    rfl

theorem readNotes_contents (notes : List Note) (out : Record) :
    ∃ result, (notes.map fun note => (note.content.ntype, note.content.desc)).foldlM (readNote lossy) out = .ok result ∧
      Extends lossy (notes.map Note.content) out result := by
  induction notes generalizing out with
  | nil => exact ⟨out, rfl, by simp, by simp, by simp⟩
  | cons note notes ih =>
    obtain ⟨middle, read, first⟩ := readNote_content note.content note.desc_lt out
    obtain ⟨result, later, rest⟩ := ih middle
    refine ⟨result, ?_, first.cons rest⟩
    rw [List.map_cons, List.foldlM_cons, read]
    exact later

theorem notes_length (notes : List Note) : notes.length ≤ (notes.flatMap Note.bytes).length := by
  induction notes with
  | nil => exact Nat.le_refl _
  | cons note notes ih =>
    rw [List.flatMap_cons, List.length_append, note.bytes_length, List.length_cons]
    omega

/-- The notes that were written are read back. -/
theorem parseCoreNotes_written (notes : List Note) (bound : (notes.flatMap Note.bytes).length < 2 ^ 63) (out : Record) :
    ∃ result, parseCoreNotes lossy ⟨notes.flatMap Note.bytes, bound⟩ out = .ok result ∧
      result.threads = out.threads ++ (notes.map Note.content).filterMap Content.thread ∧
      result.sig = ((notes.map Note.content).filterMap Content.signal).getLast?.or out.sig ∧
      result.maps = out.maps ++ (notes.map Note.content).flatMap (Content.maps lossy) := by
  have many : notes.length ≤ (notes.flatMap Note.bytes).length + 1 := Nat.le_succ_of_le (notes_length notes)
  have framed : framesOf (notes.flatMap Note.bytes) = notes.map fun note => (note.content.ntype, note.content.desc) :=
    frames_notes notes [] _ rfl many
  obtain ⟨result, read, extends_⟩ := @readNotes_contents lossy notes out
  refine ⟨result, ?_, extends_.threads, extends_.sig, extends_.maps⟩
  rw [parseCoreNotes_frames, framed, read]

/-- A table of one mapped file and a signal. -/
def mapped : Note where
  name := [0x43, 0x4F, 0x52, 0x45, 0]
  namePad := [0, 0, 0]
  content := .file ⟨1, [⟨0x1000, 0x2000, 0, [0x2F, 0x61], by decide, by decide, by decide, by decide⟩], [], by decide⟩
  descPad := [0]
  name_lt := by decide
  desc_lt := by decide
  name_padded := by decide
  desc_padded := by decide

def signalled : Note where
  name := []
  namePad := []
  content := .siginfo ⟨⟨11, 0, -6, 16⟩, [0, 0, 0, 0], [], rfl, by decide, by decide, by decide, by decide⟩
  descPad := []
  name_lt := by decide
  desc_lt := by decide
  name_padded := by decide
  desc_padded := by decide

def latin1 (bytes : Bytes) : Text := bytes.map fun byte => Char.ofNat byte.toNat

theorem mapped_signalled : ∃ bound : ([mapped, signalled].flatMap Note.bytes).length < 2 ^ 63, ∃ result,
    parseCoreNotes latin1 ⟨[mapped, signalled].flatMap Note.bytes, bound⟩ {} = .ok result ∧
      result.threads = [] ∧ result.sig = some ⟨11, 0, -6, 16⟩ ∧ result.maps = [⟨0x1000, 0x2000, 0, "/a".toList⟩] :=
  ⟨by decide, parseCoreNotes_written [mapped, signalled] (by decide) {}⟩

end Contents

end Darling.Cores
