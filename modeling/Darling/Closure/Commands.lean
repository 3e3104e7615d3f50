import Darling.Library.Checks
import Darling.Library.Layouts

/-! `_read_load_commands` of `closure_analyze.py`: the slices of a Mach-O file and what their load commands name. -/
namespace Darling.Closure

open Codecs (Bytes fromLeBytes)
open Layouts (slice unpack findZero signed)

/-- An exception of the readers: one of `struct`, or a `ValueError`. -/
inductive Raised where
  | structError
  | valueError (message : String)
  deriving DecidableEq, Repr

abbrev Decoded := Except Raised

/-- `struct.unpack_from` of one little-endian number. -/
def field (width : Nat) (blob : Bytes) (offset : Nat) : Decoded Nat :=
  match unpack width blob offset with
  | some number => .ok number
  | none => .error .structError

/-- The same of a big-endian number. -/
def bigField (width : Nat) (blob : Bytes) (offset : Nat) : Decoded Nat :=
  if offset + width ≤ blob.length then .ok (fromLeBytes (slice blob offset (offset + width)).reverse) else
    .error .structError

/-- A slice of the file before its load commands are read. -/
structure Part where
  cputype : Int
  cpusubtype : Int
  sliceOffset : Nat
  blob : Bytes

section Slices

/-- The size of an architecture entry, and the width of its offset and size. -/
def stride (wide : Bool) : Nat := if wide then 32 else 20

def archField (wide : Bool) : Nat := if wide then 8 else 4

/-- One entry of the universal architecture table. -/
def readArch (data : Bytes) (wide : Bool) (count index : Nat) : Decoded Part := do
  let place := 8 + index * stride wide
  let cpu ← bigField 4 data place
  let sub ← bigField 4 data (place + 4)
  let offset ← bigField (archField wide) data (place + 8)
  let size ← bigField (archField wide) data (place + 8 + archField wide)
  require (8 + count * stride wide ≤ offset ∧ 8 ≤ size ∧ offset + size ≤ data.length)
    (.valueError "universal slice outside file")
  return ⟨signed 32 cpu, signed 32 sub, offset, slice data offset (offset + size)⟩

/-- `macho_slices`. -/
def machoSlices (data : Bytes) : Decoded (List Part) := do
  require (8 ≤ data.length) (.valueError "truncated Mach-O header")
  let magic ← bigField 4 data 0
  if magic = 0xCAFEBABE ∨ magic = 0xCAFEBABF then
    let wide := magic == 0xCAFEBABF
    let count ← bigField 4 data 4
    require (count ≠ 0 ∧ 8 + count * stride wide ≤ data.length) (.valueError "invalid universal architecture table")
    (List.range count).mapM (readArch data wide count)
  else return [⟨0, 0, 0, data⟩]

end Slices

structure Segment where
  name : Bytes
  vmaddr : Nat
  vmsize : Nat
  fileoff : Nat
  filesize : Nat
  deriving DecidableEq, Repr

structure Dylib where
  name : Bytes
  weak : Bool
  reexport : Bool
  deriving DecidableEq, Repr

structure DyldInfo where
  bind : Bytes
  weakBind : Bytes
  lazyBind : Bytes
  deriving DecidableEq, Repr

/-- What the import readers are given of a slice. Decoding never fails, so names are kept as bytes. -/
structure Entry where
  cputype : Int
  cpusubtype : Option Int := none
  dylibs : List Dylib := []
  rpaths : List Bytes := []
  chainedFixups : Option Bytes := none
  dyldInfo : Option DyldInfo := none
  exportsTrie : Option Bytes := none
  defined : Bool := false
  dylibId : Option Bytes := none
  twolevel : Bool := true
  sliceOffset : Nat
  sliceSize : Nat
  segments : List Segment := []
  uuid : Option Bytes := none
  deriving DecidableEq, Repr

/-- The kinds of load command that are read. -/
inductive Kind where
  | segment
  | uuid
  | dylib
  | rpath
  | id
  | chainedFixups
  | dyldInfo
  | exportsTrie
  | other
  deriving DecidableEq, Repr

def kindOf (cmd : Nat) : Kind :=
  if cmd = 0x19 then .segment
  else if cmd = 0x1B then .uuid
  else if cmd ∈ [0xC, 0x80000018, 0x8000001F, 0x80000020, 0x80000023] then .dylib
  else if cmd = 0x8000001C then .rpath
  else if cmd = 0xD then .id
  else if cmd = 0x80000034 then .chainedFixups
  else if cmd = 0x80000022 ∨ cmd = 0x22 then .dyldInfo
  else if cmd = 0x80000033 then .exportsTrie
  else .other

/-- A load command in its slice. -/
structure Command where
  offset : Nat
  cmd : Nat
  size : Nat
  deriving DecidableEq, Repr

section Commands

variable (blob : Bytes)

/-- The name of a dylib, rpath or id command. Without a zero the slice ends before the last byte. -/
def readName (command : Command) : Decoded Bytes := do
  let nameoff ← field 4 blob (command.offset + 8)
  let start := command.offset + nameoff
  match findZero blob start with
  | some stop => return slice blob start stop
  | none => return slice blob start (blob.length - 1)

/-- `LC_SEGMENT_64`. -/
def readSegment (command : Command) : Decoded Segment := do
  require (72 ≤ command.size) (.valueError "truncated LC_SEGMENT_64")
  let vmaddr ← field 8 blob (command.offset + 24)
  let vmsize ← field 8 blob (command.offset + 32)
  let fileoff ← field 8 blob (command.offset + 40)
  let filesize ← field 8 blob (command.offset + 48)
  require (fileoff + filesize ≤ blob.length) (.valueError "segment file range outside slice")
  let name := slice blob (command.offset + 8) (command.offset + 24)
  return ⟨(name.reverse.dropWhile (· == 0)).reverse, vmaddr, vmsize, fileoff, filesize⟩

/-- The offset and the size of a linked range. -/
def readRange (offset : Nat) : Decoded (Nat × Nat) := do
  let start ← field 4 blob offset
  let size ← field 4 blob (offset + 4)
  return (start, size)

def ranged (range : Nat × Nat) : Bytes := slice blob range.1 (range.1 + range.2)

/-- `LC_DYLD_INFO_ONLY`: the rebase range is skipped. -/
def readDyldInfo (command : Command) : Decoded DyldInfo := do
  let _ ← readRange blob (command.offset + 8)
  let bind ← readRange blob (command.offset + 16)
  let weak ← readRange blob (command.offset + 24)
  let lazy_ ← readRange blob (command.offset + 32)
  return ⟨ranged blob bind, ranged blob weak, ranged blob lazy_⟩

/-- The body of the loop for one load command. -/
def readCommand (entry : Entry) (command : Command) : Decoded Entry :=
  match kindOf command.cmd with
  | .segment => do
    let segment ← readSegment blob command
    return { entry with segments := entry.segments ++ [segment] }
  | .uuid => do
    require (24 ≤ command.size) (.valueError "truncated LC_UUID")
    return { entry with uuid := some (slice blob (command.offset + 8) (command.offset + 24)) }
  | .dylib => do
    let name ← readName blob command
    return { entry with dylibs := entry.dylibs ++ [⟨name, command.cmd == 0x80000018, command.cmd == 0x8000001F⟩] }
  | .rpath => do
    let name ← readName blob command
    return { entry with rpaths := entry.rpaths ++ [name] }
  | .id => do
    let name ← readName blob command
    return { entry with dylibId := some name }
  | .chainedFixups => do
    require (16 ≤ command.size) (.valueError "truncated LC_DYLD_CHAINED_FIXUPS")
    let range ← readRange blob (command.offset + 8)
    require (range.1 + range.2 ≤ blob.length) (.valueError "chained fixups outside slice")
    return { entry with chainedFixups := some (ranged blob range) }
  | .dyldInfo => do
    let info ← readDyldInfo blob command
    return { entry with dyldInfo := some info }
  | .exportsTrie => do
    let range ← readRange blob (command.offset + 8)
    return { entry with exportsTrie := some (ranged blob range) }
  | .other => return entry

/-- The header of the load command at the offset, inside the command area. -/
def readHeader (commandEnd offset : Nat) : Decoded Command := do
  require (offset + 8 ≤ commandEnd) (.valueError "truncated load command")
  let cmd ← field 4 blob offset
  let size ← field 4 blob (offset + 4)
  require (8 ≤ size ∧ offset + size ≤ commandEnd) (.valueError "invalid load command size")
  return ⟨offset, cmd, size⟩

/-- The loop over the load commands. -/
def readCommands (commandEnd : Nat) : Nat → Nat → Entry → Decoded Entry
  | 0, offset, entry => do
    require (offset = commandEnd) (.valueError "load command count disagrees with sizeofcmds")
    return entry
  | count + 1, offset, entry => do
    let command ← readHeader blob commandEnd offset
    let entry ← readCommand blob entry command
    readCommands commandEnd count (offset + command.size) entry

end Commands

def isMachO (blob : Bytes) : Bool := 32 ≤ blob.length && unpack 4 blob 0 == some 0xFEEDFACF

/-- One slice of the file. -/
def readSlice (part : Part) : Decoded Entry := do
  let blob := part.blob
  let entry : Entry := { cputype := part.cputype, sliceOffset := part.sliceOffset, sliceSize := blob.length }
  if isMachO blob then
    let cpu ← field 4 blob 4
    let sub ← field 4 blob 8
    require (part.cputype = 0 ∨ signed 32 cpu = part.cputype) (.valueError "universal CPU disagrees with Mach-O header")
    let flags ← field 4 blob 24
    let ncmds ← field 4 blob 16
    let sizeofcmds ← field 4 blob 20
    require (32 + sizeofcmds ≤ blob.length) (.valueError "load commands outside slice")
    readCommands blob (32 + sizeofcmds) ncmds 32 { entry with
      defined := true, cputype := signed 32 cpu, cpusubtype := some (signed 32 sub), twolevel := flags &&& 0x80 != 0 }
  else return entry

/-- `_read_load_commands` on a file with this content. -/
def readLoadCommands (data : Bytes) : Decoded (List Entry) := do
  let parts ← machoSlices data
  parts.mapM readSlice

end Darling.Closure
