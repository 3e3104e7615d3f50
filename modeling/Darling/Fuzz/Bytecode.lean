import Darling.Library.Codecs

/-! `fuzz.rs`: the bytecode of a lifecycle scenario, its decoder and its encoder. -/
namespace Darling.Fuzz

open Codecs (Bytes Reads refuse)

def bytecodeMagic : Bytes := [0x44, 0x4c, 0x46, 0x31]
def bytecodeVersion : UInt8 := 1
def maxInputBytes : Nat := 4096
def maxOps : Nat := 64
def maxCapabilities : Nat := 5

inductive FuzzMode where
  | reducer | explorer
  deriving DecidableEq, Repr

inductive BytecodeOp where
  | intent (value : UInt8)
  | barrier
  | acquire (capability : UInt8)
  | identity (capability : UInt8) (isMatch : Bool)
  | membership (mask completeness : UInt8)
  | signal (capability signal result : UInt8)
  | recovery (value : UInt8)
  | release (capability : UInt8)
  | checkpoint (operation checkpoint placement result : UInt8)
  | memberObserved (capability origin : UInt8)
  | fault (value : UInt8)
  | terminal (value : UInt8)
  | advance (value : UInt16)
  | noop
  deriving DecidableEq, Repr

structure ScenarioBytecode where
  mode : FuzzMode
  seed : UInt64
  boundary : UInt8
  interleaving : UInt8
  initialStable : UInt8
  ops : List BytecodeOp
  deriving DecidableEq, Repr

structure DecodeError where
  message : String
  deriving DecidableEq, Repr

/-- The source's reader is the input with an offset; here it is what lies behind the offset. -/
abbrev Reader := Codecs.Reader DecodeError

namespace Reader

def take (length : Nat) : Reader Bytes := Codecs.take ⟨"truncated bytecode"⟩ length

def u8 : Reader UInt8 := do
  let bytes ← take 1
  return bytes.getD 0 0

def u16 : Reader UInt16 := do
  let bytes ← take 2
  return UInt16.ofNat (Codecs.fromLeBytes bytes)

def u64 : Reader UInt64 := do
  let bytes ← take 8
  return UInt64.ofNat (Codecs.fromLeBytes bytes)

def capability : Reader UInt8 := do
  let value ← u8
  refuse (maxCapabilities ≤ value.toNat) ⟨"capability index out of range"⟩
  return value

def toBool (name : String) : Nat → Reader Bool
  | 0 => return false
  | 1 => return true
  | _ => throw ⟨name⟩

def boolValue (name : String) : Reader Bool := do
  toBool name (← u8).toNat

def enumValue (max : UInt8) (name : String) : Reader UInt8 := do
  let value ← u8
  refuse (max < value) ⟨name⟩
  return value

/-- What `op` reads behind a tag. -/
def tagged : Nat → Reader BytecodeOp
  | 0 => return .intent (← enumValue 6 "intent")
  | 1 => return .barrier
  | 2 => return .acquire (← capability)
  | 3 => return .identity (← capability) (← boolValue "identity result")
  | 4 => return .membership (← u8) (← enumValue 4 "membership completeness")
  | 5 => return .signal (← capability) (← enumValue 3 "signal") (← enumValue 3 "signal result")
  | 6 => return .recovery (← enumValue 11 "recovery action")
  | 7 => return .release (← capability)
  | 8 => do
    let operation ← enumValue 2 "operation"
    let checkpoint ← enumValue 8 "checkpoint"
    let placement ← enumValue 1 "checkpoint placement"
    return .checkpoint operation checkpoint placement (← enumValue 2 "checkpoint result")
  | 9 => return .memberObserved (← capability) (← enumValue 3 "member origin")
  | 10 => return .fault (← enumValue 6 "fault")
  | 11 => return .terminal (← enumValue 3 "terminal outcome")
  | 12 => return .advance (← u16)
  | 13 => return .noop
  | _ => throw ⟨"unknown bytecode operation"⟩

def op : Reader BytecodeOp := do
  tagged (← u8).toNat

end Reader

def FuzzMode.decode (value : UInt8) : Reader FuzzMode :=
  match value.toNat with
  | 0 => return .reducer
  | 1 => return .explorer
  | _ => throw ⟨"unknown fuzz mode"⟩

def FuzzMode.toByte : FuzzMode → UInt8
  | .reducer => 0
  | .explorer => 1

/-- The decoder up to the check that nothing is left. -/
def ScenarioBytecode.read : Reader ScenarioBytecode := do
  let magic ← Reader.take 4
  refuse (magic ≠ bytecodeMagic) ⟨"invalid bytecode magic"⟩
  let version ← Reader.u8
  refuse (version ≠ bytecodeVersion) ⟨"unsupported bytecode version"⟩
  let mode ← FuzzMode.decode (← Reader.u8)
  let seed ← Reader.u64
  let boundary ← Reader.u8
  let interleaving ← Reader.u8
  let initialStable ← Reader.u8
  refuse (5 < initialStable) ⟨"invalid initial stable state"⟩
  refuse (16 ≤ boundary) ⟨"invalid failure boundary"⟩
  refuse (12 ≤ interleaving) ⟨"invalid interleaving"⟩
  let count ← Reader.u8
  refuse (maxOps < count.toNat) ⟨"operation count exceeds limit"⟩
  let ops ← Codecs.repeated Reader.op count.toNat
  return ⟨mode, seed, boundary, interleaving, initialStable, ops⟩

def ScenarioBytecode.decode (input : Bytes) : Except DecodeError ScenarioBytecode :=
  if maxInputBytes < input.length then .error ⟨"bytecode exceeds input limit"⟩
  else do
    let (program, remaining) ← ScenarioBytecode.read input
    if remaining.length ≠ 0 then .error ⟨"trailing bytecode data"⟩ else .ok program

def checkValue (value max : UInt8) (name : String) : Except DecodeError Unit :=
  if max < value then .error ⟨name⟩ else .ok ()

def checkCapability (value : UInt8) : Except DecodeError Unit :=
  if maxCapabilities ≤ value.toNat then .error ⟨"capability index out of range"⟩ else .ok ()

def encodeOp (output : Bytes) : BytecodeOp → Except DecodeError Bytes
  | .intent value => do
    checkValue value 6 "intent"
    return output ++ [0, value]
  | .barrier => return output ++ [1]
  | .acquire capability => do
    checkCapability capability
    return output ++ [2, capability]
  | .identity capability isMatch => do
    checkCapability capability
    return output ++ [3, capability, isMatch.toUInt8]
  | .membership mask completeness => do
    checkValue completeness 4 "membership completeness"
    return output ++ [4, mask, completeness]
  | .signal capability signal result => do
    checkCapability capability
    checkValue signal 3 "signal"
    checkValue result 3 "signal result"
    return output ++ [5, capability, signal, result]
  | .recovery value => do
    checkValue value 11 "recovery action"
    return output ++ [6, value]
  | .release capability => do
    checkCapability capability
    return output ++ [7, capability]
  | .checkpoint operation checkpoint placement result => do
    checkValue operation 2 "operation"
    checkValue checkpoint 8 "checkpoint"
    checkValue placement 1 "checkpoint placement"
    checkValue result 2 "checkpoint result"
    return output ++ [8, operation, checkpoint, placement, result]
  | .memberObserved capability origin => do
    checkCapability capability
    checkValue origin 3 "member origin"
    return output ++ [9, capability, origin]
  | .fault value => do
    checkValue value 6 "fault"
    return output ++ [10, value]
  | .terminal value => do
    checkValue value 3 "terminal outcome"
    return output ++ [11, value]
  | .advance value => return output ++ [12, (value &&& 0xff).toUInt8, (value >>> 8).toUInt8]
  | .noop => return output ++ [13]

def ScenarioBytecode.header (program : ScenarioBytecode) : Bytes :=
  bytecodeMagic ++ [bytecodeVersion, program.mode.toByte] ++ Codecs.toLeBytes 8 program.seed.toNat ++
    [program.boundary, program.interleaving, program.initialStable, UInt8.ofNat program.ops.length]

def limited (output : Bytes) : Except DecodeError Bytes :=
  if maxInputBytes < output.length then .error ⟨"encoded bytecode exceeds input limit"⟩ else .ok output

def ScenarioBytecode.encode (program : ScenarioBytecode) : Except DecodeError Bytes :=
  if maxOps < program.ops.length then .error ⟨"operation count exceeds limit"⟩
  else if 16 ≤ program.boundary ∨ 12 ≤ program.interleaving ∨ 5 < program.initialStable then
    .error ⟨"bytecode selector is out of range"⟩
  else program.ops.foldlM encodeOp program.header >>= limited

end Darling.Fuzz
