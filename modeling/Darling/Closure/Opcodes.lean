import Mathlib.Tactic.Ring
import Darling.Library.Lebs
import Darling.Closure.Imports

/-! `dyld_info_bind_imports` of `closure_analyze.py`: the bind opcodes, read byte by byte. -/
namespace Darling.Closure

open Codecs (Bytes)
open Layouts (slice findZero Placed)
open Lebs (Uleb Sleb)

/-- The three streams that the load command tells apart. -/
inductive BindKind where
  | bind
  | weakBind
  | lazyBind
  deriving DecidableEq, Repr

section Reader

/-- The loop of `_read_uleb`, with what is left of the blob. -/
def ulebLoop (value shift : Nat) : Bytes → Nat × Bytes
  | [] => (value, [])
  | byte :: rest =>
    let value := value ||| ((byte.toNat &&& 0x7F) <<< shift)
    if byte.toNat &&& 0x80 = 0 then (value, rest) else ulebLoop value (shift + 7) rest

/-- `_read_uleb`. -/
def readUleb : Bytes → Nat × Bytes := ulebLoop 0 0

/-- The loop of `_read_sleb`. -/
def slebLoop (value shift : Nat) : Bytes → Int × Bytes
  | [] => (value, [])
  | byte :: rest =>
    let value := value ||| ((byte.toNat &&& 0x7F) <<< shift)
    if byte.toNat &&& 0x80 = 0 then
      (if byte.toNat &&& 0x40 = 0 then (value : Int) else (value : Int) - (1 <<< (shift + 7) : Nat), rest)
    else slebLoop value (shift + 7) rest

/-- `_read_sleb`. -/
def readSleb : Bytes → Int × Bytes := slebLoop 0 0

/-- The variables of the loop over the opcodes. -/
structure BindReader where
  ordinal : Int
  symbol : Option Bytes
  symbolWeak : Bool
  imports : List Import
  deriving DecidableEq, Repr

variable (kind : BindKind)

/-- `_bind_import`, so many times. Decoding keeps a leading underscore and makes none. -/
def BindReader.bindImport (reader : BindReader) (count : Nat) : BindReader :=
  match reader.symbol with
  | some (0x5F :: name) => { reader with
      imports := reader.imports ++ List.replicate count ⟨0x5F :: name, reader.ordinal, reader.symbolWeak,
        kind == .bind⟩ }
  | _ => reader

/-- The body of the loop after the byte has been taken; nothing where the loop breaks. -/
def readOpcode (byte : UInt8) (rest : Bytes) (reader : BindReader) : Option (BindReader × Bytes) :=
  let imm := byte.toNat &&& 0x0F
  match byte.toNat &&& 0xF0 with
  | 0x00 => if kind = .lazyBind then some (reader, rest) else none
  | 0x10 => some ({ reader with ordinal := imm }, rest)
  | 0x20 => some ({ reader with ordinal := (readUleb rest).1 }, (readUleb rest).2)
  | 0x30 => some ({ reader with ordinal := if imm ≠ 0 then ((imm ||| 0xF0 : Nat) : Int) - 0x100 else 0 }, rest)
  | 0x40 =>
    match findZero rest 0 with
    | none => none
    | some stop =>
      some ({ reader with symbol := some (slice rest 0 stop), symbolWeak := kind == .weakBind || imm &&& 1 != 0 },
        rest.drop (stop + 1))
  | 0x50 => some (reader, rest)
  | 0x60 => some (reader, (readSleb rest).2)
  | 0x70 => some (reader, (readUleb rest).2)
  | 0x80 => some (reader, (readUleb rest).2)
  | 0x90 => some (reader.bindImport kind 1, rest)
  | 0xA0 => some (reader.bindImport kind 1, (readUleb rest).2)
  | 0xB0 => some (reader.bindImport kind 1, rest)
  | 0xC0 => some (reader.bindImport kind (readUleb rest).1, (readUleb (readUleb rest).2).2)
  | _ => none

theorem ulebLoop_shorter (value shift : Nat) (bytes : Bytes) :
    (ulebLoop value shift bytes).2.length ≤ bytes.length := by
  fun_induction ulebLoop value shift bytes <;> grind

theorem slebLoop_shorter (value shift : Nat) (bytes : Bytes) :
    (slebLoop value shift bytes).2.length ≤ bytes.length := by
  fun_induction slebLoop value shift bytes <;> grind

/-- An opcode never gives bytes back. -/
theorem readOpcode_shorter {byte : UInt8} {rest left : Bytes} {reader next : BindReader}
    (read : readOpcode kind byte rest reader = some (next, left)) : left.length ≤ rest.length := by
  have uleb := ulebLoop_shorter 0 0 rest
  have twice := ulebLoop_shorter 0 0 (readUleb rest).2
  have sleb := slebLoop_shorter 0 0 rest
  change (readUleb rest).2.length ≤ _ at uleb
  change (readUleb (readUleb rest).2).2.length ≤ _ at twice
  change (readSleb rest).2.length ≤ _ at sleb
  unfold readOpcode at read
  dsimp only at read
  split at read
  case h_1 => split at read <;> simp_all
  case h_5 =>
    split at read
    · cases read
    · obtain ⟨-, rfl⟩ := Prod.mk.inj (Option.some.inj read)
      simp
  case h_14 => cases read
  all_goals
    obtain ⟨-, rfl⟩ := Prod.mk.inj (Option.some.inj read)
    omega

/-- The loop over the opcodes. -/
def readOpcodes (reader : BindReader) (stream : Bytes) : List Import :=
  match stream with
  | [] => reader.imports
  | byte :: rest =>
    match _ : readOpcode kind byte rest reader with
    | none => reader.imports
    | some (next, left) => readOpcodes next left
termination_by stream.length
decreasing_by
  have shorter := readOpcode_shorter kind ‹readOpcode kind byte rest reader = some (next, left)›
  simp only [List.length_cons]
  omega

/-- `dyld_info_bind_imports`. -/
def dyldInfoBindImports (stream : Bytes) : List Import := readOpcodes kind ⟨0, none, kind == .weakBind, []⟩ stream

end Reader

/-! What dyld makes of the opcodes. -/

inductive BindOp where
  | ordinalImm (imm : Fin 16)
  | ordinalUleb (ordinal : Nat)
  | specialImm (imm : Fin 16)
  | symbol (flags : Fin 16) (name : Bytes)
  | typeImm (type : Fin 16)
  | addendSleb (addend : Int)
  | segmentUleb (segment : Fin 16) (offset : Nat)
  | addAddrUleb (delta : Nat)
  | doBind
  | doBindAddAddrUleb (delta : Nat)
  | doBindAddAddrImmScaled (imm : Fin 16)
  | doBindTimesSkipping (count skip : Nat)
  deriving DecidableEq, Repr

/-- The byte of an opcode and its immediate. -/
def opcodeByte (opcode : Nat) (imm : Fin 16) : UInt8 := UInt8.ofNat (opcode + imm.val)

/-- The forms of an instruction in a stream. -/
def BindOp.Written : BindOp → Bytes → Prop
  | .ordinalImm imm, code => code = [opcodeByte 0x10 imm]
  | .ordinalUleb ordinal, code => ∃ operand, Uleb ordinal operand ∧ code = opcodeByte 0x20 0 :: operand
  | .specialImm imm, code => code = [opcodeByte 0x30 imm]
  | .symbol flags name, code => 0 ∉ name ∧ code = opcodeByte 0x40 flags :: (name ++ [0])
  | .typeImm type, code => code = [opcodeByte 0x50 type]
  | .addendSleb addend, code => ∃ operand, Sleb addend operand ∧ code = opcodeByte 0x60 0 :: operand
  | .segmentUleb segment offset, code => ∃ operand, Uleb offset operand ∧ code = opcodeByte 0x70 segment :: operand
  | .addAddrUleb delta, code => ∃ operand, Uleb delta operand ∧ code = opcodeByte 0x80 0 :: operand
  | .doBind, code => code = [opcodeByte 0x90 0]
  | .doBindAddAddrUleb delta, code => ∃ operand, Uleb delta operand ∧ code = opcodeByte 0xA0 0 :: operand
  | .doBindAddAddrImmScaled imm, code => code = [opcodeByte 0xB0 imm]
  | .doBindTimesSkipping count skip, code =>
    ∃ first second, Uleb count first ∧ Uleb skip second ∧ code = opcodeByte 0xC0 0 :: (first ++ second)

/-- The stream holds the instructions. All but a lazy one end with the first `DONE`; a lazy one has a `DONE` after
each entry and zeros at the end. -/
def Laid (kind : BindKind) (ops : List BindOp) (stream : Bytes) : Prop :=
  match kind with
  | .bind | .weakBind => ∃ code rest, Codecs.Reads.Listed BindOp.Written ops code ∧ stream = code ++ 0 :: rest
  | .lazyBind => ∃ (entries : List (List BindOp)) (code : Bytes) (padding : Nat), ops = entries.flatten ∧
      Codecs.Reads.Listed (fun entry code => ∃ body, Codecs.Reads.Listed BindOp.Written entry body ∧
        code = body ++ [0]) entries code ∧
      stream = code ++ List.replicate padding 0

/-- The registers of the interpreter. -/
structure BindState where
  ordinal : Int := 0
  symbol : Option Bytes := none
  weakImport : Bool := false
  type : Nat := 0
  addend : Int := 0
  segment : Nat := 0
  offset : Nat := 0
  deriving DecidableEq, Repr

namespace BindState

/-- The place moves on, in an address space of 64 bits. -/
def advance (state : BindState) (delta : Nat) : BindState := { state with offset := (state.offset + delta) % 2 ^ 64 }

/-- So many binds, each followed by a step over the pointer and the gap. -/
def times (skip : Nat) : Nat → BindState → BindState × List BindState
  | 0, state => (state, [])
  | count + 1, state =>
    let (final, binds) := times skip count (state.advance (skip + 8))
    (final, state :: binds)

/-- The registers after an instruction, and those at each bind that it performs. -/
def perform (state : BindState) : BindOp → BindState × List BindState
  | .ordinalImm imm => ({ state with ordinal := imm.val }, [])
  | .ordinalUleb ordinal => ({ state with ordinal := ordinal }, [])
  | .specialImm imm => ({ state with ordinal := if imm.val = 0 then 0 else (imm.val : Int) - 16 }, [])
  | .symbol flags name => ({ state with symbol := some name, weakImport := flags.val % 2 = 1 }, [])
  | .typeImm type => ({ state with type := type.val }, [])
  | .addendSleb addend => ({ state with addend := addend }, [])
  | .segmentUleb segment offset => ({ state with segment := segment.val, offset := offset }, [])
  | .addAddrUleb delta => (state.advance delta, [])
  | .doBind => (state.advance 8, [state])
  | .doBindAddAddrUleb delta => (state.advance (delta + 8), [state])
  | .doBindAddAddrImmScaled imm => (state.advance (imm.val * 8 + 8), [state])
  | .doBindTimesSkipping count skip => times skip count state

/-- The binds of the instructions, in order. -/
def binds (state : BindState) : List BindOp → List BindState
  | [] => []
  | op :: rest => (state.perform op).2 ++ binds (state.perform op).1 rest

/-- The import that a bind owes, if its symbol begins with an underscore. A weak-bind stream is weak throughout, and
only the bind stream is eager. -/
def owed (kind : BindKind) (state : BindState) : Option Import :=
  match state.symbol with
  | some (0x5F :: name) => some ⟨0x5F :: name, state.ordinal, kind == .weakBind || state.weakImport, kind == .bind⟩
  | _ => none

end BindState

section Exact

variable {kind : BindKind}

theorem ulebLoop_reads {number : Nat} {bytes : Bytes} (form : Uleb number bytes) (value shift : Nat) (rest : Bytes)
    (below : value < 2 ^ shift) : ulebLoop value shift (bytes ++ rest) = (value + number * 2 ^ shift, rest) := by
  induction form generalizing value shift with
  | last small =>
    obtain ⟨payload, mark⟩ := Lebs.last_bits small
    simp only [List.cons_append, List.nil_append, ulebLoop, payload, mark, ↓reduceIte, Lebs.or_shift below]
  | more small form induction =>
    obtain ⟨payload, mark⟩ := Lebs.more_bits small
    simp only [List.cons_append, ulebLoop, payload, mark, ↓reduceIte, Lebs.or_shift below]
    rw [induction _ _ (Lebs.or_shift_lt below small), Nat.pow_add]
    congr 1
    ring

theorem readUleb_reads {number : Nat} {bytes : Bytes} (form : Uleb number bytes) (rest : Bytes) :
    readUleb (bytes ++ rest) = (number, rest) := by
  rw [readUleb, ulebLoop_reads form 0 0 rest (by decide), Nat.zero_add, Nat.pow_zero, Nat.mul_one]

theorem slebLoop_reads {number : Int} {bytes : Bytes} (form : Sleb number bytes) (value shift : Nat) (rest : Bytes)
    (below : value < 2 ^ shift) : slebLoop value shift (bytes ++ rest) = (value + number * 2 ^ shift, rest) := by
  induction form generalizing value shift with
  | @positive digit small =>
    have byte : digit < 128 := by omega
    obtain ⟨payload, mark⟩ := Lebs.last_bits byte
    have sign := (Lebs.sign_bit byte).mpr small
    simp only [List.cons_append, List.nil_append, slebLoop, payload, mark, sign, ↓reduceIte, Lebs.or_shift below]
    push_cast
    rfl
  | negative large small =>
    obtain ⟨payload, mark⟩ := Lebs.last_bits small
    have sign := mt (Lebs.sign_bit small).mp (by omega)
    simp only [List.cons_append, List.nil_append, slebLoop, payload, mark, sign, ↓reduceIte, Lebs.or_shift below]
    rw [Nat.shiftLeft_eq, pow_add]
    push_cast
    congr 1
    ring
  | more small form induction =>
    obtain ⟨payload, mark⟩ := Lebs.more_bits small
    simp only [List.cons_append, slebLoop, payload, mark, ↓reduceIte, Lebs.or_shift below]
    rw [induction _ _ (Lebs.or_shift_lt below small), pow_add]
    push_cast
    congr 1
    ring

theorem readSleb_reads {number : Int} {bytes : Bytes} (form : Sleb number bytes) (rest : Bytes) :
    readSleb (bytes ++ rest) = (number, rest) := by
  rw [readSleb, slebLoop_reads form 0 0 rest (by decide)]
  simp

/-- The loop has come to the registers of the interpreter. -/
def readerAt (kind : BindKind) (state : BindState) (imports : List Import) : BindReader :=
  ⟨state.ordinal, state.symbol, kind == .weakBind || state.weakImport, imports⟩

/-- The masks tell the opcode and the immediate. -/
theorem opcodeByte_bits (opcode : Nat) (known : opcode % 16 = 0 ∧ opcode < 256) (imm : Fin 16) :
    (opcodeByte opcode imm).toNat &&& 0xF0 = opcode ∧ (opcodeByte opcode imm).toNat &&& 0x0F = imm.val := by
  have all : ∀ high imm : Fin 16, (opcodeByte (16 * high.val) imm).toNat &&& 0xF0 = 16 * high.val ∧
      (opcodeByte (16 * high.val) imm).toNat &&& 0x0F = imm.val := by decide
  have whole : 16 * (opcode / 16) = opcode := by omega
  have bits := all ⟨opcode / 16, by omega⟩ imm
  rwa [whole] at bits

theorem readerAt_binds (state : BindState) (imports : List Import) (count : Nat) :
    (readerAt kind state imports).bindImport kind count =
      readerAt kind state (imports ++ (List.replicate count (state.owed kind)).filterMap id) := by
  unfold BindReader.bindImport BindState.owed readerAt
  dsimp only
  split
  · rw [List.filterMap_replicate_of_some (by rfl)]
  · simp

/-- The binds of one instruction differ in their place only. -/
theorem times_owed (kind : BindKind) (skip count : Nat) (state : BindState) :
    (BindState.times skip count state).2.map (BindState.owed kind) = List.replicate count (state.owed kind) ∧
      ∀ imports, readerAt kind (BindState.times skip count state).1 imports = readerAt kind state imports := by
  induction count generalizing state with
  | zero => exact ⟨rfl, fun _ => rfl⟩
  | succ count induction =>
    obtain ⟨same, registers⟩ := induction (state.advance (skip + 8))
    rw [BindState.times]
    dsimp only
    rw [List.map_cons, same]
    exact ⟨rfl, registers⟩

theorem readOpcodes_cons {byte : UInt8} {rest left : Bytes} {reader next : BindReader}
    (read : readOpcode kind byte rest reader = some (next, left)) :
    readOpcodes kind reader (byte :: rest) = readOpcodes kind next left := by
  rw [readOpcodes]
  split
  · rename_i none
    rw [read] at none
    cases none
  · rename_i found
    rw [read] at found
    cases found
    rfl

/-- An instruction is read as the interpreter performs it. -/
theorem readOpcode_op (kind : BindKind) {op : BindOp} {code : Bytes} (written : op.Written code) (state : BindState)
    (imports : List Import)
    (rest : Bytes) :
    ∃ byte operands, code = byte :: operands ∧ readOpcode kind byte (operands ++ rest) (readerAt kind state imports) =
      some (readerAt kind (state.perform op).1
        (imports ++ (state.perform op).2.filterMap (BindState.owed kind)), rest) := by
  have once : (readerAt kind state imports).bindImport kind 1 =
      readerAt kind state (imports ++ [state].filterMap (BindState.owed kind)) := by
    rw [readerAt_binds, List.replicate_one, List.filterMap_cons, List.filterMap_cons]
    rfl
  cases op with
  | ordinalImm imm =>
    refine ⟨_, [], written, ?_⟩
    simp only [readOpcode, (opcodeByte_bits 0x10 (by decide) imm).1, (opcodeByte_bits 0x10 (by decide) imm).2]
    simp [BindState.perform, readerAt]
  | ordinalUleb ordinal =>
    obtain ⟨operand, form, rfl⟩ := written
    refine ⟨_, operand, rfl, ?_⟩
    simp only [readOpcode, (opcodeByte_bits 0x20 (by decide) 0).1, readUleb_reads form]
    simp [BindState.perform, readerAt]
  | specialImm imm =>
    refine ⟨_, [], written, ?_⟩
    have extended : ∀ imm : Fin 16, (if imm.val ≠ 0 then ((imm.val ||| 0xF0 : Nat) : Int) - 0x100 else 0) =
        if imm.val = 0 then 0 else (imm.val : Int) - 16 := by decide
    simp only [readOpcode, (opcodeByte_bits 0x30 (by decide) imm).1, (opcodeByte_bits 0x30 (by decide) imm).2, extended]
    simp [BindState.perform, readerAt]
  | symbol flags name =>
    obtain ⟨clean, rfl⟩ := written
    refine ⟨_, name ++ [0], rfl, ?_⟩
    have placed : Placed (name ++ [0] ++ rest) 0 (name ++ [0]) := List.prefix_append _ _
    have stop := placed.findZero clean
    have weak : ∀ flags : Fin 16, (flags.val &&& 1 != 0) = decide (flags.val % 2 = 1) := by decide
    rw [Nat.zero_add] at stop
    simp only [readOpcode, (opcodeByte_bits 0x40 (by decide) flags).1,
      (opcodeByte_bits 0x40 (by decide) flags).2, stop, weak]
    simp [BindState.perform, readerAt, slice]
  | typeImm type =>
    refine ⟨_, [], written, ?_⟩
    simp only [readOpcode, (opcodeByte_bits 0x50 (by decide) type).1]
    simp [BindState.perform, readerAt]
  | addendSleb addend =>
    obtain ⟨operand, form, rfl⟩ := written
    refine ⟨_, operand, rfl, ?_⟩
    simp only [readOpcode, (opcodeByte_bits 0x60 (by decide) 0).1, readSleb_reads form]
    simp [BindState.perform, readerAt]
  | segmentUleb segment offset =>
    obtain ⟨operand, form, rfl⟩ := written
    refine ⟨_, operand, rfl, ?_⟩
    simp only [readOpcode, (opcodeByte_bits 0x70 (by decide) segment).1, readUleb_reads form]
    simp [BindState.perform, readerAt]
  | addAddrUleb delta =>
    obtain ⟨operand, form, rfl⟩ := written
    refine ⟨_, operand, rfl, ?_⟩
    simp only [readOpcode, (opcodeByte_bits 0x80 (by decide) 0).1, readUleb_reads form]
    simp [BindState.perform, BindState.advance, readerAt]
  | doBind =>
    refine ⟨_, [], written, ?_⟩
    simp only [readOpcode, (opcodeByte_bits 0x90 (by decide) 0).1, once]
    rfl
  | doBindAddAddrUleb delta =>
    obtain ⟨operand, form, rfl⟩ := written
    refine ⟨_, operand, rfl, ?_⟩
    simp only [readOpcode, (opcodeByte_bits 0xA0 (by decide) 0).1, once, readUleb_reads form]
    rfl
  | doBindAddAddrImmScaled imm =>
    refine ⟨_, [], written, ?_⟩
    simp only [readOpcode, (opcodeByte_bits 0xB0 (by decide) imm).1, once]
    rfl
  | doBindTimesSkipping count skip =>
    obtain ⟨first, second, counted, skipped, rfl⟩ := written
    refine ⟨_, first ++ second, rfl, ?_⟩
    obtain ⟨same, registers⟩ := times_owed kind skip count state
    simp only [readOpcode, (opcodeByte_bits 0xC0 (by decide) 0).1, List.append_assoc, readUleb_reads counted,
      readUleb_reads skipped,
      readerAt_binds]
    rw [BindState.perform, registers, ← same, List.filterMap_map]
    rfl

/-- The loop takes the instructions of a stream as the interpreter does. -/
theorem readOpcodes_ops {ops : List BindOp} {code : Bytes} (written : Codecs.Reads.Listed BindOp.Written ops code)
    (state : BindState) (imports : List Import) (rest : Bytes) :
    ∃ final, (∀ later, state.binds (ops ++ later) = state.binds ops ++ final.binds later) ∧
      readOpcodes kind (readerAt kind state imports) (code ++ rest) =
        readOpcodes kind (readerAt kind final (imports ++ (state.binds ops).filterMap (BindState.owed kind))) rest := by
  induction written generalizing state imports with
  | nil => exact ⟨state, fun _ => rfl, by simp [BindState.binds]⟩
  | cons form others induction =>
    rename_i op front ops back
    obtain ⟨byte, operands, rfl, read⟩ := readOpcode_op kind form state imports (back ++ rest)
    obtain ⟨final, splits, ran⟩ := induction (state.perform op).1
      (imports ++ (state.perform op).2.filterMap (BindState.owed kind))
    refine ⟨final, ?_, ?_⟩
    · intro later
      rw [List.cons_append, BindState.binds, BindState.binds, splits, List.append_assoc]
    · rw [List.append_assoc, List.cons_append, readOpcodes_cons read, ran, BindState.binds, List.filterMap_append,
        List.append_assoc]

/-- The loop breaks at `DONE`, except in a lazy stream. -/
theorem readOpcodes_done (eager : kind ≠ .lazyBind) (reader : BindReader) (rest : Bytes) :
    readOpcodes kind reader (0 :: rest) = reader.imports := by
  have stops : readOpcode kind 0 rest reader = none := if_neg eager
  rw [readOpcodes]
  split
  · rfl
  · rename_i found
    rw [stops] at found
    cases found

theorem readOpcodes_skip (reader : BindReader) (rest : Bytes) :
    readOpcodes .lazyBind reader (0 :: rest) = readOpcodes .lazyBind reader rest :=
  readOpcodes_cons rfl

theorem readOpcodes_padding (reader : BindReader) (padding : Nat) :
    readOpcodes .lazyBind reader (List.replicate padding 0) = reader.imports := by
  induction padding with
  | zero => rw [List.replicate_zero, readOpcodes]
  | succ padding induction => rw [List.replicate_succ, readOpcodes_skip, induction]

/-- The entries of a lazy stream, each with its `DONE`. -/
theorem readOpcodes_entries {entries : List (List BindOp)} {code : Bytes}
    (written : Codecs.Reads.Listed (fun entry code => ∃ body, Codecs.Reads.Listed BindOp.Written entry body ∧
      code = body ++ [0])
      entries code) (state : BindState) (imports : List Import) (padding : Nat) :
    readOpcodes .lazyBind (readerAt .lazyBind state imports) (code ++ List.replicate padding 0) =
      imports ++ (state.binds entries.flatten).filterMap (BindState.owed .lazyBind) := by
  induction written generalizing state imports with
  | nil => rw [List.nil_append, readOpcodes_padding]; simp [BindState.binds, readerAt]
  | cons form others induction =>
    obtain ⟨body, listed, rfl⟩ := form
    rename_i entry entries back
    obtain ⟨final, splits, ran⟩ := readOpcodes_ops listed state imports (0 :: (back ++ List.replicate padding 0))
    rw [List.append_assoc, List.append_assoc, List.singleton_append, ran, readOpcodes_skip, induction,
      List.flatten_cons, splits,
      List.filterMap_append, List.append_assoc]

/-- The reader yields the imports of the binds that the interpreter performs, in order. -/
theorem bind_stream_exact (kind : BindKind) (ops : List BindOp) (stream : Bytes) (laid : Laid kind ops stream) :
    dyldInfoBindImports kind stream = (({} : BindState).binds ops).filterMap (BindState.owed kind) := by
  have start : dyldInfoBindImports kind stream = readOpcodes kind (readerAt kind {} []) stream := by
    rw [dyldInfoBindImports, readerAt, Bool.or_false]
  rw [start]
  cases kind with
  | lazyBind =>
    obtain ⟨entries, code, padding, rfl, written, rfl⟩ := laid
    exact readOpcodes_entries written {} [] padding
  | bind =>
    obtain ⟨code, rest, written, rfl⟩ := laid
    obtain ⟨final, -, ran⟩ := readOpcodes_ops written {} [] (0 :: rest)
    rw [ran, readOpcodes_done (by decide)]
    rfl
  | weakBind =>
    obtain ⟨code, rest, written, rfl⟩ := laid
    obtain ⟨final, -, ran⟩ := readOpcodes_ops written {} [] (0 :: rest)
    rw [ran, readOpcodes_done (by decide)]
    rfl

/-- Two binds of `_a` from the flat namespace, 128 bytes apart. -/
theorem bind_stream_twice :
    dyldInfoBindImports .bind [0x3E, 0x41, 0x5F, 0x61, 0, 0x51, 0xC0, 0x02, 0xF8, 0x00, 0x00] =
      [⟨[0x5F, 0x61], -2, true, true⟩, ⟨[0x5F, 0x61], -2, true, true⟩] := by
  refine bind_stream_exact .bind [.specialImm 14, .symbol 1 [0x5F, 0x61], .typeImm 1, .doBindTimesSkipping 2 120] _
    ⟨[0x3E, 0x41, 0x5F, 0x61, 0, 0x51, 0xC0, 0x02, 0xF8, 0x00], [], ?_, rfl⟩
  have count : Uleb 2 [0x02] := .last (by decide)
  have skip : Uleb 120 [0xF8, 0x00] := .more (by decide : 120 < 128) (.last (by decide : 0 < 128))
  have special : (BindOp.specialImm 14).Written [0x3E] := rfl
  have symbol : (BindOp.symbol 1 [0x5F, 0x61]).Written [0x41, 0x5F, 0x61, 0] := ⟨by decide, rfl⟩
  have type : (BindOp.typeImm 1).Written [0x51] := rfl
  have binds : (BindOp.doBindTimesSkipping 2 120).Written [0xC0, 0x02, 0xF8, 0x00] := ⟨_, _, count, skip, rfl⟩
  exact .cons special (.cons symbol (.cons type (.cons binds .nil)))

end Exact

end Darling.Closure
