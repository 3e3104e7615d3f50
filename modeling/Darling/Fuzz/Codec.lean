import Darling.Fuzz.Bytecode

/-! The decoder and the encoder are inverse to each other on the programs whose fields are in range. -/
namespace Darling.Fuzz

open Codecs (Bytes Reads refuse)

/-- The operands that both sides accept. -/
def BytecodeOp.InRange : BytecodeOp → Prop
  | .intent value => value ≤ 6
  | .barrier => True
  | .acquire capability => capability.toNat < maxCapabilities
  | .identity capability _ => capability.toNat < maxCapabilities
  | .membership _ completeness => completeness ≤ 4
  | .signal capability number result => capability.toNat < maxCapabilities ∧ number ≤ 3 ∧ result ≤ 3
  | .recovery value => value ≤ 11
  | .release capability => capability.toNat < maxCapabilities
  | .checkpoint operation point placement result =>
    operation ≤ 2 ∧ point ≤ 8 ∧ placement ≤ 1 ∧ result ≤ 2
  | .memberObserved capability origin => capability.toNat < maxCapabilities ∧ origin ≤ 3
  | .fault value => value ≤ 6
  | .terminal value => value ≤ 3
  | .advance _ => True
  | .noop => True

/-- The tag and the operands as they stand in the bytecode. -/
def BytecodeOp.code : BytecodeOp → Bytes
  | .intent value => [0, value]
  | .barrier => [1]
  | .acquire capability => [2, capability]
  | .identity capability isMatch => [3, capability, isMatch.toUInt8]
  | .membership mask completeness => [4, mask, completeness]
  | .signal capability number result => [5, capability, number, result]
  | .recovery value => [6, value]
  | .release capability => [7, capability]
  | .checkpoint operation point placement result => [8, operation, point, placement, result]
  | .memberObserved capability origin => [9, capability, origin]
  | .fault value => [10, value]
  | .terminal value => [11, value]
  | .advance value => 12 :: Codecs.toLeBytes 2 value.toNat
  | .noop => [13]

theorem toLeBytes_u16 (value : UInt16) :
    Codecs.toLeBytes 2 value.toNat = [(value &&& 0xff).toUInt8, (value >>> 8).toUInt8] := by
  have low : UInt8.ofNat value.toNat = (value &&& 0xff).toUInt8 := by
    apply UInt8.toNat_inj.mp
    have masked : value.toNat % 256 &&& 255 = value.toNat % 256 % 256 :=
      Nat.and_two_pow_sub_one_eq_mod (value.toNat % 256) 8
    simp [masked]
  have high : UInt8.ofNat (value.toNat / 256) = (value >>> 8).toUInt8 := by
    apply UInt8.toNat_inj.mp
    simp [Nat.shiftRight_eq_div_pow]
  simp only [Codecs.toLeBytes, low, high]

@[simp] theorem checkValue_bind (value max : UInt8) (name : String) (next : Unit → Except DecodeError α) (result : α) :
    (checkValue value max name >>= next) = .ok result ↔ value ≤ max ∧ next () = .ok result := by
  unfold checkValue
  by_cases large : max < value
  · rw [if_pos large]
    have beyond : ¬value ≤ max := UInt8.not_le.mpr large
    simp [bind, Except.bind, beyond]
  · rw [if_neg large]
    have within : value ≤ max := UInt8.not_lt.mp large
    simp [bind, Except.bind, within]

@[simp] theorem checkCapability_bind (value : UInt8) (next : Unit → Except DecodeError α) (result : α) :
    (checkCapability value >>= next) = .ok result ↔ value.toNat < maxCapabilities ∧ next () = .ok result := by
  unfold checkCapability
  by_cases large : maxCapabilities ≤ value.toNat
  · rw [if_pos large]
    have beyond : ¬value.toNat < maxCapabilities := by omega
    simp [bind, Except.bind, beyond]
  · rw [if_neg large]
    have within : value.toNat < maxCapabilities := by omega
    simp [bind, Except.bind, within]

theorem encodeOp_ok (output result : Bytes) (op : BytecodeOp) :
    encodeOp output op = .ok result ↔ op.InRange ∧ result = output ++ op.code := by
  cases op <;>
    simp [encodeOp, BytecodeOp.InRange, BytecodeOp.code, toLeBytes_u16, pure, Except.pure, and_assoc,
      @eq_comm Bytes _ result]

theorem foldlM_encodeOp_ok (ops : List BytecodeOp) (output result : Bytes) :
    ops.foldlM encodeOp output = .ok result ↔
      (∀ op ∈ ops, op.InRange) ∧ result = output ++ ops.flatMap BytecodeOp.code := by
  induction ops generalizing output with
  | nil => simp [pure, Except.pure, eq_comm]
  | cons op rest induction =>
    rw [List.foldlM_cons]
    constructor
    · intro ran
      cases first : encodeOp output op with
      | error error =>
        rw [first] at ran
        cases ran
      | ok written =>
        rw [first] at ran
        obtain ⟨within, rfl⟩ := (encodeOp_ok output written op).mp first
        obtain ⟨others, rfl⟩ := (induction _).mp ran
        exact ⟨List.forall_mem_cons.mpr ⟨within, others⟩, by simp⟩
    · rintro ⟨within, rfl⟩
      obtain ⟨first, others⟩ := List.forall_mem_cons.mp within
      rw [(encodeOp_ok output _ op).mpr ⟨first, rfl⟩]
      exact (induction _).mpr ⟨others, by simp⟩

theorem u8_reads : Reads Reader.u8 fun value written => written = [value] := by
  refine ((Reads.take _ 1).bind fun _ => .pure _).congr fun value written => ?_
  constructor
  · rintro ⟨bytes, front, back, ⟨rfl, single⟩, ⟨rfl, rfl⟩, rfl⟩
    obtain ⟨byte, rfl⟩ := List.length_eq_one_iff.mp single
    rfl
  · rintro rfl
    exact ⟨_, [value], [], ⟨rfl, rfl⟩, ⟨rfl, rfl⟩, rfl⟩

theorem u16_reads : Reads Reader.u16 fun value written => written = Codecs.toLeBytes 2 value.toNat := by
  refine ((Reads.take _ 2).bind fun _ => .pure _).congr fun value written => ?_
  constructor
  · rintro ⟨bytes, front, back, ⟨rfl, two⟩, ⟨rfl, rfl⟩, rfl⟩
    have bound := Codecs.fromLeBytes_lt bytes
    rw [two] at bound
    rw [List.append_nil, UInt16.toNat_ofNat_of_lt' bound, ← two, Codecs.toLeBytes_fromLeBytes]
  · rintro rfl
    have same := Codecs.fromLeBytes_toLeBytes 2 value.toNat value.toNat_lt
    exact ⟨_, _, [], ⟨rfl, Codecs.toLeBytes_length 2 _⟩, ⟨by rw [same, UInt16.ofNat_toNat], rfl⟩,
      (List.append_nil _).symm⟩

theorem u64_reads : Reads Reader.u64 fun value written => written = Codecs.toLeBytes 8 value.toNat := by
  refine ((Reads.take _ 8).bind fun _ => .pure _).congr fun value written => ?_
  constructor
  · rintro ⟨bytes, front, back, ⟨rfl, eight⟩, ⟨rfl, rfl⟩, rfl⟩
    have bound := Codecs.fromLeBytes_lt bytes
    rw [eight] at bound
    rw [List.append_nil, UInt64.toNat_ofNat_of_lt' bound, ← eight, Codecs.toLeBytes_fromLeBytes]
  · rintro rfl
    have same := Codecs.fromLeBytes_toLeBytes 8 value.toNat value.toNat_lt
    exact ⟨_, _, [], ⟨rfl, Codecs.toLeBytes_length 8 _⟩, ⟨by rw [same, UInt64.ofNat_toNat], rfl⟩,
      (List.append_nil _).symm⟩

/-- A byte that is checked after it is read. -/
theorem checked_reads {condition : UInt8 → Prop} [∀ value, Decidable (condition value)] (error : DecodeError) :
    Reads (do
      let value ← Reader.u8
      refuse (condition value) error
      return value) fun value written => ¬condition value ∧ written = [value] := by
  have rest (value : UInt8) : Reads (refuse (condition value) error >>= fun _ => pure value) fun read written =>
      ¬condition value ∧ read = value ∧ written = [] :=
    .refuse_bind error (.pure value)
  refine (u8_reads.bind rest).congr fun value written => ?_
  constructor
  · rintro ⟨byte, front, back, rfl, ⟨passed, rfl, rfl⟩, rfl⟩
    exact ⟨passed, rfl⟩
  · rintro ⟨passed, rfl⟩
    exact ⟨value, [value], [], rfl, ⟨passed, rfl, rfl⟩, rfl⟩

theorem capability_reads :
    Reads Reader.capability fun value written => value.toNat < maxCapabilities ∧ written = [value] :=
  (checked_reads _).congr fun _ _ => by rw [Nat.not_le]

theorem enumValue_reads (max : UInt8) (name : String) :
    Reads (Reader.enumValue max name) fun value written => value ≤ max ∧ written = [value] :=
  (checked_reads _).congr fun _ _ => by rw [UInt8.not_lt]

theorem boolValue_reads (name : String) :
    Reads (Reader.boolValue name) fun value written => written = [value.toUInt8] := by
  have bit : ∀ byte : UInt8, Reads (Reader.toBool name byte.toNat) fun value written =>
      byte = value.toUInt8 ∧ written = [] := by
    intro byte
    by_cases zero : byte = 0
    · subst zero
      exact (Reads.pure false).congr fun value _ => by cases value <;> simp [Bool.toUInt8]
    by_cases one : byte = 1
    · subst one
      exact (Reads.pure true).congr fun value _ => by cases value <;> simp [Bool.toUInt8]
    · have other : Reader.toBool name byte.toNat = throw ⟨name⟩ := by
        unfold Reader.toBool
        split
        · rename_i same
          exact absurd (UInt8.toNat_inj.mp same) zero
        · rename_i same
          exact absurd (UInt8.toNat_inj.mp same) one
        · rfl
      rw [other]
      exact (Reads.fail _).congr fun value _ => by cases value <;> simp [Bool.toUInt8, zero, one]
  refine (u8_reads.bind bit).congr fun value written => ?_
  constructor
  · rintro ⟨byte, front, back, rfl, ⟨rfl, rfl⟩, rfl⟩
    rfl
  · rintro rfl
    exact ⟨_, _, [], rfl, ⟨rfl, rfl⟩, rfl⟩

/-- One byte of the operands, then the others. -/
theorem byte_bind {reader : Reader UInt8} {Accepted : UInt8 → Prop} {next : UInt8 → Reader α}
    {Then : UInt8 → α → Bytes → Prop} (reads : Reads reader fun value written => Accepted value ∧ written = [value])
    (after : ∀ value, Reads (next value) (Then value)) :
    Reads (reader >>= next) fun read written =>
      ∃ value rest, Accepted value ∧ Then value read rest ∧ written = value :: rest := by
  refine (reads.bind after).congr fun read written => ?_
  constructor
  · rintro ⟨value, front, back, ⟨accepted, rfl⟩, form, rfl⟩
    exact ⟨value, back, accepted, form, rfl⟩
  · rintro ⟨value, rest, accepted, form, rfl⟩
    exact ⟨value, [value], rest, ⟨accepted, rfl⟩, form, rfl⟩

theorem tagged_reads (number : Nat) (tag : UInt8) (same : tag.toNat = number) :
    Reads (Reader.tagged number) fun op back => op.InRange ∧ op.code = tag :: back := by
  match number with
  | 0 =>
    obtain rfl : tag = 0 := UInt8.toNat_inj.mp same
    refine ((enumValue_reads 6 _).map _).congr fun op back => ?_
    cases op <;> simp [BytecodeOp.InRange, BytecodeOp.code, eq_comm, and_assoc]
  | 1 =>
    obtain rfl : tag = 1 := UInt8.toNat_inj.mp same
    refine (Reads.pure _).congr fun op back => ?_
    cases op <;> simp [BytecodeOp.InRange, BytecodeOp.code, eq_comm]
  | 2 =>
    obtain rfl : tag = 2 := UInt8.toNat_inj.mp same
    refine (capability_reads.map _).congr fun op back => ?_
    cases op <;> simp [BytecodeOp.InRange, BytecodeOp.code, eq_comm, and_assoc]
  | 3 =>
    obtain rfl : tag = 3 := UInt8.toNat_inj.mp same
    refine (byte_bind capability_reads fun _ => (boolValue_reads _).map _).congr fun op back => ?_
    cases op <;> simp [BytecodeOp.InRange, BytecodeOp.code, eq_comm, and_assoc]
  | 4 =>
    obtain rfl : tag = 4 := UInt8.toNat_inj.mp same
    refine (u8_reads.bind fun _ => (enumValue_reads 4 _).map _).congr fun op back => ?_
    cases op <;> simp [BytecodeOp.InRange, BytecodeOp.code, eq_comm, and_assoc]
  | 5 =>
    obtain rfl : tag = 5 := UInt8.toNat_inj.mp same
    refine (byte_bind capability_reads fun _ => byte_bind (enumValue_reads 3 _) fun _ =>
      (enumValue_reads 3 _).map _).congr fun op back => ?_
    cases op <;> simp [BytecodeOp.InRange, BytecodeOp.code, eq_comm, and_assoc]
  | 6 =>
    obtain rfl : tag = 6 := UInt8.toNat_inj.mp same
    refine ((enumValue_reads 11 _).map _).congr fun op back => ?_
    cases op <;> simp [BytecodeOp.InRange, BytecodeOp.code, eq_comm, and_assoc]
  | 7 =>
    obtain rfl : tag = 7 := UInt8.toNat_inj.mp same
    refine (capability_reads.map _).congr fun op back => ?_
    cases op <;> simp [BytecodeOp.InRange, BytecodeOp.code, eq_comm, and_assoc]
  | 8 =>
    obtain rfl : tag = 8 := UInt8.toNat_inj.mp same
    refine (byte_bind (enumValue_reads 2 _) fun _ => byte_bind (enumValue_reads 8 _) fun _ =>
      byte_bind (enumValue_reads 1 _) fun _ => (enumValue_reads 2 _).map _).congr fun op back => ?_
    cases op <;> simp [BytecodeOp.InRange, BytecodeOp.code, eq_comm, and_assoc]
  | 9 =>
    obtain rfl : tag = 9 := UInt8.toNat_inj.mp same
    refine (byte_bind capability_reads fun _ => (enumValue_reads 3 _).map _).congr fun op back => ?_
    cases op <;> simp [BytecodeOp.InRange, BytecodeOp.code, eq_comm, and_assoc]
  | 10 =>
    obtain rfl : tag = 10 := UInt8.toNat_inj.mp same
    refine ((enumValue_reads 6 _).map _).congr fun op back => ?_
    cases op <;> simp [BytecodeOp.InRange, BytecodeOp.code, eq_comm, and_assoc]
  | 11 =>
    obtain rfl : tag = 11 := UInt8.toNat_inj.mp same
    refine ((enumValue_reads 3 _).map _).congr fun op back => ?_
    cases op <;> simp [BytecodeOp.InRange, BytecodeOp.code, eq_comm, and_assoc]
  | 12 =>
    obtain rfl : tag = 12 := UInt8.toNat_inj.mp same
    refine (u16_reads.map _).congr fun op back => ?_
    cases op <;> simp [BytecodeOp.InRange, BytecodeOp.code, eq_comm]
  | 13 =>
    obtain rfl : tag = 13 := UInt8.toNat_inj.mp same
    refine (Reads.pure _).congr fun op back => ?_
    cases op <;> simp [BytecodeOp.InRange, BytecodeOp.code, eq_comm]
  | number + 14 =>
    refine (Reads.fail _).congr fun op back => ⟨False.elim, ?_⟩
    rintro ⟨-, code⟩
    have tagged : tag = op.code.headI := by rw [code]; rfl
    have known : op.code.headI.toNat ≤ 13 := by cases op <;> simp [BytecodeOp.code]
    rw [← tagged] at known
    omega

theorem op_reads : Reads Reader.op fun op written => op.InRange ∧ written = op.code := by
  refine (u8_reads.bind fun tag => tagged_reads tag.toNat tag rfl).congr fun op written => ⟨?_, ?_⟩
  · rintro ⟨tag, front, back, rfl, ⟨within, code⟩, rfl⟩
    exact ⟨within, code.symm⟩
  · rintro ⟨within, rfl⟩
    cases code : op.code with
    | nil => cases op <;> cases code
    | cons tag back => exact ⟨tag, [tag], back, rfl, ⟨within, rfl⟩, rfl⟩

theorem listed_iff (ops : List BytecodeOp) (written : Bytes) :
    Reads.Listed (fun op written => op.InRange ∧ written = op.code) ops written ↔
      (∀ op ∈ ops, op.InRange) ∧ written = ops.flatMap BytecodeOp.code := by
  induction ops generalizing written with
  | nil =>
    constructor
    · rintro ⟨⟩
      exact ⟨nofun, rfl⟩
    · rintro ⟨-, rfl⟩
      exact .nil
  | cons op rest induction =>
    constructor
    · rintro (_ | ⟨⟨within, rfl⟩, others⟩)
      obtain ⟨all, rfl⟩ := (induction _).mp others
      exact ⟨List.forall_mem_cons.mpr ⟨within, all⟩, rfl⟩
    · rintro ⟨within, rfl⟩
      obtain ⟨first, others⟩ := List.forall_mem_cons.mp within
      exact .cons ⟨first, rfl⟩ ((induction _).mpr ⟨others, rfl⟩)

theorem u8_bind {next : UInt8 → Reader α} {Then : UInt8 → α → Bytes → Prop}
    (after : ∀ value, Reads (next value) (Then value)) :
    Reads (Reader.u8 >>= next) fun read written => ∃ value rest, Then value read rest ∧ written = value :: rest := by
  refine (u8_reads.bind after).congr fun read written => ⟨?_, ?_⟩
  · rintro ⟨value, front, back, rfl, form, rfl⟩
    exact ⟨value, back, form, rfl⟩
  · rintro ⟨value, rest, form, rfl⟩
    exact ⟨value, [value], rest, rfl, form, rfl⟩

theorem mode_reads (byte : UInt8) : Reads (FuzzMode.decode byte) fun mode written =>
    byte = mode.toByte ∧ written = [] := by
  by_cases zero : byte = 0
  · subst zero
    exact (Reads.pure FuzzMode.reducer).congr fun mode _ => by cases mode <;> simp [FuzzMode.toByte]
  by_cases one : byte = 1
  · subst one
    exact (Reads.pure FuzzMode.explorer).congr fun mode _ => by cases mode <;> simp [FuzzMode.toByte]
  · have other : FuzzMode.decode byte = throw ⟨"unknown fuzz mode"⟩ := by
      unfold FuzzMode.decode
      split
      · rename_i same
        exact absurd (UInt8.toNat_inj.mp same) zero
      · rename_i same
        exact absurd (UInt8.toNat_inj.mp same) one
      · rfl
    rw [other]
    exact (Reads.fail _).congr fun mode _ => by cases mode <;> simp [FuzzMode.toByte, zero, one]

structure ScenarioBytecode.InRange (program : ScenarioBytecode) : Prop where
  count : program.ops.length ≤ maxOps
  boundary : program.boundary < 16
  interleaving : program.interleaving < 12
  initialStable : program.initialStable ≤ 5
  ops : ∀ op ∈ program.ops, op.InRange

def ScenarioBytecode.code (program : ScenarioBytecode) : Bytes :=
  program.header ++ program.ops.flatMap BytecodeOp.code

theorem BytecodeOp.code_length (op : BytecodeOp) : op.code.length ≤ 5 := by
  cases op <;> simp [BytecodeOp.code]

/-- No accepted program comes near the limit of the input. -/
theorem ScenarioBytecode.code_length {program : ScenarioBytecode} (count : program.ops.length ≤ maxOps) :
    program.code.length ≤ maxInputBytes := by
  have body : (program.ops.flatMap BytecodeOp.code).length ≤ 5 * program.ops.length := by
    induction program.ops with
    | nil => simp
    | cons op rest induction =>
      have first := op.code_length
      simp only [List.flatMap_cons, List.length_append, List.length_cons]
      omega
  have header : program.header.length = 18 := by simp [ScenarioBytecode.header, bytecodeMagic]
  simp only [ScenarioBytecode.code, List.length_append, header]
  simp only [maxOps, maxInputBytes] at count ⊢
  omega

theorem encode_ok (program : ScenarioBytecode) (bytes : Bytes) :
    program.encode = .ok bytes ↔ program.InRange ∧ bytes = program.code := by
  unfold ScenarioBytecode.encode
  by_cases many : maxOps < program.ops.length
  · rw [if_pos many]
    refine iff_of_false nofun ?_
    rintro ⟨within, -⟩
    have few := within.count
    omega
  rw [if_neg many]
  have few : program.ops.length ≤ maxOps := by omega
  by_cases selected : 16 ≤ program.boundary ∨ 12 ≤ program.interleaving ∨ 5 < program.initialStable
  · rw [if_pos selected]
    refine iff_of_false nofun ?_
    rintro ⟨within, -⟩
    rcases selected with large | large | large
    · exact UInt8.not_le.mpr within.boundary large
    · exact UInt8.not_le.mpr within.interleaving large
    · exact UInt8.not_le.mpr large within.initialStable
  rw [if_neg selected]
  simp only [not_or, UInt8.not_le, UInt8.not_lt] at selected
  obtain ⟨boundary, interleaving, initialStable⟩ := selected
  have short : ∀ output, limited output = .ok bytes → output = bytes := by
    intro output ran
    unfold limited at ran
    split at ran
    · cases ran
    · exact Except.ok.inj ran
  constructor
  · intro ran
    cases encoded : program.ops.foldlM encodeOp program.header with
    | error error =>
      rw [encoded] at ran
      cases ran
    | ok output =>
      rw [encoded] at ran
      obtain rfl := short output ran
      obtain ⟨ops, rfl⟩ := (foldlM_encodeOp_ok program.ops program.header output).mp encoded
      exact ⟨⟨few, boundary, interleaving, initialStable, ops⟩, rfl⟩
  · rintro ⟨within, rfl⟩
    rw [(foldlM_encodeOp_ok program.ops program.header program.code).mpr ⟨within.ops, rfl⟩]
    have size := ScenarioBytecode.code_length few
    exact if_neg (by omega)

/-- The count of the operations and the operations it announces. -/
theorem counted_reads (make : List BytecodeOp → ScenarioBytecode) :
    Reads (do
      let count ← Reader.u8
      refuse (maxOps < count.toNat) ⟨"operation count exceeds limit"⟩
      let ops ← Codecs.repeated Reader.op count.toNat
      return make ops) fun program written => ∃ ops, ops.length ≤ maxOps ∧ (∀ op ∈ ops, op.InRange) ∧
        program = make ops ∧ written = UInt8.ofNat ops.length :: ops.flatMap BytecodeOp.code := by
  refine Reads.congr (u8_bind fun count => .refuse_bind _ <| (op_reads.repeated count.toNat).map _)
    fun program written => ⟨?_, ?_⟩
  · rintro ⟨count, rest, ⟨few, ops, ⟨counted, listed⟩, rfl⟩, rfl⟩
    obtain ⟨within, rfl⟩ := (listed_iff ops _).mp listed
    refine ⟨ops, by omega, within, rfl, ?_⟩
    rw [counted, UInt8.ofNat_toNat]
  · rintro ⟨ops, few, within, rfl, rfl⟩
    have counted : (UInt8.ofNat ops.length).toNat = ops.length :=
      UInt8.toNat_ofNat_of_lt' (Nat.lt_of_le_of_lt few (by decide))
    have limited : ¬maxOps < (UInt8.ofNat ops.length).toNat := by
      rw [counted, Nat.not_lt]
      exact few
    have listed := (listed_iff ops _).mpr ⟨within, rfl⟩
    exact ⟨_, _, ⟨limited, ops, ⟨counted.symm, listed⟩, rfl⟩, rfl⟩

/-- The three selectors are checked after the last of them is read. -/
theorem selectors_reads (make : UInt8 → UInt8 → UInt8 → List BytecodeOp → ScenarioBytecode) :
    Reads (do
      let boundary ← Reader.u8
      let interleaving ← Reader.u8
      let initialStable ← Reader.u8
      refuse (5 < initialStable) ⟨"invalid initial stable state"⟩
      refuse (16 ≤ boundary) ⟨"invalid failure boundary"⟩
      refuse (12 ≤ interleaving) ⟨"invalid interleaving"⟩
      let count ← Reader.u8
      refuse (maxOps < count.toNat) ⟨"operation count exceeds limit"⟩
      let ops ← Codecs.repeated Reader.op count.toNat
      return make boundary interleaving initialStable ops) fun program written =>
        ∃ boundary interleaving initialStable ops, (boundary < 16 ∧ interleaving < 12 ∧ initialStable ≤ 5) ∧
          (ops.length ≤ maxOps ∧ ∀ op ∈ ops, op.InRange) ∧ program = make boundary interleaving initialStable ops ∧
          written = boundary :: interleaving :: initialStable :: UInt8.ofNat ops.length ::
            ops.flatMap BytecodeOp.code := by
  refine Reads.congr (u8_bind fun _ => u8_bind fun _ => u8_bind fun _ => .refuse_bind _ <| .refuse_bind _ <|
    .refuse_bind _ <| counted_reads _) fun program written => ⟨?_, ?_⟩
  · rintro ⟨boundary, _, ⟨interleaving, _, ⟨initialStable, _, ⟨stable, bounded, interleaved, body⟩, rfl⟩, rfl⟩, rfl⟩
    obtain ⟨ops, few, within, rfl, rfl⟩ := body
    exact ⟨boundary, interleaving, initialStable, ops,
      ⟨UInt8.not_le.mp bounded, UInt8.not_le.mp interleaved, UInt8.not_lt.mp stable⟩, ⟨few, within⟩, rfl, rfl⟩
  · rintro ⟨boundary, interleaving, initialStable, ops, ⟨bounded, interleaved, stable⟩, ⟨few, within⟩, rfl, rfl⟩
    refine ⟨boundary, _, ⟨interleaving, _, ⟨initialStable, _, ⟨?_, ?_, ?_, ?_⟩, rfl⟩, rfl⟩, rfl⟩
    · exact UInt8.not_lt.mpr stable
    · exact UInt8.not_le.mpr bounded
    · exact UInt8.not_le.mpr interleaved
    · exact ⟨ops, few, within, rfl, rfl⟩

theorem read_reads : Reads ScenarioBytecode.read fun program written =>
    program.InRange ∧ written = program.code := by
  unfold ScenarioBytecode.read
  refine Reads.congr ((Reads.take _ 4).bind fun _ => .refuse_bind _ <| u8_bind fun _ => .refuse_bind _ <|
    u8_bind fun byte => (mode_reads byte).bind fun _ => u64_reads.bind fun _ => selectors_reads _)
    fun program written => ⟨?_, ?_⟩
  · rintro ⟨magic, _, _, ⟨rfl, four⟩, ⟨magical, version, _, ⟨versioned, byte, _, moded, rfl⟩, rfl⟩, rfl⟩
    obtain ⟨mode, _, _, ⟨rfl, rfl⟩, ⟨seed, _, _, rfl, selected, rfl⟩, rfl⟩ := moded
    obtain ⟨boundary, interleaving, initialStable, ops, ⟨bounded, interleaved, stable⟩, ⟨few, within⟩, rfl, rfl⟩ :=
      selected
    have magic : magic = bytecodeMagic := not_not.mp magical
    have version : version = bytecodeVersion := not_not.mp versioned
    subst magic version
    exact ⟨⟨few, bounded, interleaved, stable, within⟩, by simp [ScenarioBytecode.code, ScenarioBytecode.header]⟩
  · rintro ⟨within, rfl⟩
    obtain ⟨mode, seed, boundary, interleaving, initialStable, ops⟩ := program
    have selected : ∃ b i s o, (b < 16 ∧ i < 12 ∧ s ≤ 5) ∧ (List.length o ≤ maxOps ∧ ∀ op ∈ o, BytecodeOp.InRange op) ∧
        (⟨mode, seed, boundary, interleaving, initialStable, ops⟩ : ScenarioBytecode) = ⟨mode, seed, b, i, s, o⟩ ∧
        boundary :: interleaving :: initialStable :: UInt8.ofNat ops.length :: ops.flatMap BytecodeOp.code =
          b :: i :: s :: UInt8.ofNat o.length :: o.flatMap BytecodeOp.code :=
      ⟨boundary, interleaving, initialStable, ops, ⟨within.boundary, within.interleaving, within.initialStable⟩,
        ⟨within.count, within.ops⟩, rfl, rfl⟩
    exact ⟨bytecodeMagic, bytecodeMagic, _, ⟨rfl, rfl⟩, ⟨not_not_intro rfl, bytecodeVersion, _,
      ⟨not_not_intro rfl, mode.toByte, _, ⟨mode, [], _, ⟨rfl, rfl⟩, ⟨seed, _, _, rfl, selected, rfl⟩, rfl⟩,
        rfl⟩, rfl⟩, rfl⟩

theorem decode_ok (program : ScenarioBytecode) (bytes : Bytes) :
    ScenarioBytecode.decode bytes = .ok program ↔ program.InRange ∧ bytes = program.code := by
  unfold ScenarioBytecode.decode
  by_cases long : maxInputBytes < bytes.length
  · rw [if_pos long]
    refine iff_of_false nofun ?_
    rintro ⟨within, rfl⟩
    have size := ScenarioBytecode.code_length within.count
    omega
  rw [if_neg long]
  constructor
  · intro ran
    cases read : ScenarioBytecode.read bytes with
    | error error =>
      rw [read] at ran
      cases ran
    | ok ended =>
      obtain ⟨written, ⟨within, rfl⟩, rfl⟩ := (read_reads bytes ended.1 ended.2).mp read
      rw [read] at ran
      change (if ended.2.length ≠ 0 then _ else _) = _ at ran
      by_cases trailing : ended.2.length = 0
      · rw [if_neg (not_not_intro trailing)] at ran
        cases ran
        rw [List.length_eq_zero_iff.mp trailing, List.append_nil]
        exact ⟨within, rfl⟩
      · rw [if_pos trailing] at ran
        cases ran
  · rintro ⟨within, rfl⟩
    have read := (read_reads program.code program []).mpr ⟨_, ⟨within, rfl⟩, (List.append_nil _).symm⟩
    rw [read]
    rfl

/-- The codec is a bijection between the programs whose fields are in range and the accepted bytes. -/
theorem codec_bijective :
    (∀ program bytes, ScenarioBytecode.encode program = .ok bytes ↔ ScenarioBytecode.decode bytes = .ok program) ∧
      (∀ program : ScenarioBytecode, (∃ error, program.encode = .error error) ↔ ¬program.InRange) ∧
      ∀ program : ScenarioBytecode, (∃ bytes, ScenarioBytecode.decode bytes = .ok program) ↔ program.InRange := by
  refine ⟨?_, ?_, ?_⟩
  · intro program bytes
    rw [encode_ok, decode_ok]
  · intro program
    have encoded : (∃ bytes, program.encode = .ok bytes) ↔ program.InRange := by
      simp only [encode_ok, exists_and_left, exists_eq, and_true]
    rw [← encoded]
    cases program.encode <;> simp
  · intro program
    simp only [decode_ok, exists_and_left, exists_eq, and_true]

-- The canonical trace `shared-session-signal-gone`, without its seed.
example : ScenarioBytecode.decode [0x44, 0x4c, 0x46, 0x31, 1, 0, 0, 0, 0, 0, 0, 0, 0, 0, 0, 0, 2, 6, 0, 3, 1,
  2, 0, 3, 0, 1,
    5, 0, 0, 1, 0x0b, 3] = .ok ⟨.reducer, 0, 0, 0, 2, [.intent 3, .barrier, .acquire 0, .identity 0 true, .signal 0 0 1,
      .terminal 3]⟩ := by
  decide +kernel

end Darling.Fuzz
