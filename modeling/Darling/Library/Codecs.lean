import Mathlib.Algebra.GroupWithZero.Nat
import Mathlib.Data.List.Basic

/-! Readers that take a value off the front of a byte string, and the written forms they accept. -/
namespace Darling.Codecs

abbrev Bytes := List UInt8

/-- A reader holds what is left of the input. -/
abbrev Reader (ε α : Type) := StateT Bytes (Except ε) α

variable {ε α β : Type}

def take (error : ε) (length : Nat) : Reader ε Bytes := fun input =>
  if input.length < length then .error error else .ok (input.take length, input.drop length)

def refuse (condition : Prop) [Decidable condition] (error : ε) : Reader ε Unit :=
  if condition then throw error else return ()

def repeated (reader : Reader ε α) : Nat → Reader ε (List α)
  | 0 => return []
  | count + 1 => do
    let first ← reader
    let rest ← repeated reader count
    return first :: rest

/-- The reader accepts exactly the inputs that start with a written form of a value, and leaves the rest. -/
def Reads (reader : Reader ε α) (Written : α → Bytes → Prop) : Prop :=
  ∀ input value rest,
    reader input = .ok (value, rest) ↔ ∃ written, Written value written ∧ input = written ++ rest

namespace Reads

variable {reader : Reader ε α} {Written Other : α → Bytes → Prop}

theorem congr (reads : Reads reader Written) (same : ∀ value written, Written value written ↔ Other value written) :
    Reads reader Other := by
  intro input value rest
  rw [reads input value rest]
  constructor
  · rintro ⟨written, form, rfl⟩
    exact ⟨written, (same value written).mp form, rfl⟩
  · rintro ⟨written, form, rfl⟩
    exact ⟨written, (same value written).mpr form, rfl⟩

theorem pure (value : α) :
    Reads (pure value : Reader ε α) fun read written => read = value ∧ written = [] := by
  intro input read rest
  constructor
  · intro ran
    cases ran
    exact ⟨[], ⟨rfl, rfl⟩, rfl⟩
  · rintro ⟨written, ⟨rfl, rfl⟩, rfl⟩
    rfl

theorem fail (error : ε) : Reads (throw error : Reader ε α) fun _ _ => False := by
  intro input read rest
  constructor
  · intro ran
    cases ran
  · rintro ⟨written, impossible, -⟩
    exact impossible.elim

theorem bind {next : α → Reader ε β} {Then : α → β → Bytes → Prop} (reads : Reads reader Written)
    (after : ∀ value, Reads (next value) (Then value)) :
    Reads (reader >>= next) fun read written =>
      ∃ value front back, Written value front ∧ Then value read back ∧ written = front ++ back := by
  intro input read rest
  have run : (reader >>= next) input = (reader input >>= fun ended => next ended.1 ended.2) := rfl
  rw [run]
  constructor
  · intro ran
    cases first : reader input with
    | error error =>
      rw [first] at ran
      cases ran
    | ok ended =>
      rw [first] at ran
      obtain ⟨front, form, rfl⟩ := (reads input ended.1 ended.2).mp first
      obtain ⟨back, formBack, left⟩ := (after ended.1 ended.2 read rest).mp ran
      refine ⟨front ++ back, ⟨ended.1, front, back, form, formBack, rfl⟩, ?_⟩
      rw [left, List.append_assoc]
  · rintro ⟨written, ⟨value, front, back, form, formBack, rfl⟩, rfl⟩
    have first : reader (front ++ back ++ rest) = .ok (value, back ++ rest) := by
      rw [List.append_assoc]
      exact (reads _ value (back ++ rest)).mpr ⟨front, form, rfl⟩
    rw [first]
    exact (after value _ read rest).mpr ⟨back, formBack, rfl⟩

theorem map (reads : Reads reader Written) (make : α → β) :
    Reads (reader >>= fun value => Pure.pure (make value)) fun read written =>
      ∃ value, Written value written ∧ read = make value := by
  refine (reads.bind fun _ => pure _).congr fun read written => ⟨?_, ?_⟩
  · rintro ⟨value, front, back, form, ⟨rfl, rfl⟩, rfl⟩
    exact ⟨value, (List.append_nil front).symm ▸ form, rfl⟩
  · rintro ⟨value, form, rfl⟩
    exact ⟨value, written, [], form, ⟨rfl, rfl⟩, (List.append_nil written).symm⟩

theorem refuse {condition : Prop} [Decidable condition] (error : ε) :
    Reads (Codecs.refuse condition error) fun _ written => ¬condition ∧ written = [] := by
  unfold Codecs.refuse
  by_cases refused : condition
  · rw [if_pos refused]
    exact (fail error).congr fun _ _ => ⟨False.elim, fun form => form.1 refused⟩
  · rw [if_neg refused]
    exact (pure ()).congr fun _ _ => ⟨fun form => ⟨refused, form.2⟩, fun form => ⟨rfl, form.2⟩⟩

theorem refuse_bind {condition : Prop} [Decidable condition] (error : ε) {next : Unit → Reader ε α}
    (after : Reads (next ()) Written) :
    Reads (Codecs.refuse condition error >>= next) fun read written => ¬condition ∧ Written read written := by
  refine ((refuse error).bind fun _ => after).congr fun read written => ⟨?_, ?_⟩
  · rintro ⟨none, front, back, ⟨passed, rfl⟩, form, rfl⟩
    exact ⟨passed, form⟩
  · rintro ⟨passed, form⟩
    exact ⟨(), [], written, ⟨passed, rfl⟩, form, rfl⟩

theorem take (error : ε) (length : Nat) :
    Reads (Codecs.take error length) fun value written => value = written ∧ written.length = length := by
  intro input value rest
  unfold Codecs.take
  constructor
  · intro ran
    split at ran
    · cases ran
    · rename_i long
      obtain ⟨rfl, rfl⟩ := Prod.mk.inj (Except.ok.inj ran)
      refine ⟨input.take length, ⟨rfl, ?_⟩, (List.take_append_drop length input).symm⟩
      simp only [List.length_take]
      omega
  · rintro ⟨written, ⟨rfl, sized⟩, rfl⟩
    have long : ¬(value ++ rest).length < length := by
      simp only [List.length_append]
      omega
    rw [if_neg long, ← sized, List.take_left, List.drop_left]

/-- The written forms of a list of values, one after the other. -/
inductive Listed (Written : α → Bytes → Prop) : List α → Bytes → Prop where
  | nil : Listed Written [] []
  | cons (form : Written value front) (rest : Listed Written values back) :
      Listed Written (value :: values) (front ++ back)

theorem repeated (reads : Reads reader Written) (count : Nat) :
    Reads (Codecs.repeated reader count) fun values written =>
      values.length = count ∧ Listed Written values written := by
  induction count with
  | zero =>
    refine (pure []).congr fun values written => ⟨?_, ?_⟩
    · rintro ⟨rfl, rfl⟩
      exact ⟨rfl, .nil⟩
    · rintro ⟨sized, listed⟩
      cases listed with
      | nil => exact ⟨rfl, rfl⟩
      | cons form rest => simp at sized
  | succ count induction =>
    refine (reads.bind fun _ => induction.bind fun _ => pure _).congr fun values written => ⟨?_, ?_⟩
    · rintro ⟨value, front, back, form, ⟨tail, middle, none, ⟨sized, listed⟩, ⟨rfl, rfl⟩, rfl⟩, rfl⟩
      simp only [List.append_nil, List.length_cons, sized, true_and]
      exact .cons form listed
    · rintro ⟨sized, listed⟩
      cases listed with
      | nil => simp at sized
      | cons form rest =>
        refine ⟨_, _, _, form, ⟨_, _, [], ⟨?_, rest⟩, ⟨rfl, rfl⟩, (List.append_nil _).symm⟩, rfl⟩
        simp only [List.length_cons] at sized
        omega

end Reads

/-! Numbers in little-endian order. -/

def toLeBytes : Nat → Nat → Bytes
  | 0, _ => []
  | width + 1, number => UInt8.ofNat number :: toLeBytes width (number / 256)

def fromLeBytes : Bytes → Nat
  | [] => 0
  | byte :: rest => byte.toNat + 256 * fromLeBytes rest

@[simp] theorem toLeBytes_length (width number : Nat) : (toLeBytes width number).length = width := by
  induction width generalizing number with
  | zero => rfl
  | succ width induction => simp [toLeBytes, induction]

theorem fromLeBytes_lt (bytes : Bytes) : fromLeBytes bytes < 256 ^ bytes.length := by
  induction bytes with
  | nil => simp [fromLeBytes]
  | cons byte rest induction =>
    have bound := byte.toNat_lt
    simp only [fromLeBytes, List.length_cons, Nat.pow_succ]
    omega

theorem fromLeBytes_append (low high : Bytes) :
    fromLeBytes (low ++ high) = fromLeBytes low + 256 ^ low.length * fromLeBytes high := by
  induction low with
  | nil => simp [fromLeBytes]
  | cons byte rest induction =>
    rw [List.cons_append, fromLeBytes, fromLeBytes, induction, List.length_cons, Nat.pow_succ, Nat.mul_add,
      Nat.add_assoc,
      ← Nat.mul_assoc, Nat.mul_comm 256 (256 ^ rest.length)]

theorem fromLeBytes_toLeBytes (width number : Nat) (bound : number < 256 ^ width) :
    fromLeBytes (toLeBytes width number) = number := by
  induction width generalizing number with
  | zero =>
    simp only [Nat.pow_zero] at bound
    simp only [toLeBytes, fromLeBytes]
    omega
  | succ width induction =>
    have smaller : number / 256 < 256 ^ width := by
      rw [Nat.pow_succ] at bound
      omega
    simp only [toLeBytes, fromLeBytes, induction _ smaller, UInt8.toNat_ofNat']
    omega

theorem toLeBytes_fromLeBytes (bytes : Bytes) : toLeBytes bytes.length (fromLeBytes bytes) = bytes := by
  induction bytes with
  | nil => rfl
  | cons byte rest induction =>
    have bound := byte.toNat_lt
    have head : UInt8.ofNat (byte.toNat + 256 * fromLeBytes rest) = byte := by
      apply UInt8.toNat_inj.mp
      simp only [UInt8.toNat_ofNat']
      omega
    have tail : (byte.toNat + 256 * fromLeBytes rest) / 256 = fromLeBytes rest := by omega
    simp only [fromLeBytes, List.length_cons, toLeBytes, head, tail, induction]

end Darling.Codecs
