import Mathlib.Data.Fintype.Pi
import Mathlib.Data.List.FinRange
import Mathlib.Data.List.Induction
import Mathlib.Logic.Function.Basic

/-! The process-global lane directory: one record per host thread, in a table with open addressing whose records are
freed in place. -/
namespace Darling.Ring

section Code

inductive RecordState where
  | free
  | attaching
  | active
  deriving DecidableEq, Repr

/-- `struct gr_proc_lane_rec`. -/
structure LaneRecord where
  hostTid : Int32 := 0
  state : RecordState := .free
  generation : UInt32 := 0
  slotIndex : UInt32 := 0
  ownerImage : Int32 := 0
  mapping : UInt64 := 0
  mappingSize : UInt64 := 0
  nextSeq : UInt32 := 0
  creatorImage : UInt32 := 0
  deriving DecidableEq, Repr

/-- The records that the loader hands out; there are none without a directory. -/
abbrev Directory (n : Nat) := Fin n → LaneRecord

variable {n : Nat}

def procHash (tid : Int32) (slots : Nat) : Nat := (tid.toUInt32 * 2654435761).toNat % slots

/-- The record that the search for a thread meets in its place `i`. -/
def probe (tid : Int32) (i : Fin n) : Fin n := ⟨(procHash tid n + i) % n, Nat.mod_lt _ i.pos⟩

/-- The records in the order in which a round of the search meets them. -/
def order (n : Nat) (tid : Int32) : List (Fin n) := (List.finRange n).map (probe tid)

/-- The record is an incarnation of the thread that other images may use. -/
def Owns (record : LaneRecord) (tid : Int32) : Prop := record.state = .active ∧ record.hostTid = tid

instance (record : LaneRecord) (tid : Int32) : Decidable (Owns record tid) := inferInstanceAs (Decidable (_ ∧ _))

def procFindActive (d : Directory n) (tid : Int32) : Option (Fin n) := (order n tid).find? fun i => Owns (d i) tid

/-- The loop of `gr_proc_begin`: the first free record, unless an active one of the thread comes before it. -/
def search (d : Directory n) (tid : Int32) : List (Fin n) → Option (Fin n)
  | [] => none
  | i :: rest => if (d i).state = .free then some i else if Owns (d i) tid then none else search d tid rest

/-- `gr_proc_begin`, with its two rounds. -/
def procBegin (d : Directory n) (tid : Int32) : Option (Fin n) × Directory n :=
  match search d tid (order n tid ++ order n tid) with
  | some i => (some i, Function.update d i { d i with state := .attaching, hostTid := tid })
  | none => (none, d)

/-- What `gr_proc_publish` is given besides the record, with the image that calls it. -/
structure Published where
  generation : UInt64
  mapping : UInt64
  size : UInt64
  slot : UInt32
  image : Int32

def procPublish (d : Directory n) (r : Option (Fin n)) (lane : Published) : Directory n :=
  match r with
  | none => d
  | some i =>
    Function.update d i
      { d i with
        generation := lane.generation.toUInt32, slotIndex := lane.slot, ownerImage := lane.image
        mapping := lane.mapping, mappingSize := lane.size, nextSeq := 1, creatorImage := lane.image.toUInt32
        state := .active }

def procAbandon (d : Directory n) (r : Option (Fin n)) : Directory n :=
  match r with
  | none => d
  | some i => Function.update d i { d i with hostTid := 0, mapping := 0, mappingSize := 0, state := .free }

def procUnpublish (d : Directory n) (tid : Int32) : Directory n := procAbandon d (procFindActive d tid)

end Code

section Runs

inductive Call (n : Nat) where
  | procBegin (tid : Int32)
  | procPublish (r : Option (Fin n)) (lane : Published)
  | procAbandon (r : Option (Fin n))
  | procUnpublish (tid : Int32)

variable {n : Nat}

def Call.apply (d : Directory n) : Call n → Directory n
  | .procBegin tid => (Ring.procBegin d tid).2
  | .procPublish r lane => Ring.procPublish d r lane
  | .procAbandon r => Ring.procAbandon d r
  | .procUnpublish tid => Ring.procUnpublish d tid

def emptyDirectory (n : Nat) : Directory n := fun _ => {}

/-- The directory behind the calls. -/
def behind (calls : List (Call n)) : Directory n := calls.foldl Call.apply (emptyDirectory n)

/-- What the callers keep to: the record that is published was begun and has not been abandoned. -/
def Call.Proper (d : Directory n) : Call n → Prop
  | .procPublish (some i) _ => (d i).state ≠ .free
  | _ => True

/-- The record is ATTACHING or ACTIVE for the thread. -/
def Incarnates (record : LaneRecord) (tid : Int32) : Prop := record.state ≠ .free ∧ record.hostTid = tid

instance (record : LaneRecord) (tid : Int32) : Decidable (Incarnates record tid) := inferInstanceAs (Decidable (_ ∧ _))

/-- No thread has two incarnations. -/
def OneEach (d : Directory n) : Prop :=
  ∀ i j tid, Incarnates (d i) tid → Incarnates (d j) tid → i = j

/-- No record is free, or an active record of the thread comes before every free one in the order of the search. -/
def Blocked (d : Directory n) (tid : Int32) : Prop :=
  (∀ i, (d i).state ≠ .free) ∨
    ∃ seen k unseen, order n tid = seen ++ k :: unseen ∧ Owns (d k) tid ∧ ∀ j ∈ seen, (d j).state ≠ .free

end Runs

section Search

variable {n : Nat} (d : Directory n) (tid : Int32)

/-- The record ends the search. -/
def Decides (d : Directory n) (tid : Int32) (i : Fin n) : Prop := (d i).state = .free ∨ Owns (d i) tid

instance (i : Fin n) : Decidable (Decides d tid i) := inferInstanceAs (Decidable (_ ∨ _))

theorem search_eq (places : List (Fin n)) :
    search d tid places = (places.find? (Decides d tid ·)).filter fun i => (d i).state = .free := by
  induction places with
  | nil => rfl
  | cons i rest ih =>
    rw [search, List.find?_cons]
    by_cases free : (d i).state = .free
    · simp [Decides, free, Option.filter_some]
    · by_cases own : Owns (d i) tid
      · simp [Decides, free, own, Option.filter_some]
      · simp [Decides, free, own, ih]

/-- The second round meets what the first one met. -/
theorem search_rounds : search d tid (order n tid ++ order n tid) = search d tid (order n tid) := by
  rw [search_eq, search_eq, List.find?_append, Option.or_self]

theorem mem_order (k : Fin n) : k ∈ order n tid := by
  have small : procHash tid n < n := Nat.mod_lt _ k.pos
  obtain ⟨k, bound⟩ := k
  rw [order, List.mem_map]
  rcases Nat.lt_or_ge k (procHash tid n) with wraps | plain
  · refine ⟨⟨k + n - procHash tid n, by omega⟩, List.mem_finRange _, Fin.ext ?_⟩
    have place : procHash tid n + (k + n - procHash tid n) = k + n := by omega
    simp only [probe, place, Nat.add_mod_right, Nat.mod_eq_of_lt bound]
  · refine ⟨⟨k - procHash tid n, by omega⟩, List.mem_finRange _, Fin.ext ?_⟩
    have place : procHash tid n + (k - procHash tid n) = k := by omega
    simp only [probe, place, Nat.mod_eq_of_lt bound]

theorem search_none_iff : search d tid (order n tid) = none ↔ Blocked d tid := by
  rw [search_eq, Option.filter_eq_none_iff]
  constructor
  · intro none
    cases first : (order n tid).find? (Decides d tid ·) with
    | none =>
      refine .inl fun i free => ?_
      have undecided := List.find?_eq_none.mp first i (mem_order tid i)
      exact undecided (decide_eq_true (.inl free))
    | some k =>
      obtain ⟨decides, seen, unseen, split, before⟩ := List.find?_eq_some_iff_append.mp first
      have taken : ¬ (d k).state = .free := fun free => none k first (decide_eq_true free)
      refine .inr ⟨seen, k, unseen, split, (of_decide_eq_true decides).resolve_left taken, fun j earlier free => ?_⟩
      simpa [Decides, free] using before j earlier
  · rintro (full | ⟨seen, k, unseen, split, owns, before⟩) i first free
    · exact full i (of_decide_eq_true free)
    · rw [split, List.find?_append, List.find?_cons_of_pos (by simp [Decides, owns])] at first
      cases earlier : seen.find? (Decides d tid ·) with
      | none =>
        rw [earlier, Option.none_or] at first
        cases first
        exact absurd (owns.1.symm.trans (of_decide_eq_true free)) (by decide)
      | some j =>
        rw [earlier, Option.some_or] at first
        cases first
        exact before _ (List.mem_of_find?_eq_some earlier) (of_decide_eq_true free)

theorem procBegin_none_iff : (procBegin d tid).1 = none ↔ Blocked d tid := by
  rw [← search_none_iff, ← search_rounds]
  unfold procBegin
  split
  next found => simp [found]
  next missed => simp [missed]

end Search

section Steps

variable {n : Nat} {d : Directory n}

theorem incarnates_update {i j : Fin n} {record : LaneRecord} {tid : Int32} (other : j ≠ i) :
    Incarnates (Function.update d i record j) tid ↔ Incarnates (d j) tid := by
  rw [Function.update_of_ne other]

/-- A record changes in place and takes no thread that another one has. -/
theorem OneEach.update (unique : OneEach d) {i : Fin n} {record : LaneRecord}
    (new : ∀ tid, Incarnates record tid → ∀ j, j ≠ i → ¬ Incarnates (d j) tid) :
    OneEach (Function.update d i record) := by
  intro j k tid first second
  by_cases left : j = i
  · subst left
    rw [Function.update_self] at first
    by_contra apart
    have other : k ≠ j := fun same => apart same.symm
    exact new tid first k other ((incarnates_update other).mp second)
  · rw [incarnates_update left] at first
    by_cases right : k = i
    · subst right
      rw [Function.update_self] at second
      exact absurd first (new tid second j left)
    · exact unique j k tid first ((incarnates_update right).mp second)

theorem OneEach.procAbandon (unique : OneEach d) (r : Option (Fin n)) : OneEach (procAbandon d r) := by
  cases r with
  | none => exact unique
  | some i => exact unique.update fun tid taken => absurd rfl taken.1

theorem OneEach.procPublish (unique : OneEach d) {r : Option (Fin n)} {lane : Published}
    (proper : (Call.procPublish r lane).Proper d) : OneEach (procPublish d r lane) := by
  cases r with
  | none => exact unique
  | some i =>
    refine unique.update fun tid taken j other incarnates => other ?_
    exact unique j i tid incarnates ⟨proper, taken.2⟩

theorem OneEach.procBegin (unique : OneEach d) {tid : Int32} (guarded : (∃ i, Incarnates (d i) tid) → Blocked d tid) :
    OneEach (procBegin d tid).2 := by
  by_cases incarnated : ∃ i, Incarnates (d i) tid
  · have none := (procBegin_none_iff d tid).mpr (guarded incarnated)
    unfold Ring.procBegin at none ⊢
    split
    next found => simp [found] at none
    next => exact unique
  · unfold Ring.procBegin
    split
    next i found =>
      refine unique.update fun thread taken j _ incarnates => incarnated ⟨j, ?_⟩
      rw [← taken.2] at incarnates
      exact incarnates
    next => exact unique

theorem OneEach.apply (unique : OneEach d) {call : Call n} (proper : call.Proper d)
    (guarded : ∀ tid, call = .procBegin tid → (∃ i, Incarnates (d i) tid) → Blocked d tid) :
    OneEach (call.apply d) := by
  cases call with
  | procBegin tid => exact unique.procBegin (guarded tid rfl)
  | procPublish r lane => exact unique.procPublish proper
  | procAbandon r => exact unique.procAbandon r
  | procUnpublish tid => exact unique.procAbandon _

end Steps

section Results

variable {n : Nat}

theorem behind_concat (calls : List (Call n)) (call : Call n) :
    behind (calls ++ [call]) = call.apply (behind calls) := by
  rw [behind, List.foldl_concat, behind]

/-- Along a run of proper calls no thread ever has two incarnations, and none is begun for a thread that has one,
exactly when each search for a thread that has one meets no free record, or an active record of the thread before
it. -/
theorem incarnations_unique_iff (calls : List (Call n))
    (proper : ∀ before call, before ++ [call] <+: calls → call.Proper (behind before)) :
    ((∀ before, before <+: calls → OneEach (behind before)) ∧
      ∀ before tid, before ++ [.procBegin tid] <+: calls → (∃ i, Incarnates (behind before i) tid) →
        (procBegin (behind before) tid).1 = none) ↔
      ∀ before tid, before ++ [.procBegin tid] <+: calls → (∃ i, Incarnates (behind before i) tid) →
        Blocked (behind before) tid := by
  constructor
  · intro holds before tid made incarnated
    exact (procBegin_none_iff _ tid).mp (holds.2 before tid made incarnated)
  · intro guarded
    refine ⟨fun before part => ?_, fun before tid made incarnated =>
      (procBegin_none_iff _ tid).mpr (guarded before tid made incarnated)⟩
    induction before using List.reverseRecOn with
    | nil => exact fun i j tid taken => absurd rfl taken.1
    | append_singleton before call ih =>
      rw [behind_concat]
      refine (ih ((List.prefix_append _ _).trans part)).apply (proper before call part) ?_
      rintro tid rfl
      exact guarded before tid part

/-- Two images begin the incarnation of one thread, one while the other is attaching. -/
def raced : List (Call 2) := [.procBegin 7, .procBegin 7]

/-- Both are given a record. -/
theorem raced_twice : ¬ ((∀ before, before <+: raced → OneEach (behind before)) ∧
    ∀ before tid, before ++ [.procBegin tid] <+: raced → (∃ i, Incarnates (behind before i) tid) →
      (procBegin (behind before) tid).1 = none) := by
  intro holds
  have unique := holds.1 raced (List.prefix_refl _)
  exact absurd (unique 0 1 7 (by decide) (by decide)) (by decide)

/-- The second image comes behind the publication, and is refused. -/
def yielded : List (Call 2) := [.procBegin 7, .procPublish (some 1) ⟨1, 4096, 128, 0, 1⟩, .procBegin 7]

theorem yielded_unique :
    (∀ before call, before ++ [call] <+: yielded → call.Proper (behind before)) ∧
      ∀ before, before <+: yielded → OneEach (behind before) := by
  have splits (before : List (Call 2)) (call : Call 2) (part : before ++ [call] <+: yielded) :
      (before = [] ∧ call = .procBegin 7) ∨ (before = yielded.take 1 ∧
        call = .procPublish (some 1) ⟨1, 4096, 128, 0, 1⟩) ∨
        (before = yielded.take 2 ∧ call = .procBegin 7) := by
    obtain ⟨rest, split⟩ := part
    match before with
    | [] | [_] | [_, _] => simp_all [yielded]
    | _ :: _ :: _ :: more => simp [yielded] at split
  have proper (before : List (Call 2)) (call : Call 2) (part : before ++ [call] <+: yielded) :
      call.Proper (behind before) := by
    rcases splits before call part with ⟨rfl, rfl⟩ | ⟨rfl, rfl⟩ | ⟨rfl, rfl⟩
    · trivial
    · show (behind (yielded.take 1) 1).state ≠ .free
      decide
    · trivial
  refine ⟨proper, ((incarnations_unique_iff yielded proper).mpr ?_).1⟩
  intro before tid part incarnated
  rcases splits before _ part with ⟨rfl, same⟩ | ⟨-, same⟩ | ⟨rfl, same⟩
  · obtain ⟨i, taken⟩ := incarnated
    exact absurd rfl taken.1
  · cases same
  · cases same
    exact .inr ⟨[], 1, [0], by decide, by decide, by decide⟩

end Results

end Darling.Ring
