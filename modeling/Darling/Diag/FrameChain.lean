import Darling.Diag.CoreNotes

/-! `core_fp_chain`: the callers of a thread, read from the memory that a core carries. Sums of addresses wrap, as
in the release build. -/
namespace Darling.Cores

open Codecs (Bytes fromLeBytes)
open Diag (Text)
open Layouts (slice)
open Panics (Buffer)

structure LoadSeg where
  vaddr : UInt64
  memsz : UInt64
  fileOff : UInt64
  filesz : UInt64
  deriving DecidableEq

/-- The parts of a core that the walk reads; the maps are in bytes. -/
structure CoreFile where
  file : Buffer
  loads : List LoadSeg
  maps : List CoreMap

/-- Why memory could not be read. -/
inductive ReadError where
  | inNoLoad (vaddr : UInt64)
  | notCarried (vaddr filesz memsz : UInt64)
  | file (off : UInt64)
  deriving DecidableEq

structure Resolved where
  base : Nat
  name : Text
  host : Text
  existing : Bool
  fileOff : Nat
  deriving DecidableEq

structure CoreFrame where
  fp : UInt64
  ret : UInt64
  image : Option Resolved
  deriving DecidableEq

/-- Why the walk ended. -/
inductive Stop where
  | rbpZero
  | rbpMisaligned (rbp : UInt64)
  | cap (max : Nat)
  | framePointerUnreadable (fp : UInt64) (error : ReadError)
  | returnAddressUnreadable (address : UInt64) (error : ReadError)
  | noImage (ret : UInt64)
  | outermost
  | notAscending (next fp : UInt64)
  | belowRsp (fp rsp : UInt64)
  deriving DecidableEq

section Code

/-- `read_at`. -/
def readAt (file : Buffer) (off : UInt64) (n : Nat) : Except ReadError Bytes :=
  if off.toNat + n ≤ file.bytes.length then .ok (slice file.bytes off.toNat (off.toNat + n)) else .error (.file off)

def LoadSeg.covers (vaddr n : UInt64) (l : LoadSeg) : Bool := l.vaddr ≤ vaddr && vaddr + n ≤ l.vaddr + l.memsz

variable (c : CoreFile)

def readMem (vaddr n : UInt64) : Except ReadError Bytes :=
  match c.loads.find? (LoadSeg.covers vaddr n) with
  | none => .error (.inNoLoad vaddr)
  | some seg =>
    let delta := vaddr - seg.vaddr
    if seg.filesz < delta + n then .error (.notCarried vaddr seg.filesz seg.memsz)
    else readAt c.file (seg.fileOff + delta) n.toNat

def readU64 (vaddr : UInt64) : Except ReadError UInt64 :=
  (readMem c vaddr 8).map fun bytes => UInt64.ofNat (fromLeBytes bytes)

/-- `resolve_in_core`. -/
def resolveInCore (maps : List CoreMap) (addr : UInt64) : Option (Nat × Nat × Text) :=
  (maps.find? fun m => m.start ≤ addr.toNat && addr.toNat < m.stop).map fun m =>
    (m.start, (m.offset + (addr.toNat - m.start)) % 2 ^ 64, m.path)

/-- `CoreFile::resolve`; the path on the host depends on the files there. -/
def resolve (guestPathToHost : Text → Option Text) (addr : UInt64) : Option Resolved :=
  (resolveInCore c.maps addr).map fun (base, fileOff, name) =>
    { base, name, host := (guestPathToHost name).getD name, existing := (guestPathToHost name).isSome, fileOff }

variable (guestPathToHost : Text → Option Text) (rsp : UInt64) (max : Nat)

/-- The loop of `core_fp_chain` with so many frames left to the cap. -/
def walkFrames : Nat → List CoreFrame → UInt64 → List CoreFrame × Stop
  | 0, out, _ => (out, .cap max)
  | left + 1, out, fp =>
    match readU64 c fp with
    | .error e => (out, .framePointerUnreadable fp e)
    | .ok next =>
      match readU64 c (fp + 8) with
      | .error e => (out, .returnAddressUnreadable (fp + 8) e)
      | .ok ret =>
        let image := resolve c guestPathToHost ret
        let out := out ++ [⟨fp, ret, image⟩]
        if !image.isSome then (out, .noImage ret)
        else if next = 0 then (out, .outermost)
        else if next ≤ fp then (out, .notAscending next fp)
        else if out.length = 1 ∧ fp < rsp then (out, .belowRsp fp rsp)
        else walkFrames left out next

def coreFpChain (rbp : UInt64) : List CoreFrame × Stop :=
  if rbp = 0 then ([], .rbpZero)
  else if rbp % 8 ≠ 0 then ([], .rbpMisaligned rbp)
  else walkFrames c guestPathToHost rsp max max [] rbp

end Code

section Links

variable (c : CoreFile) (rsp : UInt64)

def Mapped (addr : UInt64) : Prop := ∃ m ∈ c.maps, m.start ≤ addr.toNat ∧ addr.toNat < m.stop

/-- The core carries the two words of the frame. -/
def Carried (fp : UInt64) : Prop := (∃ next, readU64 c fp = .ok next) ∧ ∃ ret, readU64 c (fp + 8) = .ok ret

/-- The frame behind so many others has a caller whose frame pointer is the second one. -/
structure Link (index : Nat) (fp next : UInt64) : Prop where
  saved : readU64 c fp = .ok next
  returns : ∃ ret, readU64 c (fp + 8) = .ok ret ∧ Mapped c ret
  above : fp < next
  innermost : index = 0 → rsp ≤ fp

/-- So many links lead from a frame pointer to another. -/
def Links : Nat → Nat → UInt64 → UInt64 → Prop
  | 0, _, fp, last => last = fp
  | count + 1, index, fp, last => ∃ next, Link c rsp index fp next ∧ Links count (index + 1) next last

variable (guestPathToHost : Text → Option Text)

theorem resolve_isSome {addr : UInt64} : (resolve c guestPathToHost addr).isSome ↔ Mapped c addr := by
  simp [resolve, resolveInCore, Mapped]

/-- One round of the loop, by what becomes of the frame. -/
inductive Round (fp : UInt64) (index : Nat) : Prop where
  | unread (missing : ¬Carried c fp) (stops : ∀ left max out, out.length = index →
      (walkFrames c guestPathToHost rsp max (left + 1) out fp).1 = out)
  | last (frame : CoreFrame) (named : frame.fp = fp) (carried : Carried c fp)
      (unlinked : ∀ next, ¬Link c rsp index fp next)
      (stops : ∀ left max out, out.length = index → (walkFrames c guestPathToHost rsp max (left + 1) out fp).1 =
        out ++ [frame])
  | linked (frame : CoreFrame) (next : UInt64) (named : frame.fp = fp) (returns : Mapped c frame.ret)
      (carried : Carried c fp)
      (link : Link c rsp index fp next) (goes : ∀ left max out, out.length = index →
        walkFrames c guestPathToHost rsp max (left + 1) out fp =
          walkFrames c guestPathToHost rsp max left (out ++ [frame]) next)

variable {c rsp}

theorem Link.saved_eq {index : Nat} {fp next word : UInt64} (link : Link c rsp index fp next)
    (saved : readU64 c fp = .ok word) :
    word = next := by
  rw [link.saved] at saved
  exact (Except.ok.inj saved).symm

theorem Link.mapped {index : Nat} {fp next ret : UInt64} (link : Link c rsp index fp next)
    (returned : readU64 c (fp + 8) = .ok ret) :
    Mapped c ret := by
  obtain ⟨_, same, inside⟩ := link.returns
  rw [returned] at same
  exact Except.ok.inj same ▸ inside

variable (c rsp)

theorem round (index : Nat) (fp : UInt64) : Round c rsp guestPathToHost fp index := by
  cases saved : readU64 c fp with
  | error e =>
    refine .unread (fun carried => ?_) fun left max out _ => by simp only [walkFrames, saved]
    obtain ⟨_, read⟩ := carried.1
    rw [saved] at read
    cases read
  | ok next =>
    cases returned : readU64 c (fp + 8) with
    | error e =>
      refine .unread (fun carried => ?_) fun left max out _ => by simp only [walkFrames, saved, returned]
      obtain ⟨_, read⟩ := carried.2
      rw [returned] at read
      cases read
    | ok ret =>
      have carried : Carried c fp := ⟨⟨next, saved⟩, ret, returned⟩
      have ends (unlinked : ∀ next, ¬Link c rsp index fp next)
          (stops : ∀ left max out, out.length = index → (walkFrames c guestPathToHost rsp max (left + 1) out fp).1 =
            out ++ [⟨fp, ret, resolve c guestPathToHost ret⟩]) : Round c rsp guestPathToHost fp index :=
        .last _ rfl carried unlinked stops
      by_cases inside : Mapped c ret
      swap
      · have noImage : (resolve c guestPathToHost ret).isSome = false := by
          rwa [← Bool.not_eq_true, resolve_isSome]
        exact ends (fun _ link => inside (link.mapped returned)) fun left max out _ => by
          simp only [walkFrames, saved, returned, noImage, Bool.not_false, if_true]
      have image : (resolve c guestPathToHost ret).isSome = true := (resolve_isSome c guestPathToHost).mpr inside
      by_cases above : fp < next
      swap
      · refine ends (fun _ link => above (link.saved_eq saved ▸ link.above)) fun left max out _ => ?_
        simp only [walkFrames, saved, returned, image, Bool.not_true, if_neg Bool.false_ne_true,
          if_pos (UInt64.not_lt.mp above)]
        split <;> rfl
      have nonzero : next ≠ 0 := by
        rintro rfl
        exact UInt64.not_lt_zero above
      by_cases own : index = 0 → rsp ≤ fp
      · refine .linked ⟨fp, ret, resolve c guestPathToHost ret⟩ next rfl inside carried ⟨saved,
          ⟨ret, returned, inside⟩, above, own⟩
          fun left max out length => ?_
        have higher : ¬((out ++ [CoreFrame.mk fp ret (resolve c guestPathToHost ret)]).length = 1 ∧ fp < rsp) := by
          rintro ⟨first, below⟩
          rw [List.length_append, List.length_singleton, length] at first
          exact UInt64.not_lt.mpr (own (by omega)) below
        simp only [walkFrames, saved, returned, image, Bool.not_true, if_neg Bool.false_ne_true, if_neg nonzero,
          if_neg (UInt64.not_le.mpr above), if_neg higher]
      · refine ends (fun _ link => own link.innermost) fun left max out length => ?_
        have below : (out ++ [CoreFrame.mk fp ret (resolve c guestPathToHost ret)]).length = 1 ∧ fp < rsp := by
          push Not at own
          rw [List.length_append, List.length_singleton, length, own.1]
          exact ⟨rfl, UInt64.not_le.mp own.2⟩
        simp only [walkFrames, saved, returned, image, Bool.not_true, if_neg Bool.false_ne_true, if_neg nonzero,
          if_neg (UInt64.not_le.mpr above), if_pos below]

end Links

section Walks

variable (c : CoreFile) (guestPathToHost : Text → Option Text) (rsp : UInt64)

/-- What the loop adds to the frames before it. -/
structure Added (left index : Nat) (fp : UInt64) (frames : List CoreFrame) : Prop where
  capped : frames.length ≤ left
  ascending : frames.Pairwise fun lower upper => lower.fp < upper.fp
  from_here : ∀ frame ∈ frames, fp ≤ frame.fp
  mapped : ∀ frame ∈ frames.dropLast, Mapped c frame.ret
  linked : ∀ last, (∃ frame ∈ frames, frame.fp = last) ↔ ∃ count < left, Links c rsp count index fp last ∧
    Carried c last

/-- By induction on the frames that are left to the cap. -/
theorem walkFrames_added (max left : Nat) (out : List CoreFrame) (fp : UInt64) :
    ∃ frames, (walkFrames c guestPathToHost rsp max left out fp).1 = out ++ frames ∧
      Added c rsp left out.length fp frames := by
  induction left generalizing out fp with
  | zero => exact ⟨[], (List.append_nil out).symm, by simp, .nil, by simp, by simp, by simp⟩
  | succ left ih =>
    cases round c rsp guestPathToHost out.length fp with
    | unread missing stops =>
      refine ⟨[], by rw [stops left max out rfl, List.append_nil], by simp, .nil, by simp, by simp, fun last => ?_⟩
      refine ⟨by simp, fun ⟨count, _, links, carried⟩ => ?_⟩
      cases count with
      | zero => exact absurd (show last = fp from links ▸ rfl) (fun same => missing (same ▸ carried))
      | succ count =>
        obtain ⟨next, link, _⟩ := links
        obtain ⟨ret, returned, _⟩ := link.returns
        exact absurd ⟨⟨next, link.saved⟩, ret, returned⟩ missing
    | last frame named carried unlinked stops =>
      refine ⟨[frame], stops left max out rfl, by simp, List.pairwise_singleton _ _, ?_, by simp, fun last => ?_⟩
      · rw [List.forall_mem_singleton, named]
        exact UInt64.le_refl fp
      · constructor
        · rintro ⟨_, listed, rfl⟩
          obtain rfl := List.mem_singleton.mp listed
          exact ⟨0, Nat.succ_pos left, named, named ▸ carried⟩
        · rintro ⟨count, _, links, _⟩
          cases count with
          | zero => exact ⟨frame, List.mem_singleton_self frame, named.trans (show last = fp from links).symm⟩
          | succ count =>
            obtain ⟨next, link, _⟩ := links
            exact absurd link (unlinked next)
    | linked frame next named returns carried link goes =>
      obtain ⟨frames, rest, added⟩ := ih (out ++ [frame]) next
      rw [List.length_append, List.length_singleton] at added
      have higher : ∀ later ∈ frames, frame.fp < later.fp := fun later listed => by
        rw [named]
        exact UInt64.lt_of_lt_of_le link.above (added.from_here later listed)
      refine ⟨frame :: frames, ?_, ?_, ?_, ?_, ?_, fun last => ?_⟩
      · rw [goes left max out rfl, rest, List.append_assoc, List.singleton_append]
      · exact Nat.succ_le_succ added.capped
      · exact List.pairwise_cons.mpr ⟨higher, added.ascending⟩
      · refine List.forall_mem_cons.mpr ⟨named ▸ UInt64.le_refl _, fun later listed => ?_⟩
        exact UInt64.le_of_lt (named ▸ higher later listed)
      · cases frames with
        | nil => simp
        | cons second frames =>
          rw [List.dropLast_cons_cons]
          exact List.forall_mem_cons.mpr ⟨returns, added.mapped⟩
      · rw [List.exists_mem_cons_iff, added.linked last]
        constructor
        · rintro (same | ⟨count, below, links, seen⟩)
          · subst same
            exact ⟨0, Nat.succ_pos left, named, named ▸ carried⟩
          · exact ⟨count + 1, Nat.succ_lt_succ below, ⟨next, link, links⟩, seen⟩
        · rintro ⟨count, below, links, seen⟩
          cases count with
          | zero => exact .inl (named.trans (show last = fp from links).symm)
          | succ count =>
            obtain ⟨other, otherLink, links⟩ := links
            obtain rfl := link.saved_eq otherLink.saved
            exact .inr ⟨count, Nat.lt_of_succ_lt_succ below, links, seen⟩

/-- Every frame that is reported is one. -/
structure Valid (max : Nat) (frames : List CoreFrame) : Prop where
  capped : frames.length ≤ max
  aligned : ∀ frame ∈ frames, frame.fp % 8 = 0
  ascending : frames.Pairwise fun lower upper => lower.fp < upper.fp
  mapped : ∀ frame ∈ frames.dropLast, Mapped c frame.ret

/-- Only `rbp` is tested for its alignment: the frames are valid exactly when the frame pointers that memory links
to it are all aligned. -/
theorem coreFpChain_valid (max : Nat) (rbp : UInt64) :
    Valid c max (coreFpChain c guestPathToHost rsp max rbp).1 ↔
      (rbp ≠ 0 → rbp % 8 = 0 → ∀ count < max, ∀ fp, Links c rsp count 0 rbp fp → Carried c fp → fp % 8 = 0) := by
  by_cases zero : rbp = 0
  · rw [coreFpChain, if_pos zero]
    exact ⟨fun _ nonzero => absurd zero nonzero, fun _ => ⟨by simp, by simp, .nil, by simp⟩⟩
  by_cases aligned : rbp % 8 = 0
  swap
  · rw [coreFpChain, if_neg zero, if_pos aligned]
    exact ⟨fun _ _ whole => absurd whole aligned, fun _ => ⟨by simp, by simp, .nil, by simp⟩⟩
  rw [coreFpChain, if_neg zero, if_neg (not_not.mpr aligned)]
  obtain ⟨frames, all, added⟩ := walkFrames_added c guestPathToHost rsp max max [] rbp
  rw [all, List.nil_append]
  rw [List.length_nil] at added
  constructor
  · intro valid _ _ count below fp links carried
    obtain ⟨frame, listed, rfl⟩ := (added.linked fp).mpr ⟨count, below, links, carried⟩
    exact valid.aligned frame listed
  · intro whole
    refine ⟨added.capped, fun frame listed => ?_, added.ascending, added.mapped⟩
    obtain ⟨count, below, links, carried⟩ := (added.linked frame.fp).mp ⟨frame, listed, rfl⟩
    exact whole zero aligned count below frame.fp links carried

/-- One segment at 0x1000 and one image there; the word at 0x1000 is 0x1009. -/
def skewed : CoreFile where
  file := ⟨[0x09, 0x10, 0, 0, 0, 0, 0, 0, 0, 0x10, 0, 0, 0, 0, 0, 0, 0, 0, 0, 0, 0, 0, 0, 0, 0], by decide⟩
  loads := [⟨0x1000, 25, 0, 25⟩]
  maps := [⟨0x1000, 0x2000, 0, "/usr/lib/dyld".toList⟩]

/-- The second frame pointer is odd. -/
theorem skewed_misaligned : ¬Valid skewed 16 (coreFpChain skewed (fun _ => none) 0x1000 16 0x1000).1 := by
  intro valid
  have listed : ⟨0x1009, 0, none⟩ ∈ (coreFpChain skewed (fun _ => none) 0x1000 16 0x1000).1 := by decide +kernel
  exact absurd (valid.aligned _ listed) (by decide)

end Walks

end Darling.Cores
