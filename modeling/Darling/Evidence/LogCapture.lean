import Mathlib.Logic.Function.Basic
import Darling.Library.Checks

/-! A log between `log_start` and `log_finish`: writers append to it, truncate it and rotate it, and the
capture is taken from a retained descriptor and the file at the source path. -/
namespace Darling.Evidence

abbrev Bytes := List UInt8

def BOUNDARY_BYTES : Nat := 4096

/-- The files by inode, the one at the source path, and the next unused inode. -/
structure LogWorld where
  content : Nat → Bytes
  source : Option Nat
  fresh : Nat
  used : ∀ inode, source = some inode → inode < fresh

inductive LogEvent where
  | append (bytes : Bytes)
  | truncate (length : Nat)
  | rotate
  deriving DecidableEq, Repr

namespace LogWorld

def setContent (w : LogWorld) (inode : Nat) (bytes : Bytes) : LogWorld :=
  { w with content := Function.update w.content inode bytes }

/-- A new inode takes the source path. -/
def create (w : LogWorld) (bytes : Bytes) : LogWorld where
  content := Function.update w.content w.fresh bytes
  source := some w.fresh
  fresh := w.fresh + 1
  used inode same := by
    cases same
    exact Nat.lt_succ_self _

def apply (w : LogWorld) : LogEvent → LogWorld
  | .append bytes =>
    match w.source with
    | some inode => w.setContent inode (w.content inode ++ bytes)
    | none => w.create bytes
  | .truncate length =>
    match w.source with
    | some inode => w.setContent inode ((w.content inode).take length)
    | none => w
  | .rotate => w.create []

def run (w : LogWorld) : List LogEvent → LogWorld
  | [] => w
  | event :: rest => (w.apply event).run rest

end LogWorld

/-- All bytes appended at the source path, in order. -/
def appended : List LogEvent → Bytes
  | [] => []
  | .append bytes :: rest => bytes ++ appended rest
  | _ :: rest => appended rest

inductive EvidenceError where
  | boundaryUnreadable
  | noRetainedOriginal
  | sourceMissing
  | wrongOriginal
  | alreadyFinished
  | originalMissing
  | originalChanged
  | shortened
  | boundaryChanged
  deriving DecidableEq, Repr

structure Snapshot (δ : Type) where
  inode : Nat
  size : Nat
  boundaryStart : Nat
  boundarySha256 : δ
  deriving DecidableEq, Repr

inductive Transition where
  | started
  | append
  | reset
  | missing
  | created
  | rotate
  deriving DecidableEq, Repr

inductive Role where
  | original
  | current
  deriving DecidableEq, Repr

structure Capture where
  role : Role
  inode : Nat
  start : Nat
  «end» : Nat
  bytes : Nat
  deriving DecidableEq, Repr

structure LogState (δ : Type) where
  original : Option (Snapshot δ) := none
  complete : Bool := false
  gap : Bool := false
  transition : Transition := .started
  reason : String := "snapshot recorded"
  captures : List Capture := []
  missing : List String := []
  deriving DecidableEq, Repr

/-- `os.pread`. -/
def pread (content : Bytes) (length offset : Nat) : Bytes := (content.drop offset).take length

section Capture

variable {δ : Type} [DecidableEq δ] (digest : Bytes → δ)

def snapshot (w : LogWorld) (inode : Nat) : Except EvidenceError (Snapshot δ) := do
  let size := (w.content inode).length
  let start := size - BOUNDARY_BYTES
  let boundary := pread (w.content inode) (size - start) start
  require (boundary.length = size - start) .boundaryUnreadable
  return { inode, size, boundaryStart := start, boundarySha256 := digest boundary }

/-- `original` is the inode behind the collector's descriptor, if there is one. -/
def logStart (w : LogWorld) (original : Option Nat) : Except EvidenceError (LogState δ) := do
  match original with
  | none =>
    require (w.source = none) .noRetainedOriginal
    return { reason := "source absent at snapshot", missing := ["source-at-start"] }
  | some descriptor =>
    match w.source with
    | none => throw .sourceMissing
    | some inode => do
      let seen ← snapshot digest w descriptor
      require (inode = seen.inode) .wrongOriginal
      return { original := some seen }

def boundaryMatches (w : LogWorld) (descriptor : Nat) (seen : Snapshot δ) : Bool :=
  let length := seen.size - seen.boundaryStart
  let boundary := pread (w.content descriptor) length seen.boundaryStart
  boundary.length = length && digest boundary = seen.boundarySha256

def copySlice (w : LogWorld) (descriptor start stop : Nat) (role : Role) :
    Except EvidenceError (Capture × Bytes) := do
  let slice := pread (w.content descriptor) (stop - start) start
  require (slice.length = stop - start) .shortened
  return ({ role, inode := descriptor, start, «end» := stop, bytes := slice.length }, slice)

/-- The state and the output so far. -/
abbrev Progress (δ : Type) := LogState δ × Bytes

/-- A file open for reading with its snapshot. -/
abbrev Opened (δ : Type) := Nat × Snapshot δ

/-- The descriptor of the collector is still the inode of the start. -/
def openOriginal (w : LogWorld) (prior : Option (Snapshot δ)) (original : Option Nat) :
    Except EvidenceError (Option (Snapshot δ × Opened δ)) := do
  match prior with
  | none => return none
  | some prior =>
    match original with
    | none => throw .originalMissing
    | some descriptor => do
      let now ← snapshot digest w descriptor
      require (prior.inode = now.inode) .originalChanged
      return some (prior, descriptor, now)

def openSource (w : LogWorld) (state : LogState δ) :
    Except EvidenceError (Option (Opened δ) × LogState δ) := do
  match w.source with
  | none => return (none, { state with
      transition := .missing, gap := true, reason := "source missing at finish"
      missing := state.missing ++ ["source-at-finish"] })
  | some descriptor => return (some (descriptor, ← snapshot digest w descriptor), state)

/-- The tail of the original, or all of it when its boundary is gone. -/
def captureOriginal (w : LogWorld) (old : Option (Snapshot δ × Opened δ)) (progress : Progress δ) :
    Except EvidenceError (Progress δ) := do
  match old with
  | none => return progress
  | some (prior, descriptor, now) => do
    let reset : Bool := now.size < prior.size || !boundaryMatches digest w descriptor prior
    let state :=
      if reset then { progress.1 with
        transition := .reset, gap := true
        reason := "original inode truncated or boundary rewritten; pre-reset bytes may be lost" }
      else progress.1
    let (capture, bytes) ← copySlice w descriptor (if reset then 0 else prior.size) now.size .original
    require (boundaryMatches digest w descriptor now = true) .boundaryChanged
    return ({ state with captures := state.captures ++ [capture] }, progress.2 ++ bytes)

/-- All of the file at the source path, unless it is the original. -/
def captureCurrent (w : LogWorld) (old : Option (Snapshot δ × Opened δ)) (current : Option (Opened δ))
    (progress : Progress δ) : Except EvidenceError (Progress δ) := do
  match current with
  | none => return progress
  | some (descriptor, now) =>
    if old.any (·.2.2.inode = now.inode) then return progress
    else do
      let (capture, bytes) ← copySlice w descriptor 0 now.size .current
      require (boundaryMatches digest w descriptor now = true) .boundaryChanged
      let state := { progress.1 with captures := progress.1.captures ++ [capture] }
      let state :=
        if state.gap then state
        else if old.isNone then { state with
          transition := .created, reason := "source created after absent snapshot" }
        else { state with
          transition := .rotate, reason := "retained original tail and rotated current inode captured" }
      return (state, progress.2 ++ bytes)

/-- The state after the capture and the output. -/
def logFinish (w : LogWorld) (state : LogState δ) (original : Option Nat) :
    Except EvidenceError (Progress δ) := do
  require (state.transition = .started) .alreadyFinished
  let old ← openOriginal digest w state.original original
  let (current, state) ← openSource digest w { state with
    complete := false, gap := false, transition := .append, reason := "finite source-bound capture"
    captures := [] }
  let progress ← captureOriginal digest w old (state, [])
  let progress ← captureCurrent digest w old current progress
  return ({ progress.1 with complete := !progress.1.gap }, progress.2)

end Capture

/-- The bytes at the source path. -/
def LogWorld.current (w : LogWorld) : Bytes := (w.source.map w.content).getD []

/-- The bytes at the source path, once it is no longer the original. -/
def LogWorld.replaced (w : LogWorld) (original : Option Nat) : Bytes :=
  if w.source = original then [] else w.current

/-- The event loses no byte: a truncation cuts nothing, and a rotation takes away the original or an
empty file. -/
def LogEvent.Keeps (original : Option Nat) (w : LogWorld) : LogEvent → Prop
  | append _ => True
  | truncate length => w.current.length ≤ length
  | rotate => w.replaced original = []

def Lossless (original : Option Nat) : LogWorld → List LogEvent → Prop
  | _, [] => True
  | w, event :: rest => event.Keeps original w ∧ Lossless original (w.apply event) rest

/-- The original still has the end it had at the start, in its old place. Where it does not, it was truncated or
rewritten and `log_finish` says so. -/
def EndKept (original : Option Nat) (before now : LogWorld) : Prop :=
  ∀ inode, original = some inode →
    let size := (before.content inode).length
    let start := size - BOUNDARY_BYTES
    pread (now.content inode) (size - start) start = (before.content inode).drop start

/-- Every byte written since the start is in the original, behind its old content, or at the source
path. -/
structure Kept (original : Option Nat) (base : Bytes) (w : LogWorld) (written : Bytes) : Prop where
  present : original ≠ none → w.source ≠ none
  used : ∀ inode, original = some inode → inode < w.fresh
  tail : ∃ tail, (∀ inode, original = some inode → w.content inode = base ++ tail) ∧
    (original = none → tail = []) ∧ written = tail ++ w.replaced original

namespace Kept

variable {original : Option Nat} {base written : Bytes} {w : LogWorld}

theorem start (w : LogWorld) : Kept w.source (w.current) w [] := by
  refine ⟨id, w.used, [], fun inode same => ?_, fun _ => rfl, ?_⟩
  · simp [LogWorld.current, same]
  · simp [LogWorld.replaced]

theorem create (kept : Kept original base w written) (lost : w.replaced original = []) (bytes : Bytes) :
    Kept original base (w.create bytes) (written ++ bytes) := by
  obtain ⟨present, used, tail, held, absent, same⟩ := kept
  have other : some w.fresh ≠ original := fun equal => Nat.lt_irrefl _ (used _ equal.symm)
  refine ⟨fun _ => nofun, fun inode equal => Nat.lt_succ_of_lt (used inode equal), tail, ?_, absent, ?_⟩
  · intro inode equal
    have apart : inode ≠ w.fresh := Nat.ne_of_lt (used inode equal)
    rw [← held inode equal]
    exact Function.update_of_ne apart ..
  · rw [same, lost]
    simp [LogWorld.replaced, LogWorld.current, LogWorld.create, other]

theorem append (kept : Kept original base w written) (bytes : Bytes) :
    Kept original base (w.apply (.append bytes)) (written ++ bytes) := by
  cases source : w.source with
  | some inode =>
    simp only [LogWorld.apply, source]
    obtain ⟨present, used, tail, held, absent, same⟩ := kept
    by_cases first : original = some inode
    · refine ⟨present, used, tail ++ bytes, ?_, fun none => ?_, ?_⟩
      · intro other equal
        cases first.symm.trans equal
        have grown : (w.setContent inode (w.content inode ++ bytes)).content inode = w.content inode ++ bytes :=
          Function.update_self ..
        rw [grown, held inode first, List.append_assoc]
      · rw [none] at first
        cases first
      · rw [same]
        simp [LogWorld.replaced, LogWorld.setContent, source, first]
    · have apart : some inode ≠ original := fun equal => first equal.symm
      refine ⟨present, used, tail, ?_, absent, ?_⟩
      · intro other equal
        have distinct : other ≠ inode := fun clash => first (clash ▸ equal)
        rw [← held other equal]
        exact Function.update_of_ne distinct ..
      · rw [same]
        simp [LogWorld.replaced, LogWorld.current, LogWorld.setContent, source, apart]
  | none =>
    simp only [LogWorld.apply, source]
    apply kept.create
    unfold LogWorld.replaced LogWorld.current
    rw [source]
    split <;> rfl

theorem truncate (kept : Kept original base w written) {length : Nat} (fits : w.current.length ≤ length) :
    Kept original base (w.apply (.truncate length)) written := by
  cases source : w.source with
  | some inode =>
    simp only [LogWorld.apply, source]
    have whole : (w.content inode).take length = w.content inode := by
      apply List.take_of_length_le
      simpa [LogWorld.current, source] using fits
    have unchanged : w.setContent inode ((w.content inode).take length) = w := by
      rw [whole, LogWorld.setContent, Function.update_eq_self]
    rw [unchanged]
    exact kept
  | none =>
    simp only [LogWorld.apply, source]
    exact kept

theorem apply (kept : Kept original base w written) {event : LogEvent} (keeps : event.Keeps original w) :
    Kept original base (w.apply event) (written ++ appended [event]) := by
  cases event with
  | append bytes => simpa [appended] using kept.append bytes
  | truncate length => simpa [appended] using kept.truncate keeps
  | rotate => exact kept.create keeps []

theorem run {events : List LogEvent} (kept : Kept original base w written) (lossless : Lossless original w events) :
    Kept original base (w.run events) (written ++ appended events) := by
  induction events generalizing w written with
  | nil => simpa [LogWorld.run, appended] using kept
  | cons event rest induction =>
    have next := induction (kept.apply lossless.1) lossless.2
    rw [List.append_assoc] at next
    have split : appended [event] ++ appended rest = appended (event :: rest) := by
      cases event <;> simp [appended]
    rwa [split] at next

end Kept

section Finish

variable {δ : Type} {digest : Bytes → δ}

theorem pread_all (content : Bytes) (length offset : Nat) (inside : offset + length = content.length) :
    pread content length offset = content.drop offset := by
  apply List.take_of_length_le
  rw [List.length_drop]
  omega

theorem snapshot_ok {w : LogWorld} {inode : Nat} {seen : Snapshot δ} (taken : snapshot digest w inode = .ok seen) :
    seen.inode = inode ∧ seen.size = (w.content inode).length ∧ seen.boundaryStart = seen.size - BOUNDARY_BYTES ∧
      seen.boundarySha256 = digest ((w.content inode).drop seen.boundaryStart) := by
  simp only [snapshot, require_bind_ok, pure_ok] at taken
  obtain ⟨_, rfl⟩ := taken
  have inside : (w.content inode).length - BOUNDARY_BYTES +
      ((w.content inode).length - ((w.content inode).length - BOUNDARY_BYTES)) = (w.content inode).length := by
    omega
  refine ⟨rfl, rfl, rfl, ?_⟩
  rw [pread_all _ _ _ inside]

theorem copySlice_ok {w : LogWorld} {descriptor start stop : Nat} {role : Role} {copied : Capture × Bytes}
    (within : start ≤ stop) (whole : stop = (w.content descriptor).length)
    (done : copySlice w descriptor start stop role = .ok copied) :
    copied.2 = (w.content descriptor).drop start := by
  simp only [copySlice, require_bind_ok, pure_ok] at done
  obtain ⟨_, rfl⟩ := done
  exact pread_all _ _ _ (by omega)

theorem logStart_ok {w : LogWorld} {original : Option Nat} {state : LogState δ}
    (started : logStart digest w original = .ok state) :
    original = w.source ∧
      (w.source = none ∧ state.original = none ∨
        ∃ inode seen, w.source = some inode ∧ snapshot digest w inode = .ok seen ∧ state.original = some seen) := by
  cases original with
  | none =>
    simp only [logStart, require_bind_ok, pure_ok] at started
    obtain ⟨absent, rfl⟩ := started
    exact ⟨absent.symm, .inl ⟨absent, rfl⟩⟩
  | some descriptor =>
    cases source : w.source with
    | none =>
      simp only [logStart, source] at started
      cases started
    | some inode =>
      simp only [logStart, source] at started
      rw [bind_ok] at started
      obtain ⟨seen, taken, rest⟩ := started
      rw [require_bind_ok, pure_ok] at rest
      obtain ⟨same, rfl⟩ := rest
      have equal : inode = descriptor := same.trans (snapshot_ok taken).1
      exact ⟨by rw [equal], .inr ⟨inode, seen, rfl, equal ▸ taken, rfl⟩⟩

variable [DecidableEq δ]

/-- The prefix that was there at the start vouches for its own boundary. -/
theorem boundaryMatches_line {before now : LogWorld} {inode : Nat} {seen : Snapshot δ} {tail : Bytes}
    (taken : snapshot digest before inode = .ok seen) (grown : now.content inode = before.content inode ++ tail) :
    boundaryMatches digest now inode seen = true := by
  obtain ⟨_, size, start, sha⟩ := snapshot_ok taken
  have boundary : pread (now.content inode) (seen.size - seen.boundaryStart) seen.boundaryStart =
      (before.content inode).drop seen.boundaryStart := by
    unfold pread
    rw [grown, List.drop_append_of_le_length (by omega)]
    apply List.take_left'
    rw [List.length_drop]
    omega
  simp only [boundaryMatches]
  rw [boundary, sha]
  simp only [List.length_drop, decide_true, Bool.and_true, decide_eq_true_eq]
  omega

/-- What the file at the source path adds. -/
theorem captureCurrent_ok {w : LogWorld} {old : Option (Snapshot δ × Opened δ)} {state : LogState δ}
    {opened : Option (Opened δ) × LogState δ} {progress result : Progress δ}
    (source : openSource digest w state = .ok opened)
    (captured : captureCurrent digest w old opened.1 progress = .ok result) :
    result.2 = progress.2 ++ w.replaced (old.map (·.2.2.inode)) := by
  cases place : w.source with
  | none =>
    simp only [openSource, place, pure_ok] at source
    subst source
    simp only [captureCurrent, pure_ok] at captured
    subst captured
    simp [LogWorld.replaced, LogWorld.current, place]
  | some descriptor =>
    simp only [openSource, place, bind_ok, pure_ok] at source
    obtain ⟨now, taken, rfl⟩ := source
    obtain ⟨inode, size, _⟩ := snapshot_ok taken
    simp only [captureCurrent] at captured
    split at captured
    · rename_i same
      have equal : w.source = old.map (·.2.2.inode) := by
        cases old with
        | none => cases same
        | some held =>
          have matched : held.2.2.inode = now.inode := of_decide_eq_true same
          rw [place, Option.map_some, matched, inode]
      cases captured
      simp [LogWorld.replaced, equal]
    · rename_i apart
      have distinct : w.source ≠ old.map (·.2.2.inode) := by
        intro equal
        apply apart
        rw [place] at equal
        obtain ⟨held, rfl, matched⟩ := Option.map_eq_some_iff.mp equal.symm
        simp [inode, matched]
      rw [bind_ok] at captured
      obtain ⟨copied, slice, rest⟩ := captured
      rw [require_bind_ok, pure_ok] at rest
      obtain ⟨_, rfl⟩ := rest
      have bytes := copySlice_ok (Nat.zero_le _) size slice
      rw [LogWorld.replaced, if_neg distinct]
      simp [LogWorld.current, place, bytes]

/-- A known gap stays known. -/
theorem captureCurrent_gap {w : LogWorld} {old : Option (Snapshot δ × Opened δ)} {current : Option (Opened δ)}
    {progress result : Progress δ} (captured : captureCurrent digest w old current progress = .ok result)
    (gap : progress.1.gap = true) : result.1.gap = true := by
  cases current with
  | none =>
    cases captured
    exact gap
  | some opened =>
    simp only [captureCurrent] at captured
    split at captured
    · cases captured
      exact gap
    · rw [bind_ok] at captured
      obtain ⟨copied, -, rest⟩ := captured
      rw [require_bind_ok, pure_ok] at rest
      obtain ⟨-, rfl⟩ := rest
      simp only [gap]

/-- The end of the original that is gone is a gap. -/
theorem captureOriginal_kept {before now : LogWorld} {inode : Nat} {seen : Snapshot δ} {handle : Option Nat}
    {old : Option (Snapshot δ × Opened δ)} {progress result : Progress δ} (apart : Function.Injective digest)
    (taken : snapshot digest before inode = .ok seen) (reopened : openOriginal digest now (some seen) handle = .ok old)
    (captured : captureOriginal digest now old progress = .ok result) (gapless : result.1.gap = false) :
    EndKept (some inode) before now := by
  rintro _ ⟨⟩
  cases handle with
  | none => cases reopened
  | some descriptor =>
    simp only [openOriginal] at reopened
    rw [bind_ok] at reopened
    obtain ⟨again, retaken, rest⟩ := reopened
    rw [require_bind_ok, pure_ok] at rest
    obtain ⟨same, rfl⟩ := rest
    obtain ⟨place, size, start, sha⟩ := snapshot_ok taken
    have equal : descriptor = inode := by rw [← (snapshot_ok retaken).1, ← same, place]
    subst equal
    simp only [captureOriginal] at captured
    rw [bind_ok] at captured
    obtain ⟨copied, -, rest⟩ := captured
    rw [require_bind_ok, pure_ok] at rest
    obtain ⟨-, rfl⟩ := rest
    have matched : boundaryMatches digest now descriptor seen = true := by
      by_contra changed
      simp [Bool.eq_false_iff.mpr changed] at gapless
    simp only [boundaryMatches, Bool.and_eq_true, decide_eq_true_eq] at matched
    have boundary := apart (matched.2.trans sha)
    rwa [start, size] at boundary

/-- As long as the original only grew, its capture is what was added to it. -/
theorem captureOriginal_ok {before now : LogWorld} {inode : Nat} {seen : Snapshot δ} {tail : Bytes}
    {handle : Option Nat} {old : Option (Snapshot δ × Opened δ)} {progress result : Progress δ}
    (taken : snapshot digest before inode = .ok seen) (grown : now.content inode = before.content inode ++ tail)
    (reopened : openOriginal digest now (some seen) handle = .ok old)
    (captured : captureOriginal digest now old progress = .ok result) :
    old.map (·.2.2.inode) = some inode ∧ result.2 = progress.2 ++ tail := by
  cases handle with
  | none => cases reopened
  | some descriptor =>
    simp only [openOriginal] at reopened
    rw [bind_ok] at reopened
    obtain ⟨again, retaken, rest⟩ := reopened
    rw [require_bind_ok, pure_ok] at rest
    obtain ⟨same, rfl⟩ := rest
    obtain ⟨inode', size, _⟩ := snapshot_ok taken
    obtain ⟨descriptor', size', _⟩ := snapshot_ok retaken
    have equal : descriptor = inode := by rw [← descriptor', ← same, inode']
    subst equal
    have longer : seen.size ≤ again.size := by
      rw [size, size', grown, List.length_append]
      omega
    have unreset : (decide (again.size < seen.size) || !boundaryMatches digest now descriptor seen) = false := by
      rw [boundaryMatches_line taken grown]
      simpa using longer
    simp only [captureOriginal, unreset] at captured
    rw [bind_ok] at captured
    obtain ⟨copied, slice, rest⟩ := captured
    rw [require_bind_ok, pure_ok] at rest
    obtain ⟨_, rfl⟩ := rest
    have bytes : copied.2 = (now.content descriptor).drop seen.size := copySlice_ok longer size' slice
    refine ⟨by simp [descriptor'], ?_⟩
    rw [bytes, grown, size]
    simp

/-- A capture that reports completeness has every byte. What it cannot notice is left out: as long as the original
keeps its old end no truncation may cut bytes, and no file that replaced the original may be rotated away with
content. -/
theorem complete_capture_has_no_gap (digest : Bytes → δ) (apart : Function.Injective digest) (w : LogWorld)
    (original : Option Nat) (events : List LogEvent) (handle : Option Nat) {state final : LogState δ} {output : Bytes}
    (started : logStart digest w original = .ok state)
    (lossless : EndKept original w (w.run events) → Lossless original w events)
    (finished : logFinish digest (w.run events) state handle = .ok (final, output)) :
    final.complete = true → output = appended events := by
  intro complete
  obtain ⟨rfl, begun⟩ := logStart_ok started
  simp only [logFinish, require_bind_ok] at finished
  obtain ⟨_, rest⟩ := finished
  rw [bind_ok] at rest
  obtain ⟨old, reopened, rest⟩ := rest
  rw [bind_ok] at rest
  obtain ⟨opened, source, rest⟩ := rest
  rw [bind_ok] at rest
  obtain ⟨progress, captured, rest⟩ := rest
  rw [bind_ok] at rest
  obtain ⟨result, added, last⟩ := rest
  cases last
  have gapless : progress.1.gap = false := by
    by_contra gap
    have still := captureCurrent_gap added (Bool.not_eq_false _ ▸ gap)
    simp [still] at complete
  rw [captureCurrent_ok source added]
  rcases begun with ⟨nothing, unseen⟩ | ⟨inode, seen, place, taken, recorded⟩
  · rw [unseen] at reopened
    cases reopened
    cases captured
    have whole : EndKept w.source w (w.run events) := fun inode same => absurd (nothing.symm.trans same) (by simp)
    obtain ⟨tail, -, absent, written⟩ := ((Kept.start w).run (lossless whole)).tail
    rw [List.nil_append] at written
    rw [written, absent nothing, nothing]
    rfl
  · rw [recorded] at reopened
    have whole : EndKept w.source w (w.run events) := place ▸ captureOriginal_kept apart taken reopened captured gapless
    obtain ⟨tail, held, -, written⟩ := ((Kept.start w).run (lossless whole)).tail
    rw [List.nil_append] at written
    have base : w.current = w.content inode := by simp [LogWorld.current, place]
    have grown : (w.run events).content inode = w.content inode ++ tail := base ▸ held inode place
    obtain ⟨same, bytes⟩ := captureOriginal_ok taken grown reopened captured
    rw [written, same, bytes, place]
    rfl

end Finish

/-- A log of one byte under inode 0. -/
def serverLog : LogWorld where
  content _ := [49]
  source := some 0
  fresh := 1
  used inode same := by
    cases same
    decide

/-- What `log_start` records of it. -/
def serverLogState : LogState Bytes := { original := some ⟨0, 1, 0, [49]⟩ }

/-- What `log_finish` records after one rotation or more, with the tail of the original. -/
def rotatedState (replacement tail : Nat) : LogState Bytes :=
  { serverLogState with
    complete := true, transition := .rotate
    reason := "retained original tail and rotated current inode captured"
    captures := [⟨.original, 0, 1, 1 + tail, tail⟩, ⟨.current, replacement, 0, 1, 1⟩] }

theorem complete_capture_has_no_gap_rotated :
    logStart id serverLog (some 0) = .ok serverLogState ∧
      logFinish id (serverLog.run [.append [65], .rotate, .append [66]]) serverLogState (some 0) =
        .ok (rotatedState 1 1, [65, 66]) ∧
      ((rotatedState 1 1).complete = true → [65, 66] = appended [.append [65], .rotate, .append [66]]) := by
  have started : logStart id serverLog (some 0) = .ok serverLogState := by decide +kernel
  have finished : logFinish id (serverLog.run [.append [65], .rotate, .append [66]]) serverLogState (some 0) =
      .ok (rotatedState 1 1, [65, 66]) := by
    decide +kernel
  refine ⟨started, finished, complete_capture_has_no_gap id Function.injective_id serverLog (some 0) _
    (some 0) started ?_
    finished⟩
  exact fun _ => ⟨True.intro, rfl, True.intro, True.intro⟩

/-- What `log_finish` records when the original has grown by a byte. -/
def grownState : LogState Bytes :=
  { serverLogState with
    complete := true, transition := .append, reason := "finite source-bound capture"
    captures := [⟨.original, 0, 1, 2, 1⟩] }

/-- The log is rotated twice: the file in between is gone. Or it is truncated to its old size and grows again. Either
way the capture calls itself complete and lacks a byte. -/
theorem capture_misses_bytes :
    logStart id serverLog (some 0) = .ok serverLogState ∧
      (logFinish id (serverLog.run [.rotate, .append [65], .rotate, .append [66]]) serverLogState (some 0) =
          .ok (rotatedState 2 0, [66]) ∧
        (rotatedState 2 0).complete = true ∧ [66] ≠ appended [.rotate, .append [65], .rotate, .append [66]]) ∧
      (logFinish id (serverLog.run [.append [65], .truncate 1, .append [66]]) serverLogState (some 0) =
          .ok (grownState, [66]) ∧
        grownState.complete = true ∧ [66] ≠ appended [.append [65], .truncate 1, .append [66]]) := by
  refine ⟨by decide +kernel, ⟨by decide +kernel, rfl, by decide⟩, by decide +kernel, rfl, by decide⟩

end Darling.Evidence
