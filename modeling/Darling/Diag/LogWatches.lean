import Darling.Library.Utf8
import Mathlib.Data.List.Infix

/-! The two watches of a growing log: `marker_seen` and `StallDetector::poll`. The pattern is a literal, given by
its bytes. -/
namespace Darling.Watches

abbrev Bytes := List UInt8

section Code

/-- `read_to_string`, from an offset to the end of the file. -/
def readToString (bytes : Bytes) (offset : Nat) : Option Bytes :=
  let text := bytes.drop offset
  if Utf8.wellFormed text then some text else none

/-- `find_iter(..).count()`: the matches from the left that do not overlap; `skip` bytes still belong to the last
one. -/
def findIter (literal : Bytes) : Nat → Bytes → Nat
  | _, [] => 0
  | skip + 1, _ :: rest => findIter literal skip rest
  | 0, byte :: rest =>
    if literal <+: byte :: rest then 1 + findIter literal (literal.length - 1) rest else findIter literal 0 rest

/-- A file that shrank is read from its beginning. -/
def resume (bytes : Bytes) (offset : Nat) : Nat := if bytes.length < offset then 0 else offset

/-- `marker_seen`; the file is absent when it cannot be opened. -/
def markerSeen (literal : Bytes) (file : Option Bytes) (offset : Nat) : Bool × Nat :=
  match file with
  | none => (false, offset)
  | some bytes =>
    let offset := resume bytes offset
    match readToString bytes offset with
    | none => (false, offset)
    | some text => (decide (literal <:+: text), offset + text.length)

structure StallDetector where
  afterOutput : Option (Bytes → Bool)
  stallFor : Nat
  offset : Nat
  events : Nat
  lastEvent : Nat
  armed : Bool

/-- `from_args`, with its options given. -/
def StallDetector.fromArgs (log : Option Bytes) (afterOutput : Option (Bytes → Bool)) (stallFor now : Nat) :
    StallDetector where
  afterOutput := afterOutput
  stallFor := stallFor
  offset := log.elim 0 List.length
  events := 0
  lastEvent := now
  armed := afterOutput.isNone

/-- What a poll meets besides the log: the output of the workload and the time. -/
structure Moment where
  stdout : Option Bytes
  stderr : Option Bytes
  now : Nat

def Moment.output (moment : Moment) : Bytes :=
  ((moment.stdout.bind (readToString · 0)).getD []) ++ ((moment.stderr.bind (readToString · 0)).getD [])

def StallDetector.arm (detector : StallDetector) (moment : Moment) : StallDetector :=
  if detector.armed then detector
  else if detector.afterOutput.elim true (· moment.output) then
    { detector with armed := true, lastEvent := moment.now }
  else detector

def StallDetector.record (detector : StallDetector) (newEvents now : Nat) : StallDetector :=
  if 0 < newEvents then { detector with events := detector.events + newEvents, lastEvent := now } else detector

def StallDetector.stalled (detector : StallDetector) (now : Nat) : Bool :=
  detector.armed && decide (detector.stallFor ≤ now - detector.lastEvent)

/-- `StallDetector::poll`; no answer is the error of a read, which leaves the offset where it is. -/
def StallDetector.poll (literal : Bytes) (detector : StallDetector) (log : Option Bytes) (moment : Moment) :
    Option Bool × StallDetector :=
  let detector := detector.arm moment
  match log with
  | none => (some (detector.stalled moment.now), detector)
  | some bytes =>
    let detector := { detector with offset := resume bytes detector.offset }
    match readToString bytes detector.offset with
    | none => (none, detector)
    | some text =>
      let detector := { detector with offset := detector.offset + text.length }
      let newEvents := if text.isEmpty then 0 else findIter literal 0 text
      let detector := detector.record newEvents moment.now
      (some (detector.stalled moment.now), detector)

end Code

section Runs

inductive Action where
  | append (bytes : Bytes)
  | poll (moment : Moment)

/-- The log behind an append. -/
def written (log : Option Bytes) (bytes : Bytes) : Option Bytes := some (log.getD [] ++ bytes)

/-- The answers of `marker_seen` along a run. -/
def markerAnswers (literal : Bytes) : Option Bytes → Nat → List Action → List Bool
  | _, _, [] => []
  | log, offset, .append bytes :: rest => markerAnswers literal (written log bytes) offset rest
  | log, offset, .poll _ :: rest =>
    (markerSeen literal log offset).1 :: markerAnswers literal log (markerSeen literal log offset).2 rest

/-- The events that each poll of the detector counts along a run; its caller takes an error for `false` and goes on. -/
def eventsCounted (literal : Bytes) : Option Bytes → StallDetector → List Action → List Nat
  | _, _, [] => []
  | log, detector, .append bytes :: rest => eventsCounted literal (written log bytes) detector rest
  | log, detector, .poll moment :: rest =>
    let polled := (detector.poll literal log moment).2
    (polled.events - detector.events) :: eventsCounted literal log polled rest

/-- The bytes that a run appends. -/
def appended : List Action → Bytes
  | [] => []
  | .append bytes :: rest => bytes ++ appended rest
  | .poll _ :: rest => appended rest

/-- What has been appended when each poll comes, behind `sofar`. -/
def cuts (sofar : Bytes) : List Action → List Bytes
  | [] => []
  | .append bytes :: rest => cuts (sofar ++ bytes) rest
  | .poll _ :: rest => sofar :: cuts sofar rest

/-- The cuts at which all that has been appended is valid UTF-8. -/
def readable (sofar : Bytes) (run : List Action) : List Bytes := (cuts sofar run).filter Utf8.wellFormed

/-- An occurrence of the literal in the appended bytes that a readable cut covers and none divides. -/
def Uncut (literal : Bytes) (run : List Action) : Prop :=
  ∃ before behind, appended run = before ++ literal ++ behind ∧
    (∃ cut ∈ readable [] run, (before ++ literal).length ≤ cut.length) ∧
    ∀ cut ∈ readable [] run, cut.length ≤ before.length ∨ (before ++ literal).length ≤ cut.length

end Runs

section Matching

variable {literal : Bytes}

/-- The matches that are counted are none exactly when there is none. -/
theorem findIter_pos (nonempty : literal ≠ []) (text : Bytes) : 0 < findIter literal 0 text ↔ literal <:+: text := by
  induction text with
  | nil => simp [findIter, nonempty]
  | cons byte rest ih =>
    rw [findIter, List.infix_cons_iff]
    split
    next here => simp only [here, true_or, iff_true]; omega
    next here => simp only [here, false_or, ih]

/-- An occurrence behind what is read and before the end of what is pending lies in what is pending. -/
theorem infix_between {read pending rest before behind : Bytes}
    (divided : read ++ pending ++ rest = before ++ literal ++ behind)
    (starts : read.length ≤ before.length) (ends : (before ++ literal).length ≤ (read ++ pending).length) :
    literal <:+: pending := by
  have covered : before ++ literal <+: read ++ pending :=
    List.prefix_of_prefix_length_le ⟨behind, rfl⟩ (divided ▸ List.prefix_append _ _) ends
  have reached : read <+: before :=
    List.prefix_of_prefix_length_le (List.prefix_append read (pending ++ rest))
      ⟨literal ++ behind, by rw [← List.append_assoc, ← divided, List.append_assoc]⟩ starts
  obtain ⟨between, rfl⟩ := reached
  obtain ⟨left, whole⟩ := covered
  rw [List.append_assoc, List.append_assoc, List.append_cancel_left_eq] at whole
  exact ⟨between, left, by rw [List.append_assoc, whole]⟩

end Matching

section Chunks

/-- The texts that the polls of a run read, with `pending` not yet read. -/
def chunks : Bytes → List Action → List Bytes
  | _, [] => []
  | pending, .append bytes :: rest => chunks (pending ++ bytes) rest
  | pending, .poll _ :: rest =>
    if Utf8.wellFormed pending then pending :: chunks [] rest else chunks pending rest

variable {literal : Bytes}

/-- A log whose first `offset` bytes have been read, with `pending` behind them. -/
def Watched (log : Option Bytes) (offset : Nat) (pending : Bytes) : Prop :=
  ∃ done : Bytes, offset = done.length ∧ log.getD [] = done ++ pending

theorem Watched.append {log : Option Bytes} {offset : Nat} {pending : Bytes} (watched : Watched log offset pending)
    (bytes : Bytes) : Watched (written log bytes) offset (pending ++ bytes) := by
  obtain ⟨done, rfl, whole⟩ := watched
  exact ⟨done, rfl, by rw [written, Option.getD_some, whole, List.append_assoc]⟩

theorem Watched.resume {bytes : Bytes} {offset : Nat} {pending : Bytes}
    (watched : Watched (some bytes) offset pending) :
    resume bytes offset = offset := by
  obtain ⟨done, rfl, whole⟩ := watched
  rw [Option.getD_some] at whole
  rw [Watches.resume, if_neg (by rw [whole, List.length_append]; omega)]

theorem Watched.drop {bytes : Bytes} {offset : Nat} {pending : Bytes} (watched : Watched (some bytes) offset pending) :
    bytes.drop offset = pending := by
  obtain ⟨done, rfl, whole⟩ := watched
  rw [Option.getD_some] at whole
  rw [whole, List.drop_left]

theorem Watched.read {bytes : Bytes} {offset : Nat} {pending : Bytes} (watched : Watched (some bytes) offset pending) :
    Watched (some bytes) (offset + pending.length) [] := by
  obtain ⟨done, rfl, whole⟩ := watched
  refine ⟨done ++ pending, by rw [List.length_append], ?_⟩
  rw [whole, List.append_nil]

/-- Of an absent log nothing is pending. -/
theorem Watched.absent {offset : Nat} {pending : Bytes} (watched : Watched none offset pending) : pending = [] := by
  obtain ⟨done, -, whole⟩ := watched
  exact (List.append_eq_nil_iff.mp whole.symm).2

/-- What one poll of the marker answers and where it leaves the offset. -/
theorem markerSeen_watched (nonempty : literal ≠ []) {log : Option Bytes} {offset : Nat} {pending : Bytes}
    (watched : Watched log offset pending) :
    (Utf8.wellFormed pending = true ∧ ((markerSeen literal log offset).1 = true ↔ literal <:+: pending) ∧
      Watched log (markerSeen literal log offset).2 []) ∨
    (Utf8.wellFormed pending = false ∧ markerSeen literal log offset = (false, offset)) := by
  cases log with
  | none =>
    obtain rfl := watched.absent
    exact .inl ⟨Utf8.wellFormed_nil, by simp [markerSeen, nonempty], watched⟩
  | some bytes =>
    simp only [markerSeen, readToString, watched.resume, watched.drop]
    cases formed : Utf8.wellFormed pending with
    | false => exact .inr ⟨rfl, rfl⟩
    | true => exact .inl ⟨rfl, decide_eq_true_iff, watched.read⟩

/-- Some poll of the marker answers `true` exactly when a text that is read has the literal. -/
theorem markerAnswers_true (nonempty : literal ≠ []) (run : List Action) {log : Option Bytes} {offset : Nat}
    {pending : Bytes} (watched : Watched log offset pending) :
    true ∈ markerAnswers literal log offset run ↔ ∃ chunk ∈ chunks pending run, literal <:+: chunk := by
  induction run generalizing log offset pending with
  | nil => simp [markerAnswers, chunks]
  | cons action rest ih =>
    cases action with
    | append bytes => exact ih (watched.append bytes)
    | poll moment =>
      rw [markerAnswers, chunks, List.mem_cons]
      obtain ⟨formed, seen, after⟩ | ⟨formed, unread⟩ := markerSeen_watched nonempty watched
      · rw [if_pos formed, ih after, eq_comm, seen, List.exists_mem_cons_iff]
      · rw [if_neg (by simp [formed]), unread]
        simp [ih watched]

@[simp] theorem arm_offset (detector : StallDetector) (moment : Moment) :
    (detector.arm moment).offset = detector.offset := by
  unfold StallDetector.arm
  split
  · rfl
  · split <;> rfl

@[simp] theorem arm_events (detector : StallDetector) (moment : Moment) :
    (detector.arm moment).events = detector.events := by
  unfold StallDetector.arm
  split
  · rfl
  · split <;> rfl

@[simp] theorem record_offset (detector : StallDetector) (newEvents now : Nat) :
    (detector.record newEvents now).offset = detector.offset := by
  unfold StallDetector.record
  split <;> rfl

@[simp] theorem record_events (detector : StallDetector) (newEvents now : Nat) :
    (detector.record newEvents now).events = detector.events + newEvents := by
  unfold StallDetector.record
  split
  next => rfl
  next none => omega

/-- What one poll of the detector counts and where it leaves the offset. -/
theorem poll_watched (nonempty : literal ≠ []) {log : Option Bytes} {detector : StallDetector} {pending : Bytes}
    (moment : Moment) (watched : Watched log detector.offset pending) :
    let polled := (detector.poll literal log moment).2
    (Utf8.wellFormed pending = true ∧ (0 < polled.events - detector.events ↔ literal <:+: pending) ∧
      Watched log polled.offset []) ∨
    (Utf8.wellFormed pending = false ∧ polled.events = detector.events ∧ polled.offset = detector.offset) := by
  cases log with
  | none =>
    obtain rfl := watched.absent
    refine .inl ⟨Utf8.wellFormed_nil, ?_, ?_⟩
    · simp [StallDetector.poll, nonempty]
    · simpa [StallDetector.poll] using watched
  | some bytes =>
    simp only [StallDetector.poll, arm_offset, readToString, watched.resume, watched.drop]
    cases formed : Utf8.wellFormed pending with
    | false => exact .inr ⟨rfl, arm_events detector moment, rfl⟩
    | true =>
      refine .inl ⟨rfl, ?_, ?_⟩
      · rw [← findIter_pos nonempty]
        cases pending with
        | nil => simp [findIter]
        | cons byte rest => simp
      · simpa using watched.read

/-- Some poll of the detector counts an event exactly when a text that is read has the literal. -/
theorem eventsCounted_pos (nonempty : literal ≠ []) (run : List Action) {log : Option Bytes}
    {detector : StallDetector} {pending : Bytes} (watched : Watched log detector.offset pending) :
    (∃ count ∈ eventsCounted literal log detector run, 0 < count) ↔
      ∃ chunk ∈ chunks pending run, literal <:+: chunk := by
  induction run generalizing log detector pending with
  | nil => simp [eventsCounted, chunks]
  | cons action rest ih =>
    cases action with
    | append bytes => exact ih (watched.append bytes)
    | poll moment =>
      rw [eventsCounted, chunks, List.exists_mem_cons_iff]
      obtain ⟨formed, counted, after⟩ | ⟨formed, silent, stays⟩ := poll_watched nonempty moment watched
      · rw [if_pos formed, ih after, counted, List.exists_mem_cons_iff]
      · rw [if_neg (by simp [formed]), ih (stays ▸ watched), silent]
        simp

end Chunks

section Cuts

variable {literal : Bytes}

theorem cuts_extend {sofar cut : Bytes} {run : List Action} (taken : cut ∈ cuts sofar run) :
    sofar.length ≤ cut.length := by
  induction run generalizing sofar with
  | nil => cases taken
  | cons action rest ih =>
    cases action with
    | append bytes =>
      have := ih taken
      rw [List.length_append] at this
      omega
    | poll moment =>
      obtain rfl | later := List.mem_cons.mp taken
      · exact Nat.le_refl _
      · exact ih later

/-- `Uncut` in the middle of a run, for an occurrence behind what is read. -/
def UncutFrom (literal read pending : Bytes) (run : List Action) : Prop :=
  ∃ before behind, read ++ pending ++ appended run = before ++ literal ++ behind ∧ read.length ≤ before.length ∧
    (∃ cut ∈ readable (read ++ pending) run, (before ++ literal).length ≤ cut.length) ∧
    ∀ cut ∈ readable (read ++ pending) run, cut.length ≤ before.length ∨ (before ++ literal).length ≤ cut.length

theorem readable_append (sofar bytes : Bytes) (run : List Action) :
    readable sofar (.append bytes :: run) = readable (sofar ++ bytes) run := rfl

theorem readable_poll (sofar : Bytes) (moment : Moment) (run : List Action) :
    readable sofar (.poll moment :: run) =
      if Utf8.wellFormed sofar then sofar :: readable sofar run else readable sofar run := by
  rw [readable, cuts, List.filter_cons]
  rfl

/-- A poll that reads what is pending either reads an occurrence in it, or leaves the occurrence behind it. -/
theorem uncutFrom_poll (nonempty : literal ≠ []) {read pending : Bytes} (moment : Moment) (rest : List Action)
    (formed : Utf8.wellFormed (read ++ pending) = true) :
    UncutFrom literal read pending (.poll moment :: rest) ↔
      literal <:+: pending ∨ UncutFrom literal (read ++ pending) [] rest := by
  have long : 0 < literal.length := List.length_pos_iff.mpr nonempty
  unfold UncutFrom
  rw [readable_poll, if_pos formed, List.append_nil]
  constructor
  · rintro ⟨before, behind, whole, starts, ⟨cut, taken, covers⟩, undivided⟩
    obtain passed | inside := undivided _ List.mem_cons_self
    · -- the occurrence begins behind this poll, so that another one covers it
      refine .inr ⟨before, behind, whole, passed, ?_, fun cut taken => undivided cut (List.mem_cons_of_mem _ taken)⟩
      obtain rfl | later := List.mem_cons.mp taken
      · rw [List.length_append] at covers
        omega
      · exact ⟨cut, later, covers⟩
    · exact .inl (infix_between whole starts inside)
  · rintro (⟨first, last, rfl⟩ | ⟨before, behind, whole, passed, ⟨cut, taken, covers⟩, undivided⟩)
    · refine ⟨read ++ first, last ++ appended rest, ?_, ?_, ⟨_, List.mem_cons_self, ?_⟩, ?_⟩
      · simp only [appended, List.append_assoc]
      · simp
      · simp only [List.length_append]
        omega
      · intro cut taken
        have longer : (read ++ (first ++ literal ++ last)).length ≤ cut.length := by
          obtain rfl | later := List.mem_cons.mp taken
          · exact Nat.le_refl _
          · exact cuts_extend (List.mem_of_mem_filter later)
        simp only [List.length_append] at longer ⊢
        omega
    · refine ⟨before, behind, whole, ?_, ⟨cut, List.mem_cons_of_mem _ taken, covers⟩, ?_⟩
      · rw [List.length_append] at passed
        omega
      · intro cut taken
        obtain rfl | later := List.mem_cons.mp taken
        · exact .inl passed
        · exact undivided cut later

/-- A text that is read has the literal exactly when an occurrence of it is covered and not divided. -/
theorem chunks_uncut (nonempty : literal ≠ []) (run : List Action) {read : Bytes} (pending : Bytes)
    (formed : Utf8.wellFormed read = true) :
    (∃ chunk ∈ chunks pending run, literal <:+: chunk) ↔ UncutFrom literal read pending run := by
  induction run generalizing read pending with
  | nil => simp [chunks, UncutFrom, readable, cuts]
  | cons action rest ih =>
    cases action with
    | append bytes =>
      rw [chunks, ih _ formed]
      simp only [UncutFrom, readable_append, appended, List.append_assoc]
    | poll moment =>
      have valid := Utf8.wellFormed_append formed pending
      cases decoded : Utf8.wellFormed pending with
      | true =>
        rw [decoded] at valid
        rw [chunks, if_pos decoded, uncutFrom_poll nonempty moment rest valid, List.exists_mem_cons_iff, ih [] valid]
      | false =>
        rw [decoded] at valid
        rw [chunks, if_neg (by simp [decoded]), ih pending formed]
        simp only [UncutFrom, readable_poll, valid, appended, Bool.false_eq_true, if_false]

end Cuts

section Results

theorem watched_start (log : Option Bytes) : Watched log (log.elim 0 List.length) [] := by
  cases log with
  | none => exact ⟨[], rfl, rfl⟩
  | some bytes => exact ⟨bytes, rfl, (List.append_nil bytes).symm⟩

/-- In a run that ends with a poll, both watches report a literal that is appended exactly when some occurrence of it is
covered by a poll at which all the appended bytes are valid UTF-8, and divided by no such poll. -/
theorem watches_find_iff {literal : Bytes} (nonempty : literal ≠ []) (log : Option Bytes)
    (afterOutput : Option (Bytes → Bool)) (stallFor now : Nat) (actions : List Action) (last : Moment) :
    let run := actions ++ [.poll last]
    (literal <:+: appended run →
      true ∈ markerAnswers literal log (log.elim 0 List.length) run ∧
        ∃ count ∈ eventsCounted literal log (.fromArgs log afterOutput stallFor now) run, 0 < count) ↔
      (literal <:+: appended run → Uncut literal run) := by
  intro run
  have watched := watched_start log
  have uncut : UncutFrom literal [] [] run ↔ Uncut literal run := by simp [UncutFrom, Uncut]
  have opened : Watched log (StallDetector.fromArgs log afterOutput stallFor now).offset [] := watched
  rw [markerAnswers_true nonempty run watched, eventsCounted_pos nonempty run opened,
    chunks_uncut nonempty run [] Utf8.wellFormed_nil, uncut, and_self]

/-- The bytes of `ready`. -/
def readyLiteral : Bytes := [114, 101, 97, 100, 121]

def quiet (now : Nat) : Moment := ⟨none, none, now⟩

/-- The literal is appended in two pieces with a poll between them. -/
def dividedRun : List Action := [.append [114, 101], .poll (quiet 1), .append [97, 100, 121]]

def wholeRun : List Action := [.append [120, 114, 101], .append [97, 100, 121], .poll (quiet 1), .append [255]]

/-- A poll between two pieces of the literal hides it from both watches. -/
theorem dividedRun_missed :
    let run := dividedRun ++ [.poll (quiet 2)]
    ¬ (readyLiteral <:+: appended run →
      true ∈ markerAnswers readyLiteral (some []) 0 run ∧
        ∃ count ∈ eventsCounted readyLiteral (some []) (.fromArgs (some []) none 60 0) run, 0 < count) := by
  decide

theorem wholeRun_found :
    let run := wholeRun ++ [.poll (quiet 2)]
    readyLiteral ≠ [] ∧ Uncut readyLiteral run ∧ true ∈ markerAnswers readyLiteral (some []) 0 run ∧
      ∃ count ∈ eventsCounted readyLiteral (some []) (.fromArgs (some []) none 60 0) run, 0 < count := by
  intro run
  have given : readyLiteral ≠ [] := by decide
  have inside : readyLiteral <:+: appended run := ⟨[120], [255], by decide⟩
  have uncut : Uncut readyLiteral run := ⟨[120], [255], by decide, by decide, by decide⟩
  exact ⟨given, uncut, (watches_find_iff given (some []) none 60 0 wholeRun (quiet 2)).mpr (fun _ => uncut) inside⟩

end Results

end Darling.Watches
