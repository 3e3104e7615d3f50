import Mathlib.Data.List.Forall2
import Darling.Closure.Commands

/-! Where the load-command parser stays inside the commands and slices that it reads, and where it does not. -/
namespace Darling.Closure

open Codecs (Bytes)
open Layouts (slice unpack findZero signed Placed)

section Layout

variable (blob : Bytes)

/-- The load commands as their sizes chain them. -/
def headers : Nat → Nat → List Command
  | 0, _ => []
  | count + 1, offset =>
    let command : Command := ⟨offset, (unpack 4 blob offset).getD 0, (unpack 4 blob (offset + 4)).getD 0⟩
    command :: headers count (offset + command.size)

/-- Where the last command ends. -/
def headersEnd : Nat → Nat → Nat
  | 0, offset => offset
  | count + 1, offset => headersEnd count (offset + (unpack 4 blob (offset + 4)).getD 0)

def commandCount : Nat := (unpack 4 blob 16).getD 0

def commandEnd : Nat := 32 + (unpack 4 blob 20).getD 0

/-- The load commands of a slice, if it is one of the supported kind. -/
def commands : List Command := if isMachO blob then headers blob (commandCount blob) 32 else []

variable (command : Command)

def nameStart : Nat := command.offset + (unpack 4 blob (command.offset + 8)).getD 0

def nameOf : Bytes :=
  match findZero blob (nameStart blob command) with
  | some stop => slice blob (nameStart blob command) stop
  | none => slice blob (nameStart blob command) (blob.length - 1)

def rangeAt (place : Nat) : Nat × Nat := ((unpack 4 blob place).getD 0, (unpack 4 blob (place + 4)).getD 0)

/-- The header of a command stands in the command area, and so does the command. -/
def Framed (stop : Nat) : Prop := command.offset + 8 ≤ stop ∧ 8 ≤ command.size ∧ command.offset + command.size ≤ stop

/-- The operands that are read without a check of the command's size end after the slice. -/
def Truncated : Prop :=
  match kindOf command.cmd with
  | .dylib | .rpath | .id => blob.length < command.offset + 12
  | .dyldInfo => blob.length < command.offset + 40
  | .exportsTrie => blob.length < command.offset + 16
  | _ => False

/-- The checks of the parser for one kind of command. -/
def Checked : Prop :=
  match kindOf command.cmd with
  | .segment => 72 ≤ command.size ∧
      (unpack 8 blob (command.offset + 40)).getD 0 + (unpack 8 blob (command.offset + 48)).getD 0 ≤ blob.length
  | .uuid => 24 ≤ command.size
  | .chainedFixups => 16 ≤ command.size ∧
      (rangeAt blob (command.offset + 8)).1 + (rangeAt blob (command.offset + 8)).2 ≤ blob.length
  | _ => True

/-- The name ends with a zero inside its command. -/
def NameFits : Prop :=
  ∃ stop, findZero blob (nameStart blob command) = some stop ∧ stop < command.offset + command.size

/-- The range lies inside the slice. -/
def RangeFits (place : Nat) : Prop := (rangeAt blob place).1 + (rangeAt blob place).2 ≤ blob.length

end Layout

/-- The commands of one kind, in order. -/
def ofKind (kind : Kind) (commands : List Command) : List Command := commands.filter (kindOf ·.cmd = kind)

section Property

variable (blob : Bytes)

/-- The name is the zero-terminated string at the offset that the command records, and all of it is in the command. -/
def Named (command : Command) (name : Bytes) : Prop :=
  Placed blob (nameStart blob command) (name ++ [0]) ∧ 0 ∉ name ∧
    nameStart blob command + name.length < command.offset + command.size

/-- The blob is the recorded range of the slice, and all of it is in the slice. -/
def Linked (place : Nat) (data : Bytes) : Prop :=
  data.length = (rangeAt blob place).2 ∧ (rangeAt blob place).1 + data.length ≤ blob.length ∧
    Placed blob (rangeAt blob place).1 data

/-- What a returned slice owes to its load commands. A later id, dyld-info, exports-trie or fixups command replaces
the one before. -/
structure Confined (entry : Entry) : Prop where
  dylibs : List.Forall₂ (fun command dylib => Named blob command dylib.name)
    (ofKind .dylib (commands blob)) entry.dylibs
  rpaths : List.Forall₂ (Named blob) (ofKind .rpath (commands blob)) entry.rpaths
  id : ∀ name, entry.dylibId = some name →
    ∃ command, (ofKind .id (commands blob)).getLast? = some command ∧ Named blob command name
  fixups : ∀ data, entry.chainedFixups = some data →
    ∃ command, (ofKind .chainedFixups (commands blob)).getLast? = some command ∧ Linked blob (command.offset + 8) data
  info : ∀ info, entry.dyldInfo = some info →
    ∃ command, (ofKind .dyldInfo (commands blob)).getLast? = some command ∧
      Linked blob (command.offset + 16) info.bind ∧
      Linked blob (command.offset + 24) info.weakBind ∧ Linked blob (command.offset + 32) info.lazyBind
  trie : ∀ data, entry.exportsTrie = some data →
    ∃ command, (ofKind .exportsTrie (commands blob)).getLast? = some command ∧ Linked blob (command.offset + 8) data

/-- Every name and every range that the parser does not check fits. -/
structure Fits : Prop where
  names : ∀ command ∈ commands blob, kindOf command.cmd = .dylib ∨ kindOf command.cmd = .rpath → NameFits blob command
  id : ∀ command, (ofKind .id (commands blob)).getLast? = some command → NameFits blob command
  info : ∀ command, (ofKind .dyldInfo (commands blob)).getLast? = some command →
    RangeFits blob (command.offset + 16) ∧ RangeFits blob (command.offset + 24) ∧ RangeFits blob (command.offset + 32)
  trie : ∀ command, (ofKind .exportsTrie (commands blob)).getLast? = some command → RangeFits blob (command.offset + 8)

end Property

section Reading

variable {blob : Bytes} {command : Command}

theorem field_ok {width offset : Nat} (inside : offset + width ≤ blob.length) :
    field width blob offset = .ok ((unpack width blob offset).getD 0) := by
  simp [field, unpack, inside]

theorem field_short {width offset : Nat} (outside : blob.length < offset + width) :
    field width blob offset = .error .structError := by
  have not : ¬ offset + width ≤ blob.length := by omega
  simp [field, unpack, not]

theorem readName_ok (inside : command.offset + 12 ≤ blob.length) :
    readName blob command = .ok (nameOf blob command) := by
  rw [readName, field_ok (by omega)]
  unfold nameOf nameStart
  simp only [bind, Except.bind]
  split <;> simp_all [pure, Except.pure]

theorem readName_short (outside : blob.length < command.offset + 12) : readName blob command = .error .structError := by
  rw [readName, field_short (by omega)]
  rfl

theorem readRange_ok {place : Nat} (inside : place + 8 ≤ blob.length) :
    readRange blob place = .ok (rangeAt blob place) := by
  rw [readRange, field_ok (by omega), field_ok (by omega)]
  rfl

theorem readRange_short {place : Nat} (outside : blob.length < place + 8) :
    readRange blob place = .error .structError := by
  rw [readRange]
  by_cases half : place + 4 ≤ blob.length
  · rw [field_ok half, field_short (by omega : blob.length < place + 4 + 4)]
    rfl
  · rw [field_short (by omega)]
    rfl

def infoOf (blob : Bytes) (command : Command) : DyldInfo :=
  ⟨ranged blob (rangeAt blob (command.offset + 16)), ranged blob (rangeAt blob (command.offset + 24)),
    ranged blob (rangeAt blob (command.offset + 32))⟩

theorem readDyldInfo_ok (inside : command.offset + 40 ≤ blob.length) :
    readDyldInfo blob command = .ok (infoOf blob command) := by
  rw [readDyldInfo, readRange_ok (by omega), readRange_ok (by omega), readRange_ok (by omega), readRange_ok (by omega)]
  rfl

theorem readDyldInfo_short (outside : blob.length < command.offset + 40) :
    readDyldInfo blob command = .error .structError := by
  have either (place : Nat) : readRange blob place = .error .structError ∨
      ∃ range, readRange blob place = .ok range := by
    rcases Nat.lt_or_ge blob.length (place + 8) with short | whole
    · exact .inl (readRange_short short)
    · exact .inr ⟨_, readRange_ok whole⟩
  rw [readDyldInfo, readRange_short (by omega : blob.length < command.offset + 32 + 8)]
  rcases either (command.offset + 8) with ran | ⟨_, ran⟩
  · rw [ran]
    rfl
  rcases either (command.offset + 16) with later | ⟨_, later⟩
  · rw [ran, later]
    rfl
  rcases either (command.offset + 24) with last | ⟨_, last⟩
  · rw [ran, later, last]
    rfl
  · rw [ran, later, last]
    rfl

/-- What the commands leave in the entry of their slice. -/
structure Recorded (blob : Bytes) (commands : List Command) (before after : Entry) : Prop where
  dylibs : after.dylibs = before.dylibs ++ (ofKind .dylib commands).map fun command =>
    ⟨nameOf blob command, command.cmd == 0x80000018, command.cmd == 0x8000001F⟩
  rpaths : after.rpaths = before.rpaths ++ (ofKind .rpath commands).map (nameOf blob)
  id : after.dylibId = ((ofKind .id commands).getLast?.map (nameOf blob)).or before.dylibId
  fixups : after.chainedFixups = ((ofKind .chainedFixups commands).getLast?.map fun command =>
    ranged blob (rangeAt blob (command.offset + 8))).or before.chainedFixups
  info : after.dyldInfo = ((ofKind .dyldInfo commands).getLast?.map (infoOf blob)).or before.dyldInfo
  trie : after.exportsTrie = ((ofKind .exportsTrie commands).getLast?.map fun command =>
    ranged blob (rangeAt blob (command.offset + 8))).or before.exportsTrie

theorem Recorded.nil {entry : Entry} : Recorded blob [] entry entry := by
  constructor <;> simp [ofKind]

theorem Recorded.append {first second : List Command} {before middle after : Entry}
    (here : Recorded blob first before middle)
    (there : Recorded blob second middle after) : Recorded blob (first ++ second) before after := by
  have last {β : Type} {value : Command → β} (kind : Kind) (old : Option β) :
      ((ofKind kind second).getLast?.map value).or (((ofKind kind first).getLast?.map value).or old) =
        ((ofKind kind (first ++ second)).getLast?.map value).or old := by
    rw [ofKind, ofKind, ofKind, List.filter_append, List.getLast?_append, Option.map_or, Option.or_assoc]
  constructor
  · rw [there.dylibs, here.dylibs, ofKind, ofKind, ofKind, List.filter_append, List.map_append, List.append_assoc]
  · rw [there.rpaths, here.rpaths, ofKind, ofKind, ofKind, List.filter_append, List.map_append, List.append_assoc]
  · rw [there.id, here.id, last]
  · rw [there.fixups, here.fixups, last]
  · rw [there.info, here.info, last]
  · rw [there.trie, here.trie, last]

/-- How one command can end. -/
inductive Ends (blob : Bytes) (command : Command) (before : Entry) : Decoded Entry → Prop where
  | read {after : Entry} (checked : Checked blob command) (whole : ¬ Truncated blob command)
      (recorded : Recorded blob [command] before after) : Ends blob command before (.ok after)
  | refused {message : String} (unchecked : ¬ Checked blob command) :
      Ends blob command before (.error (.valueError message))
  | broken (truncated : Truncated blob command) : Ends blob command before (.error .structError)

/-- The kinds with a check of their size are not those that can be cut off. -/
theorem unchecked_whole (unchecked : ¬ Checked blob command) : ¬ Truncated blob command := by
  unfold Checked at unchecked
  unfold Truncated
  split at unchecked <;> simp_all

theorem readSegment_ends (size : 72 ≤ command.size) (inside : command.offset + command.size ≤ blob.length) :
    (∃ segment, readSegment blob command = .ok segment ∧
      (unpack 8 blob (command.offset + 40)).getD 0 + (unpack 8 blob (command.offset + 48)).getD 0 ≤ blob.length) ∨
    (∃ message, readSegment blob command = .error (.valueError message)) ∧
      ¬ (unpack 8 blob (command.offset + 40)).getD 0 + (unpack 8 blob (command.offset + 48)).getD 0 ≤ blob.length := by
  have fields : (readSegment blob command) = (do
      require ((unpack 8 blob (command.offset + 40)).getD 0 + (unpack 8 blob (command.offset + 48)).getD
        0 ≤ blob.length)
        (.valueError "segment file range outside slice")
      return ⟨((slice blob (command.offset + 8) (command.offset + 24)).reverse.dropWhile (· == 0)).reverse,
        (unpack 8 blob (command.offset + 24)).getD 0, (unpack 8 blob (command.offset + 32)).getD 0,
        (unpack 8 blob (command.offset + 40)).getD 0, (unpack 8 blob (command.offset + 48)).getD 0⟩) := by
    rw [readSegment, field_ok (by omega), field_ok (by omega), field_ok (by omega), field_ok (by omega)]
    simp [require, size, bind, Except.bind]
  rw [fields]
  by_cases fits : (unpack 8 blob (command.offset + 40)).getD 0 + (unpack 8 blob (command.offset + 48)).getD
    0 ≤ blob.length
  · exact .inl ⟨_, by simp only [require, fits, ↓reduceIte]; rfl, fits⟩
  · exact .inr ⟨⟨_, by simp only [require, fits, ↓reduceIte]; rfl⟩, fits⟩

/-- A command ends as its layout says. -/
theorem readCommand_ends (entry : Entry) (inside : command.offset + command.size ≤ blob.length) :
    Ends blob command entry (readCommand blob entry command) := by
  cases kind : kindOf command.cmd with
  | other =>
    simp only [readCommand, kind]
    exact .read (by simp [Checked, kind]) (by simp [Truncated, kind]) (by constructor <;> simp [ofKind, kind])
  | segment =>
    simp only [readCommand, kind]
    by_cases size : 72 ≤ command.size
    · rcases readSegment_ends size inside with ⟨segment, ran, fits⟩ | ⟨⟨message, ran⟩, wide⟩
      · rw [ran]
        exact .read (by simp [Checked, kind, size, fits]) (by simp [Truncated, kind])
          (by constructor <;> simp [ofKind, kind])
      · rw [ran]
        exact .refused (by simp only [Checked, kind]; omega)
    · rw [readSegment, require, if_neg size]
      exact .refused (by simp only [Checked, kind]; omega)
  | uuid =>
    simp only [readCommand, kind]
    by_cases size : 24 ≤ command.size
    · rw [require, if_pos size]
      exact .read (by simp [Checked, kind, size]) (by simp [Truncated, kind]) (by constructor <;> simp [ofKind, kind])
    · rw [require, if_neg size]
      exact .refused (by simpa [Checked, kind] using size)
  | dylib =>
    simp only [readCommand, kind]
    by_cases short : blob.length < command.offset + 12
    · rw [readName_short short]
      exact .broken (by simpa [Truncated, kind] using short)
    · rw [readName_ok (by omega)]
      exact .read (by simp [Checked, kind]) (by simp only [Truncated, kind]; omega)
        (by constructor <;> simp [ofKind, kind])
  | rpath =>
    simp only [readCommand, kind]
    by_cases short : blob.length < command.offset + 12
    · rw [readName_short short]
      exact .broken (by simpa [Truncated, kind] using short)
    · rw [readName_ok (by omega)]
      exact .read (by simp [Checked, kind]) (by simp only [Truncated, kind]; omega)
        (by constructor <;> simp [ofKind, kind])
  | id =>
    simp only [readCommand, kind]
    by_cases short : blob.length < command.offset + 12
    · rw [readName_short short]
      exact .broken (by simpa [Truncated, kind] using short)
    · rw [readName_ok (by omega)]
      exact .read (by simp [Checked, kind]) (by simp only [Truncated, kind]; omega)
        (by constructor <;> simp [ofKind, kind])
  | chainedFixups =>
    simp only [readCommand, kind]
    by_cases size : 16 ≤ command.size
    · rw [require, if_pos size, readRange_ok (by omega)]
      by_cases fits : (rangeAt blob (command.offset + 8)).1 + (rangeAt blob (command.offset + 8)).2 ≤ blob.length
      · simp only [require, fits, ↓reduceIte, bind, Except.bind]
        exact .read (by simp [Checked, kind, size, fits]) (by simp [Truncated, kind])
          (by constructor <;> simp [ofKind, kind])
      · simp only [require, fits, ↓reduceIte, bind, Except.bind]
        exact .refused (by simp only [Checked, kind]; omega)
    · rw [require, if_neg size]
      exact .refused (by simp only [Checked, kind]; omega)
  | dyldInfo =>
    simp only [readCommand, kind]
    by_cases short : blob.length < command.offset + 40
    · rw [readDyldInfo_short short]
      exact .broken (by simpa [Truncated, kind] using short)
    · rw [readDyldInfo_ok (by omega)]
      exact .read (by simp [Checked, kind]) (by simp only [Truncated, kind]; omega)
        (by constructor <;> simp [ofKind, kind])
  | exportsTrie =>
    simp only [readCommand, kind]
    by_cases short : blob.length < command.offset + 16
    · rw [readRange_short (by omega)]
      exact .broken (by simpa [Truncated, kind] using short)
    · rw [readRange_ok (by omega)]
      exact .read (by simp [Checked, kind]) (by simp only [Truncated, kind]; omega)
        (by constructor <;> simp [ofKind, kind])

/-- The commands have their headers in the command area and pass the checks, and they fill the area. -/
def Sound (blob : Bytes) (stop : Nat) (commands : List Command) : Prop :=
  ∀ command ∈ commands, Framed command stop ∧ Checked blob command

/-- No command that is reached is cut off by the end of the slice. -/
def Clear (blob : Bytes) (stop : Nat) (commands : List Command) : Prop :=
  ReachedAll (fun command => Framed command stop ∧ Checked blob command)
    (fun command => Framed command stop → ¬ Truncated blob command) commands

/-- How the loop can end. -/
inductive LoopEnds (blob : Bytes) (stop count offset : Nat) (before : Entry) : Decoded Entry → Prop where
  | read {after : Entry} (sound : Sound blob stop (headers blob count offset))
      (filled : headersEnd blob count offset = stop)
      (clear : Clear blob stop (headers blob count offset))
      (recorded : Recorded blob (headers blob count offset) before after) :
      LoopEnds blob stop count offset before (.ok after)
  | refused {message : String} (clear : Clear blob stop (headers blob count offset))
      (unsound : ¬ (Sound blob stop (headers blob count offset) ∧ headersEnd blob count offset = stop)) :
      LoopEnds blob stop count offset before (.error (.valueError message))
  | broken (cut : ¬ Clear blob stop (headers blob count offset)) :
      LoopEnds blob stop count offset before (.error .structError)

theorem readHeader_ends {stop offset : Nat} (inside : stop ≤ blob.length) :
    let command : Command := ⟨offset, (unpack 4 blob offset).getD 0, (unpack 4 blob (offset + 4)).getD 0⟩
    (Framed command stop ∧ readHeader blob stop offset = .ok command) ∨
      (¬ Framed command stop ∧ ∃ message, readHeader blob stop offset = .error (.valueError message)) := by
  intro command
  by_cases room : offset + 8 ≤ stop
  · rw [readHeader, require, if_pos room, field_ok (by omega), field_ok (by omega)]
    by_cases size : 8 ≤ (unpack 4 blob (offset + 4)).getD 0 ∧ offset + (unpack 4 blob (offset + 4)).getD 0 ≤ stop
    · refine .inl ⟨⟨room, size⟩, ?_⟩
      simp only [require, size, bind, Except.bind]
      rfl
    · refine .inr ⟨fun framed => size framed.2, "invalid load command size", ?_⟩
      simp only [require, size, bind, Except.bind]
      rfl
  · refine .inr ⟨fun framed => room framed.1, "truncated load command", ?_⟩
    rw [readHeader, require, if_neg room]
    rfl

theorem readCommands_ends {stop : Nat} (inside : stop ≤ blob.length) (count offset : Nat) (entry : Entry) :
    LoopEnds blob stop count offset entry (readCommands blob stop count offset entry) := by
  induction count generalizing offset entry with
  | zero =>
    have none : Clear blob stop (headers blob 0 offset) := True.intro
    by_cases filled : offset = stop
    · rw [readCommands, require, if_pos filled]
      exact .read (by simp [Sound, headers]) filled none Recorded.nil
    · rw [readCommands, require, if_neg filled]
      exact .refused none fun both => filled both.2
  | succ count induction =>
    rw [readCommands]
    rcases readHeader_ends inside with ⟨framed, ran⟩ | ⟨unframed, message, ran⟩
    · rw [ran]
      simp only [bind, Except.bind]
      generalize ended : readCommand blob entry _ = result
      have ends := readCommand_ends entry (Nat.le_trans framed.2.2 inside)
      rw [ended] at ends
      cases ends with
      | read checked whole recorded =>
        rename_i after
        have later := induction (offset + (unpack 4 blob (offset + 4)).getD 0) after
        change LoopEnds blob stop (count + 1) offset entry
          (readCommands blob stop count (offset + (unpack 4 blob (offset + 4)).getD 0) after)
        generalize readCommands blob stop count (offset + (unpack 4 blob (offset + 4)).getD 0) after = final at later ⊢
        cases later with
        | read sound filled clear more =>
          refine .read (fun command member => ?_) filled ⟨fun _ => whole, fun _ => clear⟩ (recorded.append more)
          rcases List.mem_cons.mp member with rfl | member
          · exact ⟨framed, checked⟩
          · exact sound command member
        | refused clear unsound =>
          refine .refused ⟨fun _ => whole, fun _ => clear⟩ fun both => unsound ⟨fun command member => ?_, both.2⟩
          exact both.1 command (List.mem_cons_of_mem _ member)
        | broken cut =>
          exact .broken fun clear => cut (clear.2 ⟨framed, checked⟩)
      | refused unchecked =>
        refine .refused ⟨fun _ => unchecked_whole unchecked, fun passed => absurd passed.2 unchecked⟩ ?_
        exact fun both => unchecked (both.1 _ List.mem_cons_self).2
      | broken truncated =>
        exact .broken fun clear => clear.1 framed truncated
    · rw [ran]
      refine .refused ⟨fun framed => absurd framed unframed, fun passed => absurd passed.1 unframed⟩ ?_
      exact fun both => unframed (both.1 _ List.mem_cons_self).1

end Reading

section Entries

variable {blob : Bytes} {command : Command}

theorem named_iff : Named blob command (nameOf blob command) ↔ NameFits blob command := by
  constructor
  · rintro ⟨placed, clean, inside⟩
    exact ⟨_, placed.findZero clean, inside⟩
  · rintro ⟨stop, found, inside⟩
    have same : nameOf blob command = slice blob (nameStart blob command) stop := by simp [nameOf, found]
    obtain ⟨placed, clean, ends⟩ := Layouts.findZero_some found
    rw [same]
    exact ⟨placed, clean, ends ▸ inside⟩

theorem linked_iff {place : Nat} : Linked blob place (ranged blob (rangeAt blob place)) ↔ RangeFits blob place := by
  have sized : (ranged blob (rangeAt blob place)).length =
      min (rangeAt blob place).2 (blob.length - (rangeAt blob place).1) := by
    rw [ranged, Layouts.slice_eq, List.length_take, List.length_drop, Nat.add_sub_cancel_left]
  constructor
  · rintro ⟨exact_, inside, -⟩
    rwa [exact_] at inside
  · intro fits
    unfold RangeFits at fits
    refine ⟨by omega, by omega, ?_⟩
    rw [ranged, Layouts.slice_eq]
    exact List.take_prefix _ _

/-- A field that the last command of its kind sets. -/
theorem last_iff {β : Type} {kind : Kind} {value : Command → β} (good : Command → β → Prop) (fits : Command → Prop)
    {recorded : Option β} {commands : List Command} (same : recorded = (ofKind kind commands).getLast?.map value)
    (each : ∀ command, good command (value command) ↔ fits command) :
    (∀ found, recorded = some found → ∃ command, (ofKind kind commands).getLast? = some command ∧ good command found) ↔
      ∀ command, (ofKind kind commands).getLast? = some command → fits command := by
  subst same
  cases last : (ofKind kind commands).getLast? with
  | none => simp
  | some command => simp [each]

/-- Nothing has been recorded in the entry. -/
structure Blank (entry : Entry) : Prop where
  dylibs : entry.dylibs = []
  rpaths : entry.rpaths = []
  id : entry.dylibId = none
  fixups : entry.chainedFixups = none
  info : entry.dyldInfo = none
  trie : entry.exportsTrie = none

/-- A new entry that the commands of its slice are recorded in is confined exactly if they fit. -/
theorem Recorded.confined_iff {before after : Entry} (recorded : Recorded blob (commands blob) before after)
    (blank : Blank before) (checked : ∀ command ∈ commands blob, Checked blob command) : Confined blob after ↔
    Fits blob := by
  have named := last_iff (Named blob) (NameFits blob) (by simpa [blank.id] using recorded.id) fun _ => named_iff
  have linked := last_iff (fun command data => Linked blob (command.offset + 8) data)
    (fun command => RangeFits blob (command.offset + 8)) (by simpa [blank.fixups] using recorded.fixups) fun _ =>
      linked_iff
  have tries := last_iff (fun command data => Linked blob (command.offset + 8) data)
    (fun command => RangeFits blob (command.offset + 8)) (by simpa [blank.trie] using recorded.trie) fun _ => linked_iff
  have infos := last_iff (fun command (info : DyldInfo) => Linked blob (command.offset + 16) info.bind ∧
      Linked blob (command.offset + 24) info.weakBind ∧ Linked blob (command.offset + 32) info.lazyBind)
    (fun command => RangeFits blob (command.offset + 16) ∧ RangeFits blob (command.offset + 24) ∧
      RangeFits blob (command.offset + 32))
    (by simpa [blank.info] using recorded.info) fun _ => and_congr linked_iff (and_congr linked_iff linked_iff)
  have dylibs : List.Forall₂ (fun command dylib => Named blob command dylib.name) (ofKind .dylib (commands blob))
      after.dylibs ↔
      ∀ command ∈ ofKind .dylib (commands blob), NameFits blob command := by
    rw [recorded.dylibs, blank.dylibs, List.nil_append, List.forall₂_map_right_iff, List.forall₂_same]
    exact forall₂_congr fun _ _ => named_iff
  have rpaths : List.Forall₂ (Named blob) (ofKind .rpath (commands blob)) after.rpaths ↔
      ∀ command ∈ ofKind .rpath (commands blob), NameFits blob command := by
    rw [recorded.rpaths, blank.rpaths, List.nil_append, List.forall₂_map_right_iff, List.forall₂_same]
    exact forall₂_congr fun _ _ => named_iff
  -- The range of the fixups is the one that the parser checks.
  have fixups (command : Command) (last : (ofKind .chainedFixups (commands blob)).getLast? = some command) :
      RangeFits blob (command.offset + 8) := by
    have member := List.mem_of_getLast? last
    rw [ofKind, List.mem_filter, decide_eq_true_eq] at member
    have passed := checked command member.1
    rw [Checked, member.2] at passed
    exact passed.2
  constructor
  · intro confined
    refine ⟨fun command member kind => ?_, named.mp confined.id, infos.mp confined.info, tries.mp confined.trie⟩
    rcases kind with kind | kind
    · exact dylibs.mp confined.dylibs command (by simp [ofKind, member, kind])
    · exact rpaths.mp confined.rpaths command (by simp [ofKind, member, kind])
  · intro fits
    refine ⟨dylibs.mpr fun command member => ?_, rpaths.mpr fun command member => ?_, named.mpr fits.id,
      linked.mpr fixups,
      infos.mpr fits.info, tries.mpr fits.trie⟩
    · rw [ofKind, List.mem_filter, decide_eq_true_eq] at member
      exact fits.names command member.1 (.inl member.2)
    · rw [ofKind, List.mem_filter, decide_eq_true_eq] at member
      exact fits.names command member.1 (.inr member.2)

end Entries

section Files

/-- The CPU of the architecture table is that of the header. -/
def CpuAgrees (part : Part) : Prop := part.cputype = 0 ∨ signed 32 ((unpack 4 part.blob 4).getD 0) = part.cputype

/-- The slice passes every check of the parser. -/
def Intact (part : Part) : Prop :=
  isMachO part.blob = true → CpuAgrees part ∧ commandEnd part.blob ≤ part.blob.length ∧
    Sound part.blob (commandEnd part.blob) (commands part.blob) ∧
    headersEnd part.blob (commandCount part.blob) 32 = commandEnd part.blob

/-- No load command of the slice that is reached is cut off. -/
def Unbroken (part : Part) : Prop :=
  CpuAgrees part → commandEnd part.blob ≤ part.blob.length → Clear part.blob (commandEnd part.blob) (commands part.blob)

/-- How one slice can end. -/
inductive SliceEnds (part : Part) : Decoded Entry → Prop where
  | read {entry : Entry} (intact : Intact part) (unbroken : Unbroken part) (confined : Confined part.blob entry ↔
      Fits part.blob) :
      SliceEnds part (.ok entry)
  | refused {message : String} (unbroken : Unbroken part) (flawed : ¬ Intact part) :
      SliceEnds part (.error (.valueError message))
  | broken (cut : ¬ Unbroken part) : SliceEnds part (.error .structError)

theorem loop_ends {part : Part} {entry : Entry} (macho : isMachO part.blob = true) (agrees : CpuAgrees part)
    (room : commandEnd part.blob ≤ part.blob.length) (blank : Blank entry) :
    SliceEnds part (readCommands part.blob (commandEnd part.blob) (commandCount part.blob) 32 entry) := by
  have laid : commands part.blob = headers part.blob (commandCount part.blob) 32 := by rw [commands, if_pos macho]
  have ends := readCommands_ends room (commandCount part.blob) 32 entry
  generalize readCommands part.blob (commandEnd part.blob) (commandCount part.blob) 32 entry = result at ends ⊢
  cases ends with
  | read sound filled clear recorded =>
    rw [← laid] at sound clear recorded
    refine .read (fun _ => ⟨agrees, room, sound, filled⟩) (fun _ _ => clear) (recorded.confined_iff blank ?_)
    exact fun command member => (sound command member).2
  | refused clear unsound =>
    rw [← laid] at clear unsound
    exact .refused (fun _ _ => clear) fun intact => unsound ⟨(intact macho).2.2.1, (intact macho).2.2.2⟩
  | broken cut =>
    rw [← laid] at cut
    exact .broken fun unbroken => cut (unbroken agrees room)

theorem readSlice_ends (part : Part) : SliceEnds part (readSlice part) := by
  by_cases macho : isMachO part.blob = true
  · have large : 32 ≤ part.blob.length := by
      simp only [isMachO, Bool.and_eq_true, decide_eq_true_eq] at macho
      exact macho.1
    simp only [readSlice, macho, ↓reduceIte]
    rw [field_ok (by omega), field_ok (by omega), field_ok (by omega), field_ok (by omega), field_ok (by omega)]
    simp only [bind, Except.bind]
    by_cases agrees : part.cputype = 0 ∨ signed 32 ((unpack 4 part.blob 4).getD 0) = part.cputype
    · rw [require, if_pos agrees]
      by_cases room : 32 + (unpack 4 part.blob 20).getD 0 ≤ part.blob.length
      · rw [require, if_pos room]
        exact loop_ends macho agrees room ⟨rfl, rfl, rfl, rfl, rfl, rfl⟩
      · rw [require, if_neg room]
        exact .refused (fun _ inside => absurd inside room) fun intact => room (intact macho).2.1
    · rw [require, if_neg agrees]
      exact .refused (fun cpu => absurd cpu agrees) fun intact => agrees (intact macho).1
  · have none : commands part.blob = [] := by rw [commands, if_neg macho]
    simp only [readSlice, macho]
    refine .read (fun is => absurd is macho) (fun _ _ => none ▸ True.intro) ?_
    refine Recorded.confined_iff (none ▸ Recorded.nil) ⟨rfl, rfl, rfl, rfl, rfl, rfl⟩ ?_
    simp [none]

/-- The slices pass the checks one after the other, and no load command that is reached is cut off. -/
def Unsnapped (parts : List Part) : Prop := ReachedAll Intact Unbroken parts

/-- How the loop over the slices can end. -/
inductive FileEnds (parts : List Part) : Decoded (List Entry) → Prop where
  | read {entries : List Entry} (intact : ∀ part ∈ parts, Intact part) (unsnapped : Unsnapped parts)
      (confined : List.Forall₂ (fun part entry => Confined part.blob entry) parts entries ↔
        ∀ part ∈ parts, Fits part.blob) :
      FileEnds parts (.ok entries)
  | refused {message : String} (unsnapped : Unsnapped parts) (flawed : ¬ ∀ part ∈ parts, Intact part) :
      FileEnds parts (.error (.valueError message))
  | broken (cut : ¬ Unsnapped parts) : FileEnds parts (.error .structError)

theorem readSlices_ends (parts : List Part) : FileEnds parts (parts.mapM readSlice) := by
  induction parts with
  | nil => exact .read (by simp) True.intro (by simp)
  | cons part rest induction =>
    rw [List.mapM_cons]
    have ends := readSlice_ends part
    generalize readSlice part = result at ends ⊢
    cases ends with
    | read intact unbroken confined =>
      rename_i entry
      generalize rest.mapM readSlice = later at induction ⊢
      cases induction with
      | read intacts unsnapped all =>
        rename_i entries
        refine .read (by simpa using ⟨intact, intacts⟩) ⟨unbroken, fun _ => unsnapped⟩ ?_
        rw [List.forall₂_cons, confined, all, List.forall_mem_cons]
      | refused unsnapped flawed =>
        exact .refused ⟨unbroken, fun _ => unsnapped⟩ fun all => flawed fun other member =>
          all other (List.mem_cons_of_mem _ member)
      | broken cut => exact .broken fun both => cut (both.2 intact)
    | refused unbroken flawed =>
      exact .refused ⟨unbroken, fun intact => absurd intact flawed⟩ fun all => flawed (all part List.mem_cons_self)
    | broken cut => exact .broken fun both => cut both.1

theorem bigField_ok {width : Nat} {blob : Bytes} {offset : Nat} (inside : offset + width ≤ blob.length) :
    ∃ number, bigField width blob offset = .ok number :=
  ⟨_, if_pos inside⟩

theorem readArch_sound {data : Bytes} {wide : Bool} {count index : Nat} (below : index < count)
    (room : 8 + count * stride wide ≤ data.length) : readArch data wide count index ≠ .error .structError := by
  have next : (index + 1) * stride wide ≤ count * stride wide := Nat.mul_le_mul_right _ below
  have sizes : stride wide = (index + 1) * stride wide - index * stride wide ∧ 16 ≤ stride wide ∧
      8 + 2 * archField wide ≤ stride wide := by
    rw [Nat.succ_mul]
    cases wide <;> simp [stride, archField]
  obtain ⟨cpu, first⟩ := bigField_ok (by omega : 8 + index * stride wide + 4 ≤ data.length)
  obtain ⟨sub, second⟩ := bigField_ok (by omega : 8 + index * stride wide + 4 + 4 ≤ data.length)
  obtain ⟨offset, third⟩ := bigField_ok (by omega : 8 + index * stride wide + 8 + archField wide ≤ data.length)
  obtain ⟨size, fourth⟩ := bigField_ok (by omega : 8 + index * stride wide + 8 + archField wide + archField
      wide ≤ data.length)
  simp only [readArch, first, second, third, fourth, bind, Except.bind]
  by_cases inside : 8 + count * stride wide ≤ offset ∧ 8 ≤ size ∧ offset + size ≤ data.length
  · simp [require, inside, pure, Except.pure]
  · simp [require, if_neg inside]

/-- The layout of the architecture table never lets `struct` fail. -/
theorem machoSlices_sound (data : Bytes) : machoSlices data ≠ .error .structError := by
  unfold machoSlices
  by_cases room : 8 ≤ data.length
  · obtain ⟨magic, first⟩ := bigField_ok (by omega : 0 + 4 ≤ data.length)
    obtain ⟨count, second⟩ := bigField_ok (by omega : 4 + 4 ≤ data.length)
    simp only [require, room, ↓reduceIte, first, second, bind, Except.bind]
    split
    · split
      · rename_i failed
        split at failed <;> cases failed
        simp
      · rename_i passed
        split at passed
        · rename_i table
          intro failed
          obtain ⟨index, below, broken⟩ := mapM_error failed
          exact readArch_sound (List.mem_range.mp below) table.2 broken
        · cases passed
    · simp [pure, Except.pure]
  · simp [require, room, bind, Except.bind]

/-- The parser returns or raises a `ValueError`, and what it returns is confined. -/
def ParserConfined (data : Bytes) : Prop :=
  readLoadCommands data ≠ .error .structError ∧
    ∀ entries, readLoadCommands data = .ok entries →
      ∃ parts, machoSlices data = .ok parts ∧ List.Forall₂ (fun part entry => Confined part.blob entry) parts entries

/-- No load command that is reached is cut off by the end of its slice and, if the file passes all checks, the names and
ranges that are not checked fit. -/
def WellLaid (data : Bytes) : Prop :=
  ∀ parts, machoSlices data = .ok parts → Unsnapped parts ∧
    ((∀ part ∈ parts, Intact part) → ∀ part ∈ parts, Fits part.blob)

theorem load_commands_confined_iff (data : Bytes) : ParserConfined data ↔ WellLaid data := by
  unfold ParserConfined WellLaid readLoadCommands
  cases sliced : machoSlices data with
  | error raised =>
    have other : raised ≠ .structError := fun same => machoSlices_sound data (same ▸ sliced)
    simp [bind, Except.bind, other]
  | ok parts =>
    simp only [bind, Except.bind, Except.ok.injEq, forall_eq']
    have ends := readSlices_ends parts
    generalize parts.mapM readSlice = result at ends ⊢
    cases ends with
    | read intact unsnapped confined =>
      simp only [ne_eq, reduceCtorEq, not_false_eq_true, Except.ok.injEq, forall_eq', true_and, exists_eq_left']
      rw [confined]
      exact ⟨fun fits => ⟨unsnapped, fun _ => fits⟩, fun both => both.2 intact⟩
    | refused unsnapped flawed => simp [unsnapped, flawed]
    | broken cut => simp [cut]

/-- An image whose only command is a dylib command of eight bytes at the end of the file. -/
def bareDylib : Bytes :=
  [0xCF, 0xFA, 0xED, 0xFE, 7, 0, 0, 1, 3, 0, 0, 0, 2, 0, 0, 0, 1, 0, 0, 0, 8, 0, 0, 0, 0x85, 0, 0x20, 0, 0, 0, 0, 0] ++
    [0xC, 0, 0, 0, 8, 0, 0, 0]

theorem bare_dylib_struct_error : ¬ ParserConfined bareDylib := by
  intro confined
  exact confined.1 (by rfl)

end Files

end Darling.Closure
