import Darling.Diag.Selection

/-! `failure_excerpt`: the lines around the failure records of a text, within limits on rows and bytes. -/
namespace Darling.Diag

section Texts

/-- `str::len`. -/
def utf8Len (text : Text) : Nat := (text.map Char.utf8Size).sum

/-- `&line[..end]` for the last character boundary that does not lie behind `end`. -/
def cut : Nat → Text → Text
  | _, [] => []
  | stop, c :: rest => if c.utf8Size ≤ stop then c :: cut (stop - c.utf8Size) rest else []

def startsWith (key : String) (line : Text) : Bool := key.toList.isPrefixOf line

def endsWith (key : String) (line : Text) : Bool := key.toList.isSuffixOf line

def containsText (key : String) (line : Text) : Bool := line.tails.any (startsWith key)

/-- `split_once` at a string. -/
def splitOnceAt (separator : String) : Text → Option (Text × Text)
  | [] => if separator.toList = [] then some ([], []) else none
  | c :: rest =>
    if startsWith separator (c :: rest) then some ([], (c :: rest).drop separator.toList.length)
    else (splitOnceAt separator rest).map fun (before, behind) => (c :: before, behind)

@[simp] theorem utf8Len_append (first second : Text) : utf8Len (first ++ second) = utf8Len first + utf8Len second := by
  simp [utf8Len]

theorem cut_len (stop : Nat) (line : Text) : utf8Len (cut stop line) ≤ stop := by
  induction line generalizing stop with
  | nil => simp [cut, utf8Len]
  | cons c rest ih =>
    unfold cut
    split
    · have := ih (stop - c.utf8Size)
      simp only [utf8Len, List.map_cons, List.sum_cons] at this ⊢
      omega
    · simp [utf8Len]

end Texts

section Records

/-- CTest may put the index of its test before the output that it captured. -/
def withoutIndex (line : Text) : Text :=
  match splitOnceAt ": " line with
  | some (index, rest) => if index ≠ [] ∧ index.all (fun c => '0' ≤ c && c ≤ '9') then rest else line
  | none => line

/-- What `dyld: ` or `dyld[...]: ` introduces. -/
def dyldMessage (line : Text) : Option Text :=
  (valueOf "dyld: " line).or ((valueOf "dyld[" line).bind fun rest => (splitOnceAt "]: " rest).map (·.2))

/-- `is_failure_record`; the diagnostics of compilers, linkers and shells are recognised by a fixed regular
expression. -/
def isFailureRecord (failure : Text → Bool) (text : Text) : Bool :=
  let line := withoutIndex (text.dropWhile isWhitespace)
  startsWith "Assertion failed:" line || startsWith "assertion failed:" line ||
    (containsText ": Assertion " line && endsWith " failed." line) ||
    (startsWith "thread '" line && containsText " panicked at " line) ||
    startsWith "panic: " line || startsWith "PANIC: " line || startsWith "panic(cpu " line ||
    startsWith "dserver-CRASH" line || startsWith "[dserver-CRASH" line ||
    startsWith "fatal error:" line ||
    startsWith "Binding the unix socket:" line ||
    startsWith "Cannot remove prefix state entry " line ||
    (containsText " mismatch: expected " line && containsText ", actual " line) ||
    (dyldMessage line).any (fun message =>
      ["Library not loaded:", "Symbol not found:", "lazy symbol binding failed:"].any (startsWith · message)) ||
    failure line

end Records

section Code

structure FailureExcerpt where
  rows : List (Nat × Text) := []
  sourceLines : Nat := 0
  matched : Nat := 0
  omitted : Bool := false
  deriving DecidableEq

def marker : Text := "... [excerpt line truncated]".toList

/-- What `add` changes. -/
structure Rows where
  rows : List (Nat × Text) := []
  bytes : Nat := 0
  omitted : Bool := false
  deriving DecidableEq

namespace Rows

def available (out : Rows) : Nat := min (16 * 1024 - out.bytes) 2048

def push (out : Rows) (number : Nat) (rendered : Text) : Rows :=
  { out with rows := out.rows ++ [(number, rendered)], bytes := out.bytes + utf8Len rendered }

def lose (out : Rows) : Rows := { out with omitted := true }

/-- The row of this number, or a later one, is there. -/
def passed (out : Rows) (number : Nat) : Bool := out.rows.getLast?.any fun last => number ≤ last.1

def add (out : Rows) (numbered : Nat × Text) : Rows :=
  let (number, line) := numbered
  if number = 0 ∨ out.passed number then out
  else if out.rows.length = 24 ∨ out.available = 0 then out.lose
  else if utf8Len line ≤ out.available then out.push number line
  else if out.available < utf8Len marker then out.lose
  else (out.push number (cut (out.available - utf8Len marker) line ++ marker)).lose

end Rows

/-- The variables of the loop over the lines. -/
structure Pass where
  out : Rows := {}
  sourceLines : Nat := 0
  matched : Nat := 0
  after : Nat := 0
  older : Nat × Text := (0, [])
  newer : Nat × Text := (0, [])

variable (isFailure : Text → Bool)

def Pass.round (pass : Pass) (line : Text) : Pass :=
  let number := pass.sourceLines + 1
  let pass :=
    if isFailure line then
      { pass with
        matched := pass.matched + 1
        out := ((pass.out.add pass.older).add pass.newer).add (number, line)
        after := 2 }
    else if 0 < pass.after then { pass with out := pass.out.add (number, line), after := pass.after - 1 }
    else pass
  { pass with sourceLines := number, older := pass.newer, newer := (number, line) }

end Code

/-- `failure_excerpt`. -/
def failureExcerpt (failure : Text → Bool) (text : Text) : FailureExcerpt :=
  let pass := (lines text).foldl (Pass.round (isFailureRecord failure)) {}
  { rows := pass.out.rows, sourceLines := pass.sourceLines, matched := pass.matched, omitted := pass.out.omitted }

section Calls

/-- A call names a row for the first time only behind all that were named. -/
inductive Orderly : List (Nat × Text) → Prop where
  | nil : Orderly []
  | call {calls : List (Nat × Text)} {numbered : Nat × Text} (before : Orderly calls)
      (next : numbered.1 = 0 ∨ numbered ∈ calls ∨ ∀ other ∈ calls, other.1 < numbered.1) : Orderly (calls ++ [numbered])

/-- The line can no longer be added as it is. -/
def Rows.Blocked (out : Rows) (numbered : Nat × Text) : Prop :=
  numbered.1 = 0 ∨ out.passed numbered.1 = true ∨ out.rows.length = 24 ∨ out.available = 0 ∨
    out.available < utf8Len numbered.2

/-- The rows are within the limits and come from calls. -/
structure Rows.Bounded (calls : List (Nat × Text)) (out : Rows) : Prop where
  capped : out.rows.length ≤ 24
  counted : (out.rows.map fun row => utf8Len row.2).sum = out.bytes
  bounded : out.bytes ≤ 16 * 1024
  ascending : out.rows.Pairwise fun lower upper => lower.1 < upper.1
  called : ∀ row ∈ out.rows, row ∈ calls ∨ ((∃ line, (row.1, line) ∈ calls) ∧ marker <:+ row.2)
  positive : ∀ row ∈ out.rows, row.1 ≠ 0

/-- And what was called is there, or something of it is lost. -/
structure Rows.Kept (calls : List (Nat × Text)) (out : Rows) : Prop extends Rows.Bounded calls out where
  whole : out.omitted = false → ∀ row, row ∈ out.rows ↔ row ∈ calls ∧ row.1 ≠ 0
  lost : out.omitted = true → ∃ numbered ∈ calls, numbered.1 ≠ 0 ∧ numbered ∉ out.rows ∧ out.Blocked numbered

variable {out : Rows} {calls : List (Nat × Text)} {number : Nat} {line rendered : Text}

theorem Rows.passed_iff (ascending : out.rows.Pairwise fun lower upper => lower.1 < upper.1) :
    out.passed number = true ↔ ∃ row ∈ out.rows, number ≤ row.1 := by
  unfold Rows.passed
  rcases List.eq_nil_or_concat out.rows with none | ⟨before, last, rows⟩
  · simp [none]
  · rw [List.concat_eq_append] at rows
    rw [rows, List.pairwise_append] at ascending
    simp only [rows, List.getLast?_append, List.getLast?_singleton, Option.some_or, Option.any_some, decide_eq_true_eq]
    refine ⟨fun small => ⟨last, by simp, small⟩, fun ⟨row, listed, small⟩ => ?_⟩
    rcases List.mem_append.mp listed with early | same
    · exact Nat.le_trans small (Nat.le_of_lt (ascending.2.2 row early last (by simp)))
    · exact List.mem_singleton.mp same ▸ small

theorem Rows.passed_push : (out.push number rendered).passed number = true := by
  simp [Rows.passed, Rows.push]

/-- Room for the row, behind the others. -/
structure Rows.Fits (out : Rows) (number : Nat) (rendered : Text) : Prop where
  positive : number ≠ 0
  behind : ¬out.passed number = true
  rows : out.rows.length ≠ 24
  bytes : utf8Len rendered ≤ out.available
  some : out.available ≠ 0

/-- What a call of `add` does. -/
theorem Rows.add_cases (out : Rows) (number : Nat) (line : Text) :
    (out.add (number, line) = out ∧ (number = 0 ∨ out.passed number = true)) ∨
    (out.add (number, line) = out.lose ∧ number ≠ 0 ∧ ¬out.passed number = true ∧ out.Blocked (number, line)) ∨
    (out.add (number, line) = out.push number line ∧ out.Fits number line) ∨
    ∃ rendered, out.add (number, line) = (out.push number rendered).lose ∧ out.Fits number rendered ∧
      marker <:+ rendered ∧ utf8Len rendered < utf8Len line := by
  by_cases skipped : number = 0 ∨ out.passed number = true
  · exact .inl ⟨by simp only [Rows.add, if_pos skipped], skipped⟩
  obtain ⟨positive, behind⟩ := not_or.mp skipped
  by_cases full : out.rows.length = 24 ∨ out.available = 0
  · refine .inr (.inl ⟨by simp only [Rows.add, if_neg skipped, if_pos full], positive, behind, ?_⟩)
    exact full.elim (fun rows => .inr (.inr (.inl rows))) fun none => .inr (.inr (.inr (.inl none)))
  obtain ⟨rows, some⟩ := not_or.mp full
  by_cases short : utf8Len line ≤ out.available
  · exact .inr (.inr (.inl ⟨by simp only [Rows.add, if_neg skipped, if_neg full, if_pos short], positive, behind, rows,
      short, some⟩))
  by_cases none : out.available < utf8Len marker
  · refine .inr (.inl ⟨?_, positive, behind, .inr (.inr (.inr (.inr (Nat.lt_of_not_le short))))⟩)
    simp only [Rows.add, if_neg skipped, if_neg full, if_neg short, if_pos none]
  · have size : utf8Len (cut (out.available - utf8Len marker) line ++ marker) ≤ out.available := by
      have := cut_len (out.available - utf8Len marker) line
      rw [utf8Len_append]
      omega
    refine .inr (.inr (.inr ⟨_, ?_, ⟨positive, behind, rows, size, some⟩, List.suffix_append _ _, by omega⟩))
    simp only [Rows.add, if_neg skipped, if_neg full, if_neg short, if_neg none]

theorem Rows.Fits.fresh (fits : out.Fits number rendered) (ascending : out.rows.Pairwise fun lower upper =>
    lower.1 < upper.1) :
    ∀ row ∈ out.rows, row.1 < number := by
  intro row listed
  by_contra above
  exact fits.behind ((Rows.passed_iff ascending).mpr ⟨row, listed, Nat.le_of_not_lt above⟩)

/-- A line that could not be added cannot be added later. -/
theorem Rows.Blocked.push {numbered : Nat × Text} (blocked : out.Blocked numbered) (fits : out.Fits number rendered)
    (ascending : out.rows.Pairwise fun lower upper => lower.1 < upper.1) :
    (out.push number rendered).Blocked numbered := by
  have shrinks : (out.push number rendered).available ≤ out.available := by
    simp only [Rows.available, Rows.push]
    omega
  rcases blocked with zero | passed | rows | none | long
  · exact .inl zero
  · obtain ⟨row, listed, small⟩ := (Rows.passed_iff ascending).mp passed
    have before := fits.fresh ascending row listed
    refine .inr (.inl ?_)
    simp only [Rows.passed, Rows.push, List.getLast?_append, List.getLast?_singleton, Option.some_or, Option.any_some,
      decide_eq_true_eq]
    omega
  · exact absurd rows fits.rows
  · exact absurd none fits.some
  · exact .inr (.inr (.inr (.inr (Nat.lt_of_le_of_lt shrinks long))))

theorem Rows.Blocked.ne {numbered : Nat × Text} (blocked : out.Blocked numbered) (fits : out.Fits number rendered) :
    numbered ≠ (number, rendered) := by
  rintro rfl
  rcases blocked with zero | passed | rows | none | long
  · exact fits.positive zero
  · exact fits.behind passed
  · exact fits.rows rows
  · exact fits.some none
  · exact Nat.not_lt.mpr fits.bytes long

theorem Rows.Bounded.more (bounded : Rows.Bounded calls out) (numbered : Nat × Text) :
    Rows.Bounded (calls ++ [numbered]) out where
  capped := bounded.capped
  counted := bounded.counted
  bounded := bounded.bounded
  ascending := bounded.ascending
  called row listed := (bounded.called row listed).imp (List.mem_append_left _)
    fun ⟨⟨line, named⟩, cut⟩ => ⟨⟨line, List.mem_append_left _ named⟩, cut⟩
  positive := bounded.positive

theorem Rows.Bounded.lose (bounded : Rows.Bounded calls out) : Rows.Bounded calls out.lose := { bounded with }

theorem Rows.Bounded.push (bounded : Rows.Bounded calls out) (fits : out.Fits number rendered)
    (from_call : rendered = line ∨ marker <:+ rendered) :
    Rows.Bounded (calls ++ [(number, line)]) (out.push number rendered) where
  capped := by
    have := bounded.capped
    have := fits.rows
    simp only [Rows.push, List.length_append, List.length_singleton]
    omega
  counted := by simp [Rows.push, bounded.counted]
  bounded := by
    have room := fits.bytes
    have := bounded.bounded
    simp only [Rows.available] at room
    simp only [Rows.push]
    omega
  ascending := by
    refine List.pairwise_append.mpr ⟨bounded.ascending, List.pairwise_singleton _ _, fun row listed last added => ?_⟩
    obtain rfl := List.mem_singleton.mp added
    exact fits.fresh bounded.ascending row listed
  called row listed := by
    rcases List.mem_append.mp listed with early | added
    · exact (bounded.more (number, line)).called row early
    · obtain rfl := List.mem_singleton.mp added
      rcases from_call with rfl | cut
      · exact .inl (List.mem_append_right _ (List.mem_singleton_self _))
      · exact .inr ⟨⟨line, List.mem_append_right _ (List.mem_singleton_self _)⟩, cut⟩
  positive row listed := by
    rcases List.mem_append.mp listed with early | added
    · exact bounded.positive row early
    · exact List.mem_singleton.mp added ▸ fits.positive

/-- Something of the calls before is lost and stays lost. -/
theorem Rows.Kept.lost_push (kept : Rows.Kept calls out) (fits : out.Fits number rendered)
    (omitted : out.omitted = true) :
    ∃ numbered ∈ calls ++ [(number, line)], numbered.1 ≠ 0 ∧ numbered ∉ (out.push number rendered).rows ∧
      (out.push number rendered).Blocked numbered := by
  obtain ⟨numbered, named, positive, absent, blocked⟩ := kept.lost omitted
  refine ⟨numbered, List.mem_append_left _ named, positive, fun listed => ?_, blocked.push fits kept.ascending⟩
  rcases List.mem_append.mp listed with early | added
  · exact absent early
  · exact blocked.ne fits (List.mem_singleton.mp added)

theorem Rows.absent (ascending : out.rows.Pairwise fun lower upper => lower.1 < upper.1)
    (behind : ¬out.passed number = true) :
    (number, line) ∉ out.rows := fun listed => behind ((Rows.passed_iff ascending).mpr ⟨_, listed, Nat.le_refl number⟩)

/-- A row of this number or a later one is there, so the call is not the first to name it. -/
theorem Rows.Kept.again (kept : Rows.Kept calls out) (whole : out.omitted = false)
    (skipped : number = 0 ∨ out.passed number = true)
    (next : number = 0 ∨ (number, line) ∈ calls ∨ ∀ other ∈ calls, other.1 < number) (positive : number ≠ 0) :
    (number, line) ∈ calls := by
  rcases next with zero | named | above
  · exact absurd zero positive
  · exact named
  · obtain ⟨row, listed, small⟩ := (Rows.passed_iff kept.ascending).mp (skipped.resolve_left positive)
    have := above row ((kept.whole whole row).mp listed).1
    omega

theorem Rows.Kept.add (kept : Rows.Kept calls out)
    (next : number = 0 ∨ (number, line) ∈ calls ∨ ∀ other ∈ calls, other.1 < number) :
    Rows.Kept (calls ++ [(number, line)]) (out.add (number, line)) := by
  rcases out.add_cases number line with ⟨same, skipped⟩ | ⟨lost, positive, behind, blocked⟩ | ⟨pushed, fits⟩ |
    ⟨rendered, pushed, fits, cut, shorter⟩
  · rw [same]
    refine ⟨kept.toBounded.more _, fun whole row => ?_, fun omitted => ?_⟩
    · rw [kept.whole whole, List.mem_append, List.mem_singleton]
      constructor
      · exact fun listed => ⟨.inl listed.1, listed.2⟩
      · rintro ⟨named | rfl, positive⟩
        · exact ⟨named, positive⟩
        · exact ⟨kept.again whole skipped next positive, positive⟩
    · obtain ⟨numbered, named, rest⟩ := kept.lost omitted
      exact ⟨numbered, List.mem_append_left _ named, rest⟩
  · rw [lost]
    refine ⟨(kept.toBounded.more _).lose, fun whole => absurd whole Bool.noConfusion, fun _ => ?_⟩
    exact ⟨_, List.mem_append_right _ (List.mem_singleton_self _), positive, Rows.absent kept.ascending behind, blocked⟩
  · rw [pushed]
    refine ⟨kept.toBounded.push fits (.inl rfl), fun whole row => ?_, kept.lost_push fits⟩
    simp only [Rows.push, List.mem_append, List.mem_singleton, kept.whole whole]
    constructor
    · rintro (⟨named, positive⟩ | rfl)
      · exact ⟨.inl named, positive⟩
      · exact ⟨.inr rfl, fits.positive⟩
    · rintro ⟨named | rfl, positive⟩
      · exact .inl ⟨named, positive⟩
      · exact .inr rfl
  · rw [pushed]
    refine ⟨(kept.toBounded.push fits (.inr cut)).lose, fun whole => absurd whole Bool.noConfusion, fun _ => ?_⟩
    refine ⟨_, List.mem_append_right _ (List.mem_singleton_self _), fits.positive, fun listed =>
      ?_, .inr (.inl Rows.passed_push)⟩
    rcases List.mem_append.mp listed with early | added
    · exact Rows.absent kept.ascending fits.behind early
    · have same : line = rendered := congrArg Prod.snd (List.mem_singleton.mp added)
      exact absurd shorter (same ▸ Nat.lt_irrefl _)

theorem Orderly.kept (orderly : Orderly calls) : Rows.Kept calls (calls.foldl Rows.add {}) := by
  induction orderly with
  | nil => exact ⟨⟨by simp, rfl, by simp, .nil, by simp, by simp⟩, by simp, by simp⟩
  | call before next ih =>
    rw [List.foldl_append]
    exact ih.add next

end Calls

section Windows

variable (isFailure : Text → Bool)

/-- A line with its number from 1 on. -/
def IsLine (lines : List Text) (numbered : Nat × Text) : Prop :=
  ∃ index, numbered.1 = index + 1 ∧ lines[index]? = some numbered.2

/-- At most two lines away from a failure record. -/
def Near (lines : List Text) (number : Nat) : Prop :=
  ∃ record, IsLine lines record ∧ isFailure record.2 = true ∧ number ≤ record.1 + 2 ∧ record.1 ≤ number + 2

/-- The calls of `add` for a line. -/
def Pass.calls (pass : Pass) (line : Text) : List (Nat × Text) :=
  if isFailure line then [pass.older, pass.newer, (pass.sourceLines + 1, line)]
  else if 0 < pass.after then [(pass.sourceLines + 1, line)]
  else []

/-- The remembered line so many lines before the end. -/
def Remembered (lines : List Text) (back : Nat) (numbered : Nat × Text) : Prop :=
  if back < lines.length then numbered.1 + back = lines.length ∧ IsLine lines numbered else numbered.1 = 0

/-- What the loop knows of the lines that it has read, and the calls that it has made. -/
structure Pass.Read (lines : List Text) (calls : List (Nat × Text)) (pass : Pass) : Prop where
  out : pass.out = calls.foldl Rows.add {}
  sourceLines : pass.sourceLines = lines.length
  older : Remembered lines 1 pass.older
  newer : Remembered lines 0 pass.newer
  after : ∀ ahead, 0 < ahead → (ahead ≤ pass.after ↔ Near isFailure lines (lines.length + ahead))
  orderly : Orderly calls
  near : ∀ numbered, numbered.1 ≠ 0 → (numbered ∈ calls ↔ IsLine lines numbered ∧ Near isFailure lines numbered.1)

variable {isFailure} {lines : List Text} {calls : List (Nat × Text)} {pass : Pass} {line : Text}

theorem IsLine.bounds {numbered : Nat × Text} (listed : IsLine lines numbered) :
    0 < numbered.1 ∧ numbered.1 ≤ lines.length := by
  obtain ⟨index, number, found⟩ := listed
  have := (List.getElem?_eq_some_iff.mp found).1
  omega

theorem IsLine.unique {first second : Nat × Text} (listed : IsLine lines first) (other : IsLine lines second)
    (same : first.1 = second.1) :
    first = second := by
  obtain ⟨index, number, found⟩ := listed
  obtain ⟨index', number', found'⟩ := other
  obtain rfl : index = index' := by omega
  rw [found] at found'
  exact Prod.ext same (Option.some.inj found')

theorem isLine_append {numbered : Nat × Text} :
    IsLine (lines ++ [line]) numbered ↔ IsLine lines numbered ∨ numbered = (lines.length + 1, line) := by
  constructor
  · rintro ⟨index, number, found⟩
    rw [List.getElem?_append] at found
    split at found
    · exact .inl ⟨index, number, found⟩
    · have last := List.getElem?_eq_some_iff.mp found
      have zero : index - lines.length = 0 := by simpa using last.1
      rw [zero, List.getElem?_cons_zero] at found
      exact .inr (Prod.ext (by omega) (Option.some.inj found).symm)
  · rintro (⟨index, number, found⟩ | rfl)
    · exact ⟨index, number, by rw [List.getElem?_append_left (List.getElem?_eq_some_iff.mp found).1, found]⟩
    · exact ⟨lines.length, rfl, by simp⟩

theorem near_append {number : Nat} : Near isFailure (lines ++ [line]) number ↔ Near isFailure lines number ∨
    (isFailure line = true ∧ number ≤ lines.length + 3 ∧ lines.length ≤ number + 1) := by
  unfold Near
  simp only [isLine_append]
  constructor
  · rintro ⟨record, listed | rfl, failed, below, above⟩
    · exact .inl ⟨record, listed, failed, below, above⟩
    · exact .inr ⟨failed, by omega, by omega⟩
  · rintro (⟨record, listed, failed, below, above⟩ | ⟨failed, below, above⟩)
    · exact ⟨record, .inl listed, failed, below, above⟩
    · exact ⟨_, .inr rfl, failed, by omega, by omega⟩

theorem Remembered.append {back : Nat} {numbered : Nat × Text} (remembered : Remembered lines back numbered) :
    Remembered (lines ++ [line]) (back + 1) numbered := by
  unfold Remembered at remembered ⊢
  rw [List.length_append, List.length_singleton]
  split at remembered
  · rw [if_pos (by omega)]
    exact ⟨by omega, isLine_append.mpr (.inl remembered.2)⟩
  · rw [if_neg (by omega)]
    exact remembered

theorem Remembered.cases {back : Nat} {numbered : Nat × Text} (remembered : Remembered lines back numbered) :
    numbered.1 = 0 ∨ (numbered.1 + back = lines.length ∧ IsLine lines numbered) := by
  unfold Remembered at remembered
  split at remembered
  · exact .inr remembered
  · exact .inl remembered

theorem Remembered.eq {back : Nat} {numbered other : Nat × Text} (remembered : Remembered lines back numbered)
    (listed : IsLine lines other) (place : other.1 + back = lines.length) : other = numbered := by
  have positive := listed.bounds.1
  rw [Remembered, if_pos (by omega)] at remembered
  exact listed.unique remembered.2 (by omega)

theorem Near.close {number : Nat} (near : Near isFailure lines number) : number ≤ lines.length + 2 := by
  obtain ⟨record, listed, _, below, _⟩ := near
  have := listed.bounds
  omega

/-- Among the last lines, those before one that is near are near. -/
theorem Near.down {number lower : Nat} (near : Near isFailure lines number) (last : lines.length ≤ lower + 1)
    (less : lower ≤ number) :
    Near isFailure lines lower := by
  obtain ⟨record, listed, failed, below, _⟩ := near
  have := listed.bounds
  exact ⟨record, listed, failed, by omega, by omega⟩

namespace Pass.Read

variable (read : Pass.Read isFailure lines calls pass)

include read

theorem bound {numbered : Nat × Text} (called : numbered ∈ calls) : numbered.1 ≤ lines.length := by
  rcases Nat.eq_zero_or_pos numbered.1 with zero | positive
  · omega
  · exact ((read.near numbered (by omega)).mp called).1.bounds.2

theorem next_older : pass.older.1 = 0 ∨ pass.older ∈ calls ∨ ∀ other ∈ calls, other.1 < pass.older.1 := by
  rcases read.older.cases with zero | ⟨place, listed⟩
  · exact .inl zero
  by_cases above : ∀ other ∈ calls, other.1 < pass.older.1
  · exact .inr (.inr above)
  push Not at above
  obtain ⟨other, called, less⟩ := above
  have positive := listed.bounds.1
  have near := ((read.near other (by omega)).mp called).2
  exact .inr (.inl ((read.near _ (by omega)).mpr ⟨listed, near.down (by omega) less⟩))

theorem next_newer : pass.newer.1 = 0 ∨ pass.newer ∈ calls ++ [pass.older] ∨ ∀ other ∈ calls ++ [pass.older],
    other.1 < pass.newer.1 := by
  rcases read.newer.cases with zero | ⟨place, listed⟩
  · exact .inl zero
  by_cases named : pass.newer ∈ calls
  · exact .inr (.inl (List.mem_append_left _ named))
  refine .inr (.inr fun other called => ?_)
  have positive := listed.bounds.1
  rcases List.mem_append.mp called with before | same
  · by_contra above
    have place' := read.bound before
    have other_listed := ((read.near other (by omega)).mp before).1
    exact named (other_listed.unique listed (by omega) ▸ before)
  · obtain rfl := List.mem_singleton.mp same
    rcases read.older.cases with zero | ⟨older_place, _⟩ <;> omega

theorem remembered_bound : pass.older.1 ≤ lines.length ∧ pass.newer.1 ≤ lines.length := by
  have := read.older.cases
  have := read.newer.cases
  omega

theorem orderly_calls : Orderly (calls ++ pass.calls isFailure line) := by
  unfold Pass.calls
  rw [read.sourceLines]
  split
  · have split : calls ++ [pass.older, pass.newer, (lines.length + 1, line)] =
        calls ++ [pass.older] ++ [pass.newer] ++ [(lines.length + 1, line)] := by simp
    rw [split]
    refine .call (.call (.call read.orderly read.next_older) read.next_newer) (.inr (.inr fun other called => ?_))
    have := read.remembered_bound
    simp only [List.mem_append, List.mem_singleton] at called
    rcases called with (before | rfl) | rfl
    · exact Nat.lt_succ_of_le (read.bound before)
    · exact Nat.lt_succ_of_le this.1
    · exact Nat.lt_succ_of_le this.2
  · split
    · exact .call read.orderly (.inr (.inr fun other called => Nat.lt_succ_of_le (read.bound called)))
    · rw [List.append_nil]
      exact read.orderly

theorem near_failure (failed : isFailure line = true) {numbered : Nat × Text} (positive : numbered.1 ≠ 0) :
    numbered ∈ calls ++ [pass.older, pass.newer, (lines.length + 1, line)] ↔
      IsLine (lines ++ [line]) numbered ∧ Near isFailure (lines ++ [line]) numbered.1 := by
  simp only [List.mem_append, List.mem_cons, List.not_mem_nil, or_false, read.near numbered positive, isLine_append,
    near_append, failed,
    true_and]
  constructor
  · rintro (⟨listed, near⟩ | rfl | rfl | rfl)
    · exact ⟨.inl listed, .inl near⟩
    · obtain ⟨place, listed⟩ := read.older.cases.resolve_left positive
      exact ⟨.inl listed, .inr ⟨by omega, by omega⟩⟩
    · obtain ⟨place, listed⟩ := read.newer.cases.resolve_left positive
      exact ⟨.inl listed, .inr ⟨by omega, by omega⟩⟩
    · exact ⟨.inr rfl, .inr ⟨Nat.le_add_right _ 2, Nat.le_add_right _ 2⟩⟩
  · rintro ⟨listed | rfl, near⟩
    · rcases near with near | ⟨below, above⟩
      · exact .inl ⟨listed, near⟩
      · have bounds := listed.bounds
        rcases Nat.lt_or_ge numbered.1 lines.length with less | all
        · exact .inr (.inl (read.older.eq listed (by omega)))
        · exact .inr (.inr (.inl (read.newer.eq listed (by omega))))
    · exact .inr (.inr (.inr rfl))

theorem near_quiet (quiet : isFailure line = false) {numbered : Nat × Text} (positive : numbered.1 ≠ 0) :
    numbered ∈ calls ++ (if 0 < pass.after then [(lines.length + 1, line)] else []) ↔
      IsLine (lines ++ [line]) numbered ∧ Near isFailure (lines ++ [line]) numbered.1 := by
  have last : Near isFailure lines (lines.length + 1) ↔ 0 < pass.after := (read.after 1 Nat.one_pos).symm
  simp only [List.mem_append, read.near numbered positive, isLine_append, near_append, quiet, Bool.false_eq_true,
    false_and, or_false, or_and_right]
  refine or_congr_right ⟨fun added => ?_, ?_⟩
  · split at added
    · next ahead =>
      obtain rfl := List.mem_singleton.mp added
      exact ⟨rfl, last.mpr ahead⟩
    · exact absurd added List.not_mem_nil
  · rintro ⟨rfl, near⟩
    rw [if_pos (last.mp near)]
    exact List.mem_singleton_self _

/-- The next line is read. -/
theorem round (line : Text) : Pass.Read isFailure (lines ++ [line]) (calls ++ pass.calls isFailure line)
    (pass.round isFailure line) where
  out := by
    rw [List.foldl_append, ← read.out]
    unfold Pass.round Pass.calls
    cases isFailure line <;> by_cases ahead : 0 < pass.after <;> simp [ahead]
  sourceLines := by
    rw [List.length_append, List.length_singleton, ← read.sourceLines]
    unfold Pass.round
    split <;> [rfl; split <;> rfl]
  older := by
    have same : (pass.round isFailure line).older = pass.newer := by
      unfold Pass.round
      split <;> [rfl; split <;> rfl]
    rw [same]
    exact read.newer.append
  newer := by
    have same : (pass.round isFailure line).newer = (lines.length + 1, line) := by
      unfold Pass.round
      rw [read.sourceLines]
    rw [same, Remembered, if_pos (by simp)]
    exact ⟨by simp, isLine_append.mpr (.inr rfl)⟩
  after ahead positive := by
    rw [near_append, List.length_append, List.length_singleton]
    have later := read.after (ahead + 1) (by omega)
    rw [← Nat.add_assoc, Nat.add_right_comm] at later
    cases failed : isFailure line with
    | true =>
      have same : (pass.round isFailure line).after = 2 := by simp [Pass.round, failed]
      rw [same]
      refine ⟨fun small => .inr ⟨rfl, by omega, by omega⟩, ?_⟩
      rintro (near | ⟨_, below, _⟩)
      · have := near.close
        omega
      · omega
    | false =>
      have same : (pass.round isFailure line).after = pass.after - 1 := by
        unfold Pass.round
        rw [failed]
        by_cases some : 0 < pass.after
        · simp [some]
        · simp [some]
          omega
      rw [same, ← later]
      simp only [Bool.false_eq_true, false_and, or_false]
      omega
  orderly := read.orderly_calls
  near numbered positive := by
    unfold Pass.calls
    rw [read.sourceLines]
    cases failed : isFailure line with
    | true => exact read.near_failure failed positive
    | false => exact read.near_quiet failed positive

end Pass.Read

theorem read_nil : Pass.Read isFailure [] [] {} where
  out := rfl
  sourceLines := rfl
  older := rfl
  newer := rfl
  after ahead positive := by simp [Near, IsLine]; omega
  orderly := .nil
  near numbered _ := by simp [IsLine]

/-- By induction on the lines that follow. -/
theorem read_lines (rest : List Text) (read : Pass.Read isFailure lines calls pass) :
    ∃ calls', Pass.Read isFailure (lines ++ rest) calls' (rest.foldl (Pass.round isFailure) pass) := by
  induction rest generalizing lines calls pass with
  | nil => exact ⟨calls, by rwa [List.append_nil]⟩
  | cons line rest ih =>
    obtain ⟨calls', whole⟩ := ih (read.round line)
    exact ⟨calls', by rwa [List.append_assoc, List.singleton_append] at whole⟩

end Windows

section Honesty

/-- The excerpt of a text keeps its limits and says when something is left out. -/
structure Honest (isFailure : Text → Bool) (lines : List Text) (excerpt : FailureExcerpt) : Prop where
  rows : excerpt.rows.length ≤ 24
  bytes : (excerpt.rows.map fun row => utf8Len row.2).sum ≤ 16 * 1024
  ascending : excerpt.rows.Pairwise fun lower upper => lower.1 < upper.1
  verbatim : ∀ row ∈ excerpt.rows, ¬marker <:+ row.2 → IsLine lines row ∧ Near isFailure lines row.1
  omitted : excerpt.omitted = false ↔ ∀ row, row ∈ excerpt.rows ↔ IsLine lines row ∧ Near isFailure lines row.1

/-- For every text, whatever lines the regular expression matches. -/
theorem failureExcerpt_honest (failure : Text → Bool) (text : Text) :
    Honest (isFailureRecord failure) (lines text) (failureExcerpt failure text) := by
  obtain ⟨calls, read⟩ := read_lines (lines text) (@read_nil (isFailureRecord failure))
  have kept := read.orderly.kept
  rw [← read.out] at kept
  refine ⟨kept.capped, kept.counted ▸ kept.bounded, kept.ascending, fun row listed unmarked => ?_, ?_, ?_⟩
  · have called := (kept.called row listed).resolve_right fun marked => unmarked marked.2
    exact (read.near row (kept.positive row listed)).mp called
  · intro whole row
    rw [show row ∈ (failureExcerpt failure text).rows ↔ _ from kept.whole whole row]
    constructor
    · exact fun ⟨called, positive⟩ => (read.near row positive).mp called
    · intro near
      have positive : row.1 ≠ 0 := Nat.pos_iff_ne_zero.mp near.1.bounds.1
      exact ⟨(read.near row positive).mpr near, positive⟩
  · intro all
    by_contra omitted
    obtain ⟨row, called, positive, absent, _⟩ := kept.lost (Bool.not_eq_false _ ▸ omitted)
    exact absent ((all row).mpr ((read.near row positive).mp called))

end Honesty

end Darling.Diag
