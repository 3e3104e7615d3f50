import Darling.Library.Associations
import Darling.Library.Texts
import Darling.Pins.Sync
import Mathlib.Data.List.DropRight

/-! `apply_rows` on the characters of the manifest: a planned line is matched again with its ending and
built from the groups of the match. -/
namespace Darling.Pins

variable {κ : Type} [DecidableEq κ]

/-- `text.splitlines()`, with the endings beside. -/
def manifestLines (text : Text) : List Line := (Texts.splitlines text).map fun line => ⟨line.1, line.2⟩

def Line.whole (line : Line) : Text := line.content ++ line.ending

/-- `REV_RE` on a line with its ending: `.` stops at a line feed, and `$` stands at the end or before a
last line feed. -/
def revisionMatch (line : Text) : Option (Text × Text × Text) := do
  let (before, revision, rest) ← revisionOf line
  if rest.dropWhile (· ≠ '\n') = [] ∨ rest.dropWhile (· ≠ '\n') = ['\n'] then
    some (before, revision, rest.takeWhile (· ≠ '\n'))
  else none

def isNewline (c : Char) : Bool := c == '\r' || c == '\n'

/-- The line that `apply_rows` puts in the place of another. -/
def rewriteText (line : Text) (gitlink : Gitlink) : Option Text := do
  let (before, _, rest) ← revisionMatch line
  return before ++ "revision: ".toList ++ gitlink.text ++ rest ++ line.rtakeWhile isNewline

/-- `apply_rows`: the text it returns. -/
def applyText (text : Text) (rows : List Row) : Except Refusal Text := do
  let written ← rewriteRows rewriteText ((manifestLines text).map Line.whole) rows
  if rows.all fun row => row.target.isNone then return text
  return written.flatten

/-- The run on another manifest. -/
def Input.on (input : Input κ) (text : Text) : Input κ := { input with manifest := manifestLines text }

def planned (input : Input κ) (allowDowngrade : Bool) (text : Text) : List Row :=
  plan (input.on text) allowDowngrade (parseProjects (manifestLines text))

/-- The gitlink that the rows write on the line. -/
def aimAt (rows : List Row) (index : Nat) : Option Gitlink := (rows.filterMap Row.target).lookup index

/-- The line with the characters of its revision replaced and all others kept. -/
def editLine (line : Line) (gitlink : Gitlink) : Line :=
  match revisionOf line.content with
  | some (before, _, rest) =>
    { line with content := before ++ ("revision:".toList ++ (gapOf line.content ++ (gitlink.text ++ rest))) }
  | none => line

def editAt (aim : Nat → Option Gitlink) (line : Line) (index : Nat) : Line :=
  ((aim index).map (editLine line)).getD line

/-- The manifest with the characters of the planned revisions replaced and all others kept. -/
def edited (aim : Nat → Option Gitlink) (lines : List Line) : List Line :=
  lines.zipIdx.map fun (line, index) => editAt aim line index

/-- The project with its revision replaced when the line it was read from is planned. -/
def Project.repin (aim : Nat → Option Gitlink) (project : Project) : Project :=
  { project with
    revision := project.revision.map fun old => ((project.revLine.bind aim).map Gitlink.text).getD old }

/-- The result has only the planned revisions replaced, the projects read from it are those of the
manifest with these revisions, and nothing is left to rewrite. -/
structure OnlyRevisions (input : Input κ) (allowDowngrade : Bool) (text result : Text) : Prop where
  kept : result = (edited (aimAt (planned input allowDowngrade text)) (manifestLines text)).flatMap Line.whole
  projects : parseProjects (manifestLines result) =
    (parseProjects (manifestLines text)).map (Project.repin (aimAt (planned input allowDowngrade text)))
  settled : ∀ row ∈ planned input allowDowngrade result, row.action ≠ .rewrite

/-- A revision line that `apply_rows` copies as it is: one space after the key, no carriage return at
the end. -/
def Line.Tidy (line : Line) : Prop := gapOf line.content = [' '] ∧ '\r' ∉ line.ending

section Endings

/-- What the line feed and the carriage return around a rewritten line become. -/
def doubled (ending : Text) : Text := if '\r' ∈ ending then '\r' :: ending else ending

/-- A line of a text: the characters of its content do not end lines, its ending ends one or is the end
of the text. -/
structure Line.Cut (line : Line) : Prop where
  plain : ∀ c ∈ line.content, Texts.isBreak c = false
  ends : line.ending = [] ∨ Texts.Ending line.ending
  some : line.whole ≠ []

theorem isSpace_of_isBreak {c : Char} (break_ : Texts.isBreak c = true) : isSpace c = true := by
  simp only [Texts.isBreak, Bool.or_eq_true, Bool.and_eq_true, decide_eq_true_eq, beq_iff_eq] at break_
  simp only [isSpace, Bool.or_eq_true, Bool.and_eq_true, decide_eq_true_eq, beq_iff_eq]
  omega

theorem Line.Cut.spaces {line : Line} (cut : line.Cut) : ∀ c ∈ line.ending, isSpace c = true := by
  rcases cut.ends with none | crlf | ⟨c, break_, only⟩
  · simp [none]
  · rw [crlf]
    simp
    decide
  · rw [only]
    simpa using isSpace_of_isBreak break_

theorem Line.Cut.newline {line : Line} (cut : line.Cut) : ∀ c ∈ line.content, isNewline c = false := by
  intro c listed
  have plain := cut.plain c listed
  by_contra newline
  simp only [isNewline, Bool.or_eq_false_iff, beq_eq_false_iff_ne, not_and_or, not_not] at newline
  rcases newline with rfl | rfl
  · revert plain
    decide
  · revert plain
    decide

/-- The match takes the ending up to its line feed, and the carriage returns and line feeds at the end
are added to it. -/
theorem Line.Cut.doubles {line : Line} (cut : line.Cut) :
    (line.ending.dropWhile (· ≠ '\n') = [] ∨ line.ending.dropWhile (· ≠ '\n') = ['\n']) ∧
      line.ending.takeWhile (· ≠ '\n') ++ line.whole.rtakeWhile isNewline = doubled line.ending := by
  have content : line.content.rtakeWhile isNewline = [] := by
    rw [List.rtakeWhile_eq_nil_iff]
    intro some
    simp [cut.newline _ (List.getLast_mem some)]
  rcases cut.ends with none | crlf | ⟨c, break_, only⟩
  · simp [none, Line.whole, content, doubled]
  · have trailing : line.whole.rtakeWhile isNewline = ['\r', '\n'] := by
      have whole : line.whole = line.content ++ ['\r'] ++ ['\n'] := by simp [Line.whole, crlf]
      rw [whole, List.rtakeWhile_concat_pos _ _ _ (by decide), List.rtakeWhile_concat_pos _ _ _ (by decide), content]
      rfl
    rw [trailing, crlf]
    decide
  · by_cases newline : isNewline c
    · have trailing : line.whole.rtakeWhile isNewline = [c] := by
        rw [Line.whole, only, List.rtakeWhile_concat_pos _ _ _ newline, content, List.nil_append]
      rw [trailing, only]
      simp only [isNewline, Bool.or_eq_true, beq_iff_eq] at newline
      rcases newline with rfl | rfl
      · decide
      · decide
    · have trailing : line.whole.rtakeWhile isNewline = [] := by
        rw [Line.whole, only, List.rtakeWhile_concat_neg _ _ _ newline]
      simp only [isNewline, Bool.or_eq_true, beq_iff_eq, not_or] at newline
      rw [trailing, only]
      simp [doubled, newline.2, Ne.symm newline.1]

/-- A revision line with its ending is the same revision line, with the ending after the rest. -/
theorem RevisionLine.ended {line before gap revision rest ending : Text}
    (at_ : RevisionLine line before gap revision rest)
    (spaces : ∀ c ∈ ending, isSpace c = true) : RevisionLine (line ++ ending) before gap revision (rest ++ ending) := by
  refine ⟨by simp [at_.shape], at_.before, at_.gap, at_.nonempty, at_.word, ?_⟩
  intro c first
  cases following : rest with
  | nil =>
    rw [following] at first
    exact spaces c (List.mem_of_mem_head? first)
  | cons d others =>
    rw [following] at first
    exact at_.rest c (by rw [following]; exact first)

/-- The line that is written: the spaces before the revision are one, and an ending with a carriage
return has one more. -/
theorem rewriteText_eq {line : Line} (cut : line.Cut) {before gap revision rest : Text}
    (at_ : RevisionLine line.content before gap revision rest) (gitlink : Gitlink) :
    rewriteText line.whole gitlink =
      some (before ++ ("revision:".toList ++ ([' '] ++ (gitlink.text ++ rest))) ++ doubled line.ending) := by
  have unbroken : ∀ c ∈ rest, c ≠ '\n' := by
    rintro c listed rfl
    have plain := cut.plain '\n' (by rw [at_.shape]; simp [listed])
    revert plain
    decide
  obtain ⟨closed, doubles⟩ := cut.doubles
  have inside : ∀ c ∈ rest, decide (c ≠ '\n') = true := by simpa using unbroken
  simp only [rewriteText, revisionMatch, Line.whole, (at_.ended cut.spaces).found, Option.bind_eq_bind,
    Option.bind_some,
    List.dropWhile_append_of_pos inside, List.takeWhile_append_of_pos inside, if_pos closed, Option.pure_def]
  rw [← doubles]
  simp [Line.whole]

end Endings

section Reading

namespace RevisionLine

variable {line before gap revision rest : Text}

theorem stripped_cons (at_ : RevisionLine line before gap revision rest) :
    lstrip line = 'r' :: ("evision:".toList ++ (gap ++ (revision ++ rest))) := at_.stripped.2

theorem not_blank (at_ : RevisionLine line before gap revision rest) : blank line = false := by
  rw [blank, List.all_eq_false]
  exact ⟨'r', by simp [at_.shape], by decide⟩

theorem nameOf_none (at_ : RevisionLine line before gap revision rest) : nameOf line = none := by
  simp [nameOf, at_.stripped_cons, literal]

theorem pathOf_none (at_ : RevisionLine line before gap revision rest) : pathOf line = none := by
  simp [pathOf, at_.stripped_cons, literal]

/-- A revision line is not the key of a section: the revision follows the colon. -/
theorem sectionOf_none (at_ : RevisionLine line before gap revision rest) : sectionOf line = none := by
  have valued : blank (gap ++ (revision ++ rest)) = false := by
    obtain ⟨c, listed⟩ := List.exists_mem_of_ne_nil _ at_.nonempty
    rw [blank, List.all_eq_false]
    exact ⟨c, by simp [listed], by simp [at_.word c listed]⟩
  have keyed := span_append (fun c => c.isLower || c.isDigit || c == '-') "revision".toList
      (':' :: (gap ++ (revision ++ rest)))
    (List.all_eq_true.mp (by decide)) (by simp)
  have shape : lstrip line = "revision".toList ++ ':' :: (gap ++ (revision ++ rest)) := at_.stripped.2
  have first : "revision".toList.head? = some 'r' := rfl
  simp only [sectionOf, shape, keyed.1, keyed.2, first, valued, Bool.and_false, Bool.false_eq_true, if_false]

end RevisionLine

namespace Reading

variable (aim : Nat → Option Gitlink)

def repin (r : Reading) : Reading :=
  { r with projects := r.projects.map (Project.repin aim), current := r.current.map (Project.repin aim) }

theorem repin_all (r : Reading) : (r.repin aim).all = r.all.map (Project.repin aim) := by
  cases current : r.current <;> simp [all, repin, current]

theorem repin_leave (r : Reading) : (r.repin aim).leave = r.leave.repin aim := by
  simp only [leave, repin_all]
  rfl

/-- What a revision line does to the project it is read in. -/
theorem field_revision (r : Reading) (project : Project) (index : Nat) {line before gap revision rest : Text}
    (at_ : RevisionLine line before gap revision rest) :
    r.field project index line =
      if before.length ≤ r.dashIndent then r.leave
      else if project.revision = none then
        { r with current := some { project with revision := some revision, revLine := some index } }
      else r := by
  unfold field
  simp only [at_.not_blank, at_.stripped_cons, at_.stripped.1, at_.pathOf_none, at_.found, List.head?_cons]
  cases project.revision <;> simp

theorem step_revision (r : Reading) (index : Nat) {line before gap revision rest : Text}
    (at_ : RevisionLine line before gap revision rest) :
    r.step index line =
      if r.inProjects then
        match r.current with
        | none => r
        | some project => r.field project index line
      else r := by
  rewrite [step, at_.sectionOf_none, outside, entry, at_.nameOf_none]
  rfl

/-- The planned revision is read where the one it replaces was. -/
theorem step_edited (r : Reading) {index : Nat} {gitlink : Gitlink} (aimed : aim index = some gitlink)
    {line line' before gap gap' revision rest rest' : Text} (at_ : RevisionLine line before gap revision rest)
    (at' : RevisionLine line' before gap' gitlink.text rest') :
    (r.repin aim).step index line' = (r.step index line).repin aim := by
  rw [step_revision _ _ at_, step_revision _ _ at']
  by_cases inside : r.inProjects
  · cases current : r.current with
    | none => simp [repin, current, inside]
    | some project =>
      have current' : (r.repin aim).current = some (project.repin aim) := by simp [repin, current]
      have inside' : (r.repin aim).inProjects = true := inside
      simp only [current', inside, inside', if_true]
      rw [field_revision _ _ _ at_, field_revision _ _ _ at', repin_leave]
      have unpinned : (project.repin aim).revision = none ↔ project.revision = none := by simp [Project.repin]
      by_cases shallow : before.length ≤ r.dashIndent
      · rw [if_pos shallow, if_pos (show before.length ≤ (r.repin aim).dashIndent from shallow)]
      · rw [if_neg shallow, if_neg (show ¬before.length ≤ (r.repin aim).dashIndent from shallow)]
        by_cases none : project.revision = none
        · rw [if_pos none, if_pos (unpinned.mpr none)]
          simp [repin, Project.repin, aimed]
        · rw [if_neg none, if_neg (mt unpinned.mp none)]
  · simp [repin, inside]

theorem field_repin (r : Reading) (project : Project) {index : Nat} (unaimed : aim index = none) (line : Text) :
    (r.repin aim).field (project.repin aim) index line = (r.field project index line).repin aim := by
  have dash : (r.repin aim).dashIndent = r.dashIndent := rfl
  have path : (project.repin aim).path = project.path := rfl
  unfold field
  rw [dash, path, repin_leave]
  by_cases skipped : (blank line || (lstrip line).head? == some '#') = true
  · rw [if_pos skipped, if_pos skipped]
  by_cases shallow : (indent line).length ≤ r.dashIndent
  · simp only [skipped, shallow, if_false, if_true, Bool.false_eq_true]
  simp only [skipped, shallow, if_false, Bool.false_eq_true]
  cases pathOf line <;> cases project.path <;> cases revisionOf line <;> cases revision : project.revision <;>
    simp [Project.repin, repin, revision, unaimed]

theorem entry_repin (r : Reading) {index : Nat} (unaimed : aim index = none) (line : Text) :
    (r.repin aim).entry index line = (r.entry index line).repin aim := by
  have dash : (r.repin aim).dashIndent = r.dashIndent := rfl
  unfold entry
  rw [dash, repin_leave]
  cases nameOf line with
  | none =>
    cases current : r.current with
    | none => simp [repin, current]
    | some project =>
      have current' : (r.repin aim).current = some (project.repin aim) := by simp [repin, current]
      simp only [current']
      exact r.field_repin aim project unaimed line
  | some found =>
    have none : (r.repin aim).current.isNone = r.current.isNone := by simp [repin]
    by_cases opens : (r.current.isNone || decide (found.1 ≤ r.dashIndent)) = true
    · simp only [none, opens, if_true]
      rfl
    · simp only [none, opens, if_false, Bool.false_eq_true]

theorem outside_repin (r : Reading) {index : Nat} (unaimed : aim index = none) (line : Text) :
    (r.repin aim).outside index line = (r.outside index line).repin aim := by
  have same : (r.repin aim).inProjects = r.inProjects := rfl
  unfold outside
  rw [same]
  by_cases inside : r.inProjects
  · simp only [inside, if_true, r.entry_repin aim unaimed line]
  · simp only [inside, if_false, Bool.false_eq_true]

/-- A line that is not planned is read the same. -/
theorem step_repin (r : Reading) {index : Nat} (unaimed : aim index = none) (line : Text) :
    (r.repin aim).step index line = (r.step index line).repin aim := by
  unfold step
  rw [repin_leave, r.outside_repin aim unaimed]
  cases sectionOf line with
  | none => rfl
  | some found =>
    by_cases projects : found.2 = "projects".toList
    · simp only [projects, if_true]
      rfl
    · have same : ((r.repin aim).inProjects = true ∧ found.1 ≤ (r.repin aim).sectionIndent) =
          (r.inProjects = true ∧ found.1 ≤ r.sectionIndent) := rfl
      by_cases closes : r.inProjects = true ∧ found.1 ≤ r.sectionIndent
      · simp only [projects, if_false, same, closes, and_self, if_true]
        rfl
      · simp only [projects, if_false, same, closes]

/-- The planned lines are revision lines. -/
def Aims (lines : List Line) (index : Nat) : Prop :=
  ∀ line i, (line, i) ∈ lines.zipIdx index → ∀ gitlink, aim i = some gitlink →
    ∃ before gap revision rest, RevisionLine line.content before gap revision rest

theorem run_repin (lines : List Line) (index : Nat) (r : Reading) (aims : Aims aim lines index) :
    (r.repin aim).run index ((lines.zipIdx index).map fun (line, i) => (editAt aim line i).content) =
      (r.run index (lines.map (·.content))).repin aim := by
  induction lines generalizing index r with
  | nil => rfl
  | cons line lines ih =>
    have first : (r.repin aim).step index (editAt aim line index).content = (r.step index line.content).repin aim := by
      cases aimed : aim index with
      | none => simpa [editAt, aimed] using r.step_repin aim aimed line.content
      | some gitlink =>
        obtain ⟨before, gap, revision, rest, at_⟩ := aims line index (by simp) gitlink aimed
        have content : (editAt aim line index).content =
            before ++ ("revision:".toList ++ (gap ++ (gitlink.text ++ rest))) := by
          simp [editAt, aimed, editLine, at_.found, at_.gapOf_eq]
        rw [content]
        exact r.step_edited aim aimed at_ (at_.replace gitlink at_.gap)
    simp only [List.zipIdx_cons, List.map_cons, run, first]
    exact ih (index + 1) _ fun line i listed => aims line i (by simp [listed])

end Reading

/-- The edited manifest has the projects of the manifest, with the planned revisions. -/
theorem parseProjects_edited {aim : Nat → Option Gitlink} {lines : List Line} (aims : Reading.Aims aim lines 0) :
    parseProjects (edited aim lines) = (parseProjects lines).map (Project.repin aim) := by
  have ran := Reading.run_repin aim lines 0 {} aims
  rw [parseProjects, parseProjects, ← Reading.repin_all, ← ran, edited, List.map_map]
  rfl

end Reading

section Texts

/-- The line that is written at the index. -/
def writtenAt (aim : Nat → Option Gitlink) (line : Line) (index : Nat) : Text :=
  match aim index with
  | some gitlink => (rewriteText line.whole gitlink).getD []
  | none => line.whole

def writtenFrom (aim : Nat → Option Gitlink) (lines : List Line) (index : Nat) : Text :=
  (lines.zipIdx index).flatMap fun (line, i) => writtenAt aim line i

def editedFrom (aim : Nat → Option Gitlink) (lines : List Line) (index : Nat) : Text :=
  (lines.zipIdx index).flatMap fun (line, i) => (editAt aim line i).whole

/-- Lines of a text, of which the planned ones are revision lines. -/
structure Sheet (aim : Nat → Option Gitlink) (lines : List Line) (index : Nat) : Prop where
  cut : ∀ line ∈ lines, line.Cut
  aims : Reading.Aims aim lines index

variable {aim : Nat → Option Gitlink} {line : Line} {lines : List Line} {index : Nat}

theorem Sheet.tail (sheet : Sheet aim (line :: lines) index) : Sheet aim lines (index + 1) :=
  ⟨fun other listed => sheet.cut other (by simp [listed]), fun other i listed => sheet.aims other i (by simp [listed])⟩

theorem Sheet.head (sheet : Sheet aim (line :: lines) index) : line.Cut := sheet.cut line (by simp)

theorem editAt_unaimed (unaimed : aim index = none) : editAt aim line index = line := by simp [editAt, unaimed]

theorem writtenAt_unaimed (unaimed : aim index = none) : writtenAt aim line index = line.whole := by
  simp [writtenAt, unaimed]

/-- The texts of a planned line: as edited and as written. -/
theorem Sheet.aimed (sheet : Sheet aim (line :: lines) index) {gitlink : Gitlink} (aimed : aim index = some gitlink) :
    ∃ before revision rest, RevisionLine line.content before (gapOf line.content) revision rest ∧
      editAt aim line index = { line with content :=
        before ++ ("revision:".toList ++ (gapOf line.content ++ (gitlink.text ++ rest))) } ∧
      writtenAt aim line index =
        before ++ ("revision:".toList ++ ([' '] ++ (gitlink.text ++ rest))) ++ doubled line.ending := by
  obtain ⟨before, gap, revision, rest, at_⟩ := sheet.aims line index (by simp) gitlink aimed
  have line_ := revisionOf_line at_.found
  refine ⟨before, revision, rest, line_, ?_, ?_⟩
  · simp [editAt, aimed, editLine, at_.found]
  · simp [writtenAt, aimed, rewriteText_eq sheet.head line_ gitlink]

/-- A planned line starts with a character of its content. -/
theorem RevisionLine.first {before gap revision rest : Text} (at_ : RevisionLine line.content before gap revision rest)
    (cut : line.Cut) (others : Text) {c : Char} (starts : (before ++ ("revision:".toList ++ others)).head? = some c) :
    Texts.isBreak c = false := by
  cases shape : before with
  | nil =>
    rw [shape] at starts
    obtain rfl : 'r' = c := by simpa using starts
    decide
  | cons d more =>
    rw [shape] at starts
    obtain rfl : d = c := by simpa using starts
    exact cut.plain d (by simp [at_.shape, shape])

theorem editedFrom_cons : editedFrom aim (line :: lines) index = (editAt aim line index).whole ++ editedFrom aim lines
    (index + 1) := by
  simp [editedFrom, List.zipIdx_cons]

theorem writtenFrom_cons : writtenFrom aim (line :: lines) index = writtenAt aim line index ++ writtenFrom aim lines
    (index + 1) := by
  simp [writtenFrom, List.zipIdx_cons]

/-- A carriage return too many is never made up for: the lines that follow would all have to be single
carriage returns. -/
theorem Sheet.not_shifted (sheet : Sheet aim lines index) :
    '\r' :: writtenFrom aim lines index ≠ editedFrom aim lines index := by
  induction lines generalizing index with
  | nil => simp [editedFrom]
  | cons line lines ih =>
    intro shifted
    rw [editedFrom_cons, writtenFrom_cons] at shifted
    have cut := sheet.head
    cases aimed : aim index with
    | some gitlink =>
      obtain ⟨before, revision, rest, at_, editing, _⟩ := sheet.aimed aimed
      have starts : (before ++ ("revision:".toList ++ (gapOf line.content ++ (gitlink.text ++ rest) ++ line.ending ++
          editedFrom aim lines (index + 1)))).head? = some '\r' := by
        have first := congrArg List.head? shifted
        rw [editing] at first
        simpa [Line.whole] using first.symm
      have plain := at_.first cut _ starts
      revert plain
      decide
    | none =>
      rw [editAt_unaimed aimed, writtenAt_unaimed aimed] at shifted
      cases content : line.content with
      | cons c others =>
        have first := congrArg List.head? shifted
        obtain rfl : '\r' = c := by simpa [Line.whole, content] using first
        have plain := cut.plain '\r' (by simp [content])
        revert plain
        decide
      | nil =>
        have whole : line.whole = line.ending := by simp [Line.whole, content]
        rw [whole] at shifted
        rcases cut.ends with none | crlf | ⟨c, break_, only⟩
        · exact cut.some (by rw [whole, none])
        · rw [crlf] at shifted
          simp at shifted
        · rw [only] at shifted
          obtain ⟨rfl, later⟩ : '\r' = c ∧ c :: writtenFrom aim lines (index + 1) =
              editedFrom aim lines (index + 1) := by
            simpa using shifted
          exact ih sheet.tail later

/-- Two words after different spaces differ. -/
theorem gap_eq {gap others later : Text} (spaces : ∀ c ∈ gap, isSpace c = true) (gitlink : Gitlink)
    (same : [' '] ++ (gitlink.text ++ later) = gap ++ (gitlink.text ++ others)) : gap = [' '] := by
  obtain ⟨first, letters, text⟩ := List.exists_cons_of_ne_nil gitlink.nonempty
  have word : isSpace first = false := gitlink.word first (by simp [text])
  have blank : isSpace ' ' = true := by decide
  rw [text] at same
  cases shape : gap with
  | nil =>
    rw [shape] at same
    obtain ⟨rfl, _⟩ : ' ' = first ∧ first :: (letters ++ later) = letters ++ others := by simpa using same
    simp [word] at blank
  | cons c more =>
    rw [shape] at same
    obtain ⟨rfl, rest⟩ : ' ' = c ∧ first :: (letters ++ later) = more ++ first :: (letters ++ others) := by
      simpa using same
    cases second : more with
    | nil => rfl
    | cons d _ =>
      rw [second] at rest
      obtain ⟨rfl, _⟩ := List.cons.inj rest
      have space := spaces first (by simp [shape, second])
      simp [word] at space

/-- Where the text is written as edited, every planned line is tidy: the first that is not would differ
right after its key or at its ending. -/
theorem Sheet.tidy (sheet : Sheet aim lines index) (same : writtenFrom aim lines index = editedFrom aim lines index) :
    ∀ line i, (line, i) ∈ lines.zipIdx index → ∀ gitlink, aim i = some gitlink → line.Tidy := by
  induction lines generalizing index with
  | nil => simp
  | cons line lines ih =>
    rw [editedFrom_cons, writtenFrom_cons] at same
    have split (tidy : ∀ gitlink, aim index = some gitlink → line.Tidy)
        (later : writtenFrom aim lines (index + 1) = editedFrom aim lines (index + 1)) :
        ∀ other i, (other, i) ∈ (line :: lines).zipIdx index → ∀ gitlink, aim i = some gitlink → other.Tidy := by
      intro other i listed gitlink aimed
      rw [List.zipIdx_cons, List.mem_cons] at listed
      rcases listed with here | after
      · obtain ⟨rfl, rfl⟩ := Prod.mk.inj here
        exact tidy gitlink aimed
      · exact ih sheet.tail later other i after gitlink aimed
    cases aimed : aim index with
    | none =>
      rw [editAt_unaimed aimed, writtenAt_unaimed aimed] at same
      exact split (by simp [aimed]) (List.append_cancel_left same)
    | some gitlink =>
      obtain ⟨before, revision, rest, at_, editing, writing⟩ := sheet.aimed aimed
      rw [editing, writing] at same
      simp only [Line.whole, List.append_assoc, List.append_cancel_left_eq] at same
      have gap := gap_eq at_.gap gitlink same
      rw [gap] at same
      simp only [List.append_cancel_left_eq] at same
      by_cases carriage : '\r' ∈ line.ending
      · rw [doubled, if_pos carriage] at same
        exfalso
        rcases sheet.head.ends with none | crlf | ⟨c, _, only⟩
        · simp [none] at carriage
        · simp [crlf] at same
        · rw [only] at same carriage
          obtain rfl : '\r' = c := by simpa using carriage
          exact sheet.tail.not_shifted (by simpa using same)
      · rw [doubled, if_neg carriage] at same
        exact split (fun _ _ => ⟨gap, carriage⟩) (List.append_cancel_left same)

/-- A tidy manifest is written as edited. -/
theorem Sheet.written (sheet : Sheet aim lines index)
    (tidy : ∀ line i, (line, i) ∈ lines.zipIdx index → ∀ gitlink, aim i = some gitlink → line.Tidy) :
    writtenFrom aim lines index = editedFrom aim lines index := by
  induction lines generalizing index with
  | nil => rfl
  | cons line lines ih =>
    rw [editedFrom_cons, writtenFrom_cons, ih sheet.tail fun other i listed => tidy other i (by simp [listed])]
    congr 1
    cases aimed : aim index with
    | none => rw [editAt_unaimed aimed, writtenAt_unaimed aimed]
    | some gitlink =>
      obtain ⟨before, revision, rest, at_, editing, writing⟩ := sheet.aimed aimed
      obtain ⟨gap, carriage⟩ := tidy line index (by simp) gitlink aimed
      rw [editing, writing, gap, doubled, if_neg carriage]
      rfl

/-- The edited text does not start with a line feed where the text does not. -/
theorem Sheet.first (sheet : Sheet aim lines index) (starts : (editedFrom aim lines index).head? = some '\n') :
    (lines.flatMap Line.whole).head? = some '\n' := by
  cases lines with
  | nil => simp [editedFrom] at starts
  | cons line lines =>
    rw [editedFrom_cons] at starts
    cases aimed : aim index with
    | none =>
      rw [editAt_unaimed aimed] at starts
      obtain ⟨c, more, whole⟩ := List.exists_cons_of_ne_nil sheet.head.some
      simpa [whole] using starts
    | some gitlink =>
      obtain ⟨before, revision, rest, at_, editing, _⟩ := sheet.aimed aimed
      rw [editing] at starts
      simp only [Line.whole, List.append_assoc] at starts
      exact absurd (at_.first sheet.head _ starts) (by decide)

/-- A content without the characters that end lines. -/
theorem RevisionLine.plain {content before gap revision rest : Text}
    (at_ : RevisionLine content before gap revision rest)
    (plain : ∀ c ∈ content, Texts.isBreak c = false) (gitlink : Gitlink) :
    ∀ c ∈ before ++ ("revision:".toList ++ (gap ++ (gitlink.text ++ rest))), Texts.isBreak c = false := by
  have linked : ∀ c ∈ gitlink.text, Texts.isBreak c = false := by
    intro c listed
    by_contra break_
    have space := isSpace_of_isBreak (by simpa using break_)
    simp [gitlink.word c listed] at space
  rw [at_.shape] at plain
  simp only [List.forall_mem_append] at plain ⊢
  exact ⟨plain.1, plain.2.1, plain.2.2.1, linked, plain.2.2.2.2⟩

def Line.pair (line : Line) : Texts.Text × Texts.Text := (line.content, line.ending)

theorem join_pairs (lines : List Line) : Texts.join (lines.map Line.pair) = lines.flatMap Line.whole := by
  rw [Texts.join, List.flatMap_map]
  rfl

theorem editAt_ending : (editAt aim line index).ending = line.ending := by
  cases aimed : aim index with
  | none => rw [editAt_unaimed aimed]
  | some gitlink =>
    simp only [editAt, aimed, Option.map_some, Option.getD_some, editLine]
    split <;> rfl

/-- The edited lines are the lines of the edited text. -/
theorem Sheet.lines_edited (sheet : Sheet aim lines index) (laid : Texts.Lines (lines.map Line.pair)) :
    Texts.Lines (((lines.zipIdx index).map fun (line, i) => editAt aim line i).map Line.pair) := by
  induction lines generalizing index with
  | nil => exact laid
  | cons line lines ih =>
    have plain : ∀ c ∈ (editAt aim line index).content, Texts.isBreak c = false := by
      cases aimed : aim index with
      | none =>
        rw [editAt_unaimed aimed]
        exact sheet.head.plain
      | some gitlink =>
        obtain ⟨before, revision, rest, at_, editing, _⟩ := sheet.aimed aimed
        rw [editing]
        exact at_.plain sheet.head.plain gitlink
    have some : (editAt aim line index).content = [] → line.content = [] := by
      cases aimed : aim index with
      | none => rw [editAt_unaimed aimed]; exact id
      | some gitlink =>
        obtain ⟨before, revision, rest, _, editing, _⟩ := sheet.aimed aimed
        simp [editing]
    rw [List.map_cons] at laid
    rw [List.zipIdx_cons, List.map_cons, List.map_cons]
    rcases laid.uncons.2 with ⟨nonempty, last, none⟩ | ⟨ends, apart, later⟩
    · obtain rfl := List.map_eq_nil_iff.mp none
      have pair : (editAt aim line index).pair = ((editAt aim line index).content, []) := by
        rw [Line.pair, editAt_ending]
        exact congrArg _ last
      rw [pair]
      exact .last (mt some nonempty) plain
    · refine .cons plain (by rw [editAt_ending]; exact ends) ?_ (ih sheet.tail later)
      intro carriage starts
      rw [editAt_ending] at carriage
      refine apart carriage ?_
      rw [join_pairs, List.flatMap_map] at starts
      rw [join_pairs]
      exact sheet.tail.first starts

theorem manifestLines_pairs (text : Text) : (manifestLines text).map Line.pair = Texts.splitlines text := by
  simp [manifestLines, Line.pair, Function.comp_def]

theorem manifestLines_whole (text : Text) : (manifestLines text).flatMap Line.whole = text := by
  rw [← join_pairs, manifestLines_pairs, Texts.join_splitlines]

theorem manifestLines_laid {lines : List Line} (laid : Texts.Lines (lines.map Line.pair)) :
    manifestLines (lines.flatMap Line.whole) = lines := by
  rw [manifestLines, ← join_pairs, Texts.splitlines_join laid, List.map_map]
  exact List.map_id _

theorem cut_of_lines {lines : List Line} (laid : Texts.Lines (lines.map Line.pair)) : ∀ line ∈ lines, line.Cut := by
  induction lines with
  | nil => simp
  | cons line lines ih =>
    rw [List.map_cons] at laid
    obtain ⟨plain, rest⟩ := laid.uncons
    rw [List.forall_mem_cons]
    rcases rest with ⟨nonempty, last, none⟩ | ⟨ends, _, later⟩
    · obtain rfl := List.map_eq_nil_iff.mp none
      have whole : line.whole = line.content := by rw [Line.whole, show line.ending = [] from last, List.append_nil]
      exact ⟨⟨plain, .inl last, by rw [whole]; exact nonempty⟩, by simp⟩
    · refine ⟨⟨plain, .inr ends, ?_⟩, ih later⟩
      rcases ends with crlf | ⟨c, _, only⟩
      · simp [Line.whole, show line.ending = _ from crlf]
      · simp [Line.whole, show line.ending = _ from only]

/-- The edited lines are read back from the edited text. -/
theorem manifestLines_edited {text : Text} (sheet : Sheet aim (manifestLines text) 0) :
    manifestLines (editedFrom aim (manifestLines text) 0) = edited aim (manifestLines text) := by
  have laid : Texts.Lines ((manifestLines text).map Line.pair) := by
    rw [manifestLines_pairs]
    exact Texts.splitlines_lines text
  have read := manifestLines_laid (sheet.lines_edited laid)
  rw [List.flatMap_map] at read
  exact read

end Texts

section Rows

variable (input : Input κ) (allowDowngrade : Bool) (text : Text)

/-- The lines that the rows aim at, each with the project it is the revision line of. -/
theorem aimAt_iff {index : Nat} {gitlink : Gitlink} :
    aimAt (planned input allowDowngrade text) index = some gitlink ↔
      ∃ project ∈ parseProjects (manifestLines text), selected input.selection project ∧
        (planRow (input.on text) allowDowngrade project).target = some (index, gitlink) := by
  have distinct : (((planned input allowDowngrade text).filterMap Row.target).map (·.1)).Nodup :=
    List.pairwise_map.mpr (plan_targets (input.on text) allowDowngrade).1
  constructor
  · exact fun found => mem_targets.mp (mem_of_lookup found)
  · exact fun aimed => lookup_of_mem distinct (mem_targets.mpr aimed)

/-- The planned lines are revision lines of the text. -/
theorem planned_sheet : Sheet (aimAt (planned input allowDowngrade text)) (manifestLines text) 0 := by
  constructor
  · refine cut_of_lines ?_
    rw [manifestLines_pairs]
    exact Texts.splitlines_lines text
  · intro line index listed gitlink aimed
    have here : (manifestLines text)[index]? = some line := List.mk_mem_zipIdx_iff_getElem?.mp listed
    obtain ⟨old, pinned⟩ := (plan_targets (input.on text) allowDowngrade).2 (index, gitlink) (mem_of_lookup aimed)
    simp only [pinAt, Input.on, here, Option.bind_eq_bind, Option.bind_some, Option.bind_eq_some_iff] at pinned
    obtain ⟨⟨before, revision, rest⟩, found, _⟩ := pinned
    exact ⟨before, gapOf line.content, revision, rest, revisionOf_line found⟩

/-- The rows are all applied, and each planned line is written. -/
theorem applyText_eq :
    applyText text (planned input allowDowngrade text) =
      .ok (writtenFrom (aimAt (planned input allowDowngrade text)) (manifestLines text) 0) := by
  have sheet := planned_sheet input allowDowngrade text
  have rewritable (index : Nat) (gitlink : Gitlink) (aimed : aimAt (planned input allowDowngrade text) index =
      some gitlink) :
      ∃ line, (manifestLines text)[index]? = some line ∧
        rewriteText line.whole gitlink = some (writtenAt (aimAt (planned input allowDowngrade text)) line index) := by
    obtain ⟨old, pinned⟩ := (plan_targets (input.on text) allowDowngrade).2 (index, gitlink) (mem_of_lookup aimed)
    simp only [pinAt, Input.on, Option.bind_eq_bind, Option.bind_eq_some_iff] at pinned
    obtain ⟨line, here, ⟨before, revision, rest⟩, found, _⟩ := pinned
    have rewritten := rewriteText_eq (sheet.cut line (List.mem_of_getElem? here)) (revisionOf_line found) gitlink
    exact ⟨line, here, by simp only [writtenAt, aimed, rewritten, Option.getD_some]⟩
  have aim_of_mem (target : Nat × Gitlink) (listed :
      target ∈ (planned input allowDowngrade text).filterMap Row.target) :
      aimAt (planned input allowDowngrade text) target.1 = some target.2 :=
    (aimAt_iff input allowDowngrade text).mpr (mem_targets.mp listed)
  obtain ⟨written, applied, rewrites⟩ := rewriteRows_rewrites rewriteText (planned input allowDowngrade text)
    ((manifestLines text).map Line.whole) (plan_targets (input.on text) allowDowngrade).1 fun target listed => by
      obtain ⟨line, here, rewritten⟩ := rewritable target.1 target.2 (aim_of_mem target listed)
      simp [here, rewritten]
  have lines : written = (manifestLines text).zipIdx.map fun (line, i) =>
      writtenAt (aimAt (planned input allowDowngrade text)) line i := by
    refine List.ext_getElem? fun index => ?_
    rw [List.getElem?_map, List.getElem?_zipIdx, Option.map_map]
    cases aimed : aimAt (planned input allowDowngrade text) index with
    | some gitlink =>
      obtain ⟨line, here, rewritten⟩ := rewritable index gitlink aimed
      rw [rewrites.planned (index, gitlink) (mem_of_lookup aimed)]
      simp [here, rewritten]
    | none =>
      rw [rewrites.kept index]
      · rw [List.getElem?_map]
        congr 1
        funext line
        simp [writtenAt_unaimed aimed]
      · rintro target listed rfl
        simp [aim_of_mem target listed] at aimed
  unfold applyText
  rw [applied]
  by_cases unaimed : ((planned input allowDowngrade text).all fun row => row.target.isNone) = true
  · have none : (planned input allowDowngrade text).filterMap Row.target = [] := by
      rw [List.filterMap_eq_nil_iff]
      simpa using unaimed
    have kept : written = (manifestLines text).map Line.whole :=
      List.ext_getElem? fun index => rewrites.kept index (by simp [none])
    have same : writtenFrom (aimAt (planned input allowDowngrade text)) (manifestLines text) 0 = text :=
      calc writtenFrom (aimAt (planned input allowDowngrade text)) (manifestLines text) 0
        _ = written.flatten := by rw [lines]; rfl
        _ = (manifestLines text).flatMap Line.whole := by rw [kept]; rfl
        _ = text := manifestLines_whole text
    simp only [unaimed, if_true, same]
    rfl
  · simp only [unaimed, if_false, Bool.false_eq_true, lines]
    rfl

/-- With the planned revisions in place, no row is planned. -/
theorem planRow_repin {project : Project} (listed : project ∈ parseProjects (manifestLines text))
    (chosen : selected input.selection project) (other : Text) :
    (planRow (input.on other) allowDowngrade (project.repin (aimAt (planned input allowDowngrade text)))).action
      ≠ .rewrite := by
  cases aimed : project.revLine.bind (aimAt (planned input allowDowngrade text)) with
  | some gitlink =>
    obtain ⟨index, placed, here⟩ := Option.bind_eq_some_iff.mp aimed
    obtain ⟨same, listed', _, target⟩ := (aimAt_iff input allowDowngrade text).mp here
    obtain ⟨rel, old, child, recorded, pinned, placed', _⟩ := planRow_target.mp target
    obtain rfl := parseProjects_unique listed listed' placed placed'
    have repinned : (project.repin (aimAt (planned input allowDowngrade text))).revision = some gitlink.text := by
      simp [Project.repin, pinned, aimed]
    intro rewritten
    obtain ⟨index, found, target⟩ := planRow_rewrite rewritten
    obtain ⟨rel', old', child', recorded', pinned', _, differs, _⟩ := planRow_target.mp target
    obtain rfl := Option.some.inj (child.symm.trans child')
    obtain rfl := Option.some.inj (recorded.symm.trans recorded')
    exact differs (Option.some.inj (pinned'.symm.trans repinned))
  | none =>
    have same : project.repin (aimAt (planned input allowDowngrade text)) = project := by
      simp [Project.repin, aimed]
    rw [same]
    intro rewritten
    obtain ⟨index, gitlink, target⟩ := planRow_rewrite rewritten
    have placed := Row.target_revLine target
    rw [planRow_project] at placed
    have here := (aimAt_iff input allowDowngrade text).mpr ⟨project, listed, chosen, target⟩
    simp [placed, here] at aimed

/-- `apply_rows` replaces only the planned revisions exactly when every planned line has one space after
its key and no carriage return at its end. -/
theorem applyText_onlyRevisions :
    (∃ result, applyText text (planned input allowDowngrade text) = .ok result ∧
        OnlyRevisions input allowDowngrade text result) ↔
      ∀ index gitlink line, aimAt (planned input allowDowngrade text) index = some gitlink →
        (manifestLines text)[index]? = some line → line.Tidy := by
  have sheet := planned_sheet input allowDowngrade text
  have applied := applyText_eq input allowDowngrade text
  have edits : (edited (aimAt (planned input allowDowngrade text)) (manifestLines text)).flatMap Line.whole =
      editedFrom (aimAt (planned input allowDowngrade text)) (manifestLines text) 0 := by
    rw [edited, List.flatMap_map]
    rfl
  constructor
  · rintro ⟨result, ran, only⟩ index gitlink line aimed here
    rw [applied] at ran
    obtain rfl := Except.ok.inj ran
    exact sheet.tidy (only.kept.trans edits) line index (List.mk_mem_zipIdx_iff_getElem?.mpr here) gitlink aimed
  · intro tidy
    have written := sheet.written fun line index listed gitlink aimed =>
      tidy index gitlink line aimed (List.mk_mem_zipIdx_iff_getElem?.mp listed)
    rw [written] at applied
    have projects := parseProjects_edited sheet.aims
    rw [← manifestLines_edited sheet] at projects
    refine ⟨_, applied, edits.symm, projects, ?_⟩
    intro row listed
    rw [planned, projects] at listed
    simp only [plan, List.mem_map, List.mem_filter] at listed
    obtain ⟨_, ⟨⟨project, listed, rfl⟩, chosen⟩, rfl⟩ := listed
    exact planRow_repin input allowDowngrade text listed chosen _

/-- The revision stands two spaces after its key. -/
def spaced : Text :=
  "  projects:\n    - name: libobjc\n      path: darling/src/external/objc4\n      revision:  main\n".toList

theorem spaced_reformatted :
    ¬∃ result, applyText spaced (planned diverged false spaced) = .ok result ∧
      OnlyRevisions diverged false spaced result := by
  rintro ⟨result, ran, only⟩
  have written : (applyText spaced (planned diverged false spaced)).toOption =
      some "  projects:\n    - name: libobjc\n      path: darling/src/external/objc4\n      revision: topic\n".toList :=
        by
    unfold spaced
    rw [String.toList_ofList, String.toList_ofList]
    decide +kernel
  have edits : (edited (aimAt (planned diverged false spaced)) (manifestLines spaced)).flatMap Line.whole =
      "  projects:\n    - name: libobjc\n      path: darling/src/external/objc4\n      revision:  topic\n".toList := by
    unfold spaced
    rw [String.toList_ofList, String.toList_ofList]
    decide +kernel
  rw [ran] at written
  have same := only.kept
  rw [Option.some.inj written, edits, String.toList_ofList, String.toList_ofList] at same
  revert same
  decide +kernel

end Rows

end Darling.Pins
