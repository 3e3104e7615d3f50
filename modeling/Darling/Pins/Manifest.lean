import Darling.Library.Texts
import Mathlib.Data.List.Basic

/-! The manifest as text: `west-pin-sync.py` finds the projects and their revision lines by matching
lines, never through a YAML reader. -/
namespace Darling.Pins

-- `\s` matches what `str.isspace` accepts.
export Texts (Text isSpace)

/-- A line with the characters that end it, as `splitlines(keepends=True)` gives it. -/
structure Line where
  content : Text
  ending : Text
  deriving DecidableEq

def indent (line : Text) : Text := line.takeWhile isSpace

def lstrip (line : Text) : Text := line.dropWhile isSpace

def literal (expected line : Text) : Option Text :=
  if expected.isPrefixOf line then some (line.drop expected.length) else none

/-- `\s*(\S+)`, with what follows. -/
def word (line : Text) : Option (Text × Text) :=
  let found := (lstrip line).takeWhile (!isSpace ·)
  if found = [] then none else some (found, (lstrip line).dropWhile (!isSpace ·))

def blank (line : Text) : Bool := line.all isSpace

/-- `NAME_RE`: the indent and the name. -/
def nameOf (line : Text) : Option (Nat × Text) := do
  let afterDash ← literal ['-'] (lstrip line)
  let afterKey ← literal "name:".toList (lstrip afterDash)
  let (name, rest) ← word afterKey
  if blank rest then some ((indent line).length, name) else none

/-- `SECTION_RE`: the indent and the section. -/
def sectionOf (line : Text) : Option (Nat × Text) :=
  let key := (lstrip line).takeWhile fun c => c.isLower || c.isDigit || c == '-'
  let rest := (lstrip line).dropWhile fun c => c.isLower || c.isDigit || c == '-'
  match key.head?, rest with
  | some first, ':' :: after => if first.isLower && blank after then some ((indent line).length, key) else none
  | _, _ => none

/-- `PATH_RE`: the path. -/
def pathOf (line : Text) : Option Text := do
  let afterKey ← literal "path:".toList (lstrip line)
  let (path, rest) ← word afterKey
  if blank rest then some path else none

/-- `REV_RE`: the indent, the revision and what follows it. -/
def revisionOf (line : Text) : Option (Text × Text × Text) := do
  let afterKey ← literal "revision:".toList (lstrip line)
  let (revision, rest) ← word afterKey
  return (indent line, revision, rest)

structure Project where
  name : Text
  path : Option Text := none
  revision : Option Text := none
  nameLine : Nat := 0
  pathLine : Option Nat := none
  revLine : Option Nat := none
  deriving DecidableEq

/-- The variables of the loop of `parse_projects`. The current project is not among `projects` yet. -/
structure Reading where
  projects : List Project := []
  inProjects : Bool := false
  sectionIndent : Nat := 0
  current : Option Project := none
  dashIndent : Nat := 0

namespace Reading

/-- The projects found so far, the current one last. -/
def all (r : Reading) : List Project := r.projects ++ r.current.toList

def leave (r : Reading) : Reading := { r with projects := r.all, current := none }

/-- A line inside the entry of the current project. -/
def field (r : Reading) (project : Project) (index : Nat) (line : Text) : Reading :=
  if blank line || (lstrip line).head? == some '#' then r
  else if (indent line).length ≤ r.dashIndent then r.leave
  else match pathOf line, project.path with
    | some path, none => { r with current := some { project with path := some path, pathLine := some index } }
    | _, _ =>
      match revisionOf line, project.revision with
      | some (_, revision, _), none =>
        { r with current := some { project with revision := some revision, revLine := some index } }
      | _, _ => r

/-- A line of the `projects:` section. -/
def entry (r : Reading) (index : Nat) (line : Text) : Reading :=
  match nameOf line with
  | some (depth, name) =>
    if r.current.isNone || depth ≤ r.dashIndent then
      { r.leave with current := some { name, nameLine := index }, dashIndent := depth }
    else r
  | none =>
    match r.current with
    | none => r
    | some project => r.field project index line

def outside (r : Reading) (index : Nat) (line : Text) : Reading :=
  if r.inProjects then r.entry index line else r

def step (r : Reading) (index : Nat) (line : Text) : Reading :=
  match sectionOf line with
  | some (depth, key) =>
    if key = "projects".toList then
      { r.leave with inProjects := true, sectionIndent := depth, dashIndent := 0 }
    else if r.inProjects ∧ depth ≤ r.sectionIndent then { r.leave with inProjects := false }
    else r.outside index line
  | none => r.outside index line

def run (r : Reading) (index : Nat) : List Text → Reading
  | [] => r
  | line :: lines => (r.step index line).run (index + 1) lines

end Reading

def parseProjects (manifest : List Line) : List Project :=
  (Reading.run {} 0 (manifest.map (·.content))).all

/-- The revision of the project is the one its revision line has. -/
def Project.Pinned (manifest : List Text) (project : Project) : Prop :=
  ∀ index, project.revLine = some index → ∃ line before revision rest,
    manifest[index]? = some line ∧ revisionOf line = some (before, revision, rest) ∧
      project.revision = some revision

/-- No line is the revision line of both. -/
def Project.Apart (first second : Project) : Prop :=
  ∀ index, first.revLine = some index → second.revLine ≠ some index

/-- The projects read from the lines before the index. -/
structure Reading.Sound (manifest : List Text) (index : Nat) (projects : List Project) : Prop where
  pinned : ∀ project ∈ projects, project.Pinned manifest
  complete : ∀ project ∈ projects, project.revision.isSome → project.revLine.isSome
  read : ∀ project ∈ projects, ∀ line, project.revLine = some line → line < index
  apart : projects.Pairwise Project.Apart

namespace Reading

/-- What one line does to the projects found: nothing, one more without a revision, or a field of the
last one. -/
inductive Becomes (index : Nat) (line : Text) (before : List Project) : List Project → Prop where
  | same : Becomes index line before before
  | another (project : Project) (unpinned : project.revision = none) (unplaced : project.revLine = none) :
      Becomes index line before (before ++ [project])
  | renamed (earlier : List Project) (old new : Project) (shape : before = earlier ++ [old])
      (revision : new.revision = old.revision) (revLine : new.revLine = old.revLine) :
      Becomes index line before (earlier ++ [new])
  | pinned (earlier : List Project) (old new : Project) (shape : before = earlier ++ [old]) (first rest revision : Text)
      (found : revisionOf line = some (first, revision, rest))
      (assigned : new.revision = some revision) (placed : new.revLine = some index) :
      Becomes index line before (earlier ++ [new])

@[simp] theorem leave_all (r : Reading) : r.leave.all = r.all := by simp [leave, all]

theorem leave_becomes (r : Reading) {index : Nat} {line : Text} : Becomes index line r.all r.leave.all := by
  rw [leave_all]
  exact .same

theorem field_becomes (r : Reading) {project : Project} (current : r.current = some project) (index : Nat)
    (line : Text) :
    Becomes index line r.all (r.field project index line).all := by
  have shape : r.all = r.projects ++ [project] := by simp [all, current]
  unfold field
  split
  · exact .same
  split
  · exact r.leave_becomes
  split
  · exact .renamed r.projects project _ shape rfl rfl
  · split
    · rename_i found _
      exact .pinned r.projects project _ shape _ _ _ found rfl rfl
    · exact .same

theorem entry_becomes (r : Reading) (index : Nat) (line : Text) :
    Becomes index line r.all (r.entry index line).all := by
  unfold entry
  split
  · split
    · rename_i depth name _ _
      exact .another { name := name, nameLine := index } rfl rfl
    · exact .same
  · split
    · exact .same
    · rename_i current
      exact r.field_becomes current index line

theorem step_becomes (r : Reading) (index : Nat) (line : Text) : Becomes index line r.all (r.step index line).all := by
  have outside_becomes : Becomes index line r.all (r.outside index line).all := by
    unfold outside
    split
    · exact r.entry_becomes index line
    · exact .same
  unfold step
  split
  · split
    · exact r.leave_becomes
    split
    · exact r.leave_becomes
    · exact outside_becomes
  · exact outside_becomes

/-- One line keeps the projects sound. -/
theorem Becomes.sound {manifest : List Text} {index : Nat} {line : Text} {before after : List Project}
    (becomes : Becomes index line before after) (here : manifest[index]? = some line)
    (sound : Sound manifest index before) : Sound manifest (index + 1) after := by
  have later (project : Project) (listed : project ∈ before) (place : Nat) (placed : project.revLine = some place) :
      place < index + 1 := Nat.lt_succ_of_lt (sound.read project listed place placed)
  cases becomes with
  | same => exact ⟨sound.pinned, sound.complete, later, sound.apart⟩
  | another project unpinned unplaced =>
    refine ⟨?_, ?_, ?_, ?_⟩
    · rintro other listed place placed
      rcases List.mem_append.mp listed with old | new
      · exact sound.pinned other old place placed
      · simp [List.mem_singleton.mp new, unplaced] at placed
    · rintro other listed revised
      rcases List.mem_append.mp listed with old | new
      · exact sound.complete other old revised
      · simp [List.mem_singleton.mp new, unpinned] at revised
    · rintro other listed place placed
      rcases List.mem_append.mp listed with old | new
      · exact later other old place placed
      · simp [List.mem_singleton.mp new, unplaced] at placed
    · refine List.pairwise_append.mpr ⟨sound.apart, List.pairwise_singleton _ _, ?_⟩
      intro first _ second new place _
      simp [List.mem_singleton.mp new, unplaced]
  | renamed earlier old new shape revision revLine =>
    subst shape
    have last : old ∈ earlier ++ [old] := by simp
    have lift {p : Project → Prop} (holds : ∀ project ∈ earlier ++ [old], p project) (kept : p old → p new) :
        ∀ project ∈ earlier ++ [new], p project := by
      intro project listed
      rcases List.mem_append.mp listed with old' | new'
      · exact holds project (List.mem_append_left _ old')
      · rw [List.mem_singleton.mp new']
        exact kept (holds old last)
    refine ⟨lift sound.pinned ?_, lift sound.complete ?_, lift later ?_, ?_⟩
    · intro pinned place placed
      rw [revision]
      exact pinned place (revLine ▸ placed)
    · rw [revision, revLine]
      exact id
    · rw [revLine]
      exact id
    · obtain ⟨first, _, cross⟩ := List.pairwise_append.mp sound.apart
      refine List.pairwise_append.mpr ⟨first, List.pairwise_singleton _ _, ?_⟩
      intro project listed second new' place placed
      rw [List.mem_singleton.mp new', revLine]
      exact cross project listed old (by simp) place placed
  | pinned earlier old new shape first rest revision found assigned placed =>
    subst shape
    refine ⟨?_, ?_, ?_, ?_⟩
    · intro project listed place at_
      rcases List.mem_append.mp listed with old' | new'
      · exact sound.pinned project (List.mem_append_left _ old') place at_
      · obtain rfl := List.mem_singleton.mp new'
        obtain rfl : index = place := by simpa [placed] using at_
        exact ⟨line, first, revision, rest, here, found, assigned⟩
    · intro project listed revised
      rcases List.mem_append.mp listed with old' | new'
      · exact sound.complete project (List.mem_append_left _ old') revised
      · simp [List.mem_singleton.mp new', placed]
    · intro project listed place at_
      rcases List.mem_append.mp listed with old' | new'
      · exact later project (List.mem_append_left _ old') place at_
      · obtain rfl := List.mem_singleton.mp new'
        obtain rfl : index = place := by simpa [placed] using at_
        exact Nat.lt_succ_self _
    · obtain ⟨apart, _, _⟩ := List.pairwise_append.mp sound.apart
      refine List.pairwise_append.mpr ⟨apart, List.pairwise_singleton _ _, ?_⟩
      intro project listed second new' place at_ clash
      have below := sound.read project (List.mem_append_left _ listed) place at_
      rw [List.mem_singleton.mp new', placed] at clash
      cases clash
      omega

theorem run_sound {manifest : List Text} (rest : List Text) (r : Reading) (index : Nat)
    (suffix : manifest.drop index = rest) (sound : Sound manifest index r.all) :
    ∃ last, Sound manifest last (r.run index rest).all := by
  induction rest generalizing r index with
  | nil => exact ⟨index, sound⟩
  | cons line lines ih =>
    have here : manifest[index]? = some line := by
      rw [← List.head?_drop, suffix]
      rfl
    refine ih (r.step index line) (index + 1) ?_ ((r.step_becomes index line).sound here sound)
    rw [← List.tail_drop, suffix]
    rfl

end Reading

/-- Every project that is read has the revision of its revision line, and no two share a line. -/
theorem parseProjects_sound (manifest : List Line) :
    ∃ last, Reading.Sound (manifest.map (·.content)) last (parseProjects manifest) :=
  Reading.run_sound _ {} 0 rfl
    ⟨by simp [Reading.all], by simp [Reading.all], by simp [Reading.all], by simp [Reading.all]⟩

end Darling.Pins
