import Darling.Library.CommitGraphs
import Darling.Pins.Manifest
import Mathlib.Data.List.Pairwise

/-! `west-pin-sync.py sync`: the plan compares the revision of every project with the gitlink of its
submodule, and the revision lines of the rows to rewrite are replaced in the manifest. -/
namespace Darling.Pins

/-- A revision as `git ls-tree` prints it: one word. -/
structure Gitlink where
  text : Text
  nonempty : text ≠ []
  word : ∀ c ∈ text, isSpace c = false

/-- The repository of a submodule: its commits, the revisions that name one, and whether it is checked
out beside the superproject. -/
structure Submodule (κ : Type) where
  checkedOut : Bool
  resolve : Text → Option κ
  graph : CommitGraph κ

namespace Submodule

variable {κ : Type} (submodule : Submodule κ)

/-- Both revisions name commits, and the first is an ancestor of the second. -/
def Ancestor (old new : Text) : Prop :=
  ∃ first second, submodule.resolve old = some first ∧ submodule.resolve new = some second ∧
    submodule.graph.Ancestor first second

/-- `git merge-base --is-ancestor` exits with 0. -/
def isAncestor [DecidableEq κ] (old new : Text) : Bool :=
  match submodule.resolve old, submodule.resolve new with
  | some first, some second => submodule.graph.isAncestor first second
  | _, _ => false

theorem isAncestor_iff [DecidableEq κ] {old new : Text} : submodule.isAncestor old new ↔
    submodule.Ancestor old new := by
  unfold isAncestor Ancestor
  cases submodule.resolve old with
  | none => simp
  | some first =>
    cases submodule.resolve new with
    | none => simp
    | some second => simpa using submodule.graph.isAncestor_iff

end Submodule

inductive Relation where
  | forward
  | westAhead
  | same
  | unknown
  | notAChild
  | noGitlink
  | noRevision
  deriving DecidableEq, Repr

inductive Action where
  | leave
  | none
  | refuseDowngrade
  | rewrite
  deriving DecidableEq, Repr

structure Row where
  project : Project
  rel : Text
  westRev : Option Text
  gitlink : Option Gitlink
  relation : Relation
  action : Action

/-- What a run reads. `selection` is the `--project` option. -/
structure Input (κ : Type) where
  manifest : List Line
  links : Text → Option Gitlink
  submodules : Text → Submodule κ
  selection : List Text := []

inductive Refusal where
  | noProjects
  | unmatched (names : List Text)
  | moved (name : Text)
  | lineCount
  | touched (line : Nat)

variable {κ : Type} [DecidableEq κ]

def relationship (submodule : Submodule κ) (westRev gitlink : Text) : Relation :=
  if westRev = gitlink then .same
  else if !submodule.checkedOut then .unknown
  else if submodule.isAncestor westRev gitlink then .forward
  else if submodule.isAncestor gitlink westRev then .westAhead
  else .unknown

def projectsPrefix : Text := "darling/".toList

def Project.place (project : Project) : Text := project.path.getD []

/-- The selected names and paths that no project has. -/
def unmatched (projects : List Project) (selection : List Text) : List Text :=
  selection.filter fun want =>
    !(projects.any (·.name == want) || projects.any fun project => project.place ≠ [] && project.place == want)

def selected (selection : List Text) (project : Project) : Bool :=
  selection.isEmpty || selection.contains project.name || selection.contains project.place

/-- The body of the loop of `plan` for a selected project. -/
def planRow (input : Input κ) (allowDowngrade : Bool) (project : Project) : Row :=
  match literal projectsPrefix project.place with
  | none => ⟨project, project.place, project.revision, none, .notAChild, .leave⟩
  | some rel =>
    match input.links rel with
    | none => ⟨project, rel, project.revision, none, .noGitlink, .leave⟩
    | some gitlink =>
      match project.revision, project.revLine with
      | some revision, some _ =>
        let relation := relationship (input.submodules rel) revision gitlink.text
        ⟨project, rel, some revision, some gitlink, relation,
          if revision = gitlink.text then .none
          else if relation = .westAhead ∧ !allowDowngrade then .refuseDowngrade
          else .rewrite⟩
      | _, _ => ⟨project, rel, none, some gitlink, .noRevision, .leave⟩

def plan (input : Input κ) (allowDowngrade : Bool) (projects : List Project) : List Row :=
  (projects.filter (selected input.selection)).map (planRow input allowDowngrade)

/-- The line to rewrite and what to write there. -/
def Row.target (row : Row) : Option (Nat × Gitlink) :=
  match row.action, row.project.revLine, row.gitlink with
  | .rewrite, some line, some gitlink => some (line, gitlink)
  | _, _, _ => none

def rewriteLine (line : Line) (gitlink : Gitlink) : Option Line := do
  let (before, _, rest) ← revisionOf line.content
  return { line with content := before ++ "revision: ".toList ++ gitlink.text ++ rest }

/-- The rows applied to lines of any kind, with the rewriting of one. -/
def rewriteRows (rewrite : α → Gitlink → Option α) (lines : List α) : List Row → Except Refusal (List α)
  | [] => .ok lines
  | row :: rows =>
    match row.target with
    | none => rewriteRows rewrite lines rows
    | some (index, gitlink) =>
      match lines[index]?.bind (rewrite · gitlink) with
      | none => .error (.moved row.project.name)
      | some written => rewriteRows rewrite (lines.set index written) rows

def applyRows (lines : List Line) (rows : List Row) : Except Refusal (List Line) := rewriteRows rewriteLine lines rows

/-- A rewrite touches nothing but the revision lines it planned to touch. -/
def verifyOnlyRevisionsChanged (before after : List Line) (rows : List Row) : Except Refusal Unit :=
  if before.length ≠ after.length then .error .lineCount
  else match (List.range before.length).find? fun index =>
      (before[index]?.map (·.content)) ≠ (after[index]?.map (·.content)) ∧
        index ∉ rows.filterMap fun row => row.target.map (·.1) with
    | some index => .error (.touched index)
    | none => .ok ()

/-- The manifest that is written, if one is. -/
def sync (input : Input κ) (allowDowngrade : Bool) : Except Refusal (Option (List Line)) := do
  let projects := parseProjects input.manifest
  if projects = [] then throw .noProjects
  if unmatched projects input.selection ≠ [] then throw (.unmatched (unmatched projects input.selection))
  let rows := plan input allowDowngrade projects
  let written ← applyRows input.manifest rows
  if rows.all fun row => row.target.isNone then return none
  verifyOnlyRevisionsChanged input.manifest written rows
  return some written

/-- The revision on a line. -/
def pinAt (manifest : List Line) (index : Nat) : Option Text := do
  let line ← manifest[index]?
  let (_, revision, _) ← revisionOf line.content
  return revision

section Lines

/-- A run of characters is cut off exactly before one that is not part of it. -/
theorem span_append (p : Char → Bool) (run rest : Text) (inside : ∀ c ∈ run, p c)
    (stop : ∀ c, rest.head? = some c → p c = false) :
    (run ++ rest).takeWhile p = run ∧ (run ++ rest).dropWhile p = rest := by
  have ended : rest.takeWhile p = [] ∧ rest.dropWhile p = rest := by
    cases rest with
    | nil => simp
    | cons c tail => simp [stop c rfl]
  rw [List.takeWhile_append_of_pos inside, List.dropWhile_append_of_pos inside, ended.1, ended.2]
  simp

theorem literal_append (expected rest : Text) : literal expected (expected ++ rest) = some rest := by
  simp [literal]

/-- What follows a word starts with a space. -/
theorem word_rest {line found rest : Text} (worded : word line = some (found, rest)) (c : Char)
    (first : rest.head? = some c) : isSpace c = true := by
  simp only [word] at worded
  split at worded
  · cases worded
  · cases worded
    have stopped := List.head?_dropWhile_not (!isSpace ·) (lstrip line)
    rw [first] at stopped
    simpa using stopped

/-- The parts of a revision line. -/
structure RevisionLine (line before gap revision rest : Text) : Prop where
  shape : line = before ++ ("revision:".toList ++ (gap ++ (revision ++ rest)))
  before : ∀ c ∈ before, isSpace c
  gap : ∀ c ∈ gap, isSpace c
  nonempty : revision ≠ []
  word : ∀ c ∈ revision, isSpace c = false
  rest : ∀ c, rest.head? = some c → isSpace c = true

/-- The spaces between the key of a revision line and the revision. -/
def gapOf (line : Text) : Text := indent ((lstrip line).drop "revision:".toList.length)

namespace RevisionLine

variable {line before gap revision rest : Text}

theorem starts (at_ : RevisionLine line before gap revision rest) (c : Char)
    (first : (revision ++ rest).head? = some c) : isSpace c = false := by
  cases text : revision with
  | nil => exact absurd text at_.nonempty
  | cons d others =>
    rw [text] at first
    obtain rfl : d = c := by simpa using first
    exact at_.word d (by simp [text])

theorem stripped (at_ : RevisionLine line before gap revision rest) :
    indent line = before ∧ lstrip line = "revision:".toList ++ (gap ++ (revision ++ rest)) := by
  rw [at_.shape]
  exact span_append isSpace before _ at_.before (by simp; decide)

theorem gapOf_eq (at_ : RevisionLine line before gap revision rest) : gapOf line = gap := by
  rw [gapOf, at_.stripped.2, List.drop_left]
  exact (span_append isSpace gap _ at_.gap at_.starts).1

theorem found (at_ : RevisionLine line before gap revision rest) : revisionOf line = some (before, revision, rest) := by
  have valued : lstrip (gap ++ (revision ++ rest)) = revision ++ rest :=
    (span_append isSpace gap _ at_.gap at_.starts).2
  have split := span_append (!isSpace ·) revision rest (fun c listed => by simp [at_.word c listed])
    (fun c first => by simp [at_.rest c first])
  have worded : Pins.word (gap ++ (revision ++ rest)) = some (revision, rest) := by
    simp only [Pins.word, valued, split.1, split.2, if_neg at_.nonempty]
  simp only [revisionOf, at_.stripped.1, at_.stripped.2, literal_append, Option.bind_eq_bind, Option.bind_some, worded]
  rfl

/-- Another revision in the place of the first. -/
theorem replace (at_ : RevisionLine line before gap revision rest) (gitlink : Gitlink) {spaces : Text}
    (spaced : ∀ c ∈ spaces, isSpace c) :
    RevisionLine (before ++ ("revision:".toList ++ (spaces ++ (gitlink.text ++ rest)))) before spaces
      gitlink.text rest :=
  ⟨rfl, at_.before, spaced, gitlink.nonempty, gitlink.word, at_.rest⟩

end RevisionLine

theorem revisionOf_line {line before revision rest : Text} (found : revisionOf line = some (before, revision, rest)) :
    RevisionLine line before (gapOf line) revision rest := by
  simp only [revisionOf, Option.bind_eq_bind, Option.bind_eq_some_iff] at found
  obtain ⟨afterKey, keyed, ⟨value, after⟩, worded, same⟩ := found
  cases same
  have stripped : lstrip line = "revision:".toList ++ afterKey := by
    simp only [literal] at keyed
    split at keyed
    · rename_i starts
      obtain ⟨tail, joined⟩ := List.isPrefixOf_iff_prefix.mp starts
      cases keyed
      rw [← joined, List.drop_left]
    · cases keyed
  have following := word_rest worded
  simp only [word] at worded
  split at worded
  · cases worded
  · rename_i some_
    cases worded
    have gap : gapOf line = indent afterKey := by rw [gapOf, stripped, List.drop_left]
    refine ⟨?_, List.all_eq_true.mp List.all_takeWhile, ?_, some_, ?_, following⟩
    · have valued : indent afterKey ++ lstrip afterKey = afterKey := List.takeWhile_append_dropWhile
      have whole : indent line ++ lstrip line = line := List.takeWhile_append_dropWhile
      rw [List.takeWhile_append_dropWhile, gap, valued, ← stripped, whole]
    · rw [gap]
      exact List.all_eq_true.mp List.all_takeWhile
    · intro c listed
      simpa using List.all_eq_true.mp List.all_takeWhile c listed

/-- A rewritten revision line has the gitlink as its revision. -/
theorem revisionOf_rewritten {line before old rest : Text} (found : revisionOf line = some (before, old, rest))
    (gitlink : Gitlink) :
    revisionOf (before ++ "revision: ".toList ++ gitlink.text ++ rest) = some (before, gitlink.text, rest) := by
  have rewritten := ((revisionOf_line found).replace gitlink (show ∀ c ∈ [' '], isSpace c by simp; decide)).found
  rw [← rewritten]
  simp

end Lines

section Rewriting

theorem pinAt_eq {manifest : List Line} {index : Nat} {line : Line} {before old rest : Text}
    (here : manifest[index]? = some line) (found : revisionOf line.content = some (before, old, rest)) :
    pinAt manifest index = some old := by
  simp [pinAt, here, found]

theorem rewriteLine_pin {manifest written : List Line} {index : Nat} {gitlink : Gitlink} {old : Text}
    (pinned : pinAt manifest index = some old)
    (rewritten : written[index]? = manifest[index]?.bind (rewriteLine · gitlink)) :
    pinAt written index = some gitlink.text := by
  simp only [pinAt, Option.bind_eq_bind, Option.bind_eq_some_iff] at pinned
  obtain ⟨line, here, ⟨before, revision, rest⟩, found, _⟩ := pinned
  have content : written[index]? =
      some { line with content := before ++ "revision: ".toList ++ gitlink.text ++ rest } := by
    rw [rewritten, here]
    simp [rewriteLine, found]
  exact pinAt_eq content (revisionOf_rewritten found gitlink)

/-- The revision of a project is the pin on its revision line. -/
theorem parseProjects_pinAt {manifest : List Line} {project : Project} {index : Nat}
    (listed : project ∈ parseProjects manifest) (placed : project.revLine = some index) :
    ∃ old, project.revision = some old ∧ pinAt manifest index = some old := by
  obtain ⟨_, sound⟩ := parseProjects_sound manifest
  obtain ⟨content, before, old, rest, here, found, pinned⟩ := sound.pinned project listed index placed
  rw [List.getElem?_map] at here
  obtain ⟨line, at_, rfl⟩ := Option.map_eq_some_iff.mp here
  exact ⟨old, pinned, pinAt_eq at_ found⟩

/-- What the rewritten manifest has on each line. -/
structure Rewrites (rewrite : α → Gitlink → Option α) (targets : List (Nat × Gitlink))
    (lines written : List α) : Prop where
  length : written.length = lines.length
  planned : ∀ target ∈ targets, written[target.1]? = lines[target.1]?.bind (rewrite · target.2)
  kept : ∀ index, (∀ target ∈ targets, target.1 ≠ index) → written[index]? = lines[index]?

/-- The rows are applied one after the other; each finds its line as the manifest had it, since no
two rows share one. -/
theorem rewriteRows_rewrites (rewrite : α → Gitlink → Option α) (rows : List Row) (lines : List α)
    (apart : (rows.filterMap Row.target).Pairwise fun first second => first.1 ≠ second.1)
    (rewritable : ∀ target ∈ rows.filterMap Row.target, (lines[target.1]?.bind (rewrite · target.2)).isSome) :
    ∃ written, rewriteRows rewrite lines rows = .ok written ∧
      Rewrites rewrite (rows.filterMap Row.target) lines written := by
  induction rows generalizing lines with
  | nil => exact ⟨lines, rfl, rfl, by simp, fun _ _ => rfl⟩
  | cons row rows ih =>
    cases aimed : row.target with
    | none =>
      rw [List.filterMap_cons_none aimed] at apart rewritable ⊢
      obtain ⟨written, applied, rewrites⟩ := ih lines apart rewritable
      exact ⟨written, by rw [rewriteRows, aimed]; exact applied, rewrites⟩
    | some target =>
      obtain ⟨index, gitlink⟩ := target
      rw [List.filterMap_cons_some aimed] at apart rewritable ⊢
      obtain ⟨others, apart⟩ := List.pairwise_cons.mp apart
      obtain ⟨changed, rewritten⟩ := Option.isSome_iff_exists.mp (rewritable (index, gitlink) List.mem_cons_self)
      obtain ⟨line, at_, _⟩ := Option.bind_eq_some_iff.mp rewritten
      have bound : index < lines.length := (List.getElem?_eq_some_iff.mp at_).1
      have untouched (target : Nat × Gitlink) (listed : target ∈ rows.filterMap Row.target) :
          (lines.set index changed)[target.1]? = lines[target.1]? :=
        List.getElem?_set_ne (others target listed)
      obtain ⟨written, applied, rewrites⟩ := ih (lines.set index changed) apart fun target listed => by
        rw [untouched target listed]
        exact rewritable target (List.mem_cons_of_mem _ listed)
      refine ⟨written, ?_, ?_, ?_, ?_⟩
      · rw [rewriteRows, aimed]
        simp only [rewritten]
        exact applied
      · rw [rewrites.length, List.length_set]
      · intro target listed
        rcases List.mem_cons.mp listed with rfl | later
        · rw [rewrites.kept index fun target listed => (others target listed).symm, List.getElem?_set_self bound]
          exact rewritten.symm
        · rw [rewrites.planned target later, untouched target later]
      · intro other free
        rw [rewrites.kept other fun target listed => free target (List.mem_cons_of_mem _ listed),
          List.getElem?_set_ne (free (index, gitlink) List.mem_cons_self)]

theorem rewriteLine_isSome {lines : List Line} {index : Nat} {gitlink : Gitlink} {old : Text}
    (pinned : pinAt lines index = some old) : (lines[index]?.bind (rewriteLine · gitlink)).isSome := by
  simp only [pinAt, Option.bind_eq_bind, Option.bind_eq_some_iff] at pinned
  obtain ⟨line, at_, _, found, _⟩ := pinned
  simp [at_, rewriteLine, found]

theorem verify_rewrites {rows : List Row} {lines written : List Line}
    (rewrites : Rewrites rewriteLine (rows.filterMap Row.target) lines written) :
    verifyOnlyRevisionsChanged lines written rows = .ok () := by
  unfold verifyOnlyRevisionsChanged
  rw [if_neg (by rw [rewrites.length]; exact fun differ => differ rfl)]
  split
  · rename_i index found
    have touched := List.find?_some found
    obtain ⟨differs, unplanned⟩ := of_decide_eq_true touched
    refine absurd ?_ differs
    rw [rewrites.kept index]
    rintro target listed rfl
    refine unplanned (List.mem_filterMap.mpr ?_)
    obtain ⟨row, planned, aimed⟩ := List.mem_filterMap.mp listed
    exact ⟨row, planned, by rw [aimed]; rfl⟩
  · rfl

end Rewriting

section Planning

/-- The run compares the revision of the project with a gitlink that differs from it. -/
structure Compares (input : Input κ) (project : Project) (rel old : Text) (gitlink : Gitlink) : Prop where
  listed : project ∈ parseProjects input.manifest
  matched : unmatched (parseProjects input.manifest) input.selection = []
  selected : selected input.selection project
  child : literal projectsPrefix project.place = some rel
  recorded : input.links rel = some gitlink
  pinned : project.revision = some old
  differs : old ≠ gitlink.text

theorem relationship_westAhead {submodule : Submodule κ} {old gitlink : Text} (differs : old ≠ gitlink) :
    relationship submodule old gitlink = .westAhead ↔
      submodule.checkedOut ∧ ¬submodule.Ancestor old gitlink ∧ submodule.Ancestor gitlink old := by
  rw [← submodule.isAncestor_iff, ← submodule.isAncestor_iff, relationship, if_neg differs]
  cases submodule.checkedOut <;> cases submodule.isAncestor old gitlink <;>
    cases submodule.isAncestor gitlink old <;> simp

/-- A project is rewritten when it is compared and the gitlink is not known to be older. -/
theorem planRow_target {input : Input κ} {allowDowngrade : Bool} {project : Project} {index : Nat} {gitlink : Gitlink} :
    (planRow input allowDowngrade project).target = some (index, gitlink) ↔ ∃ rel old,
      literal projectsPrefix project.place = some rel ∧ input.links rel = some gitlink ∧
        project.revision = some old ∧ project.revLine = some index ∧ old ≠ gitlink.text ∧
        (relationship (input.submodules rel) old gitlink.text = .westAhead → allowDowngrade) := by
  unfold planRow
  cases child : literal projectsPrefix project.place with
  | none => simp [Row.target]
  | some rel =>
    cases recorded : input.links rel with
    | none => simp [Row.target, recorded]
    | some found =>
      cases pinned : project.revision with
      | none => simp [Row.target, recorded]
      | some old =>
        cases placed : project.revLine with
        | none => simp [Row.target, recorded]
        | some line =>
          by_cases same : old = found.text
          · simp only [Row.target, recorded, placed, if_pos same]
            grind
          · by_cases ahead : relationship (input.submodules rel) old found.text = .westAhead
            · cases allowDowngrade
              · simp only [Row.target, recorded, placed, if_neg same, ahead]
                grind
              · simp only [Row.target, recorded, placed, if_neg same, ahead]
                grind
            · simp only [Row.target, recorded, placed, if_neg same, ahead, false_and, if_false]
              grind

/-- A row to rewrite says which line, and what to write there. -/
theorem planRow_rewrite {input : Input κ} {allowDowngrade : Bool} {project : Project}
    (rewritten : (planRow input allowDowngrade project).action = .rewrite) :
    ∃ index gitlink, (planRow input allowDowngrade project).target = some (index, gitlink) := by
  unfold planRow at rewritten ⊢
  cases child : literal projectsPrefix project.place with
  | none => simp [child] at rewritten
  | some rel =>
    cases recorded : input.links rel with
    | none => simp [child, recorded] at rewritten
    | some found =>
      cases pinned : project.revision with
      | none => simp [child, recorded, pinned] at rewritten
      | some old =>
        cases placed : project.revLine with
        | none => simp [child, recorded, pinned, placed] at rewritten
        | some line =>
          simp only [child, recorded, pinned, placed] at rewritten
          simp only [recorded, placed, Row.target]
          rw [rewritten]
          exact ⟨line, found, rfl⟩

theorem planRow_project (input : Input κ) (allowDowngrade : Bool) (project : Project) :
    (planRow input allowDowngrade project).project = project := by
  unfold planRow
  repeat' split
  all_goals rfl

theorem Row.target_revLine {row : Row} {index : Nat} {gitlink : Gitlink} (aimed : row.target = some (index, gitlink)) :
    row.project.revLine = some index := by
  unfold Row.target at aimed
  split at aimed
  · rename_i placed _
    cases aimed
    exact placed
  · cases aimed

/-- The lines to rewrite are revision lines, each of one project. -/
theorem plan_targets (input : Input κ) (allowDowngrade : Bool) :
    ((plan input allowDowngrade (parseProjects input.manifest)).filterMap Row.target).Pairwise
        (fun first second => first.1 ≠ second.1) ∧
      ∀ target ∈ (plan input allowDowngrade (parseProjects input.manifest)).filterMap Row.target,
        ∃ old, pinAt input.manifest target.1 = some old := by
  obtain ⟨_, sound⟩ := parseProjects_sound input.manifest
  constructor
  · refine List.pairwise_filterMap.mpr (List.pairwise_map.mpr ((sound.apart.filter _).imp ?_))
    rintro first second apart ⟨index, _⟩ aimed ⟨other, _⟩ aimed' rfl
    have placed := Row.target_revLine aimed
    have placed' := Row.target_revLine aimed'
    rw [planRow_project] at placed placed'
    exact apart index placed placed'
  · rintro ⟨index, gitlink⟩ listed
    obtain ⟨row, planned, aimed⟩ := List.mem_filterMap.mp listed
    obtain ⟨project, chosen, rfl⟩ := List.mem_map.mp planned
    have placed := Row.target_revLine aimed
    rw [planRow_project] at placed
    obtain ⟨old, _, pin⟩ := parseProjects_pinAt (List.mem_of_mem_filter chosen) placed
    exact ⟨old, pin⟩

/-- Once the projects are found and the selection names some of them, the run succeeds; it writes the
planned revisions when there are any. -/
theorem sync_eq {input : Input κ} (found : parseProjects input.manifest ≠ [])
    (matched : unmatched (parseProjects input.manifest) input.selection = []) :
    ∃ written, Rewrites rewriteLine ((plan input false (parseProjects input.manifest)).filterMap Row.target)
      input.manifest written ∧
      sync input false = .ok (if (plan input false (parseProjects input.manifest)).all (·.target.isNone) then none
        else some written) := by
  obtain ⟨apart, pinned⟩ := plan_targets input false
  obtain ⟨written, applied, rewrites⟩ := rewriteRows_rewrites rewriteLine _ input.manifest apart fun target listed =>
    rewriteLine_isSome (pinned target listed).choose_spec
  refine ⟨written, rewrites, ?_⟩
  unfold sync
  simp only [if_neg found, matched, ne_eq, not_true_eq_false, if_false, applyRows, applied]
  split
  · rfl
  · change (verifyOnlyRevisionsChanged input.manifest written _ >>= fun _ => pure (some written)) = _
    rw [verify_rewrites rewrites]
    rfl

theorem sync_matched {input : Input κ} {written : Option (List Line)} (ran : sync input false = .ok written) :
    unmatched (parseProjects input.manifest) input.selection = [] := by
  by_contra other
  unfold sync at ran
  by_cases found : parseProjects input.manifest = []
  · simp only [found, if_true] at ran
    cases ran
  · simp only [if_neg found, ne_eq, other, not_false_eq_true, if_true] at ran
    cases ran

/-- A project with the same revision line is the same project. -/
theorem parseProjects_unique {manifest : List Line} {first second : Project} {index : Nat}
    (listed : first ∈ parseProjects manifest) (listed' : second ∈ parseProjects manifest)
    (placed : first.revLine = some index) (placed' : second.revLine = some index) : first = second := by
  obtain ⟨_, sound⟩ := parseProjects_sound manifest
  by_contra differ
  have symmetric : Std.Symm Project.Apart := ⟨fun _ _ apart place at_ clash => apart place clash at_⟩
  exact sound.apart.forall listed listed' differ index placed placed'

theorem mem_targets {input : Input κ} {allowDowngrade : Bool} {index : Nat} {gitlink : Gitlink} :
    (index, gitlink) ∈ (plan input allowDowngrade (parseProjects input.manifest)).filterMap Row.target ↔
      ∃ project ∈ parseProjects input.manifest, selected input.selection project ∧
        (planRow input allowDowngrade project).target = some (index, gitlink) := by
  simp only [plan, List.mem_filterMap, List.mem_map, List.mem_filter]
  constructor
  · rintro ⟨_, ⟨project, ⟨listed, chosen⟩, rfl⟩, aimed⟩
    exact ⟨project, listed, chosen, aimed⟩
  · rintro ⟨project, listed, chosen, aimed⟩
    exact ⟨_, ⟨project, ⟨listed, chosen⟩, rfl⟩, aimed⟩

end Planning

section Lowering

/-- A revision that the run changes is an ancestor of the gitlink that is written in its place. -/
def NeverLowers (input : Input κ) : Prop :=
  ∀ written, sync input false = .ok (some written) →
    ∀ project ∈ parseProjects input.manifest, ∀ index old new, project.revLine = some index →
      pinAt input.manifest index = some old → pinAt written index = some new → new ≠ old →
      ∃ rel gitlink, literal projectsPrefix project.place = some rel ∧ input.links rel = some gitlink ∧
        gitlink.text = new ∧ (input.submodules rel).Ancestor old new

/-- A compared project that is not known to be ahead gets its gitlink written. -/
theorem sync_rewrites {input : Input κ} {project : Project} {rel old : Text} {gitlink : Gitlink}
    (compares : Compares input project rel old gitlink)
    (behind : relationship (input.submodules rel) old gitlink.text ≠ .westAhead) :
    ∃ written index, sync input false = .ok (some written) ∧ project.revLine = some index ∧
      pinAt input.manifest index = some old ∧ pinAt written index = some gitlink.text := by
  obtain ⟨_, sound⟩ := parseProjects_sound input.manifest
  have placed := sound.complete project compares.listed (by rw [compares.pinned]; rfl)
  obtain ⟨index, placed⟩ := Option.isSome_iff_exists.mp placed
  obtain ⟨_, revision, pin⟩ := parseProjects_pinAt compares.listed placed
  obtain rfl := Option.some.inj (revision.symm.trans compares.pinned)
  have aimed : (index, gitlink) ∈ (plan input false (parseProjects input.manifest)).filterMap Row.target :=
    mem_targets.mpr ⟨project, compares.listed, compares.selected, planRow_target.mpr
      ⟨rel, _, compares.child, compares.recorded, revision, placed, compares.differs,
        fun ahead => absurd ahead behind⟩⟩
  obtain ⟨written, rewrites, ran⟩ := sync_eq (List.ne_nil_of_mem compares.listed) compares.matched
  have some_rewritten : ¬(plan input false (parseProjects input.manifest)).all (·.target.isNone) := by
    obtain ⟨row, planned, target⟩ := List.mem_filterMap.mp aimed
    intro all
    have unaimed := List.all_eq_true.mp all row planned
    rw [target] at unaimed
    cases unaimed
  rw [if_neg some_rewritten] at ran
  exact ⟨written, index, ran, placed, pin, rewriteLine_pin pin (rewrites.planned _ aimed)⟩

/-- A revision that the run changes was compared with its gitlink and not known to be ahead of it. -/
theorem sync_changes {input : Input κ} {written : List Line} (ran : sync input false = .ok (some written))
    {project : Project} (listed : project ∈ parseProjects input.manifest) {index : Nat} {old new : Text}
    (placed : project.revLine = some index) (pin : pinAt input.manifest index = some old)
    (pin' : pinAt written index = some new) (differs : new ≠ old) :
    ∃ rel gitlink, Compares input project rel old gitlink ∧ gitlink.text = new ∧
      relationship (input.submodules rel) old gitlink.text ≠ .westAhead := by
  have matched := sync_matched ran
  obtain ⟨rewritten, rewrites, ran'⟩ := sync_eq (List.ne_nil_of_mem listed) matched
  have same : rewritten = written := by
    rw [ran] at ran'
    split at ran'
    · cases ran'
    · cases ran'
      rfl
  subst same
  by_cases planned : ∃ gitlink, (index, gitlink)
    ∈ (plan input false (parseProjects input.manifest)).filterMap Row.target
  · obtain ⟨gitlink, aimed⟩ := planned
    have written_pin := rewriteLine_pin pin (rewrites.planned _ aimed)
    obtain ⟨other, listed', chosen, target⟩ := mem_targets.mp aimed
    obtain ⟨rel, old', child, recorded, pinned, placed', differs', behind⟩ := planRow_target.mp target
    obtain rfl := parseProjects_unique listed listed' placed placed'
    obtain ⟨_, revision, pin''⟩ := parseProjects_pinAt listed placed
    obtain rfl := Option.some.inj (revision.symm.trans pinned)
    obtain rfl := Option.some.inj (pin.symm.trans pin'')
    exact ⟨rel, gitlink, ⟨listed, matched, chosen, child, recorded, pinned, differs'⟩,
      Option.some.inj (written_pin.symm.trans pin'), fun ahead => absurd (behind ahead) (by decide)⟩
  · have kept := rewrites.kept index fun target aimed same => planned ⟨target.2, by rw [← same]; exact aimed⟩
    have unchanged : pinAt rewritten index = pinAt input.manifest index := by
      unfold pinAt
      rw [kept]
    rw [unchanged, pin] at pin'
    exact absurd (Option.some.inj pin').symm differs

/-- Without `--allow-downgrade` no pin is lowered exactly when every compared project is behind its
gitlink, or ahead of it with its submodule checked out: an unknown relationship is rewritten. -/
theorem sync_never_lowers (input : Input κ) :
    NeverLowers input ↔ ∀ project rel old gitlink, Compares input project rel old gitlink →
      (input.submodules rel).Ancestor old gitlink.text ∨
        (input.submodules rel).checkedOut ∧ (input.submodules rel).Ancestor gitlink.text old := by
  constructor
  · intro never project rel old gitlink compares
    by_contra neither
    rw [not_or] at neither
    have behind : relationship (input.submodules rel) old gitlink.text ≠ .westAhead := by
      intro ahead
      obtain ⟨out, _, above⟩ := (relationship_westAhead compares.differs).mp ahead
      exact neither.2 ⟨out, above⟩
    obtain ⟨written, index, ran, placed, pin, pin'⟩ := sync_rewrites compares behind
    obtain ⟨rel', _, child, _, _, above⟩ :=
      never written ran project compares.listed index _ gitlink.text placed pin pin' compares.differs.symm
    obtain rfl := Option.some.inj (child.symm.trans compares.child)
    exact neither.1 above
  · intro condition written ran project listed index old new placed pin pin' differs
    obtain ⟨rel, gitlink, compares, rfl, behind⟩ := sync_changes ran listed placed pin pin' differs
    refine ⟨rel, gitlink, compares.child, compares.recorded, rfl, ?_⟩
    rcases condition project rel old gitlink compares with above | ⟨out, below⟩
    · exact above
    · by_contra neither
      exact behind ((relationship_westAhead compares.differs).mpr ⟨out, neither, below⟩)

def topic : Gitlink where
  text := "topic".toList
  nonempty := by decide
  word := by
    have every : "topic".toList.all (fun c => isSpace c == false) = true := by decide
    simpa only [List.all_eq_true, beq_iff_eq] using every

/-- Two branches from one commit: the manifest has the tip of one, the superproject that of the other. -/
def diverged : Input Nat where
  manifest := ["manifest:", "  projects:", "    - name: libobjc", "      path: darling/src/external/objc4",
    "      revision: main"].map fun line => ⟨line.toList, ['\n']⟩
  links rel := if rel = "src/external/objc4".toList then some topic else none
  submodules _ :=
    { checkedOut := true
      resolve := fun revision =>
        if revision = "main".toList then some 1 else if revision = "topic".toList then some 2 else none
      graph := ⟨fun commit => if commit = 0 then [] else [0], id, by grind⟩ }

theorem diverged_lowered : ¬NeverLowers diverged := by
  intro never
  have compares : Compares diverged ⟨"libobjc".toList, some "darling/src/external/objc4".toList, some "main".toList,
      2, some 3, some 4⟩
      "src/external/objc4".toList "main".toList topic :=
    ⟨by decide +kernel, by decide +kernel, by decide +kernel, by decide +kernel, rfl, rfl, by decide⟩
  obtain ⟨written, index, ran, placed, pin, pin'⟩ := sync_rewrites compares (by decide +kernel)
  obtain ⟨rel, _, _, _, _, above⟩ := never written ran _ compares.listed index _ _ placed pin pin' compares.differs.symm
  have elsewhere : diverged.submodules rel = diverged.submodules [] := rfl
  rw [elsewhere, ← Submodule.isAncestor_iff] at above
  revert above
  decide +kernel

end Lowering

end Darling.Pins
