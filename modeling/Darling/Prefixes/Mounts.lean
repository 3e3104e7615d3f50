import Mathlib.Data.List.Dedup
import Darling.Library.Texts

/-! The two readers of the mount table: `mount_targets` of `lane.py` and `prefix_mount_groups` of `prefix_repair.py`. -/
namespace Darling.Mounts

open Texts (Text)

/-- The parts of an absolute path. -/
abbrev Path := List Text

/-- `path.parents`. -/
def parents (path : Path) : List Path := (List.range path.length).map path.take

/-- The path is the directory or below it. -/
def Inside (directory path : Path) : Prop := path = directory ∨ directory ∈ parents path

instance (directory path : Path) : Decidable (Inside directory path) := inferInstanceAs (Decidable (_ ∨ _))

section Readers

/-- `field.replace("\\040", " ")`. -/
def replaceSpaces : Text → Text
  | '\\' :: '0' :: '4' :: '0' :: rest => ' ' :: replaceSpaces rest
  | c :: rest => c :: replaceSpaces rest
  | [] => []

def isOctal (c : Char) : Bool := '0' ≤ c && c ≤ '7'

def octalValue (c : Char) : Nat := c.toNat - '0'.toNat

/-- `_decode_mountinfo_path`. -/
def decodeMountinfoPath : Text → Text
  | '\\' :: a :: b :: c :: rest =>
    if isOctal a && isOctal b && isOctal c then
      Char.ofNat (octalValue a * 64 + octalValue b * 8 + octalValue c) :: decodeMountinfoPath rest
    else '\\' :: decodeMountinfoPath (a :: b :: c :: rest)
  | c :: rest => c :: decodeMountinfoPath rest
  | [] => []

/-- The fields of the lines that are long enough. -/
def rows (mountinfo : Text) : List (List Text) :=
  ((Texts.splitlines mountinfo).map fun line => Texts.split line.1).filter fun fields => 5 ≤ fields.length

def mountPoint (fields : List Text) : Text := fields.getD 4 []

/-- The resolved path of a text, unless the operating system refuses it. -/
abbrev Resolver := Text → Option Path

variable (resolve : Resolver) (directory : Path) (mountinfo : Text)

/-- `mount_targets` for a resolved directory. -/
def mountTargets : List Path :=
  let targets := (rows mountinfo).filterMap fun fields => resolve (replaceSpaces (mountPoint fields))
  (targets.filter (Inside directory ·)).dedup.mergeSort fun one other => other.length ≤ one.length

/-- `_is_prefix_layer_mount`. -/
def isPrefixLayerMount (fields : List Text) : Bool :=
  match fields.idxOf? "-".toList with
  | none => false
  | some separator =>
    separator + 2 < fields.length && (fields.getD (separator + 1) [] ∈ ["fuse.fuse-overlayfs".toList, "fuse".toList]) &&
      decodeMountinfoPath (fields.getD (separator + 2) []) == "fuse-overlayfs".toList

/-- The loop of `prefix_mount_groups`: the targets and the layers. -/
def mountGroups : List (List Text) → List Path × List Path
  | [] => ([], [])
  | fields :: rest =>
    let (targets, layers) := mountGroups rest
    match resolve (decodeMountinfoPath (mountPoint fields)) with
    | none => (targets, layers)
    | some target =>
      if target = directory ∧ isPrefixLayerMount fields then (targets, target :: layers)
      else if Inside directory target then (target :: targets, layers)
      else (targets, layers)

/-- `prefix_mount_groups` for a resolved prefix. -/
def prefixMountGroups : List Path × List Path := mountGroups resolve directory (rows mountinfo)

end Readers

/-! What the kernel writes. -/

/-- The four characters that the kernel escapes. -/
def mangleChar (c : Char) : Text :=
  if c = ' ' then "\\040".toList
  else if c = '\t' then "\\011".toList
  else if c = '\n' then "\\012".toList
  else if c = '\\' then "\\134".toList
  else [c]

def mangle (point : Text) : Text := point.flatMap mangleChar

/-- Every mount point of the table is written so. -/
def Mangled (mountinfo : Text) : Prop := ∀ fields ∈ rows mountinfo, ∃ point, mountPoint fields = mangle point

/-- The characters that only one reader decodes. -/
def isHard (c : Char) : Bool := c = '\t' || c = '\n' || c = '\\'

/-- What the first reader makes of a mount point: only the spaces are decoded. -/
def halfDecoded (point : Text) : Text := point.flatMap fun c => if isHard c then mangleChar c else [c]

/-- No mount point with a tab, a newline or a backslash is inside the directory, in either reading. -/
def Clear (resolve : Resolver) (directory : Path) (mountinfo : Text) : Prop :=
  ∀ fields ∈ rows mountinfo, ∀ point, mountPoint fields = mangle point → point.any isHard = true →
    (∀ path, resolve point = some path → ¬ Inside directory path) ∧
      ∀ path, resolve (halfDecoded point) = some path → ¬ Inside directory path

/-- Both readers return the same paths. -/
def Agree (resolve : Resolver) (directory : Path) (mountinfo : Text) : Prop :=
  ∀ path, path ∈ mountTargets resolve directory mountinfo ↔
    path ∈ (prefixMountGroups resolve directory mountinfo).1 ∨ path ∈ (prefixMountGroups resolve directory mountinfo).2

section Decoding

theorem replaceSpaces_other {c : Char} (other : c ≠ '\\') (rest : Text) : replaceSpaces (c :: rest) = c ::
    replaceSpaces rest := by
  rw [replaceSpaces]
  rintro _ rfl
  exact absurd rfl other

theorem replaceSpaces_mangle (point : Text) : replaceSpaces (mangle point) = halfDecoded point := by
  induction point with
  | nil => rfl
  | cons c rest induction =>
    unfold mangle halfDecoded at induction ⊢
    rw [List.flatMap_cons, List.flatMap_cons, ← induction]
    by_cases space : c = ' '
    · subst space
      rfl
    by_cases tab : c = '\t'
    · subst tab
      rfl
    by_cases newline : c = '\n'
    · subst newline
      rfl
    by_cases backslash : c = '\\'
    · subst backslash
      rfl
    · simp only [mangleChar, isHard, space, tab, newline, backslash, ↓reduceIte, decide_false, Bool.or_self,
        Bool.false_eq_true,
        List.singleton_append, replaceSpaces_other backslash]

/-- The second reader takes an escape back. -/
theorem decode_escape {c a b d : Char} (rest : Text) (octal : (isOctal a && isOctal b && isOctal d) = true)
    (value : Char.ofNat (octalValue a * 64 + octalValue b * 8 + octalValue d) = c) :
    decodeMountinfoPath ('\\' :: a :: b :: d :: rest) = c :: decodeMountinfoPath rest := by
  rw [decodeMountinfoPath, if_pos octal, value]

theorem decode_mangle (point : Text) : decodeMountinfoPath (mangle point) = point := by
  induction point with
  | nil => rfl
  | cons c rest induction =>
    unfold mangle at induction ⊢
    rw [List.flatMap_cons]
    by_cases space : c = ' '
    · subst space
      exact (decode_escape _ (by decide) (by decide)).trans (congrArg _ induction)
    by_cases tab : c = '\t'
    · subst tab
      exact (decode_escape _ (by decide) (by decide)).trans (congrArg _ induction)
    by_cases newline : c = '\n'
    · subst newline
      exact (decode_escape _ (by decide) (by decide)).trans (congrArg _ induction)
    by_cases backslash : c = '\\'
    · subst backslash
      exact (decode_escape _ (by decide) (by decide)).trans (congrArg _ induction)
    · simp [mangleChar, space, tab, newline, backslash, decodeMountinfoPath, induction]

theorem halfDecoded_easy {point : Text} (easy : point.any isHard = false) : halfDecoded point = point := by
  unfold halfDecoded
  induction point with
  | nil => rfl
  | cons c rest induction =>
    rw [List.any_cons, Bool.or_eq_false_iff] at easy
    rw [List.flatMap_cons, induction easy.2, easy.1]
    rfl

/-- What a hard character becomes is longer and has a backslash. -/
theorem mangleChar_hard {c : Char} (hard : isHard c = true) : 2 ≤ (mangleChar c).length ∧
    (mangleChar c).any isHard = true := by
  simp only [isHard, Bool.or_eq_true, decide_eq_true_eq] at hard
  rcases hard with (rfl | rfl) | rfl <;> decide

theorem halfDecoded_length (point : Text) : point.length ≤ (halfDecoded point).length := by
  unfold halfDecoded
  induction point with
  | nil => exact Nat.le_refl _
  | cons c rest induction =>
    rw [List.flatMap_cons, List.length_append, List.length_cons]
    by_cases hard : isHard c = true
    · have := (mangleChar_hard hard).1
      simp only [hard, ↓reduceIte]
      omega
    · simp only [hard, Bool.false_eq_true, ↓reduceIte, List.length_singleton]
      omega

theorem halfDecoded_hard {point : Text} (hard : point.any isHard = true) :
    point.length < (halfDecoded point).length ∧ (halfDecoded point).any isHard = true := by
  obtain ⟨c, member, here⟩ := List.any_eq_true.mp hard
  obtain ⟨before, after, rfl⟩ := List.append_of_mem member
  have cut : halfDecoded (before ++ c :: after) = halfDecoded before ++ (mangleChar c ++ halfDecoded after) := by
    simp [halfDecoded, here]
  obtain ⟨longer, still⟩ := mangleChar_hard here
  have first := halfDecoded_length before
  have last := halfDecoded_length after
  rw [cut]
  refine ⟨?_, ?_⟩
  · simp only [List.length_append, List.length_cons]
    omega
  · simp only [List.any_append, still, Bool.true_or, Bool.or_true]

end Decoding

section Membership

variable {resolve : Resolver} {directory path : Path} {mountinfo : Text}

theorem mem_mountTargets : path ∈ mountTargets resolve directory mountinfo ↔
    Inside directory path ∧ ∃ fields ∈ rows mountinfo, resolve (replaceSpaces (mountPoint fields)) = some path := by
  simp only [mountTargets, List.mem_mergeSort, List.mem_dedup, List.mem_filter, List.mem_filterMap, decide_eq_true_eq]
  exact and_comm

theorem mem_mountGroups (table : List (List Text)) :
    path ∈ (mountGroups resolve directory table).1 ∨ path ∈ (mountGroups resolve directory table).2 ↔
      Inside directory path ∧ ∃ fields ∈ table, resolve (decodeMountinfoPath (mountPoint fields)) = some path := by
  induction table with
  | nil => simp [mountGroups]
  | cons fields rest induction =>
    rw [List.exists_mem_cons_iff, and_or_left, ← induction, mountGroups]
    cases found : resolve (decodeMountinfoPath (mountPoint fields)) with
    | none => simp
    | some target =>
      simp only [Option.some.injEq]
      split
      · rename_i layer
        have inside : Inside directory target := .inl layer.1
        simp only [List.mem_cons]
        grind
      · split
        · simp only [List.mem_cons]
          grind
        · grind

/-- The readers agree where no hard mount point is inside the directory. -/
theorem Clear.agree (mangled : Mangled mountinfo) (clear : Clear resolve directory mountinfo) :
    Agree resolve directory mountinfo := by
  intro path
  rw [mem_mountTargets, prefixMountGroups, mem_mountGroups]
  refine and_congr_right fun inside => exists_congr fun fields => and_congr_right fun member => ?_
  obtain ⟨point, written⟩ := mangled fields member
  rw [written, replaceSpaces_mangle, decode_mangle]
  by_cases hard : point.any isHard = true
  · obtain ⟨whole, half⟩ := clear fields member point written hard
    exact ⟨fun found => absurd inside (half path found), fun found => absurd inside (whole path found)⟩
  · rw [halfDecoded_easy (by simpa using hard)]

end Membership

section Lexical

/-- The parts of a path as its text has them. -/
def parts (text : Text) : Path := (text.splitOnP (· == '/')).filter (· ≠ [])

theorem splitOnP_append {front : Text} (plain : ∀ c ∈ front, c ≠ '/') (rest : Text) :
    (front ++ rest).splitOnP (· == '/') = (rest.splitOnP (· == '/')).modifyHead (front ++ ·) := by
  induction front with
  | nil =>
    rw [List.nil_append]
    cases rest.splitOnP (· == '/') <;> rfl
  | cons c front induction =>
    rw [List.forall_mem_cons] at plain
    rw [List.cons_append, List.splitOnP_cons_eq_if_modifyHead, if_neg (by simpa using plain.1), induction plain.2]
    cases rest.splitOnP (· == '/') <;> rfl

theorem splitOnP_halfDecoded (text : Text) :
    (halfDecoded text).splitOnP (· == '/') = (text.splitOnP (· == '/')).map halfDecoded := by
  induction text with
  | nil => rfl
  | cons c rest induction =>
    have cut : halfDecoded (c :: rest) = (if isHard c then mangleChar c else [c]) ++ halfDecoded rest := by
      rw [halfDecoded, List.flatMap_cons]
      rfl
    by_cases slash : c = '/'
    · subst slash
      have easy : isHard '/' = false := by decide
      rw [cut, easy, List.splitOnP_cons_eq_if_modifyHead]
      simp only [Bool.false_eq_true, ↓reduceIte, List.singleton_append, List.splitOnP_cons_eq_if_modifyHead,
        beq_self_eq_true, List.map_cons, induction]
      rfl
    · have plain : ∀ d ∈ (if isHard c then mangleChar c else [c]), d ≠ '/' := by
        by_cases hard : isHard c = true
        · simp only [isHard, Bool.or_eq_true, decide_eq_true_eq] at hard
          rcases hard with (rfl | rfl) | rfl <;> simp [isHard, mangleChar]
        · simp [hard, slash]
      have here : (c == '/') = false := by simpa using slash
      rw [cut, splitOnP_append plain, induction, List.splitOnP_cons_eq_if_modifyHead]
      simp only [here, Bool.false_eq_true, ↓reduceIte]
      cases rest.splitOnP (· == '/') with
      | nil => rfl
      | cons first later =>
        rw [List.modifyHead_cons, List.map_cons, List.map_cons, List.modifyHead_cons]
        congr 1

theorem parts_halfDecoded (text : Text) : parts (halfDecoded text) = (parts text).map halfDecoded := by
  have empty (part : Text) : halfDecoded part = [] ↔ part = [] := by
    constructor
    · intro none
      have := halfDecoded_length part
      rw [none] at this
      exact List.length_eq_zero_iff.mp (Nat.le_zero.mp this)
    · rintro rfl
      rfl
  rw [parts, parts, splitOnP_halfDecoded, List.filter_map]
  congr 1
  apply List.filter_congr
  intro part _
  simp [empty]

/-- A character stands in a part. -/
theorem mem_parts {c : Char} {text : Text} (member : c ∈ text) (other : c ≠ '/') : ∃ part ∈ parts text, c ∈ part := by
  suffices ∃ part ∈ text.splitOnP (· == '/'), c ∈ part by
    obtain ⟨part, listed, here⟩ := this
    exact ⟨part, List.mem_filter.mpr ⟨listed, by simpa using List.ne_nil_of_mem here⟩, here⟩
  induction text with
  | nil => cases member
  | cons d rest induction =>
    rw [List.splitOnP_cons_eq_if_modifyHead]
    split
    · rename_i slash
      have later : c ∈ rest := by
        rcases List.mem_cons.mp member with rfl | later
        · exact absurd (by simpa using slash) other
        · exact later
      obtain ⟨part, listed, here⟩ := induction later
      exact ⟨part, List.mem_cons_of_mem _ listed, here⟩
    · cases cut : rest.splitOnP (· == '/') with
      | nil => exact absurd cut (List.splitOnP_ne_nil _ _)
      | cons first later =>
        rw [cut] at induction
        rw [List.modifyHead_cons]
        rcases List.mem_cons.mp member with rfl | inside
        · exact ⟨_, List.mem_cons_self, List.mem_cons_self⟩
        · obtain ⟨part, listed, here⟩ := induction inside
          rcases List.mem_cons.mp listed with rfl | listed
          · exact ⟨_, List.mem_cons_self, List.mem_cons_of_mem _ here⟩
          · exact ⟨part, List.mem_cons_of_mem _ listed, here⟩

theorem mem_of_parts {c : Char} {text part : Text} (listed : part ∈ parts text) (member : c ∈ part) : c ∈ text := by
  have cut : part ∈ text.splitOnP (· == '/') := (List.mem_filter.mp listed).1
  clear listed
  induction text generalizing part with
  | nil =>
    rw [List.splitOnP_nil, List.mem_singleton] at cut
    rwa [cut] at member
  | cons d rest induction =>
    rw [List.splitOnP_cons_eq_if_modifyHead] at cut
    split at cut
    · rcases List.mem_cons.mp cut with rfl | later
      · cases member
      · exact List.mem_cons_of_mem _ (induction member later)
    · cases whole : rest.splitOnP (· == '/') with
      | nil => exact absurd whole (List.splitOnP_ne_nil _ _)
      | cons first others =>
        rw [whole] at cut induction
        rw [List.modifyHead_cons] at cut
        rcases List.mem_cons.mp cut with rfl | later
        · rcases List.mem_cons.mp member with rfl | inside
          · exact List.mem_cons_self
          · exact List.mem_cons_of_mem _ (induction inside List.mem_cons_self)
        · exact List.mem_cons_of_mem _ (induction member (List.mem_cons_of_mem _ later))

theorem inside_iff {directory path : Path} : Inside directory path ↔ directory <+: path := by
  unfold Inside parents
  rw [List.mem_map]
  constructor
  · rintro (rfl | ⟨count, -, rfl⟩)
    · exact List.prefix_refl _
    · exact List.take_prefix _ _
  · intro below
    rcases Nat.lt_or_ge directory.length path.length with shorter | longer
    · exact .inr ⟨directory.length, List.mem_range.mpr shorter, (List.prefix_iff_eq_take.mp below).symm⟩
    · exact .inl (below.eq_of_length_le longer).symm

/-- Half decoding moves nothing into or out of a directory without hard characters. -/
theorem inside_halfDecoded {directory path : Path} (plain : ∀ part ∈ directory, part.any isHard = false) :
    Inside directory (path.map halfDecoded) ↔ Inside directory path := by
  rw [inside_iff, inside_iff]
  induction directory generalizing path with
  | nil => simp
  | cons first directory induction =>
    rw [List.forall_mem_cons] at plain
    cases path with
    | nil => simp
    | cons part path =>
      have same : first = halfDecoded part ↔ first = part := by
        by_cases hard : part.any isHard = true
        · have still := (halfDecoded_hard hard).2
          have one : first ≠ halfDecoded part := fun same => by
            rw [← same, plain.1] at still
            cases still
          have two : first ≠ part := fun same => by
            rw [← same, plain.1] at hard
            cases hard
          simp [one, two]
        · rw [halfDecoded_easy (by simpa using hard)]
      rw [List.map_cons, List.cons_prefix_cons, List.cons_prefix_cons, same, induction plain.2]

def size (path : Path) : Nat := (path.map List.length).sum

/-- Half decoding a path with a hard part makes it longer. -/
theorem size_halfDecoded {path : Path} (hard : ∃ part ∈ path, part.any isHard = true) :
    size path < size (path.map halfDecoded) := by
  have longer (path : Path) : size path ≤ size (path.map halfDecoded) := by
    induction path with
    | nil => exact Nat.le_refl _
    | cons part path induction =>
      have := halfDecoded_length part
      simp only [size, List.map_cons, List.sum_cons] at induction ⊢
      omega
  obtain ⟨part, member, here⟩ := hard
  obtain ⟨before, after, rfl⟩ := List.append_of_mem member
  have strict := (halfDecoded_hard here).1
  have first := longer before
  have last := longer after
  simp only [size, List.map_append, List.map_cons, List.sum_append, List.sum_cons] at first last ⊢
  omega

theorem parts_hard {point : Text} (hard : point.any isHard = true) : ∃ part ∈ parts point, part.any isHard = true := by
  obtain ⟨c, member, here⟩ := List.any_eq_true.mp hard
  obtain ⟨part, listed, inside⟩ := mem_parts member (by rintro rfl; revert here; decide)
  exact ⟨part, listed, List.any_eq_true.mpr ⟨c, inside, here⟩⟩

variable {resolve : Resolver} {directory : Path} {mountinfo : Text}

/-- Of a hard mount point inside the directory the first reader would have to read one that is shorter: the
induction is on the length of the path. -/
theorem agree_no_hard (lexical : ∀ text, resolve text = some (parts text))
    (plain : ∀ part ∈ directory, part.any isHard = false)
    (mangled : Mangled mountinfo) (agree : Agree resolve directory mountinfo) (length : Nat) (fields : List Text)
    (member : fields ∈ rows mountinfo) (point : Text) (written : mountPoint fields = mangle point)
    (hard : point.any isHard = true)
    (bounded : size (parts point) < length) : ¬ Inside directory (parts point) := by
  induction length generalizing fields point with
  | zero => cases bounded
  | succ length induction =>
    intro inside
    have reported : parts point ∈ mountTargets resolve directory mountinfo := by
      rw [agree, prefixMountGroups, mem_mountGroups]
      exact ⟨inside, fields, member, by rw [written, decode_mangle, lexical]⟩
    obtain ⟨-, other, listed, found⟩ := mem_mountTargets.mp reported
    obtain ⟨shorter, spelled⟩ := mangled other listed
    rw [spelled, replaceSpaces_mangle, lexical, Option.some.injEq, parts_halfDecoded] at found
    have stillHard : shorter.any isHard = true := by
      by_contra easy
      rw [← parts_halfDecoded, halfDecoded_easy (by simpa using easy)] at found
      obtain ⟨part, somewhere, here⟩ := parts_hard hard
      obtain ⟨c, inside, hardly⟩ := List.any_eq_true.mp here
      rw [← found] at somewhere
      exact easy (List.any_eq_true.mpr ⟨c, mem_of_parts somewhere inside, hardly⟩)
    have smaller := size_halfDecoded (parts_hard stillHard)
    rw [found] at smaller
    refine induction other listed shorter spelled stillHard (by omega) ?_
    rwa [← inside_halfDecoded plain, found]

/-- The readers agree where no mount point with a tab, a newline or a backslash is inside the directory. Where paths
are taken as they stand and the directory has no such character, they agree only there. -/
theorem mount_readers_agree (resolve : Resolver) (directory : Path) (mountinfo : Text) (mangled : Mangled mountinfo) :
    (Clear resolve directory mountinfo → Agree resolve directory mountinfo) ∧
      ((∀ text, resolve text = some (parts text)) → (∀ part ∈ directory, part.any isHard = false) →
        (Agree resolve directory mountinfo ↔ Clear resolve directory mountinfo)) := by
  refine ⟨Clear.agree mangled, fun lexical plain => ⟨fun agree => ?_, Clear.agree mangled⟩⟩
  intro fields member point written hard
  have outside := agree_no_hard lexical plain mangled agree _ fields member point written hard (Nat.lt_succ_self _)
  refine ⟨fun path found => ?_, fun path found => ?_⟩
  · rw [lexical, Option.some.injEq] at found
    rwa [← found]
  · rw [lexical, Option.some.injEq, parts_halfDecoded] at found
    rwa [← found, inside_halfDecoded plain]

/-- A lane with a view at its prefix and one mount whose name has a space. -/
def plainTable : Text :=
  "36 25 0:32 / /lane/prefix rw - fuse.fuse-overlayfs fuse-overlayfs rw\n37 25 0:33 / /lane/a\\040b rw - tmpfs tmpfs rw\n".toList

theorem mount_readers_agree_plain : Agree (some ∘ parts) ["lane".toList] plainTable := by
  have table : (rows plainTable).map mountPoint = ["/lane/prefix".toList, "/lane/a\\040b".toList] := by decide +kernel
  have known (fields : List Text) (member : fields ∈ rows plainTable) :
      mountPoint fields = mangle "/lane/prefix".toList ∨ mountPoint fields = mangle "/lane/a b".toList := by
    have listed := List.mem_map_of_mem (f := mountPoint) member
    rw [table, List.mem_cons, List.mem_singleton] at listed
    exact listed
  refine (mount_readers_agree (some ∘ parts) ["lane".toList] plainTable fun fields member => ?_).1 ?_
  · rcases known fields member with written | written
    · exact ⟨_, written⟩
    · exact ⟨_, written⟩
  · intro fields member point written hard
    have same : point = "/lane/prefix".toList ∨ point = "/lane/a b".toList := by
      rcases known fields member with other | other <;> rw [written] at other
      · exact .inl (by rw [← decode_mangle point, other, decode_mangle])
      · exact .inr (by rw [← decode_mangle point, other, decode_mangle])
    rcases same with rfl | rfl <;> revert hard <;> decide

/-- A mount below the lane whose name has a backslash. -/
def backslashTable : Text := "37 25 0:33 / /lane/a\\134b rw - tmpfs tmpfs rw\n".toList

/-- The two readers return different paths for it. -/
theorem mount_readers_differ : Mangled backslashTable ∧ ¬ Agree (some ∘ parts) ["lane".toList] backslashTable := by
  have table : rows backslashTable = [["37", "25", "0:33", "/", "/lane/a\\134b", "rw", "-", "tmpfs", "tmpfs", "rw"].map
      String.toList] := by
    decide +kernel
  constructor
  · intro fields member
    rw [table, List.mem_singleton] at member
    exact ⟨"/lane/a\\b".toList, by rw [member]; rfl⟩
  · intro agree
    have reported := (agree ["lane".toList, "a\\b".toList]).mpr (.inl (by decide +kernel))
    revert reported
    decide +kernel

end Lexical

end Darling.Mounts
