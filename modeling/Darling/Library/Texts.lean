import Mathlib.Algebra.GroupWithZero.Nat

/-! Texts cut into lines, words and the parts of a path, as the interpreters of the tools do it. -/
namespace Darling.Texts

abbrev Text := List Char

instance lawfulText : LawfulBEq Text := inferInstance

/-- The characters that end a line. -/
def isBreak (c : Char) : Bool :=
  let n := c.toNat
  (10 ≤ n && n ≤ 13) || (28 ≤ n && n ≤ 30) || n == 0x85 || n == 0x2028 || n == 0x2029

/-- `str.isspace`. -/
def isSpace (c : Char) : Bool :=
  let n := c.toNat
  (9 ≤ n && n ≤ 13) || (28 ≤ n && n ≤ 32) || n == 0x85 || n == 0xa0 || n == 0x1680 ||
    (0x2000 ≤ n && n ≤ 0x200a) || n == 0x2028 || n == 0x2029 || n == 0x202f || n == 0x205f || n == 0x3000

/-- `char::is_whitespace` of the Rust tools. -/
def isWhitespace (c : Char) : Bool :=
  let n := c.toNat
  (9 ≤ n && n ≤ 13) || n == 0x20 || n == 0x85 || n == 0xa0 || n == 0x1680 || (0x2000 ≤ n && n ≤ 0x200a) ||
    n == 0x2028 || n == 0x2029 || n == 0x202f || n == 0x205f || n == 0x3000

/-- `str.split()`. -/
def split (text : Text) : List Text := (text.splitOnP isSpace).filter (· ≠ [])

/-- The parts of a `PurePosixPath`. -/
def pureParts (text : Text) : List Text := (text.splitOn '/').filter fun part => part ≠ [] ∧ part ≠ ['.']

/-- The lines of a text, each with the characters that end it. -/
def splitlines : Text → List (Text × Text)
  | [] => []
  | '\r' :: '\n' :: rest => ([], ['\r', '\n']) :: splitlines rest
  | c :: rest =>
    if isBreak c then ([], [c]) :: splitlines rest
    else
      match splitlines rest with
      | [] => [([c], [])]
      | (content, ending) :: later => (c :: content, ending) :: later

def join (lines : List (Text × Text)) : Text := lines.flatMap fun line => line.1 ++ line.2

/-- One character that ends a line, or a carriage return with its line feed. -/
def Ending (ending : Text) : Prop := ending = ['\r', '\n'] ∨ ∃ c, isBreak c = true ∧ ending = [c]

/-- Lines that a text can be cut into. -/
inductive Lines : List (Text × Text) → Prop where
  | nil : Lines []
  | last {content : Text} (some : content ≠ []) (plain : ∀ c ∈ content, isBreak c = false) : Lines [(content, [])]
  | cons {content ending : Text} {later : List (Text × Text)} (plain : ∀ c ∈ content, isBreak c = false)
      (ends : Ending ending)
      (apart : ending = ['\r'] → (join later).head? ≠ some '\n') (rest : Lines later) :
      Lines ((content, ending) :: later)

theorem Lines.uncons {line : Text × Text} {lines : List (Text × Text)} (laid : Lines (line :: lines)) :
    (∀ c ∈ line.1, isBreak c = false) ∧
      (line.1 ≠ [] ∧ line.2 = [] ∧ lines = [] ∨
        Ending line.2 ∧ (line.2 = ['\r'] → (join lines).head? ≠ some '\n') ∧ Lines lines) := by
  cases laid with
  | last some plain => exact ⟨plain, .inl ⟨some, rfl, rfl⟩⟩
  | cons plain ends apart rest => exact ⟨plain, .inr ⟨ends, apart, rest⟩⟩

theorem join_cons (line : Text × Text) (lines : List (Text × Text)) :
    join (line :: lines) = line.1 ++ (line.2 ++ join lines) := by
  rw [join, List.flatMap_cons, List.append_assoc]
  rfl

theorem join_splitlines (text : Text) : join (splitlines text) = text := by
  fun_induction splitlines text with
  | case1 => rfl
  | case2 rest induction => rw [join_cons, induction]; rfl
  | case3 c rest other break_ induction => rw [join_cons, induction]; rfl
  | case4 c rest other plain none induction =>
    rw [none] at induction
    rw [← induction]
    rfl
  | case5 c rest other plain content ending later some induction =>
    rw [some] at induction
    rw [join_cons] at induction ⊢
    rw [← induction]
    rfl

theorem splitlines_lines (text : Text) : Lines (splitlines text) := by
  fun_induction splitlines text with
  | case1 => exact .nil
  | case2 rest induction => exact .cons (by simp) (.inl rfl) (by simp) induction
  | case3 c rest other break_ induction =>
    refine .cons (by simp) (.inr ⟨c, break_, rfl⟩) ?_ induction
    intro only
    obtain rfl : c = '\r' := by simpa using only
    rw [join_splitlines]
    intro first
    obtain ⟨tail, rfl⟩ : ∃ tail, rest = '\n' :: tail := by
      cases rest with
      | nil => cases first
      | cons d tail => exact ⟨tail, by rw [List.head?_cons, Option.some.injEq] at first; rw [first]⟩
    exact other tail rfl rfl
  | case4 c rest other plain none induction => exact .last (by simp) (by simpa using plain)
  | case5 c rest other plain content ending later some induction =>
    rw [some] at induction
    have plain : isBreak c = false := by simpa using plain
    cases induction with
    | last _ others => exact .last (by simp) (List.forall_mem_cons.mpr ⟨plain, others⟩)
    | cons others ends apart rest => exact .cons (List.forall_mem_cons.mpr ⟨plain, others⟩) ends apart rest

/-- A content goes to the line before whose ending it stands. -/
theorem splitlines_content {content ending : Text} {rest : Text} {later : List (Text × Text)}
    (plain : ∀ c ∈ content, isBreak c = false)
    (cut : splitlines rest = ([], ending) :: later) : splitlines (content ++ rest) = (content, ending) :: later := by
  induction content with
  | nil => exact cut
  | cons c content induction =>
    rw [List.forall_mem_cons] at plain
    have here : ¬ isBreak c = true := by simp [plain.1]
    have other : ∀ tail, c = '\r' → content ++ rest = '\n' :: tail → False := by
      rintro _ rfl _
      exact here (by decide)
    rw [List.cons_append, splitlines, if_neg here, induction plain.2]
    exact other

theorem splitlines_plain {content : Text} (some : content ≠ []) (plain : ∀ c ∈ content, isBreak c = false) :
    splitlines content = [(content, [])] := by
  induction content with
  | nil => exact absurd rfl some
  | cons c content induction =>
    rw [List.forall_mem_cons] at plain
    have here : ¬ isBreak c = true := by simp [plain.1]
    have other : ∀ tail, c = '\r' → content = '\n' :: tail → False := by
      rintro _ rfl _
      exact here (by decide)
    rw [splitlines, if_neg here]
    · by_cases none : content = []
      · rw [none, splitlines]
      · rw [induction none plain.2]
    · exact other

theorem splitlines_join {lines : List (Text × Text)} (laid : Lines lines) : splitlines (join lines) = lines := by
  induction laid with
  | nil => rfl
  | last some plain =>
    rw [join_cons]
    simpa [join] using splitlines_plain some plain
  | @cons content ending later plain ends apart rest induction =>
    rw [join_cons]
    refine splitlines_content plain ?_
    rcases ends with rfl | ⟨c, break_, rfl⟩
    · rw [List.cons_append, List.cons_append, List.nil_append, splitlines, induction]
    · rw [List.singleton_append, splitlines, if_pos break_, induction]
      rintro tail rfl starts
      exact apart rfl (by rw [starts]; rfl)

end Darling.Texts
