import Darling.Library.JsonTrees
import Mathlib.Data.List.TakeWhile

/-! `json.dumps` without ASCII escapes: what it writes for a value is the text of a syntax tree with that
value. -/
namespace Darling.Jsons

open Points (Point Text)

def hexDigit (n : Nat) : Point := Fin.ofNat _ (if n < 10 then 0x30 + n else 0x57 + n)

/-- How a character stands in a string. -/
def escape (c : Point) : Text :=
  if c = quote then [backslash, quote]
  else if c = backslash then [backslash, backslash]
  else if c = 0x0A then [backslash, 0x6E]
  else if c = 0x0D then [backslash, 0x72]
  else if c = 0x09 then [backslash, 0x74]
  else if c = 0x0C then [backslash, 0x66]
  else if c = 0x08 then [backslash, 0x62]
  else if c.val < 0x20 then [backslash, 0x75, 0x30, 0x30, hexDigit (c.val / 16), hexDigit (c.val % 16)]
  else [c]

def dumpsString (text : Text) : Text := quote :: (text.flatMap escape ++ [quote])

section Dumps

variable (doubles : Doubles)

mutual
/-- `json.dumps(value, ensure_ascii=False)`. -/
def dumps : Value → Text
  | .null => chars "null"
  | .bool b => chars (if b then "true" else "false")
  | .int n => Points.decimal n
  | .float x => doubles.repr x
  | .str text => dumpsString text
  | .arr items => openBracket :: (dumpsItems items ++ [closeBracket])
  | .obj members => openBrace :: (dumpsMembers members ++ [closeBrace])

def dumpsItems : List Value → Text
  | [] => []
  | value :: rest => dumps value ++ (if rest.isEmpty then [] else comma :: 0x20 :: dumpsItems rest)

def dumpsMembers : Members → Text
  | [] => []
  | (name, value) :: rest =>
    dumpsString name ++ (colon :: 0x20 :: (dumps
      value ++ (if rest.isEmpty then [] else comma :: 0x20 :: dumpsMembers rest)))
end

mutual
/-- The doubles of a value are finite. -/
def Parsed.Finite : Value → Prop
  | .float x => doubles.Finite x
  | .arr items => finiteItems items
  | .obj members => finiteMembers members
  | _ => True

def finiteItems : List Value → Prop
  | [] => True
  | item :: rest => item.Finite ∧ finiteItems rest

def finiteMembers : Members → Prop
  | [] => True
  | (_, value) :: rest => value.Finite ∧ finiteMembers rest
end

end Dumps

section Strings

/-- The control characters without an escape of their own. -/
def isControl (c : Point) : Bool := c.val < 0x20 && c != 0x0A && c != 0x0D && c != 0x09 && c != 0x0C && c != 0x08

/-- What is read for an escaped character. -/
def pieceOf (c : Point) : Piece := if isControl c then .escaped c.val else .plain c

theorem hexCode_control : ∀ n < 0x20, hexCode [0x30, 0x30, hexDigit (n / 16), hexDigit (n % 16)] = some (n, []) := by
  decide

theorem escape_body (c : Point) {rest : Text} {units : List Piece} (body : Body rest units) :
    Body (escape c ++ rest) (pieceOf c :: units) := by
  have short (e : Point) (other : e ≠ 0x75) (named : shortEscape e = some c) (spelled : escape c = [backslash, e])
      (plain : isControl c = false) : Body (escape c ++ rest) (pieceOf c :: units) := by
    rw [spelled, pieceOf, plain]
    exact .short other named body
  by_cases c₁ : c = quote
  · subst c₁
    exact short quote (by decide) (by decide) (by decide) (by decide)
  by_cases c₂ : c = backslash
  · subst c₂
    exact short backslash (by decide) (by decide) (by decide) (by decide)
  by_cases c₃ : c = 0x0A
  · subst c₃
    exact short 0x6E (by decide) (by decide) (by decide) (by decide)
  by_cases c₄ : c = 0x0D
  · subst c₄
    exact short 0x72 (by decide) (by decide) (by decide) (by decide)
  by_cases c₅ : c = 0x09
  · subst c₅
    exact short 0x74 (by decide) (by decide) (by decide) (by decide)
  by_cases c₆ : c = 0x0C
  · subst c₆
    exact short 0x66 (by decide) (by decide) (by decide) (by decide)
  by_cases c₇ : c = 0x08
  · subst c₇
    exact short 0x62 (by decide) (by decide) (by decide) (by decide)
  by_cases control : c.val < 0x20
  · have spelled : escape c = [backslash, 0x75, 0x30, 0x30, hexDigit (c.val / 16), hexDigit (c.val % 16)] := by
      simp only [escape, c₁, c₂, c₃, c₄, c₅, c₆, c₇, control, if_true, if_false]
    have piece : pieceOf c = .escaped c.val := by
      simp [pieceOf, isControl, c₃, c₄, c₅, c₆, c₇, control]
    rw [spelled, piece]
    exact .unicode (hexCode_control c.val control) body
  · have spelled : escape c = [c] := by
      simp only [escape, c₁, c₂, c₃, c₄, c₅, c₆, c₇, control, if_false]
    have piece : pieceOf c = .plain c := by simp [pieceOf, isControl, control]
    rw [spelled, piece]
    exact .plain c₁ c₂ control body

theorem decode_escaped {code : Nat} (small : code < 0xD800) (units : List Piece) :
    decode (.escaped code :: units) = Fin.ofNat _ code :: decode units := by
  cases units with
  | nil => simp [decode]
  | cons unit units =>
    cases unit with
    | plain c => simp [decode]
    | escaped low => rw [decode, if_neg (by omega)]

theorem decode_pieces (text : Text) : decode (text.map pieceOf) = text := by
  induction text with
  | nil => rfl
  | cons c text ih =>
    rw [List.map_cons, pieceOf]
    by_cases control : isControl c = true
    · have small : c.val < 0x20 := by
        simp only [isControl, Bool.and_eq_true, decide_eq_true_eq] at control
        exact control.1.1.1.1.1
      rw [if_pos control, decode_escaped (by omega), ih]
      simp
    · rw [if_neg control, decode, ih]

theorem dumpsString_body (text : Text) : Body (text.flatMap escape ++ [quote]) (text.map pieceOf) := by
  induction text with
  | nil => exact .close
  | cons c text ih =>
    rw [List.flatMap_cons, List.map_cons, List.append_assoc]
    exact escape_body c ih

end Strings

section Integers

theorem isDigit_pointOf {char : Char} (digit : char.isDigit = true) : isDigit (Points.pointOf char) = true := by
  simp only [Char.isDigit, Bool.and_eq_true, decide_eq_true_eq] at digit
  simp only [isDigit, Bool.and_eq_true, decide_eq_true_eq]
  exact digit

theorem number_pointOf (digits : List Char) (start : Nat) :
    (digits.map Points.pointOf).foldl (fun number digit => number * 10 + digitValue digit) start =
      Nat.ofDigitChars 10 digits start := by
  induction digits generalizing start with
  | nil => rfl
  | cons char digits ih =>
    have value : digitValue (Points.pointOf char) = char.toNat - '0'.toNat := rfl
    rw [List.map_cons, List.foldl_cons, ih, Nat.ofDigitChars_eq_foldl, Nat.ofDigitChars_eq_foldl,
      List.foldl_cons, value,
      Nat.mul_comm]

theorem toDigits_head {m : Nat} (some : 0 < m) : (Nat.toDigits 10 m).head? ≠ Option.some '0' := by
  induction m using Nat.strongRecOn with
  | ind m ih =>
    by_cases small : m < 10
    · have digits : ∀ n < 10, 0 < n → Nat.digitChar n ≠ '0' := by decide
      rw [Nat.toDigits_of_lt_base small]
      simpa using digits m small some
    · rw [Nat.toDigits_of_base_le (by decide) (by omega), List.head?_append_of_ne_nil _ Nat.toDigits_ne_nil]
      exact ih (m / 10) (by omega) (by omega)

theorem whole_toDigits (m : Nat) : whole ((Nat.toDigits 10 m).map Points.pointOf) = some (m, []) := by
  have digits : ∀ c ∈ (Nat.toDigits 10 m).map Points.pointOf, isDigit c = true := by
    simp only [List.forall_mem_map]
    exact fun char listed => isDigit_pointOf (Points.isDigit_of_mem listed)
  have first : ((Nat.toDigits 10 m).map Points.pointOf).head? = some 0x30 → m = 0 := by
    intro zero
    by_contra positive
    rw [List.head?_map] at zero
    obtain ⟨char, head, point⟩ := Option.map_eq_some_iff.mp zero
    obtain rfl : char = '0' := Points.pointOf_injective point
    exact toDigits_head (Nat.pos_of_ne_zero positive) head
  have value : number ((Nat.toDigits 10 m).map Points.pointOf) = m := by
    rw [number, number_pointOf, Nat.ofDigitChars_ten_toDigits]
  have taken : ((Nat.toDigits 10 m).map Points.pointOf).takeWhile isDigit = (Nat.toDigits 10 m).map Points.pointOf := by
    rw [List.takeWhile_eq_self_iff]
    exact digits
  have dropped : ((Nat.toDigits 10 m).map Points.pointOf).dropWhile isDigit = [] := by
    rw [List.dropWhile_eq_nil_iff]
    exact digits
  simp only [whole, taken, dropped, value]
  rw [if_neg]
  rintro (none | ⟨zero, long⟩)
  · exact Nat.toDigits_ne_nil (List.map_eq_nil_iff.mp none)
  · rw [first zero] at long
    simp at long

theorem readBare_decimal (doubles : Doubles) (n : Int) : readBare doubles (Points.decimal n) = some (.int n) := by
  have first : ∀ c, (Points.decimal n).head? = some c → isDigit c = true ∨ c = 0x2D := by
    intro c head
    rw [Points.decimal, List.head?_map] at head
    obtain ⟨char, start, rfl⟩ := Option.map_eq_some_iff.mp head
    split at start
    · obtain rfl : '-' = char := by simpa using start
      exact .inr rfl
    · exact .inl (isDigit_pointOf (Points.isDigit_of_mem (List.mem_of_mem_head? start)))
  have literal (name : String) (c : Point) (head : (chars name).head? = some c)
      (other : ¬(isDigit c = true ∨ c = 0x2D)) : Points.decimal n ≠ chars name := by
    intro same
    exact other (first c (by rw [same, head]))
  rw [readBare, if_neg (literal "null" 0x6E (by decide) (by decide)),
    if_neg (literal "true" 0x74 (by decide) (by decide)),
    if_neg (literal "false" 0x66 (by decide) (by decide))]
  by_cases below : n < 0
  · have text : Points.decimal n = 0x2D :: (Nat.toDigits 10 n.natAbs).map Points.pointOf := by
      rw [Points.decimal, if_pos below]
      rfl
    rw [text, readNumber]
    have sign : -(n.natAbs : Int) = n := by omega
    simp only [List.head?_cons, if_true, List.tail_cons, whole_toDigits, Option.bind_some, fraction, exponent, sign]
    rfl
  · have text : Points.decimal n = (Nat.toDigits 10 n.natAbs).map Points.pointOf := by
      rw [Points.decimal, if_neg below]
    have unsigned : ¬(Points.decimal n).head? = some 0x2D := by
      intro minus
      rw [text, List.head?_map] at minus
      obtain ⟨char, head, point⟩ := Option.map_eq_some_iff.mp minus
      obtain rfl : char = '-' := Points.pointOf_injective point
      exact absurd (Points.isDigit_of_mem (List.mem_of_mem_head? head)) (by decide)
    rw [readNumber]
    simp only [unsigned, if_false]
    rw [text, whole_toDigits]
    simp [fraction, exponent]
    omega

end Integers

section Trees

variable {doubles : Doubles}

def noBlank : Blank := ⟨[], by simp⟩

def space : Blank := ⟨[0x20], by simp; decide⟩

def Key.ofName (name : Text) : Key := ⟨_, _, dumpsString_body name⟩

theorem Key.ofName_name (name : Text) : (Key.ofName name).name = name := decode_pieces name

theorem readBare_repr {x : Double} (finite : doubles.Finite x) :
    readBare doubles (doubles.repr x) = some (.float x) := by
  have reads := doubles.reads x finite
  have literal (name : String) (unread : readNumber doubles.read (chars name) = none) :
      doubles.repr x ≠ chars name := by
    intro same
    rw [same, unread] at reads
    cases reads
  rw [readBare, if_neg (literal "null" rfl), if_neg (literal "true" rfl), if_neg (literal "false" rfl), reads]

mutual
/-- What is written for a value is the text of a tree with that value. -/
theorem dumps_tree : ∀ value : Value, value.Finite doubles →
    ∃ node : Node doubles, node.text = dumps doubles value ∧ node.value = value
  | .null, _ => ⟨.scalar ⟨chars "null", .null, .bare rfl⟩, by rw [Node.text, dumps], by rw [Node.value]⟩
  | .bool b, _ => by
    refine ⟨.scalar ⟨chars (if b then "true" else "false"), .bool b, .bare ?_⟩, by rw [Node.text,
      dumps], by rw [Node.value]⟩
    cases b <;> rfl
  | .int n, _ =>
    ⟨.scalar ⟨Points.decimal n, .int n, .bare (readBare_decimal doubles n)⟩, by rw [Node.text,
      dumps], by rw [Node.value]⟩
  | .float x, finite =>
    ⟨.scalar ⟨doubles.repr x, .float x, .bare (readBare_repr finite)⟩, by rw [Node.text, dumps], by rw [Node.value]⟩
  | .str text, _ => by
    have scalar : Scalar doubles (dumpsString text) (.str (decode (text.map pieceOf))) :=
      .string (dumpsString_body text)
    rw [decode_pieces] at scalar
    exact ⟨.scalar ⟨dumpsString text, .str text, scalar⟩, by rw [Node.text, dumps], by rw [Node.value]⟩
  | .arr [], _ => ⟨.emptyArray noBlank, by rw [Node.text, dumps, dumpsItems]; rfl, by rw [Node.value]⟩
  | .arr (item :: rest), finite => by
    obtain ⟨tree, text, values⟩ := dumpsItems_tree (item :: rest) noBlank finite (by simp)
    exact ⟨.array tree, by rw [Node.text, dumps, text]; rfl, by rw [Node.value, values]⟩
  | .obj [], _ => ⟨.emptyObject noBlank, by rw [Node.text, dumps, dumpsMembers]; rfl, by rw [Node.value]⟩
  | .obj (member :: rest), finite => by
    obtain ⟨tree, text, values⟩ := dumpsMembers_tree (member :: rest) noBlank finite (by simp)
    exact ⟨.object tree, by rw [Node.text, dumps, text]; rfl, by rw [Node.value, values]⟩

theorem dumpsItems_tree : ∀ (items : List Value) (before : Blank), finiteItems doubles items → items ≠ [] →
    ∃ tree : Items doubles, tree.text = before.text ++ dumpsItems doubles items ∧ tree.values = items
  | [], _, _, nonempty => absurd rfl nonempty
  | [item], before, finite, _ => by
    obtain ⟨node, text, value⟩ := dumps_tree item finite.1
    exact ⟨.last before node noBlank, by rw [Items.text, text, dumpsItems]; simp [noBlank], by rw [Items.values, value]⟩
  | item :: next :: rest, before, finite, _ => by
    obtain ⟨node, text, value⟩ := dumps_tree item finite.1
    obtain ⟨tree, texts, values⟩ := dumpsItems_tree (next :: rest) space finite.2 (by simp)
    refine ⟨.more before node noBlank tree, ?_, by rw [Items.values, value, values]⟩
    have written : dumpsItems doubles (item :: next :: rest) =
        dumps doubles item ++ comma :: 0x20 :: dumpsItems doubles (next :: rest) := rfl
    rw [Items.text, text, texts, written]
    rfl

theorem dumpsMembers_tree : ∀ (members : Members) (before : Blank), finiteMembers doubles members → members ≠ [] →
    ∃ tree : Fields doubles, tree.text = before.text ++ dumpsMembers doubles members ∧ tree.values = members
  | [], _, _, nonempty => absurd rfl nonempty
  | [(name, value)], before, finite, _ => by
    obtain ⟨node, text, found⟩ := dumps_tree value finite.1
    refine ⟨.last before (Key.ofName name) noBlank space node noBlank,
      ?_, by rw [Fields.values, found, Key.ofName_name]⟩
    rw [Fields.text, text, dumpsMembers]
    simp [noBlank, space, Key.ofName, Key.text, dumpsString]
  | (name, value) :: next :: rest, before, finite, _ => by
    obtain ⟨node, text, found⟩ := dumps_tree value finite.1
    obtain ⟨tree, texts, values⟩ := dumpsMembers_tree (next :: rest) space finite.2 (by simp)
    refine ⟨.more before (Key.ofName name) noBlank space node noBlank tree, ?_,
      by rw [Fields.values, found, values, Key.ofName_name]⟩
    have written : dumpsMembers doubles ((name, value) :: next :: rest) = dumpsString name ++
        (colon :: 0x20 :: (dumps doubles value ++ comma :: 0x20 :: dumpsMembers doubles (next :: rest))) := rfl
    rw [Fields.text, text, texts, written]
    rfl
end

end Trees

end Darling.Jsons
