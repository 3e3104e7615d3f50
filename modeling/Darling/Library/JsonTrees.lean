import Darling.Library.Jsons

/-! Syntax trees of JSON texts with every character in them. The reader accepts exactly the texts of the
trees. -/
namespace Darling.Jsons

open Points (Point Text)

structure Blank where
  text : Text
  blank : ∀ c ∈ text, isBlank c = true

/-- A string behind its opening quote, with the closing one, and what stands in it. -/
inductive Body : Text → List Piece → Prop where
  | close : Body [quote] []
  | unicode {a b c d : Point} {code : Nat} {rest : Text} {units : List Piece} (coded : hexCode [a, b, c, d] =
      some (code, []))
      (body : Body rest units) : Body (backslash :: 0x75 :: a :: b :: c :: d :: rest) (.escaped code :: units)
  | short {e c : Point} {rest : Text} {units : List Piece} (other : e ≠ 0x75) (short : shortEscape e = some c)
      (body : Body rest units) : Body (backslash :: e :: rest) (.plain c :: units)
  | plain {c : Point} {rest : Text} {units : List Piece} (open_ : c ≠ quote) (unescaped : c ≠ backslash)
      (printing : ¬c.val < 0x20) (body : Body rest units) : Body (c :: rest) (.plain c :: units)

/-- The text of a scalar and its value. -/
inductive Scalar (doubles : Doubles) : Text → Value → Prop where
  | string {body : Text} {units : List Piece} (closed : Body body units) :
      Scalar doubles (quote :: body) (.str (decode units))
  | bare {text : Text} {value : Value} (read : readBare doubles text = some value) : Scalar doubles text value

structure Token (doubles : Doubles) where
  text : Text
  value : Value
  scalar : Scalar doubles text value

/-- A key with its quotes. -/
structure Key where
  body : Text
  units : List Piece
  closed : Body body units

def Key.text (key : Key) : Text := quote :: key.body

def Key.name (key : Key) : Text := decode key.units

mutual
inductive Node (doubles : Doubles) where
  | scalar (token : Token doubles)
  | emptyArray (blank : Blank)
  | emptyObject (blank : Blank)
  | array (items : Items doubles)
  | object (members : Fields doubles)

/-- The items of an array up to the closing bracket. -/
inductive Items (doubles : Doubles) where
  | last (before : Blank) (node : Node doubles) (after : Blank)
  | more (before : Blank) (node : Node doubles) (after : Blank) (rest : Items doubles)

/-- The members of an object up to the closing brace. -/
inductive Fields (doubles : Doubles) where
  | last (before : Blank) (key : Key) (between ahead : Blank) (node : Node doubles) (after : Blank)
  | more (before : Blank) (key : Key) (between ahead : Blank) (node : Node doubles) (after : Blank)
      (rest : Fields doubles)
end

variable {doubles : Doubles}

mutual
def Node.text : Node doubles → Text
  | .scalar token => token.text
  | .emptyArray blank => openBracket :: (blank.text ++ [closeBracket])
  | .emptyObject blank => openBrace :: (blank.text ++ [closeBrace])
  | .array items => openBracket :: (items.text ++ [closeBracket])
  | .object members => openBrace :: (members.text ++ [closeBrace])

def Items.text : Items doubles → Text
  | .last before node after => before.text ++ (node.text ++ after.text)
  | .more before node after rest => before.text ++ (node.text ++ (after.text ++ comma :: rest.text))

def Fields.text : Fields doubles → Text
  | .last before key between ahead node after =>
    before.text ++ (key.text ++ (between.text ++ colon :: (ahead.text ++ (node.text ++ after.text))))
  | .more before key between ahead node after rest =>
    before.text ++ (key.text ++ (between.text ++ colon ::
      (ahead.text ++ (node.text ++ (after.text ++ comma :: rest.text)))))
end

mutual
def Node.value : Node doubles → Value
  | .scalar token => token.value
  | .emptyArray _ => .arr []
  | .emptyObject _ => .obj []
  | .array items => .arr items.values
  | .object members => .obj members.values

def Items.values : Items doubles → List Value
  | .last _ node _ => [node.value]
  | .more _ node _ rest => node.value :: rest.values

def Fields.values : Fields doubles → Members
  | .last _ key _ _ node _ => [(key.name, node.value)]
  | .more _ key _ _ node _ rest => (key.name, node.value) :: rest.values
end

/-- A text with its syntax tree. -/
structure Document (doubles : Doubles) where
  before : Blank
  node : Node doubles
  after : Blank

def Document.text (document : Document doubles) : Text :=
  document.before.text ++ (document.node.text ++ document.after.text)

section Tokens

/-- What can stand behind a value: nothing, or something that ends it, with blanks before. -/
def Follows (rest : Text) : Prop :=
  ∀ c, (skip rest).head? = some c → c = comma ∨ c = closeBracket ∨ c = closeBrace

theorem skip_blank {rest : Text} (blank : Blank) (stop : ∀ c, rest.head? = some c → isBlank c = false) :
    skip (blank.text ++ rest) = rest := by
  rw [skip, List.dropWhile_append_of_pos blank.blank]
  cases rest with
  | nil => rfl
  | cons c rest => rw [List.dropWhile_cons_of_neg (by simp [stop c rfl])]

theorem follows_blank {c : Point} (blank : Blank) (rest : Text) (ends : c = comma ∨ c = closeBracket ∨ c = closeBrace) :
    Follows (blank.text ++ c :: rest) := by
  have solid : isBlank c = false := by rcases ends with rfl | rfl | rfl <;> decide
  intro d first
  rw [skip_blank blank (by simp [solid])] at first
  obtain rfl : c = d := by simpa using first
  exact ends

theorem skip_end (blank : Blank) : skip blank.text = [] := by
  have skipped : skip (blank.text ++ []) = [] := skip_blank blank (by simp)
  rwa [List.append_nil] at skipped

theorem follows_end (blank : Blank) : Follows blank.text := by
  intro c first
  simp [skip_end] at first

theorem Follows.not_bare {rest : Text} (follows : Follows rest) : ∀ c, rest.head? = some c → isBare c = false := by
  intro c first
  cases rest with
  | nil => simp at first
  | cons d rest =>
    obtain rfl : d = c := by simpa using first
    by_cases blank : isBlank d
    · simp [isBare, blank]
    · have ends := follows d (by simp [skip, blank])
      rcases ends with rfl | rfl | rfl <;> decide

theorem hexCode_cons {text rest : Text} {code : Nat} :
    hexCode text = some (code, rest) ↔ ∃ a b c d, text = a :: b :: c :: d :: rest ∧
      hexCode [a, b, c, d] = some (code, []) := by
  constructor
  · intro coded
    match text, coded with
    | a :: b :: c :: d :: later, coded =>
      simp only [hexCode, Option.bind_eq_bind, Option.bind_eq_some_iff, Option.pure_def, Option.some.injEq,
        Prod.mk.injEq] at coded
      obtain ⟨a', first, b', second, c', third, d', fourth, value, rfl⟩ := coded
      exact ⟨a, b, c, d, rfl, by simp [hexCode, first, second, third, fourth, value]⟩
  · rintro ⟨a, b, c, d, rfl, coded⟩
    simp only [hexCode, Option.bind_eq_bind, Option.bind_eq_some_iff, Option.pure_def, Option.some.injEq, Prod.mk.injEq,
      and_true] at coded ⊢
    exact coded

theorem readUnits_body {body : Text} {units : List Piece} (closed : Body body units) {fuel : Nat}
    (enough : body.length ≤ fuel)
    (rest : Text) : readUnits fuel (body ++ rest) = some (units, rest) := by
  induction closed generalizing fuel with
  | close =>
    obtain ⟨fuel, rfl⟩ : ∃ n, fuel = n + 1 := ⟨fuel - 1, by simp at enough; omega⟩
    simp [readUnits]
  | @unicode a b c d code text units coded closed ih =>
    obtain ⟨fuel, rfl⟩ : ∃ n, fuel = n + 1 := ⟨fuel - 1, by simp at enough; omega⟩
    have read : readUnits fuel (text ++ rest) = some (units, rest) := ih (by simp at enough; omega)
    have coded' : hexCode (a :: b :: c :: d :: (text ++ rest)) = some (code, text ++ rest) :=
      hexCode_cons.mpr ⟨a, b, c, d, rfl, coded⟩
    simp [readUnits, coded', read, show backslash ≠ quote by decide]
  | @short e c text units other short closed ih =>
    obtain ⟨fuel, rfl⟩ : ∃ n, fuel = n + 1 := ⟨fuel - 1, by simp at enough; omega⟩
    have read : readUnits fuel (text ++ rest) = some (units, rest) := ih (by simp at enough; omega)
    simp [readUnits, other, short, read, show backslash ≠ quote by decide]
  | @plain c text units open_ unescaped printing closed ih =>
    obtain ⟨fuel, rfl⟩ : ∃ n, fuel = n + 1 := ⟨fuel - 1, by simp at enough; omega⟩
    have read : readUnits fuel (text ++ rest) = some (units, rest) := ih (by simp at enough; omega)
    simp [readUnits, open_, unescaped, printing, read]

theorem body_of_readUnits {fuel : Nat} {text last : Text} {units : List Piece}
    (read : readUnits fuel text = some (units, last)) : ∃ body, text = body ++ last ∧ Body body units := by
  induction fuel generalizing text units with
  | zero => simp [readUnits] at read
  | succ fuel ih =>
    cases text with
    | nil => simp [readUnits] at read
    | cons c rest =>
      unfold readUnits at read
      by_cases closing : c = quote
      · simp only [closing, if_true, Option.some.injEq, Prod.mk.injEq] at read
        obtain ⟨rfl, rfl⟩ := read
        exact ⟨[quote], by rw [closing]; rfl, .close⟩
      by_cases escape : c = backslash
      · simp only [escape, show backslash ≠ quote by decide, if_false, if_true] at read
        cases rest with
        | nil => simp at read
        | cons e later =>
          by_cases unicode : e = 0x75
          · simp only [unicode, if_true, Option.bind_eq_bind, Option.bind_eq_some_iff, Option.pure_def,
              Option.some.injEq,
              Prod.mk.injEq] at read
            obtain ⟨⟨code, later'⟩, coded, ⟨units', last'⟩, read', rfl, rfl⟩ := read
            obtain ⟨a, b, d, f, rfl, digits⟩ := hexCode_cons.mp coded
            obtain ⟨body, rfl, closed⟩ := ih read'
            exact ⟨_, by rw [escape, unicode]; rfl, .unicode digits closed⟩
          · simp only [unicode, if_false, Option.bind_eq_bind, Option.bind_eq_some_iff, Option.pure_def,
              Option.some.injEq,
              Prod.mk.injEq] at read
            obtain ⟨d, short, ⟨units', last'⟩, read', rfl, rfl⟩ := read
            obtain ⟨body, rfl, closed⟩ := ih read'
            exact ⟨_, by rw [escape]; rfl, .short unicode short closed⟩
      by_cases control : c.val < 0x20
      · simp [closing, escape, control] at read
      · simp only [closing, escape, control, if_false, Option.bind_eq_bind, Option.bind_eq_some_iff, Option.pure_def,
          Option.some.injEq, Prod.mk.injEq] at read
        obtain ⟨⟨units', last'⟩, read', rfl, rfl⟩ := read
        obtain ⟨body, rfl, closed⟩ := ih read'
        exact ⟨_, rfl, .plain closing escape control closed⟩

theorem readString_body {body : Text} {units : List Piece} (closed : Body body units) (rest : Text) :
    readString (body ++ rest) = some (units, rest) :=
  readUnits_body closed (by simp) rest

theorem isBare_digit {c : Point} (digit : isDigit c = true) : isBare c = true := by
  have other (d : Point) (no : isDigit d = false) : c ≠ d := by
    rintro rfl
    simp [no] at digit
  simp [isBare, isBlank, other _ (show isDigit 0x20 = false by decide), other _ (show isDigit 0x0A = false by decide),
    other _ (show isDigit 0x0D = false by decide), other _ (show isDigit 0x09 = false by decide),
    other _ (show isDigit quote = false by decide), other _ (show isDigit comma = false by decide),
    other _ (show isDigit colon = false by decide), other _ (show isDigit openBracket = false by decide),
    other _ (show isDigit closeBracket = false by decide), other _ (show isDigit openBrace = false by decide),
    other _ (show isDigit closeBrace = false by decide)]

/-- A run of digits cut off the beginning. -/
theorem digits_cut (text : Text) : ∀ c ∈ text.takeWhile isDigit, isBare c = true :=
  fun c listed => isBare_digit (List.all_eq_true.mp List.all_takeWhile c listed)

theorem whole_cut {text rest : Text} {value : Nat} (read : whole text = some (value, rest)) :
    ∃ used, text = used ++ rest ∧ used ≠ [] ∧ ∀ c ∈ used, isBare c = true := by
  simp only [whole] at read
  split at read
  · cases read
  · rename_i some_
    cases read
    rw [not_or] at some_
    exact ⟨_, List.takeWhile_append_dropWhile.symm, some_.1, digits_cut text⟩

theorem fraction_cut {text rest : Text} {found : Bool} (read : fraction text = some (found, rest)) :
    ∃ used, text = used ++ rest ∧ ∀ c ∈ used, isBare c = true := by
  cases text with
  | nil =>
    obtain ⟨rfl, rfl⟩ : false = found ∧ [] = rest := by simpa [fraction] using read
    exact ⟨[], rfl, by simp⟩
  | cons c later =>
    simp only [fraction] at read
    split at read
    · rename_i point
      split at read
      · cases read
      · cases read
        refine ⟨c :: later.takeWhile isDigit, by simp, List.forall_mem_cons.mpr ⟨?_, digits_cut later⟩⟩
        rw [point]
        decide
    · cases read
      exact ⟨[], rfl, by simp⟩

theorem unsigned_cut (text : Text) : ∃ used, text = used ++ unsigned text ∧ ∀ c ∈ used, isBare c = true := by
  cases text with
  | nil => exact ⟨[], rfl, by simp⟩
  | cons c later =>
    by_cases sign : c = 0x2B ∨ c = 0x2D
    · refine ⟨[c], by simp [unsigned, sign], ?_⟩
      rw [List.forall_mem_singleton]
      rcases sign with rfl | rfl <;> decide
    · exact ⟨[], by simp [unsigned, sign], by simp⟩

theorem exponent_cut {text rest : Text} {found : Bool} (read : exponent text = some (found, rest)) :
    ∃ used, text = used ++ rest ∧ ∀ c ∈ used, isBare c = true := by
  cases text with
  | nil =>
    obtain ⟨rfl, rfl⟩ : false = found ∧ [] = rest := by simpa [exponent] using read
    exact ⟨[], rfl, by simp⟩
  | cons c later =>
    simp only [exponent] at read
    split at read
    · rename_i mark
      split at read
      · cases read
      · cases read
        obtain ⟨used, cut, bare⟩ := unsigned_cut later
        refine ⟨c :: (used ++ (unsigned later).takeWhile isDigit), ?_, ?_⟩
        · rw [List.cons_append, List.append_assoc, List.takeWhile_append_dropWhile, ← cut]
        · refine List.forall_mem_cons.mpr ⟨?_, List.forall_mem_append.mpr ⟨bare, digits_cut _⟩⟩
          rcases mark with rfl | rfl <;> decide
    · cases read
      exact ⟨[], rfl, by simp⟩

theorem readNumber_bare {read : Text → Double} {token : Text} {value : Value}
    (found : readNumber read token = some value) :
    token ≠ [] ∧ ∀ c ∈ token, isBare c = true := by
  simp only [readNumber, Option.bind_eq_some_iff] at found
  obtain ⟨⟨number, rest⟩, wholes, ⟨fractional, rest'⟩, fractions, ⟨scaled, rest''⟩, exponents, ends⟩ := found
  dsimp only at fractions exponents ends
  obtain ⟨digits, cut, some, bare⟩ := whole_cut wholes
  obtain ⟨decimals, cut', bare'⟩ := fraction_cut fractions
  obtain ⟨scale, cut'', bare''⟩ := exponent_cut exponents
  have ended : rest'' = [] := by
    by_contra more
    simp [more] at ends
  have whole : ∀ c ∈ digits ++ (decimals ++ scale), isBare c = true :=
    List.forall_mem_append.mpr ⟨bare, List.forall_mem_append.mpr ⟨bare', bare''⟩⟩
  have shape : (if token.head? = Option.some 0x2D then token.tail else token) = digits ++ (decimals ++ scale) := by
    rw [cut, cut', cut'', ended, List.append_nil]
  cases token with
  | nil =>
    rw [if_neg (by simp)] at shape
    exact absurd (List.append_eq_nil_iff.mp shape.symm).1 some
  | cons c later =>
    refine ⟨by simp, ?_⟩
    by_cases sign : c = 0x2D
    · rw [if_pos (by simp [sign])] at shape
      rw [List.forall_mem_cons, show later = _ from shape]
      exact ⟨by rw [sign]; decide, whole⟩
    · rw [if_neg (by simp [sign])] at shape
      rw [shape]
      exact whole

/-- A number or a literal is a run of bare characters. -/
theorem readBare_bare {token : Text} {value : Value} (found : readBare doubles token = some value) :
    token ≠ [] ∧ ∀ c ∈ token, isBare c = true := by
  have literal (name : String) (some : chars name ≠ []) (bare : (chars name).all isBare = true)
      (same : token = chars name) :
      token ≠ [] ∧ ∀ c ∈ token, isBare c = true := by
    rw [same]
    exact ⟨some, List.all_eq_true.mp bare⟩
  unfold readBare at found
  split at found
  · exact literal "null" (by decide) (by decide) ‹_›
  split at found
  · exact literal "true" (by decide) (by decide) ‹_›
  split at found
  · exact literal "false" (by decide) (by decide) ‹_›
  exact readNumber_bare found

end Tokens

section Completeness

theorem isBare_ne {c : Point} (bare : isBare c = true) :
    isBlank c = false ∧ c ≠ quote ∧ c ≠ comma ∧ c ≠ colon ∧ c ≠ openBracket ∧ c ≠ closeBracket ∧ c ≠ openBrace ∧
      c ≠ closeBrace := by
  simpa [isBare, and_assoc] using bare

/-- The first character of a value is neither blank nor the end of something. -/
theorem Node.first (node : Node doubles) :
    ∃ c rest, node.text = c :: rest ∧ isBlank c = false ∧ c ≠ closeBracket ∧ c ≠ closeBrace := by
  cases node with
  | scalar token =>
    obtain ⟨text, value, scalar⟩ := token
    cases scalar with
    | string _ => exact ⟨quote, _, by rw [Node.text], by decide, by decide, by decide⟩
    | bare read =>
      obtain ⟨some, bare⟩ := readBare_bare read
      obtain ⟨c, rest, rfl⟩ := List.exists_cons_of_ne_nil some
      obtain ⟨solid, _, _, _, _, bracket, _, brace⟩ := isBare_ne (bare c (by simp))
      exact ⟨c, rest, by rw [Node.text], solid, bracket, brace⟩
  | emptyArray _ => exact ⟨openBracket, _, by rw [Node.text], by decide, by decide, by decide⟩
  | emptyObject _ => exact ⟨openBrace, _, by rw [Node.text], by decide, by decide, by decide⟩
  | array _ => exact ⟨openBracket, _, by rw [Node.text], by decide, by decide, by decide⟩
  | object _ => exact ⟨openBrace, _, by rw [Node.text], by decide, by decide, by decide⟩

/-- The first character of a scalar opens nothing. -/
theorem Token.first (token : Token doubles) : ∃ c rest, token.text = c :: rest ∧ c ≠ openBracket ∧ c ≠ openBrace := by
  obtain ⟨text, value, scalar⟩ := token
  cases scalar with
  | string _ => exact ⟨quote, _, rfl, by decide, by decide⟩
  | bare read =>
    obtain ⟨some, bare⟩ := readBare_bare read
    obtain ⟨c, rest, rfl⟩ := List.exists_cons_of_ne_nil some
    obtain ⟨_, _, _, _, bracket, _, brace, _⟩ := isBare_ne (bare c (by simp))
    exact ⟨c, rest, rfl, bracket, brace⟩

theorem skip_node (blank : Blank) (node : Node doubles) (rest : Text) :
    skip (blank.text ++ (node.text ++ rest)) = node.text ++ rest := by
  obtain ⟨c, tail, text, solid, _⟩ := node.first
  apply skip_blank
  rw [text]
  simpa using solid

theorem skip_cons (blank : Blank) {c : Point} (solid : isBlank c = false) (rest : Text) :
    skip (blank.text ++ c :: rest) = c :: rest :=
  skip_blank blank (by simpa using solid)

theorem readValue_token (token : Token doubles) {fuel : Nat} (enough : 0 < fuel) {rest : Text}
    (follows : Follows rest) :
    readValue doubles fuel (token.text ++ rest) = some (token.value, rest) := by
  obtain ⟨fuel, rfl⟩ : ∃ n, fuel = n + 1 := ⟨fuel - 1, by omega⟩
  obtain ⟨text, value, scalar⟩ := token
  cases scalar with
  | @string body units closed =>
    rw [List.cons_append, readValue, if_pos rfl, readString_body closed]
    rfl
  | bare read =>
    obtain ⟨some, bare⟩ := readBare_bare read
    obtain ⟨c, later, rfl⟩ := List.exists_cons_of_ne_nil some
    obtain ⟨_, noQuote, _, _, noBracket, _, noBrace, _⟩ := isBare_ne (bare c (by simp))
    have stop : rest.takeWhile isBare = [] ∧ rest.dropWhile isBare = rest := by
      cases rest with
      | nil => simp
      | cons d rest => simp [follows.not_bare d rfl]
    rw [List.cons_append, readValue, if_neg noQuote, if_neg noBracket, if_neg noBrace, ← List.cons_append,
      List.takeWhile_append_of_pos bare, List.dropWhile_append_of_pos bare, stop.1, stop.2, List.append_nil, read]
    rfl

theorem skip_skip (text : Text) : skip (skip text) = skip text := by
  have stop := List.head?_dropWhile_not isBlank text
  cases rest : text.dropWhile isBlank with
  | nil => rw [skip, skip, rest, List.dropWhile_nil]
  | cons c later =>
    rw [rest, List.head?_cons] at stop
    rw [skip, skip, rest, List.dropWhile_cons_of_neg (by simpa using stop)]

theorem readItems_skip (fuel : Nat) (text : Text) :
    readItems doubles fuel (skip text) = readItems doubles fuel text := by
  cases fuel with
  | zero => rw [readItems, readItems]
  | succ fuel => rw [readItems, readItems, skip_skip]

theorem readMembers_skip (fuel : Nat) (text : Text) :
    readMembers doubles fuel (skip text) = readMembers doubles fuel text := by
  cases fuel with
  | zero => rw [readMembers, readMembers]
  | succ fuel => rw [readMembers, readMembers, skip_skip]

theorem Items.first (items : Items doubles) (rest : Text) :
    ∃ c later, skip (items.text ++ rest) = c :: later ∧ c ≠ closeBracket := by
  have start (before : Blank) (node : Node doubles) (later : Text) :
      ∃ c tail, skip (before.text ++ (node.text ++ later)) = c :: tail ∧ c ≠ closeBracket := by
    obtain ⟨c, tail, text, _, other, _⟩ := node.first
    exact ⟨c, tail ++ later, by rw [skip_node, text]; rfl, other⟩
  cases items with
  | last before node after => simpa [Items.text] using start before node (after.text ++ rest)
  | more before node after items =>
    simpa [Items.text] using start before node (after.text ++ comma :: (items.text ++ rest))

theorem Fields.first (members : Fields doubles) (rest : Text) :
    ∃ c later, skip (members.text ++ rest) = c :: later ∧ c ≠ closeBrace := by
  cases members with
  | last before key between ahead node after =>
    rw [Fields.text, List.append_assoc, Key.text, List.cons_append, List.cons_append, skip_cons before (by decide)]
    exact ⟨quote, _, rfl, by decide⟩
  | more before key between ahead node after members =>
    rw [Fields.text, List.append_assoc, Key.text, List.cons_append, List.cons_append, skip_cons before (by decide)]
    exact ⟨quote, _, rfl, by decide⟩

/-- One item and what stands behind it. -/
theorem readItems_node {fuel : Nat} {before after : Blank} {node : Node doubles} {c : Point} {rest : Text}
    {value : Value}
    (solid : isBlank c = false) (read : readValue doubles fuel (node.text ++ (after.text ++ c :: rest)) =
      some (value, after.text ++ c :: rest)) :
    readItems doubles (fuel + 1) (before.text ++ (node.text ++ (after.text ++ c :: rest))) =
      if c = comma then (readItems doubles fuel rest).map fun (items, last) => (value :: items, last)
      else if c = closeBracket then some ([value], rest) else none := by
  rw [readItems, skip_node, read, Option.bind_some]
  dsimp only
  rw [skip_cons after solid]

/-- One member and what stands behind it. -/
theorem readMembers_node {fuel : Nat} {before between ahead after : Blank} {key : Key} {node : Node doubles} {c : Point}
    {rest : Text} {value : Value} (solid : isBlank c = false)
    (read : readValue doubles fuel (node.text ++ (after.text ++ c :: rest)) = some (value, after.text ++ c :: rest)) :
    readMembers doubles (fuel + 1) (before.text ++ (key.text ++ (between.text ++ colon :: (ahead.text ++ (node.text ++
        (after.text ++ c :: rest)))))) =
      if c = comma then (readMembers doubles fuel rest).map fun (members, last) => ((key.name, value) :: members, last)
      else if c = closeBrace then some ([(key.name, value)], rest) else none := by
  rw [readMembers, Key.text, List.cons_append, skip_cons before (by decide)]
  dsimp only
  rw [if_pos rfl, readString_body key.closed, Option.bind_some]
  dsimp only
  rw [skip_cons between (by decide)]
  dsimp only
  rw [if_pos rfl, skip_node, read, Option.bind_some]
  dsimp only
  rw [skip_cons after solid]
  rfl

mutual
theorem readValue_text : ∀ (node : Node doubles) (fuel : Nat) (rest : Text), 2 * node.text.length ≤ fuel →
    Follows rest →
    readValue doubles fuel (node.text ++ rest) = some (node.value, rest)
  | .scalar token, fuel, rest, enough, follows => by
    obtain ⟨c, later, text, _⟩ := (Node.scalar token).first
    rw [text, List.length_cons] at enough
    rw [Node.text, Node.value]
    exact readValue_token token (by omega) follows
  | .emptyArray blank, fuel, rest, enough, follows => by
    obtain ⟨fuel, rfl⟩ : ∃ n, fuel = n + 1 := ⟨fuel - 1, by simp [Node.text] at enough; omega⟩
    rw [Node.text, List.cons_append, readValue, if_neg (by decide), if_pos rfl, List.append_assoc,
      List.singleton_append,
      skip_cons blank (by decide)]
    rfl
  | .emptyObject blank, fuel, rest, enough, follows => by
    obtain ⟨fuel, rfl⟩ : ∃ n, fuel = n + 1 := ⟨fuel - 1, by simp [Node.text] at enough; omega⟩
    rw [Node.text, List.cons_append, readValue, if_neg (by decide), if_neg (by decide), if_pos rfl, List.append_assoc,
      List.singleton_append, skip_cons blank (by decide)]
    rfl
  | .array items, fuel, rest, enough, follows => by
    simp only [Node.text, List.length_cons, List.length_append, List.length_nil] at enough
    obtain ⟨fuel, rfl⟩ : ∃ n, fuel = n + 1 := ⟨fuel - 1, by omega⟩
    have read := readItems_text items fuel rest (by omega)
    obtain ⟨c, later, skipped, other⟩ := items.first (closeBracket :: rest)
    rw [← readItems_skip, skipped] at read
    rw [Node.text, List.cons_append, readValue, if_neg (by decide), if_pos rfl, List.append_assoc,
      List.singleton_append, skipped]
    dsimp only
    rw [if_neg other, read]
    rfl
  | .object members, fuel, rest, enough, follows => by
    simp only [Node.text, List.length_cons, List.length_append, List.length_nil] at enough
    obtain ⟨fuel, rfl⟩ : ∃ n, fuel = n + 1 := ⟨fuel - 1, by omega⟩
    have read := readMembers_text members fuel rest (by omega)
    obtain ⟨c, later, skipped, other⟩ := members.first (closeBrace :: rest)
    rw [← readMembers_skip, skipped] at read
    rw [Node.text, List.cons_append, readValue, if_neg (by decide), if_neg (by decide), if_pos rfl, List.append_assoc,
      List.singleton_append, skipped]
    dsimp only
    rw [if_neg other, read]
    rfl

theorem readItems_text : ∀ (items : Items doubles) (fuel : Nat) (rest : Text), 2 * items.text.length + 1 ≤ fuel →
    readItems doubles fuel (items.text ++ closeBracket :: rest) = some (items.values, rest)
  | .last before node after, fuel, rest, enough => by
    simp only [Items.text, List.length_append] at enough
    obtain ⟨fuel, rfl⟩ : ∃ n, fuel = n + 1 := ⟨fuel - 1, by omega⟩
    have read := readValue_text node fuel (after.text ++ closeBracket :: rest) (by omega)
      (follows_blank after rest (.inr (.inl rfl)))
    rw [Items.text, List.append_assoc, List.append_assoc, readItems_node (by decide) read]
    rfl
  | .more before node after items, fuel, rest, enough => by
    simp only [Items.text, List.length_append, List.length_cons] at enough
    obtain ⟨fuel, rfl⟩ : ∃ n, fuel = n + 1 := ⟨fuel - 1, by omega⟩
    have read := readValue_text node fuel (after.text ++ comma :: (items.text ++ closeBracket :: rest)) (by omega)
      (follows_blank after _ (.inl rfl))
    rw [Items.text, List.append_assoc, List.append_assoc, List.append_assoc, List.cons_append,
      readItems_node (by decide) read,
      if_pos rfl, readItems_text items fuel rest (by omega)]
    rfl

theorem readMembers_text : ∀ (members : Fields doubles) (fuel : Nat) (rest : Text), 2 * members.text.length + 1 ≤ fuel →
    readMembers doubles fuel (members.text ++ closeBrace :: rest) = some (members.values, rest)
  | .last before key between ahead node after, fuel, rest, enough => by
    simp only [Fields.text, List.length_append, List.length_cons] at enough
    obtain ⟨fuel, rfl⟩ : ∃ n, fuel = n + 1 := ⟨fuel - 1, by omega⟩
    have read := readValue_text node fuel (after.text ++ closeBrace :: rest) (by omega)
      (follows_blank after rest (.inr (.inr rfl)))
    simp only [Fields.text, List.append_assoc, List.cons_append]
    rw [readMembers_node (by decide) read]
    rfl
  | .more before key between ahead node after members, fuel, rest, enough => by
    simp only [Fields.text, List.length_append, List.length_cons] at enough
    obtain ⟨fuel, rfl⟩ : ∃ n, fuel = n + 1 := ⟨fuel - 1, by omega⟩
    have read := readValue_text node fuel (after.text ++ comma :: (members.text ++ closeBrace :: rest)) (by omega)
      (follows_blank after _ (.inl rfl))
    simp only [Fields.text, List.append_assoc, List.cons_append]
    rw [readMembers_node (by decide) read, if_pos rfl, readMembers_text members fuel rest (by omega)]
    rfl
end

/-- The reader gives the value of every syntax tree for its text. -/
theorem loads_text (document : Document doubles) : loads doubles document.text = some document.node.value := by
  have read := readValue_text document.node (2 * document.text.length) document.after.text
    (by simp only [Document.text, List.length_append]; omega) (follows_end document.after)
  rw [loads, Document.text, skip_node, ← Document.text, read, Option.bind_some]
  simp [skip_end]

end Completeness

section Soundness

theorem skip_split (text : Text) : ∃ blank : Blank, text = blank.text ++ skip text :=
  ⟨⟨text.takeWhile isBlank, List.all_eq_true.mp List.all_takeWhile⟩, List.takeWhile_append_dropWhile.symm⟩

theorem skip_split_cons {text later : Text} {c : Point} (skipped : skip text = c :: later) :
    ∃ blank : Blank, text = blank.text ++ c :: later := by
  obtain ⟨blank, split⟩ := skip_split text
  rw [skipped] at split
  exact ⟨blank, split⟩

variable (doubles) in
/-- What the reader accepts with some fuel is the text of a syntax tree. -/
structure Accepts (fuel : Nat) : Prop where
  value : ∀ {text rest value}, readValue doubles fuel text = some (value, rest) →
    ∃ node : Node doubles, text = node.text ++ rest ∧ node.value = value
  items : ∀ {text rest items}, readItems doubles fuel text = some (items, rest) →
    ∃ tree : Items doubles, text = tree.text ++ closeBracket :: rest ∧ tree.values = items
  members : ∀ {text rest members}, readMembers doubles fuel text = some (members, rest) →
    ∃ tree : Fields doubles, text = tree.text ++ closeBrace :: rest ∧ tree.values = members

theorem readValue_sound {fuel : Nat} (accepts : Accepts doubles fuel) {text rest : Text} {value : Value}
    (read : readValue doubles (fuel + 1) text = some (value, rest)) :
    ∃ node : Node doubles, text = node.text ++ rest ∧ node.value = value := by
  cases text with
  | nil => simp [readValue] at read
  | cons c later =>
    rw [readValue] at read
    by_cases string : c = quote
    · rw [if_pos string] at read
      obtain ⟨⟨units, last⟩, inner, same⟩ := Option.map_eq_some_iff.mp read
      cases same
      obtain ⟨body, rfl, closed⟩ := body_of_readUnits inner
      exact ⟨.scalar ⟨quote :: body, _, .string closed⟩, by rw [string, Node.text]; rfl, rfl⟩
    rw [if_neg string] at read
    by_cases array : c = openBracket
    · rw [if_pos array] at read
      cases skipped : skip later with
      | nil => simp [skipped] at read
      | cons d rest' =>
        rw [skipped] at read
        dsimp only at read
        by_cases empty : d = closeBracket
        · rw [if_pos empty] at read
          cases read
          obtain ⟨blank, split⟩ := skip_split_cons skipped
          exact ⟨.emptyArray blank, by rw [array, split, empty, Node.text]; simp, by rw [Node.value]⟩
        · rw [if_neg empty, ← skipped, readItems_skip] at read
          obtain ⟨⟨items, last⟩, inner, same⟩ := Option.map_eq_some_iff.mp read
          cases same
          obtain ⟨tree, split, rfl⟩ := accepts.items inner
          exact ⟨.array tree, by rw [array, split, Node.text]; simp, by rw [Node.value]⟩
    rw [if_neg array] at read
    by_cases object : c = openBrace
    · rw [if_pos object] at read
      cases skipped : skip later with
      | nil => simp [skipped] at read
      | cons d rest' =>
        rw [skipped] at read
        dsimp only at read
        by_cases empty : d = closeBrace
        · rw [if_pos empty] at read
          cases read
          obtain ⟨blank, split⟩ := skip_split_cons skipped
          exact ⟨.emptyObject blank, by rw [object, split, empty, Node.text]; simp, by rw [Node.value]⟩
        · rw [if_neg empty, ← skipped, readMembers_skip] at read
          obtain ⟨⟨members, last⟩, inner, same⟩ := Option.map_eq_some_iff.mp read
          cases same
          obtain ⟨tree, split, rfl⟩ := accepts.members inner
          exact ⟨.object tree, by rw [object, split, Node.text]; simp, by rw [Node.value]⟩
    rw [if_neg object] at read
    obtain ⟨_, inner, same⟩ := Option.map_eq_some_iff.mp read
    cases same
    exact ⟨.scalar ⟨_, _, .bare inner⟩, by rw [Node.text, List.takeWhile_append_dropWhile], by rw [Node.value]⟩

theorem readItems_sound {fuel : Nat} (accepts : Accepts doubles fuel) {text rest : Text} {items : List Value}
    (read : readItems doubles (fuel + 1) text = some (items, rest)) :
    ∃ tree : Items doubles, text = tree.text ++ closeBracket :: rest ∧ tree.values = items := by
  rw [readItems] at read
  obtain ⟨⟨value, later⟩, first, read⟩ := Option.bind_eq_some_iff.mp read
  obtain ⟨node, split, rfl⟩ := accepts.value first
  obtain ⟨before, start⟩ := skip_split text
  rw [split] at start
  dsimp only at read
  cases skipped : skip later with
  | nil => simp [skipped] at read
  | cons c next =>
    rw [skipped] at read
    dsimp only at read
    obtain ⟨after, behind⟩ := skip_split_cons skipped
    by_cases more : c = comma
    · rw [if_pos more] at read
      obtain ⟨⟨others, last⟩, inner, same⟩ := Option.map_eq_some_iff.mp read
      cases same
      obtain ⟨tree, split', rfl⟩ := accepts.items inner
      exact ⟨.more before node after tree, by rw [start, behind, more, split', Items.text]; simp, by rw [Items.values]⟩
    · rw [if_neg more] at read
      by_cases closing : c = closeBracket
      · rw [if_pos closing] at read
        cases read
        exact ⟨.last before node after, by rw [start, behind, closing, Items.text]; simp, by rw [Items.values]⟩
      · simp [closing] at read

theorem readMembers_sound {fuel : Nat} (accepts : Accepts doubles fuel) {text rest : Text} {members : Members}
    (read : readMembers doubles (fuel + 1) text = some (members, rest)) :
    ∃ tree : Fields doubles, text = tree.text ++ closeBrace :: rest ∧ tree.values = members := by
  rw [readMembers] at read
  cases opened : skip text with
  | nil => simp [opened] at read
  | cons q inside =>
    rw [opened] at read
    dsimp only at read
    obtain ⟨before, start⟩ := skip_split_cons opened
    by_cases string : q = quote
    · rw [if_pos string] at read
      obtain ⟨⟨units, rest'⟩, named, members_⟩ := Option.bind_eq_some_iff.mp read
      obtain ⟨body, rfl, closed⟩ := body_of_readUnits named
      cases skipped : skip rest' with
      | nil => simp [skipped] at members_
      | cons c next =>
        rw [skipped] at members_
        dsimp only at members_
        obtain ⟨between, split⟩ := skip_split_cons skipped
        by_cases separated : c = colon
        · rw [if_pos separated] at members_
          obtain ⟨⟨value, later⟩, first, behind_⟩ := Option.bind_eq_some_iff.mp members_
          obtain ⟨node, value_, rfl⟩ := accepts.value first
          obtain ⟨ahead, valued⟩ := skip_split next
          rw [value_] at valued
          dsimp only at behind_
          have shape : text = before.text ++ ((Key.mk body units closed).text ++
              (between.text ++ colon :: (ahead.text ++
              (node.text ++ later)))) := by
            rw [start, string, split, separated, valued, Key.text]
            simp
          cases ending : skip later with
          | nil => simp [ending] at behind_
          | cons d following =>
            rw [ending] at behind_
            dsimp only at behind_
            obtain ⟨after, behind⟩ := skip_split_cons ending
            by_cases more : d = comma
            · rw [if_pos more] at behind_
              obtain ⟨⟨others, last⟩, inner, same⟩ := Option.map_eq_some_iff.mp behind_
              cases same
              obtain ⟨tree, split', rfl⟩ := accepts.members inner
              exact ⟨.more before ⟨body, units, closed⟩ between ahead node after tree,
                by rw [shape, behind, more, split', Fields.text]; simp, by rw [Fields.values]; rfl⟩
            · rw [if_neg more] at behind_
              by_cases closing : d = closeBrace
              · rw [if_pos closing] at behind_
                cases behind_
                exact ⟨.last before ⟨body, units, closed⟩ between ahead node after,
                  by rw [shape, behind, closing, Fields.text]; simp, by rw [Fields.values]; rfl⟩
              · simp [closing] at behind_
        · simp [separated] at members_
    · simp [string] at read

theorem accepts_all (fuel : Nat) : Accepts doubles fuel := by
  induction fuel with
  | zero => exact ⟨by simp [readValue], by simp [readItems], by simp [readMembers]⟩
  | succ fuel ih => exact ⟨readValue_sound ih, readItems_sound ih, readMembers_sound ih⟩

/-- The reader accepts exactly the texts of the syntax trees. -/
theorem loads_eq_some {text : Text} {value : Value} :
    loads doubles text = some value ↔ ∃ document : Document doubles, document.text = text ∧
      document.node.value = value := by
  constructor
  · intro read
    obtain ⟨⟨found, rest⟩, read, ends⟩ := Option.bind_eq_some_iff.mp read
    obtain ⟨node, split, rfl⟩ := (accepts_all _).value read
    obtain ⟨before, start⟩ := skip_split text
    obtain ⟨after, behind⟩ := skip_split rest
    dsimp only at ends
    split at ends
    · rename_i finished
      rw [finished, List.append_nil] at behind
      rw [split, behind] at start
      exact ⟨⟨before, node, after⟩, start.symm, Option.some.inj ends⟩
    · cases ends
  · rintro ⟨document, rfl, rfl⟩
    exact loads_text document

end Soundness

end Darling.Jsons
