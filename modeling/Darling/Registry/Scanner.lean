import Darling.Library.JsonPaths
import Darling.Library.JsonTrees
import Darling.Library.Splices
import Mathlib.Data.List.DropRight

/-! `_scalar_spans` of `generate_namespace_writer_registry.py`: a scanner beside the reader of the
interpreter that notes where every scalar of the registry stands. -/
namespace Darling.Registry

open Points (Point Text)
open Jsons
open Splices (flat_cons flat_append spans_append spans_unkeyed)

inductive Failure where
  | unterminated
  | malformedMember
  | malformedObject
  | malformedArray
  | unreadableKey
  | outOfText
  | depth
  | notScalar (path : Path)
  deriving DecidableEq

/-- An index into the text, with the characters from there on. -/
structure Cursor where
  index : Nat
  rest : Text

def Cursor.advance (cursor : Cursor) (count : Nat) : Cursor := ⟨cursor.index + count, cursor.rest.drop count⟩

def Cursor.skip (cursor : Cursor) : Cursor := cursor.advance (cursor.rest.takeWhile isBlank).length

/-- The characters of a string behind its first, up to and with the closing quote. -/
def closing : Text → Option Nat
  | [] => none
  | c :: rest =>
    if c = backslash then
      match rest with
      | [] => none
      | _ :: later => (closing later).map (· + 2)
    else if c = quote then some 1
    else (closing rest).map (· + 1)

/-- `string_end`: how many characters of the text from the cursor on are the string. -/
def stringEnd (cursor : Cursor) : Except Failure Nat :=
  match closing (cursor.rest.drop 1) with
  | some count => .ok (count + 1)
  | none => .error .unterminated

/-- `json.loads` of the text of a key. -/
def loadsKey (text : Text) : Option Text :=
  match text with
  | c :: rest => if c = quote then
      match readString rest with
      | some (units, []) => some (decode units)
      | _ => none
    else none
  | [] => none

/-- The dictionary of the spans; the last assignment to a path counts. -/
abbrev Spans := List (Path × Nat × Nat)

def isEnd (c : Point) : Bool := c == comma || c == closeBrace || c == closeBracket

/-- The branch of `value` for a scalar. -/
def scanScalar (cursor : Cursor) (first : Point) (path : Path) (spans : Spans) : Except Failure (Cursor × Spans) := do
  let length ←
    if first = quote then stringEnd cursor
    else pure ((cursor.rest.takeWhile (!isEnd ·)).rdropWhile isBlank).length
  return (cursor.advance length, (path, cursor.index, cursor.index + length) :: spans)

/-- The character at the cursor. -/
def Cursor.peek (cursor : Cursor) : Except Failure Point :=
  match cursor.rest with
  | [] => .error .outOfText
  | c :: _ => .ok c

mutual
/-- `value`; the fuel bounds the nesting. -/
def scanValue : Nat → Cursor → Path → Spans → Except Failure (Cursor × Spans)
  | 0, _, _, _ => .error .depth
  | fuel + 1, cursor, path, spans => do
    let cursor := cursor.skip
    let c ← cursor.peek
    if c = openBrace then
      let cursor := (cursor.advance 1).skip
      let c ← cursor.peek
      if c = closeBrace then return (cursor.advance 1, spans)
      scanMembers fuel cursor path spans
    else if c = openBracket then
      let cursor := (cursor.advance 1).skip
      let c ← cursor.peek
      if c = closeBracket then return (cursor.advance 1, spans)
      scanItems fuel cursor path 0 spans
    else scanScalar cursor c path spans

/-- The loop over the members of an object. -/
def scanMembers : Nat → Cursor → Path → Spans → Except Failure (Cursor × Spans)
  | 0, _, _, _ => .error .depth
  | fuel + 1, cursor, path, spans => do
    let cursor := cursor.skip
    let length ← stringEnd cursor
    let some key := loadsKey (cursor.rest.take length) | throw .unreadableKey
    let cursor := (cursor.advance length).skip
    let c ← cursor.peek
    if c ≠ colon then throw .malformedMember
    let (cursor, spans) ← scanValue fuel (cursor.advance 1) (path ++ [.key key]) spans
    let cursor := cursor.skip
    let c ← cursor.peek
    if c = comma then scanMembers fuel (cursor.advance 1) path spans
    else if c = closeBrace then return (cursor.advance 1, spans)
    else throw .malformedObject

/-- The loop over the items of an array. -/
def scanItems : Nat → Cursor → Path → Nat → Spans → Except Failure (Cursor × Spans)
  | 0, _, _, _, _ => .error .depth
  | fuel + 1, cursor, path, position, spans => do
    let (cursor, spans) ← scanValue fuel cursor (path ++ [.index position]) spans
    let cursor := cursor.skip
    let c ← cursor.peek
    if c = comma then scanItems fuel (cursor.advance 1).skip path (position + 1) spans
    else if c = closeBracket then return (cursor.advance 1, spans)
    else throw .malformedArray
end

/-- `_scalar_spans`. -/
def scalarSpans (text : Text) : Except Failure Spans := do
  let (_, spans) ← scanValue (2 * text.length + 1) (Cursor.skip ⟨0, text⟩) [] []
  return spans

section Pieces

variable {doubles : Doubles}

abbrev Piece := Splices.Piece Path Point

mutual
/-- The text of a tree in pieces: its scalars with their paths, and what stands between them. -/
def nodePieces (path : Path) : Node doubles → List Piece
  | .scalar token => [⟨some path, token.text⟩]
  | .emptyArray blank => [⟨none, openBracket :: (blank.text ++ [closeBracket])⟩]
  | .emptyObject blank => [⟨none, openBrace :: (blank.text ++ [closeBrace])⟩]
  | .array items => ⟨none, [openBracket]⟩ :: (itemPieces path 0 items ++ [⟨none, [closeBracket]⟩])
  | .object members => ⟨none, [openBrace]⟩ :: (memberPieces path members ++ [⟨none, [closeBrace]⟩])

def itemPieces (path : Path) (position : Nat) : Items doubles → List Piece
  | .last before node after => ⟨none, before.text⟩ ::
      (nodePieces (path ++ [.index position]) node ++ [⟨none, after.text⟩])
  | .more before node after rest =>
    ⟨none, before.text⟩ :: (nodePieces (path ++ [.index position]) node ++
      ⟨none, after.text ++ [comma]⟩ :: itemPieces path (position + 1) rest)

def memberPieces (path : Path) : Fields doubles → List Piece
  | .last before key between ahead node after =>
    ⟨none, before.text ++ (key.text ++ (between.text ++ colon :: ahead.text))⟩ ::
      (nodePieces (path ++ [.key key.name]) node ++ [⟨none, after.text⟩])
  | .more before key between ahead node after rest =>
    ⟨none, before.text ++ (key.text ++ (between.text ++ colon :: ahead.text))⟩ ::
      (nodePieces (path ++ [.key key.name]) node ++ ⟨none, after.text ++ [comma]⟩ :: memberPieces path rest)
end

mutual
theorem flat_nodePieces : ∀ (path : Path) (node : Node doubles), Splices.flat (nodePieces path node) = node.text
  | _, .scalar token => by simp [nodePieces, Splices.flat, Node.text]
  | _, .emptyArray blank => by simp [nodePieces, Splices.flat, Node.text]
  | _, .emptyObject blank => by simp [nodePieces, Splices.flat, Node.text]
  | path, .array items => by
    rw [nodePieces, flat_cons, flat_append, flat_itemPieces path 0 items, Node.text]
    simp [Splices.flat]
  | path, .object members => by
    rw [nodePieces, flat_cons, flat_append, flat_memberPieces path members, Node.text]
    simp [Splices.flat]

theorem flat_itemPieces : ∀ (path : Path) (position : Nat) (items : Items doubles),
    Splices.flat (itemPieces path position items) = items.text
  | path, position, .last before node after => by
    rw [itemPieces, flat_cons, flat_append, flat_nodePieces _ node, Items.text]
    simp [Splices.flat]
  | path, position, .more before node after rest => by
    rw [itemPieces, flat_cons, flat_append, flat_nodePieces _ node, flat_cons,
      flat_itemPieces path (position + 1) rest, Items.text]
    simp

theorem flat_memberPieces : ∀ (path : Path) (members : Fields doubles),
    Splices.flat (memberPieces path members) = members.text
  | path, .last before key between ahead node after => by
    rw [memberPieces, flat_cons, flat_append, flat_nodePieces _ node, Fields.text]
    simp [Splices.flat]
  | path, .more before key between ahead node after rest => by
    rw [memberPieces, flat_cons, flat_append, flat_nodePieces _ node, flat_cons,
      flat_memberPieces path rest, Fields.text]
    simp
end

end Pieces

section Cursors

theorem skip_rest (cursor : Cursor) : cursor.skip.rest = skip cursor.rest := by
  have split : cursor.rest = cursor.rest.takeWhile isBlank ++ skip cursor.rest := List.takeWhile_append_dropWhile.symm
  calc cursor.skip.rest
    _ = (cursor.rest.takeWhile isBlank ++ skip cursor.rest).drop
      (cursor.rest.takeWhile isBlank).length := by rw [← split]; rfl
    _ = skip cursor.rest := List.drop_left

theorem cursor_skip_skip (cursor : Cursor) : cursor.skip.skip = cursor.skip := by
  have taken : cursor.skip.rest.takeWhile isBlank = [] := by
    have stop := List.head?_dropWhile_not isBlank cursor.rest
    rw [skip_rest]
    cases rest : skip cursor.rest with
    | nil => rfl
    | cons c later =>
      rw [show cursor.rest.dropWhile isBlank = c :: later from rest, List.head?_cons] at stop
      rw [List.takeWhile_cons_of_neg (by simpa using stop)]
  rw [Cursor.skip, taken]
  rfl

theorem cursor_skip_blank (start : Nat) (blank : Blank) {rest : Text}
    (stop : ∀ c, rest.head? = some c → isBlank c = false) :
    Cursor.skip ⟨start, blank.text ++ rest⟩ = ⟨start + blank.text.length, rest⟩ := by
  have taken : (blank.text ++ rest).takeWhile isBlank = blank.text := by
    rw [List.takeWhile_append_of_pos blank.blank]
    cases rest with
    | nil => simp
    | cons c rest => simp [stop c rfl]
  simp [Cursor.skip, Cursor.advance, taken]

theorem hexValue_other {c : Point} (found : (hexValue c).isSome) : c ≠ backslash ∧ c ≠ quote := by
  constructor
  · rintro rfl
    revert found
    decide
  · rintro rfl
    revert found
    decide

theorem closing_quote (rest : Text) : closing (quote :: rest) = some 1 := by
  cases rest <;> simp [closing, show quote ≠ backslash by decide]

theorem closing_escape (e : Point) (rest : Text) : closing (backslash :: e :: rest) = (closing rest).map (· + 2) := by
  simp [closing]

theorem closing_plain {c : Point} (other : c ≠ backslash ∧ c ≠ quote) (rest : Text) :
    closing (c :: rest) = (closing rest).map (· + 1) := by
  cases rest <;> simp [closing, other]

theorem closing_body {body : Text} {units : List Jsons.Piece} (closed : Body body units) (rest : Text) :
    closing (body ++ rest) = some body.length := by
  induction closed with
  | close => exact closing_quote rest
  | @unicode a b c d code text units coded closed ih =>
    simp only [hexCode, Option.bind_eq_bind, Option.bind_eq_some_iff] at coded
    obtain ⟨_, first, _, second, _, third, _, fourth, _⟩ := coded
    have a_ := hexValue_other (Option.isSome_iff_exists.mpr ⟨_, first⟩)
    have b_ := hexValue_other (Option.isSome_iff_exists.mpr ⟨_, second⟩)
    have c_ := hexValue_other (Option.isSome_iff_exists.mpr ⟨_, third⟩)
    have d_ := hexValue_other (Option.isSome_iff_exists.mpr ⟨_, fourth⟩)
    simp only [List.cons_append]
    rw [closing_escape, closing_plain a_, closing_plain b_, closing_plain c_, closing_plain d_, ih]
    rfl
  | @short e c text units other short closed ih =>
    rw [List.cons_append, List.cons_append, closing_escape, ih]
    rfl
  | @plain c text units open_ unescaped printing closed ih =>
    rw [List.cons_append, closing_plain ⟨unescaped, open_⟩, ih]
    rfl

theorem stringEnd_body {body : Text} {units : List Jsons.Piece} (closed : Body body units) (start : Nat) (rest : Text) :
    stringEnd ⟨start, quote :: (body ++ rest)⟩ = .ok (quote :: body).length := by
  simp [stringEnd, closing_body closed]

theorem loadsKey_text (key : Key) : loadsKey key.text = some key.name := by
  have read := readString_body key.closed []
  rw [List.append_nil] at read
  simp [loadsKey, Key.text, read, Key.name]

end Cursors

section Scanning

variable {doubles : Doubles}

/-- Behind a value there are only blanks before the character that ends it. -/
theorem follows_takeWhile {rest : Text} (follows : Follows rest) :
    rest.takeWhile (!isEnd ·) = rest.takeWhile isBlank := by
  have split : rest = rest.takeWhile isBlank ++ skip rest := List.takeWhile_append_dropWhile.symm
  have blanks : ∀ c ∈ rest.takeWhile isBlank, (!isEnd c) = true := by
    intro c listed
    have blank : isBlank c = true := List.all_eq_true.mp List.all_takeWhile c listed
    by_contra ends
    simp only [isEnd, Bool.not_eq_true', Bool.not_eq_false, Bool.or_eq_true, beq_iff_eq] at ends
    rcases ends with (rfl | rfl) | rfl
    · exact absurd blank (by decide)
    · exact absurd blank (by decide)
    · exact absurd blank (by decide)
  have stop : (skip rest).takeWhile (!isEnd ·) = [] := by
    cases tail : skip rest with
    | nil => rfl
    | cons c later =>
      have ends := follows c (by rw [tail]; rfl)
      rw [List.takeWhile_cons_of_neg]
      rcases ends with rfl | rfl | rfl <;> decide
  conv_lhs => rw [split]
  rw [List.takeWhile_append_of_pos blanks, stop, List.append_nil]

theorem scanScalar_token (token : Token doubles) {c : Point} {rest : Text} (follows : Follows rest)
    (first : (token.text ++ rest).head? = some c) (start : Nat) (path : Path) (spans : Spans) :
    scanScalar ⟨start, token.text ++ rest⟩ c path spans =
      .ok (⟨start + token.text.length, rest⟩, (path, start, start + token.text.length) :: spans) := by
  obtain ⟨text, value, scalar⟩ := token
  cases scalar with
  | @string body units closed =>
    obtain rfl : quote = c := by simpa using first
    have found := stringEnd_body closed start rest
    simp only [List.cons_append] at found ⊢
    simp only [scanScalar, if_true, found]
    simp [bind, Except.bind, pure, Except.pure, Cursor.advance]
  | bare read =>
    obtain ⟨some, bare⟩ := readBare_bare read
    have noQuote : c ≠ quote := by
      obtain ⟨d, later, shape⟩ := List.exists_cons_of_ne_nil some
      obtain rfl : d = c := by simpa [shape] using first
      exact (isBare_ne (bare d (by simp [shape]))).2.1
    have inside : ∀ c ∈ text, (!isEnd c) = true := by
      intro c listed
      obtain ⟨_, _, noComma, _, _, noBracket, _, noBrace⟩ := isBare_ne (bare c listed)
      simp [isEnd, noComma, noBracket, noBrace]
    have blanks : ∀ c ∈ (rest.takeWhile isBlank).reverse, isBlank c = true := by
      simp only [List.mem_reverse]
      exact List.all_eq_true.mp List.all_takeWhile
    have trimmed : (text ++ rest.takeWhile isBlank).rdropWhile isBlank = text := by
      rw [List.rdropWhile, List.reverse_append, List.dropWhile_append_of_pos blanks]
      refine List.rdropWhile_eq_self_iff.mpr fun some => ?_
      simp [(isBare_ne (bare _ (List.getLast_mem some))).1]
    simp only [scanScalar, noQuote, if_false, List.takeWhile_append_of_pos inside, follows_takeWhile follows, trimmed]
    simp [bind, Except.bind, pure, Except.pure, Cursor.advance]

theorem cursor_skip_node (start : Nat) (before : Blank) (node : Node doubles) (rest : Text) :
    Cursor.skip ⟨start, before.text ++ (node.text ++ rest)⟩ = ⟨start + before.text.length, node.text ++ rest⟩ := by
  obtain ⟨c, later, text, solid, _⟩ := node.first
  apply cursor_skip_blank
  rw [text]
  simpa using solid

theorem cursor_skip_cons (start : Nat) (before : Blank) {c : Point} (solid : isBlank c = false) (rest : Text) :
    Cursor.skip ⟨start, before.text ++ c :: rest⟩ = ⟨start + before.text.length, c :: rest⟩ :=
  cursor_skip_blank start before (by simpa using solid)

theorem scanValue_skip (fuel : Nat) (cursor : Cursor) (path : Path) (spans : Spans) :
    scanValue fuel cursor.skip path spans = scanValue fuel cursor path spans := by
  cases fuel with
  | zero => rw [scanValue, scanValue]
  | succ fuel => rw [scanValue, scanValue, cursor_skip_skip]

theorem scanItems_skip (fuel : Nat) (cursor : Cursor) (path : Path) (position : Nat) (spans : Spans) :
    scanItems fuel cursor.skip path position spans = scanItems fuel cursor path position spans := by
  cases fuel with
  | zero => rw [scanItems, scanItems]
  | succ fuel => rw [scanItems, scanItems, scanValue_skip]

theorem scanMembers_skip (fuel : Nat) (cursor : Cursor) (path : Path) (spans : Spans) :
    scanMembers fuel cursor.skip path spans = scanMembers fuel cursor path spans := by
  cases fuel with
  | zero => rw [scanMembers, scanMembers]
  | succ fuel => rw [scanMembers, scanMembers, cursor_skip_skip]

/-- An array that is opened and what stands in it. -/
theorem scanValue_array (fuel start : Nat) (before : Blank) (rest : Text) (path : Path) (spans : Spans) {c : Point}
    {later : Text}
    (inside : skip rest = c :: later) :
    scanValue (fuel + 1) ⟨start, before.text ++ openBracket :: rest⟩ path spans =
      if c = closeBracket then .ok ((Cursor.skip ⟨start + before.text.length + 1, rest⟩).advance 1, spans)
      else scanItems fuel ⟨start + before.text.length + 1, rest⟩ path 0 spans := by
  have peeked : (Cursor.skip ⟨start + before.text.length + 1, rest⟩).peek = .ok c := by
    rw [Cursor.peek, skip_rest, inside]
  have opened : Cursor.advance ⟨start + before.text.length, openBracket :: rest⟩ 1 =
      ⟨start + before.text.length + 1, rest⟩ := rfl
  have first : Cursor.peek ⟨start + before.text.length, openBracket :: rest⟩ = .ok openBracket := rfl
  rw [scanValue, cursor_skip_cons start before (by decide)]
  simp only [first, bind, Except.bind, show openBracket
    ≠ openBrace by decide, if_false, if_true, opened, peeked, scanItems_skip]
  rfl

/-- An object that is opened and what stands in it. -/
theorem scanValue_object (fuel start : Nat) (before : Blank) (rest : Text) (path : Path) (spans : Spans) {c : Point}
    {later : Text}
    (inside : skip rest = c :: later) :
    scanValue (fuel + 1) ⟨start, before.text ++ openBrace :: rest⟩ path spans =
      if c = closeBrace then .ok ((Cursor.skip ⟨start + before.text.length + 1, rest⟩).advance 1, spans)
      else scanMembers fuel ⟨start + before.text.length + 1, rest⟩ path spans := by
  have peeked : (Cursor.skip ⟨start + before.text.length + 1, rest⟩).peek = .ok c := by
    rw [Cursor.peek, skip_rest, inside]
  have opened : Cursor.advance ⟨start + before.text.length, openBrace :: rest⟩ 1 =
      ⟨start + before.text.length + 1, rest⟩ := rfl
  have first : Cursor.peek ⟨start + before.text.length, openBrace :: rest⟩ = .ok openBrace := rfl
  rw [scanValue, cursor_skip_cons start before (by decide)]
  simp only [first, bind, Except.bind, if_true, opened, peeked, scanMembers_skip]
  rfl

/-- One item and what stands behind it. -/
theorem scanItems_node {fuel start : Nat} {cursor : Cursor} {after : Blank} {c : Point} {rest : Text} {path : Path}
    {position : Nat} {spans noted : Spans} (solid : isBlank c = false)
    (scanned : scanValue fuel cursor (path ++ [.index position]) spans =
      .ok (⟨start, after.text ++ c :: rest⟩, noted)) :
    scanItems (fuel + 1) cursor path position spans =
      if c = comma then scanItems fuel ⟨start + after.text.length + 1, rest⟩ path (position + 1) noted
      else if c = closeBracket then .ok (⟨start + after.text.length + 1, rest⟩, noted) else .error .malformedArray := by
  have passed : Cursor.advance ⟨start + after.text.length, c :: rest⟩ 1 = ⟨start + after.text.length + 1, rest⟩ := rfl
  have first : Cursor.peek ⟨start + after.text.length, c :: rest⟩ = .ok c := rfl
  rw [scanItems, scanned]
  simp only [bind, Except.bind, cursor_skip_cons start after solid, first, passed, scanItems_skip]
  rfl

/-- One member and what stands behind it. -/
theorem scanMembers_node {fuel start behind : Nat} {before between after : Blank} {key : Key}
    {inside : Text} {c : Point}
    {rest : Text} {path : Path} {spans noted : Spans} (solid : isBlank c = false)
    (scanned : scanValue fuel ⟨start + before.text.length + key.text.length + between.text.length + 1, inside⟩
      (path ++ [.key key.name]) spans = .ok (⟨behind, after.text ++ c :: rest⟩, noted)) :
    scanMembers (fuel + 1) ⟨start, before.text ++ (key.text ++ (between.text ++ colon :: inside))⟩ path spans =
      if c = comma then scanMembers fuel ⟨behind + after.text.length + 1, rest⟩ path noted
      else if c = closeBrace then .ok (⟨behind + after.text.length + 1, rest⟩, noted) else .error .malformedObject := by
  have found : Cursor.skip ⟨start, before.text ++ (key.text ++ (between.text ++ colon :: inside))⟩ =
      ⟨start + before.text.length, key.text ++ (between.text ++ colon :: inside)⟩ :=
    cursor_skip_cons start before (show isBlank quote = false by decide) _
  have ended : stringEnd ⟨start + before.text.length, key.text ++ (between.text ++ colon :: inside)⟩ =
      .ok key.text.length :=
    stringEnd_body key.closed _ _
  have behindKey : Cursor.advance ⟨start + before.text.length, key.text ++ (between.text ++ colon :: inside)⟩
      key.text.length =
      ⟨start + before.text.length + key.text.length, between.text ++ colon :: inside⟩ := by
    rw [Cursor.advance, List.drop_left]
  have atColon := cursor_skip_cons (start + before.text.length + key.text.length) between (show isBlank colon =
      false by decide) inside
  have peeked (index : Nat) : Cursor.peek ⟨index, colon :: inside⟩ = .ok colon := rfl
  have behindColon (index : Nat) : Cursor.advance ⟨index, colon :: inside⟩ 1 = ⟨index + 1, inside⟩ := rfl
  have passed : Cursor.advance ⟨behind + after.text.length, c :: rest⟩ 1 = ⟨behind + after.text.length + 1, rest⟩ := rfl
  have first : Cursor.peek ⟨behind + after.text.length, c :: rest⟩ = .ok c := rfl
  rw [scanMembers, found, ended]
  simp only [bind, Except.bind, List.take_left, loadsKey_text, behindKey, atColon, peeked, behindColon, ne_eq,
    not_true, if_false,
    scanned, cursor_skip_cons behind after solid, first, passed]
  rfl

theorem scanValue_scalar (token : Token doubles) {rest : Text} (follows : Follows rest) (fuel start : Nat)
    (before : Blank)
    (path : Path) (spans : Spans) :
    scanValue (fuel + 1) ⟨start, before.text ++ ((Node.scalar token).text ++ rest)⟩ path spans =
      .ok (⟨start + before.text.length + token.text.length, rest⟩,
        (path, start + before.text.length, start + before.text.length + token.text.length) :: spans) := by
  have text : (Node.scalar token).text = token.text := by rw [Node.text]
  obtain ⟨c, later, found, noBracket, noBrace⟩ := token.first
  have first : (token.text ++ rest).head? = some c := by rw [found]; rfl
  have peeked : Cursor.peek ⟨start + before.text.length, token.text ++ rest⟩ = .ok c := by rw [found]; rfl
  rw [scanValue, cursor_skip_node, text]
  simp only [peeked, bind, Except.bind, noBracket, noBrace, if_false]
  exact scanScalar_token token follows first _ path spans

mutual
/-- Where the scalars of a value stand is noted, and the scanner stops behind the value. -/
theorem scanValue_text : ∀ (node : Node doubles) (fuel : Nat) (_ : 2 * node.text.length ≤ fuel) {rest : Text}
    (_ : Follows rest)
    (start : Nat) (before : Blank) (path : Path) (spans : Spans),
    scanValue fuel ⟨start, before.text ++ (node.text ++ rest)⟩ path spans =
      .ok (⟨start + before.text.length + node.text.length, rest⟩,
        (Splices.spans (start + before.text.length) (nodePieces path node)).reverse ++ spans)
  | .scalar token, fuel, enough, rest, follows, start, before, path, spans => by
    obtain ⟨c, later, text, _, _⟩ := (Node.scalar token).first
    have positive : 0 < (Node.scalar token).text.length := by simp [text]
    obtain ⟨fuel, rfl⟩ : ∃ n, fuel = n + 1 := ⟨fuel - 1, by omega⟩
    rw [scanValue_scalar token follows, nodePieces, Node.text]
    simp [Splices.spans]
  | .emptyArray blank, fuel, enough, rest, _, start, before, path, spans => by
    obtain ⟨fuel, rfl⟩ : ∃ n, fuel = n + 1 := ⟨fuel - 1, by simp [Node.text] at enough; omega⟩
    have inside := skip_cons blank (show isBlank closeBracket = false by decide) rest
    simp only [Node.text, List.cons_append, List.append_assoc, List.nil_append]
    rw [scanValue_array fuel start before _ path spans inside, if_pos rfl, cursor_skip_cons _ blank (by decide)]
    simp [nodePieces, Splices.spans, Cursor.advance, Nat.add_assoc, Nat.add_comm 1]
  | .emptyObject blank, fuel, enough, rest, _, start, before, path, spans => by
    obtain ⟨fuel, rfl⟩ : ∃ n, fuel = n + 1 := ⟨fuel - 1, by simp [Node.text] at enough; omega⟩
    have inside := skip_cons blank (show isBlank closeBrace = false by decide) rest
    simp only [Node.text, List.cons_append, List.append_assoc, List.nil_append]
    rw [scanValue_object fuel start before _ path spans inside, if_pos rfl, cursor_skip_cons _ blank (by decide)]
    simp [nodePieces, Splices.spans, Cursor.advance, Nat.add_assoc, Nat.add_comm 1]
  | .array items, fuel, enough, rest, _, start, before, path, spans => by
    simp only [Node.text, List.length_cons, List.length_append, List.length_nil] at enough
    obtain ⟨fuel, rfl⟩ : ∃ n, fuel = n + 1 := ⟨fuel - 1, by omega⟩
    obtain ⟨c, later, inside, other⟩ := items.first (closeBracket :: rest)
    have scanned := scanItems_text items fuel (by omega) rest (start + before.text.length + 1) path 0 spans
    simp only [Node.text, List.cons_append, List.append_assoc, List.nil_append]
    rw [scanValue_array fuel start before _ path spans inside, if_neg other, scanned, nodePieces,
      spans_unkeyed, spans_append]
    simp [Splices.spans, Nat.add_assoc, Nat.add_comm 1]
  | .object members, fuel, enough, rest, _, start, before, path, spans => by
    simp only [Node.text, List.length_cons, List.length_append, List.length_nil] at enough
    obtain ⟨fuel, rfl⟩ : ∃ n, fuel = n + 1 := ⟨fuel - 1, by omega⟩
    obtain ⟨c, later, inside, other⟩ := members.first (closeBrace :: rest)
    have scanned := scanMembers_text members fuel (by omega) rest (start + before.text.length + 1) path spans
    simp only [Node.text, List.cons_append, List.append_assoc, List.nil_append]
    rw [scanValue_object fuel start before _ path spans inside, if_neg other, scanned, nodePieces,
      spans_unkeyed, spans_append]
    simp [Splices.spans, Nat.add_assoc, Nat.add_comm 1]

theorem scanItems_text : ∀ (items : Items doubles) (fuel : Nat) (_ : 2 * items.text.length < fuel) (rest : Text)
    (start : Nat) (path : Path) (position : Nat) (spans : Spans),
    scanItems fuel ⟨start, items.text ++ closeBracket :: rest⟩ path position spans =
      .ok (⟨start + items.text.length + 1, rest⟩,
        (Splices.spans start (itemPieces path position items)).reverse ++ spans)
  | .last before node after, fuel, enough, rest, start, path, position, spans => by
    simp only [Items.text, List.length_append] at enough
    obtain ⟨fuel, rfl⟩ : ∃ n, fuel = n + 1 := ⟨fuel - 1, by omega⟩
    have scanned := scanValue_text node fuel (by omega) (follows_blank after rest (.inr (.inl rfl))) start before
      (path ++ [.index position]) spans
    simp only [Items.text, List.append_assoc]
    rw [scanItems_node (by decide) scanned, if_neg (by decide), if_pos rfl, itemPieces, spans_unkeyed, spans_append]
    simp [Splices.spans, Nat.add_assoc]
  | .more before node after more, fuel, enough, rest, start, path, position, spans => by
    simp only [Items.text, List.length_append, List.length_cons] at enough
    obtain ⟨fuel, rfl⟩ : ∃ n, fuel = n + 1 := ⟨fuel - 1, by omega⟩
    have scanned := scanValue_text node fuel (by omega)
      (follows_blank after (more.text ++ closeBracket :: rest) (.inl rfl)) start before
        (path ++ [.index position]) spans
    have later := scanItems_text more fuel (by omega) rest
    simp only [Items.text, List.append_assoc, List.cons_append]
    rw [scanItems_node (by decide) scanned, if_pos rfl, later, itemPieces, spans_unkeyed, spans_append, spans_unkeyed,
      flat_nodePieces]
    simp [Nat.add_assoc, Nat.add_comm 1]

theorem scanMembers_text : ∀ (members : Fields doubles) (fuel : Nat) (_ : 2 * members.text.length < fuel) (rest : Text)
    (start : Nat) (path : Path) (spans : Spans),
    scanMembers fuel ⟨start, members.text ++ closeBrace :: rest⟩ path spans =
      .ok (⟨start + members.text.length + 1, rest⟩, (Splices.spans start (memberPieces path members)).reverse ++ spans)
  | .last before key between ahead node after, fuel, enough, rest, start, path, spans => by
    simp only [Fields.text, List.length_append, List.length_cons] at enough
    obtain ⟨fuel, rfl⟩ : ∃ n, fuel = n + 1 := ⟨fuel - 1, by omega⟩
    have scanned := scanValue_text node fuel (by omega) (follows_blank after rest (.inr (.inr rfl)))
      (start + before.text.length + key.text.length + between.text.length + 1) ahead (path ++ [.key key.name]) spans
    simp only [Fields.text, List.append_assoc, List.cons_append]
    rw [scanMembers_node (by decide) scanned, if_neg (by decide), if_pos rfl, memberPieces, spans_unkeyed, spans_append]
    simp [Splices.spans, Nat.add_assoc, Nat.add_comm 1]
  | .more before key between ahead node after more, fuel, enough, rest, start, path, spans => by
    simp only [Fields.text, List.length_append, List.length_cons] at enough
    obtain ⟨fuel, rfl⟩ : ∃ n, fuel = n + 1 := ⟨fuel - 1, by omega⟩
    have scanned := scanValue_text node fuel (by omega)
      (follows_blank after (more.text ++ closeBrace :: rest) (.inl rfl))
      (start + before.text.length + key.text.length + between.text.length + 1) ahead (path ++ [.key key.name]) spans
    have later := scanMembers_text more fuel (by omega) rest
    simp only [Fields.text, List.append_assoc, List.cons_append]
    rw [scanMembers_node (by decide) scanned, if_pos rfl, later, memberPieces, spans_unkeyed, spans_append,
      spans_unkeyed,
      flat_nodePieces]
    simp [Nat.add_assoc, Nat.add_comm 1]
    omega
end

/-- The dictionary of the spans is where the scalars of the syntax tree stand. -/
theorem scalarSpans_text (document : Document doubles) :
    scalarSpans document.text =
      .ok (Splices.spans document.before.text.length (nodePieces [] document.node)).reverse := by
  have scanned := scanValue_text document.node (2 * document.text.length + 1)
    (by simp only [Document.text, List.length_append]; omega) (follows_end document.after) 0 document.before [] []
  rw [Nat.zero_add, List.append_nil, ← Document.text] at scanned
  rw [scalarSpans, scanValue_skip, scanned]
  rfl

end Scanning

end Darling.Registry
