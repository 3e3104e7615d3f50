import Darling.Library.JsonValues
import Darling.Library.Points

/-! JSON texts: the values, the reader of a text, and the syntax trees that keep every character. -/
namespace Darling.Jsons

open Points (Point Text)

/-- A double that a JSON text can denote. -/
inductive Double where
  | finite (value : Rat)
  | negativeZero
  | infinite (negative : Bool)
  deriving DecidableEq

instance doublesCompared : Compared Double where
  quantity
    | .finite q => some (.finite q)
    | .negativeZero => some (.finite 0)
    | .infinite negative => some (.infinite negative)

abbrev Value := Parsed Text Double

abbrev Members := List (Text × Value)

section Equality

mutual
/-- Every object has each of its keys once. -/
def Parsed.Distinct : Value → Prop
  | .arr items => distinctItems items
  | .obj members => (members.map Prod.fst).Nodup ∧ distinctMembers members
  | _ => True

def distinctItems : List Value → Prop
  | [] => True
  | item :: rest => item.Distinct ∧ distinctItems rest

def distinctMembers : Members → Prop
  | [] => True
  | (_, value) :: rest => value.Distinct ∧ distinctMembers rest
end

end Equality

section Characters

def quote : Point := 0x22
def backslash : Point := 0x5C
def comma : Point := 0x2C
def colon : Point := 0x3A
def openBracket : Point := 0x5B
def closeBracket : Point := 0x5D
def openBrace : Point := 0x7B
def closeBrace : Point := 0x7D

/-- The characters of `" \n\r\t"`. -/
def isBlank (c : Point) : Bool := c == 0x20 || c == 0x0A || c == 0x0D || c == 0x09

/-- A character of a number or of a literal: it neither separates nor opens anything. -/
def isBare (c : Point) : Bool :=
  !isBlank c && c != quote && c != comma && c != colon && c != openBracket && c != closeBracket && c != openBrace &&
    c != closeBrace

def chars (text : String) : Text := text.toList.map Points.pointOf

def isDigit (c : Point) : Bool := 0x30 ≤ c && c ≤ 0x39

def digitValue (c : Point) : Nat := c.val - 0x30

def hexValue (c : Point) : Option Nat :=
  if isDigit c then some (c.val - 0x30)
  else if 0x61 ≤ c && c ≤ 0x66 then some (c.val - 0x57)
  else if 0x41 ≤ c && c ≤ 0x46 then some (c.val - 0x37)
  else none

end Characters

section Strings

/-- What stands in a string: a character, or the code of a `\u` escape. -/
inductive Piece where
  | plain (c : Point)
  | escaped (code : Nat)

/-- The character of a short escape. -/
def shortEscape (c : Point) : Option Point :=
  if c = quote then some quote
  else if c = backslash then some backslash
  else if c = 0x2F then some 0x2F
  else if c = 0x62 then some 0x08
  else if c = 0x66 then some 0x0C
  else if c = 0x6E then some 0x0A
  else if c = 0x72 then some 0x0D
  else if c = 0x74 then some 0x09
  else none

/-- Four hexadecimal digits. -/
def hexCode (text : Text) : Option (Nat × Text) :=
  match text with
  | a :: b :: c :: d :: rest => do
    let a ← hexValue a
    let b ← hexValue b
    let c ← hexValue c
    let d ← hexValue d
    return (((a * 16 + b) * 16 + c) * 16 + d, rest)
  | _ => none

/-- The rest of a string behind its opening quote, to its closing one. -/
def readUnits : Nat → Text → Option (List Piece × Text)
  | 0, _ => none
  | _ + 1, [] => none
  | fuel + 1, c :: rest =>
    if c = quote then some ([], rest)
    else if c = backslash then
      match rest with
      | [] => none
      | e :: later =>
        if e = 0x75 then do
          let (code, later) ← hexCode later
          let (units, last) ← readUnits fuel later
          return (.escaped code :: units, last)
        else do
          let c ← shortEscape e
          let (units, last) ← readUnits fuel later
          return (.plain c :: units, last)
    else if c.val < 0x20 then none
    else do
      let (units, last) ← readUnits fuel rest
      return (.plain c :: units, last)

/-- The escapes of a surrogate pair are one character. -/
def decode : List Piece → Text
  | [] => []
  | .plain c :: rest => c :: decode rest
  | .escaped high :: .escaped low :: rest =>
    if 0xD800 ≤ high ∧ high < 0xDC00 ∧ 0xDC00 ≤ low ∧ low < 0xE000 then
      Fin.ofNat _ (0x10000 + (high - 0xD800) * 0x400 + (low - 0xDC00)) :: decode rest
    else Fin.ofNat _ high :: decode (.escaped low :: rest)
  | .escaped code :: rest => Fin.ofNat _ code :: decode rest

/-- A string behind its opening quote; every piece takes a character at least. -/
def readString (text : Text) : Option (List Piece × Text) := readUnits text.length text

end Strings

section Numbers

def number (digits : Text) : Nat := digits.foldl (fun number digit => number * 10 + digitValue digit) 0

/-- A fraction, if there is one, and what follows. -/
def fraction : Text → Option (Bool × Text)
  | [] => some (false, [])
  | c :: rest =>
    if c = 0x2E then
      if rest.takeWhile isDigit = [] then none else some (true, rest.dropWhile isDigit)
    else some (false, c :: rest)

def unsigned : Text → Text
  | [] => []
  | c :: rest => if c = 0x2B ∨ c = 0x2D then rest else c :: rest

/-- An exponent, if there is one, and what follows. -/
def exponent : Text → Option (Bool × Text)
  | [] => some (false, [])
  | c :: rest =>
    if c = 0x65 ∨ c = 0x45 then
      if (unsigned rest).takeWhile isDigit = [] then none else some (true, (unsigned rest).dropWhile isDigit)
    else some (false, c :: rest)

/-- The digits before the point and what follows. -/
def whole (text : Text) : Option (Nat × Text) :=
  let digits := text.takeWhile isDigit
  if digits = [] ∨ (digits.head? = some 0x30 ∧ digits.length ≠ 1) then none
  else some (number digits, text.dropWhile isDigit)

/-- A number; `read` is what the interpreter makes of the text of a double. -/
def readNumber (read : Text → Double) (token : Text) : Option Value :=
  let negative := token.head? = some 0x2D
  (whole (if negative then token.tail else token)).bind fun (value, rest) =>
    (fraction rest).bind fun (fractional, rest) =>
      (exponent rest).bind fun (scaled, rest) =>
        if rest ≠ [] then none
        else if fractional || scaled then some (.float (read token))
        else some (.int (if negative then -value else value))

/-- How the interpreter reads and writes doubles; what it writes for a finite one is read back. -/
structure Doubles where
  read : Text → Double
  repr : Double → Text
  Finite : Double → Prop
  reads : ∀ x, Finite x → readNumber read (repr x) = some (.float x)

def readBare (doubles : Doubles) (token : Text) : Option Value :=
  if token = chars "null" then some .null
  else if token = chars "true" then some (.bool true)
  else if token = chars "false" then some (.bool false)
  else readNumber doubles.read token

end Numbers

section Reading

variable (doubles : Doubles)

def skip (text : Text) : Text := text.dropWhile isBlank

mutual
def readValue : Nat → Text → Option (Value × Text)
  | 0, _ => none
  | _ + 1, [] => none
  | fuel + 1, c :: rest =>
    if c = quote then (readString rest).map fun (units, last) => (.str (decode units), last)
    else if c = openBracket then
      match skip rest with
      | [] => none
      | d :: later =>
        if d = closeBracket then some (.arr [], later)
        else (readItems fuel (d :: later)).map fun (items, last) => (.arr items, last)
    else if c = openBrace then
      match skip rest with
      | [] => none
      | d :: later =>
        if d = closeBrace then some (.obj [], later)
        else (readMembers fuel (d :: later)).map fun (members, last) => (.obj members, last)
    else (readBare doubles ((c :: rest).takeWhile isBare)).map fun value => (value, (c :: rest).dropWhile isBare)

def readItems : Nat → Text → Option (List Value × Text)
  | 0, _ => none
  | fuel + 1, text =>
    (readValue fuel (skip text)).bind fun (value, rest) =>
      match skip rest with
      | [] => none
      | c :: later =>
        if c = comma then (readItems fuel later).map fun (items, last) => (value :: items, last)
        else if c = closeBracket then some ([value], later)
        else none

def readMembers : Nat → Text → Option (Members × Text)
  | 0, _ => none
  | fuel + 1, text =>
    match skip text with
    | [] => none
    | c :: rest =>
      if c = quote then
        (readString rest).bind fun (units, rest) =>
          match skip rest with
          | [] => none
          | c :: later =>
            if c = colon then
              (readValue fuel (skip later)).bind fun (value, rest) =>
                match skip rest with
                | [] => none
                | c :: later =>
                  if c = comma then
                    (readMembers fuel later).map fun (members, last) => ((decode units, value) :: members, last)
                  else if c = closeBrace then some ([(decode units, value)], later)
                  else none
            else none
      else none
end

/-- `json.loads` of a text that is JSON. -/
def loads (text : Text) : Option Value :=
  (readValue doubles (2 * text.length) (skip text)).bind fun (value, rest) =>
    if skip rest = [] then some value else none

end Reading

end Darling.Jsons
