import Falsify.Json.Basic

/-! # Reading JSON

A reader for the whole JSON grammar.  A text must hold exactly one value, with blanks around it; there are no
leading zeros, no commas at the end and no raw control characters in strings.  An escape that is half of a
surrogate pair is let through, because nothing is wrong with a string that is never used; such a string
has no text.

* `read?`: the value that a text holds. -/

namespace Falsify.Json

/-- Whether a character may stand between the tokens of JSON. -/
def isGap (c : Char) : Bool := c = ' ' || c = '\t' || c = '\n' || c = '\r'

/-- A text without the gap at its start. -/
def skipGap (text : List Char) : List Char := text.dropWhile isGap

/-! ## Strings -/

/-- A part of a JSON string: a character, or half of a surrogate pair. -/
inductive Piece where
  | char (c : Char)
  | half (code : Nat)

/-- The value of a hexadecimal digit in either case. -/
def hexValue? (c : Char) : Option Nat :=
  if '0' ≤ c ∧ c ≤ '9' then some (c.toNat - '0'.toNat)
  else if 'a' ≤ c ∧ c ≤ 'f' then some (c.toNat - 'a'.toNat + 10)
  else if 'A' ≤ c ∧ c ≤ 'F' then some (c.toNat - 'A'.toNat + 10)
  else none

/-- The number that four hexadecimal digits stand for. -/
def hexValues? (a b c d : Char) : Option Nat := do
  let a ← hexValue? a
  let b ← hexValue? b
  let c ← hexValue? c
  let d ← hexValue? d
  return ((a * 16 + b) * 16 + c) * 16 + d

/-- The part of a string that a four-digit escape stands for. -/
def Piece.ofCode (code : Nat) : Piece :=
  if 0xd800 ≤ code ∧ code < 0xe000 then .half code else .char (Char.ofNat code)

/-- The character that a letter stands for after a backslash. -/
def unescape? : Char → Option Char
  | '"' => some '"'
  | '\\' => some '\\'
  | '/' => some '/'
  | 'b' => some '\x08'
  | 'f' => some '\x0c'
  | 'n' => some '\n'
  | 'r' => some '\r'
  | 't' => some '\t'
  | _ => none

/-- The parts of a string after its opening quote, and the text after its closing one. -/
def pieces? : List Char → Option (List Piece × List Char)
  | [] => none
  | '"' :: rest => some ([], rest)
  | '\\' :: 'u' :: a :: b :: c :: d :: rest => do
    let code ← hexValues? a b c d
    let (pieces, rest) ← pieces? rest
    return (.ofCode code :: pieces, rest)
  | '\\' :: letter :: rest => do
    let c ← unescape? letter
    let (pieces, rest) ← pieces? rest
    return (.char c :: pieces, rest)
  | c :: rest => do
    guard (c ≠ '\\' ∧ 0x20 ≤ c.toNat)
    let (pieces, rest) ← pieces? rest
    return (.char c :: pieces, rest)

/-- The characters of a string, if each half of a surrogate pair meets its other half. -/
def characters? : List Piece → Option (List Char)
  | [] => some []
  | .char c :: pieces => (c :: ·) <$> characters? pieces
  | .half high :: .half low :: pieces =>
    -- A pair adds ten bits from each half.
    if high < 0xdc00 ∧ 0xdc00 ≤ low then
      (Char.ofNat (0x10000 + (high - 0xd800) * 0x400 + (low - 0xdc00)) :: ·) <$> characters? pieces
    else none
  | .half _ :: _ => none

/-- A string after its opening quote, and the text after its closing one. -/
def stringBody? (text : List Char) : Option (Option String × List Char) := do
  let (pieces, rest) ← pieces? text
  return ((characters? pieces).map String.ofList, rest)

/-! ## Numbers -/

/-- One or more digits, and the text after them. -/
def digits? (text : List Char) : Option (List Char × List Char) :=
  let digits := text.takeWhile Char.isDigit
  if digits = [] then none else some (digits, text.dropWhile Char.isDigit)

/-- The whole part of a number: zero, or digits of which the first is not zero. -/
def wholePart? (text : List Char) : Option (List Char × List Char) := do
  let (digits, rest) ← digits? text
  guard (digits.head? ≠ some '0' ∨ digits = ['0'])
  return (digits, rest)

/-- The fraction of a number, if there is one. -/
def fraction? : List Char → Option (List Char × List Char)
  | '.' :: text => do
    let (digits, rest) ← digits? text
    return ('.' :: digits, rest)
  | text => some ([], text)

/-- The digits of an exponent, after its sign if it has one. -/
def signedDigits? : List Char → Option (List Char × List Char)
  | '+' :: text => do
    let (digits, rest) ← digits? text
    return ('+' :: digits, rest)
  | '-' :: text => do
    let (digits, rest) ← digits? text
    return ('-' :: digits, rest)
  | text => digits? text

/-- The exponent of a number, if there is one. -/
def exponent? : List Char → Option (List Char × List Char)
  | c :: text =>
    if c = 'e' ∨ c = 'E' then do
      let (digits, rest) ← signedDigits? text
      return (c :: digits, rest)
    else some ([], c :: text)
  | [] => some ([], [])

/-- A number without a sign. -/
def unsigned? (text : List Char) : Option (List Char × List Char) := do
  let (whole, rest) ← wholePart? text
  let (fraction, rest) ← fraction? rest
  let (exponent, rest) ← exponent? rest
  return (whole ++ fraction ++ exponent, rest)

/-- A number. -/
def number? : List Char → Option (Json × List Char)
  | '-' :: text => do
    let (numeral, rest) ← unsigned? text
    return (number (String.ofList ('-' :: numeral)), rest)
  | text => do
    let (numeral, rest) ← unsigned? text
    return (number (String.ofList numeral), rest)

/-! ## Values -/

mutual

/-- A value at the start of a text, after a gap, and the text behind it.  The first argument bounds the
    number of nested steps. -/
def value? : Nat → List Char → Option (Json × List Char)
  | 0, _ => none
  | fuel + 1, text =>
    match skipGap text with
    | 'n' :: 'u' :: 'l' :: 'l' :: rest => some (null, rest)
    | 't' :: 'r' :: 'u' :: 'e' :: rest => some (bool true, rest)
    | 'f' :: 'a' :: 'l' :: 's' :: 'e' :: rest => some (bool false, rest)
    | '"' :: rest => do
      let (text, rest) ← stringBody? rest
      return (string text, rest)
    | '[' :: rest =>
      match skipGap rest with
      | ']' :: rest => some (array [], rest)
      | _ => do
        let (items, rest) ← itemList? fuel rest
        return (array items, rest)
    | '\x7b' :: rest =>
      match skipGap rest with
      | '\x7d' :: rest => some (object [], rest)
      | _ => do
        let (members, rest) ← memberList? fuel rest
        return (object members, rest)
    | text => number? text

/-- One or more items, up to and including the closing bracket. -/
def itemList? : Nat → List Char → Option (List Json × List Char)
  | 0, _ => none
  | fuel + 1, text => do
    let (item, rest) ← value? fuel text
    match skipGap rest with
    | ',' :: rest => do
      let (items, rest) ← itemList? fuel rest
      return (item :: items, rest)
    | ']' :: rest => return ([item], rest)
    | _ => none

/-- One or more members, up to and including the closing brace. -/
def memberList? : Nat → List Char → Option (List (Option String × Json) × List Char)
  | 0, _ => none
  | fuel + 1, text => do
    match skipGap text with
    | '"' :: rest => do
      let (key, rest) ← stringBody? rest
      match skipGap rest with
      | ':' :: rest => do
        let (value, rest) ← value? fuel rest
        match skipGap rest with
        | ',' :: rest => do
          let (members, rest) ← memberList? fuel rest
          return ((key, value) :: members, rest)
        | '\x7d' :: rest => return ([(key, value)], rest)
        | _ => none
      | _ => none
    | _ => none

end

/-- The value that a text holds, with nothing but gaps around it. -/
def read? (text : String) : Option Json := do
  let characters := text.toList
  let (json, rest) ← value? (2 * characters.length + 2) characters
  guard (skipGap rest = [])
  return json

end Falsify.Json
