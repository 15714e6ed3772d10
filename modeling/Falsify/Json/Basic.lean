/-! # JSON values and their compact text

A number is kept as it is written, since only whole numbers of up to 64 bits are ever used, and a string
that holds half of a surrogate pair is kept as a string without a text.

The compact text has no blanks and escapes nothing but quotes, backslashes and control characters.

* `compact_ofWord`, `compact_ofText`: the compact text of the values that records are made of. -/

namespace Falsify

/-- A JSON value. -/
inductive Json where
  | null
  | bool (b : Bool)
  /-- A number, as it is written. -/
  | number (numeral : String)
  /-- A string, or none if it holds half of a surrogate pair and is no text. -/
  | string (text : Option String)
  | array (items : List Json)
  /-- The members of an object, in order, with their keys. -/
  | object (members : List (Option String × Json))
  deriving Inhabited

namespace Json

/-- A number from a 64-bit word. -/
def ofWord (n : UInt64) : Json := number (toString n.toNat)

/-- A string from its text. -/
def ofText (text : String) : Json := string (some text)

/-- An object from its members, all of whose keys are texts. -/
def ofMembers (members : List (String × Json)) : Json :=
  object (members.map fun (key, value) => (some key, value))

/-- The lower-case hexadecimal digit of a number below sixteen. -/
def hexDigit (n : Nat) : Char := Nat.digitChar n

/-- A character inside a JSON string. -/
def escape (c : Char) : List Char :=
  if c = '"' then ['\\', '"']
  else if c = '\\' then ['\\', '\\']
  else if c = '\n' then ['\\', 'n']
  else if c = '\r' then ['\\', 'r']
  else if c = '\t' then ['\\', 't']
  else if c.toNat = 0x08 then ['\\', 'b']
  else if c.toNat = 0x0c then ['\\', 'f']
  else if c.toNat < 0x20 then
    ['\\', 'u', '0', '0', hexDigit (c.toNat / 16), hexDigit (c.toNat % 16)]
  else [c]

/-- A JSON string. -/
def quote (text : String) : List Char := '"' :: text.toList.flatMap escape ++ ['"']

mutual

/-- The compact text of a value. -/
def compact : Json → List Char
  | null => ['n', 'u', 'l', 'l']
  | bool true => ['t', 'r', 'u', 'e']
  | bool false => ['f', 'a', 'l', 's', 'e']
  | number numeral => numeral.toList
  | string text => quote (text.getD "")
  | array items => '[' :: compactItems items ++ [']']
  | object members => '\x7b' :: compactMembers members ++ ['\x7d']

/-- The compact texts of items, separated by commas. -/
def compactItems : List Json → List Char
  | [] => []
  | [item] => item.compact
  | item :: items => item.compact ++ ',' :: compactItems items

/-- The compact texts of members, separated by commas. -/
def compactMembers : List (Option String × Json) → List Char
  | [] => []
  | [(key, value)] => quote (key.getD "") ++ ':' :: value.compact
  | (key, value) :: members =>
    quote (key.getD "") ++ ':' :: value.compact ++ ',' :: compactMembers members

end

theorem compact_ofWord (n : UInt64) : (ofWord n).compact = (toString n.toNat).toList := by
  simp [ofWord, compact]

theorem compact_ofText (text : String) : (ofText text).compact = quote text := by
  simp [ofText, compact]

/-- The compact text of a value, as a string. -/
def text (json : Json) : String := String.ofList json.compact

end Json

end Falsify
