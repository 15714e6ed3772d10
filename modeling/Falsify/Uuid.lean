import Falsify.Json.Reader

/-! # Universally unique identifiers

An identifier of 128 bits, written as 32 hexadecimal digits in five groups.  The identifiers of runs begin
with the time at which the run was recorded, so that they sort by it; the rest is random. -/

namespace Falsify

/-- A 128-bit identifier. -/
structure Uuid where
  high : UInt64
  low : UInt64
  deriving DecidableEq, Inhabited

namespace Uuid

/-- The identifier made from a number of milliseconds since the start of 1970 and from random bits. -/
def ofTime (milliseconds randomHigh randomLow : UInt64) : Uuid where
  -- The time comes first, then the version, which is 7.
  high := (milliseconds <<< 16) ||| 0x7000 ||| (randomHigh &&& 0xfff)
  -- The two highest bits are the variant.
  low := 0x8000000000000000 ||| (randomLow &&& 0x3fffffffffffffff)

/-- Whether an identifier is marked as made from a time. -/
def isTimeOrdered (u : Uuid) : Bool := (u.high >>> 12) &&& 0xf = 7 && u.low >>> 62 = 2

/-- The lowest hexadecimal digits of a word, the most significant one first. -/
def digitsOf : Nat → UInt64 → List Char
  | 0, _ => []
  | n + 1, w => digitsOf n (w >>> 4) ++ [Json.hexDigit (w &&& 0xf).toNat]

/-- The text of an identifier. -/
def text (u : Uuid) : String :=
  String.ofList (digitsOf 8 (u.high >>> 32) ++ '-' :: digitsOf 4 (u.high >>> 16) ++
    '-' :: digitsOf 4 u.high ++ '-' :: digitsOf 4 (u.low >>> 48) ++ '-' :: digitsOf 12 u.low)

/-- The word that hexadecimal digits stand for. -/
def wordOf? (digits : List Char) : Option UInt64 :=
  digits.foldlM (fun w c => (Json.hexValue? c).map fun d => (w <<< 4) ||| UInt64.ofNat d) 0

/-- An identifier from its 32 digits. -/
def ofDigits? (digits : List Char) : Option Uuid := do
  guard (digits.length = 32)
  return ⟨← wordOf? (digits.take 16), ← wordOf? (digits.drop 16)⟩

/-- An identifier from its digits in groups of 8, 4, 4, 4 and 12, with hyphens between them. -/
def ofGroups? (text : List Char) : Option Uuid := do
  guard (text.length = 36)
  guard ([8, 13, 18, 23].all fun i => text[i]? = some '-')
  ofDigits? (text.filter (· ≠ '-'))

/-- Reads an identifier: groups of digits, on their own, in braces or after `urn:uuid:`, or the digits alone,
    in either case of the letters. -/
def read? (text : String) : Option Uuid :=
  match text.toList with
  | '\x7b' :: rest => if rest.getLast? = some '\x7d' then ofGroups? rest.dropLast else none
  | 'u' :: 'r' :: 'n' :: ':' :: 'u' :: 'u' :: 'i' :: 'd' :: ':' :: rest => ofGroups? rest
  | text => if text.length = 32 then ofDigits? text else ofGroups? text

end Uuid

end Falsify
