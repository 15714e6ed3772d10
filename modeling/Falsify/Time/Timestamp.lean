import Falsify.Text.Blank
import Falsify.Text.Numeral
import Falsify.Time.Date

/-! # Points in time

A timestamp is a point in time in UTC, to the nanosecond.  A leap second is the second part of the last
second of a minute: its nanoseconds count on beyond one thousand million.

The text of a timestamp follows RFC 3339, with the letter `Z` for UTC and with as many digits of the fraction,
in groups of three, as it takes to be exact.  What is read is more generous: any offset from UTC, a blank in
place of the letter `T`, numbers without leading zeros and blanks around them. -/

namespace Falsify

open Text

/-- A point in time in UTC. -/
structure Timestamp where
  /-- The day, counted from the first of January 1970. -/
  day : Int
  /-- The second of the day. -/
  second : Nat
  /-- The nanoseconds since the start of the second; a leap second has more than 10⁹ of them. -/
  nano : Nat
  deriving DecidableEq, Inhabited

namespace Timestamp

/-! ## Text -/

/-- The digits of a number, with zeros in front up to a width. -/
def padded (width n : Nat) : String :=
  let digits := Nat.toDigits 10 n
  String.ofList (List.replicate (width - digits.length) '0' ++ digits)

/-- A year: four digits from year 0 to year 9999, any other year with its sign. -/
def yearText (year : Int) : String :=
  if 0 ≤ year ∧ year ≤ 9999 then padded 4 year.toNat
  else (if year < 0 then "-" else "+") ++ padded 4 year.natAbs

/-- The fraction of a second: three, six or nine digits, or nothing at all, whichever is exact. -/
def fractionText (nano : Nat) : String :=
  if nano = 0 then ""
  else if nano % 1000000 = 0 then "." ++ padded 3 (nano / 1000000)
  else if nano % 1000 = 0 then "." ++ padded 6 (nano / 1000)
  else "." ++ padded 9 nano

/-- The text of a timestamp whose fraction is written by the given rule. -/
def textWith (fraction : Nat → String) (t : Timestamp) : String :=
  let date := Date.ofDayNumber t.day
  let second := t.second % 60 + t.nano / 1000000000
  yearText date.year ++ "-" ++ padded 2 date.month ++ "-" ++ padded 2 date.day ++ "T" ++
    padded 2 (t.second / 3600) ++ ":" ++ padded 2 (t.second / 60 % 60) ++ ":" ++ padded 2 second ++
    fraction (t.nano % 1000000000) ++ "Z"

/-- The text of a timestamp. -/
def text (t : Timestamp) : String := t.textWith fractionText

/-- The text of a timestamp to the microsecond, which is equally long for all times of a year. -/
def microText (t : Timestamp) : String := t.textWith fun nano => "." ++ padded 6 (nano / 1000)

/-! ## Reading -/

/-- A text without the blanks at its start. -/
def skipBlank (text : List Char) : List Char := text.dropWhile isBlank

/-- One or more digits, at most `width` of them, after blanks, and the text behind them. -/
def number? (width : Nat) (text : List Char) : Option (Nat × List Char) := do
  let text := skipBlank text
  let digits := (text.take width).takeWhile Char.isDigit
  guard (digits ≠ [])
  return (value digits, text.drop digits.length)

/-- A given character after blanks, and the text behind it. -/
def mark? (c : Char) (text : List Char) : Option (List Char) :=
  match skipBlank text with
  | d :: rest => if d = c then some rest else none
  | [] => none

/-- A year: up to four digits, or any number of digits after a sign. -/
def year? (text : List Char) : Option (Int × List Char) :=
  match skipBlank text with
  | '-' :: rest => do
    guard ((rest.head?.map Char.isDigit).getD false)
    let (n, rest) ← number? rest.length rest
    return (-n, rest)
  | '+' :: rest => do
    guard ((rest.head?.map Char.isDigit).getD false)
    let (n, rest) ← number? rest.length rest
    return (n, rest)
  | text => do
    let (n, rest) ← number? 4 text
    return (n, rest)

/-- The nanoseconds of a fraction, if there is one: its first nine digits, or as many as there are and zeros
    behind them. -/
def fraction? : List Char → Option (Nat × List Char)
  | '.' :: text =>
    let digits := text.takeWhile Char.isDigit
    if digits = [] then none
    else some (value ((digits ++ List.replicate 9 '0').take 9), text.dropWhile Char.isDigit)
  | text => some (0, text)

/-- Two digits, and the text behind them. -/
def twoDigits? : List Char → Option (Nat × List Char)
  | a :: b :: rest => if a.isDigit ∧ b.isDigit then some (value [a, b], rest) else none
  | _ => none

/-- An offset from UTC in seconds, of less than a day. -/
def offset? (text : List Char) : Option (Int × List Char) :=
  match text with
  | 'Z' :: rest | 'z' :: rest => some (0, rest)
  | u :: t :: c :: rest =>
    if [u, t, c].map Char.toUpper = ['U', 'T', 'C'] then some (0, rest)
    else do
      guard (u = '+' ∨ u = '-' ∨ u = '−')
      let (hours, rest) ← twoDigits? (t :: c :: rest)
      let (minutes, rest) ← twoDigits? (rest.dropWhile fun c => c = ':' || isBlank c)
      guard (hours < 24 ∧ minutes < 60)
      let seconds : Int := hours * 3600 + minutes * 60
      return (if u = '+' then seconds else -seconds, rest)
  | _ => none

/-- The years that a timestamp can be read in. -/
def isYear (year : Int) : Bool := -262143 ≤ year && year ≤ 262142

/-- The timestamp of a local date and time of day at an offset from UTC. -/
def ofLocal? (date : Date) (hour minute second nano : Nat) (offset : Int) : Option Timestamp := do
  guard (date.isValid && isYear date.year && hour < 24 && minute < 60 && second ≤ 60)
  -- A leap second goes on within second 59.
  let nano := if second = 60 then nano + 1000000000 else nano
  let seconds : Int := hour * 3600 + minute * 60 + min second 59 - offset
  let day := date.dayNumber + seconds / 86400
  guard (isYear (Date.ofDayNumber day).year)
  return ⟨day, (seconds % 86400).toNat, nano⟩

/-- Reads the text of a timestamp. -/
def read? (text : String) : Option Timestamp := do
  let (year, rest) ← year? text.toList
  let rest ← mark? '-' rest
  let (month, rest) ← number? 2 rest
  let rest ← mark? '-' rest
  let (day, rest) ← number? 2 rest
  let (separator, rest) ← match rest with
    | c :: rest => some (c, rest)
    | [] => none
  guard (separator = 'T' ∨ separator = 't' ∨ separator = ' ')
  let (hour, rest) ← number? 2 rest
  let rest ← mark? ':' rest
  let (minute, rest) ← number? 2 rest
  let rest ← mark? ':' rest
  let (second, rest) ← number? 2 rest
  let (nano, rest) ← fraction? rest
  let (offset, rest) ← offset? (skipBlank rest)
  guard (skipBlank rest = [])
  ofLocal? ⟨year, month, day⟩ hour minute second nano offset

/-- The timestamp that many nanoseconds after the start of 1970. -/
def ofNanoseconds (n : Nat) : Timestamp :=
  ⟨(n / 1000000000 / 86400 : Nat), n / 1000000000 % 86400, n % 1000000000⟩

end Timestamp

end Falsify
