import Falsify.Text.Printable

/-! # Values as text

How reports write a value: numbers in decimal, texts in double quotes and characters in single quotes with
backslash escapes, lists in brackets, pairs in parentheses, and the words `None` and `Some`.  Each type of
value is an instance of `Literal`. -/

namespace Falsify

open Text

/-- Types whose values have a text in reports. -/
class Literal (α : Type) where
  /-- The text of a value. -/
  literal : α → String

export Literal (literal)

namespace Text

/-- A character inside quotes: the quote and the backslash after a backslash, four control characters by
    letter, any other unprintable character by its hexadecimal number. -/
def escaped (quote c : Char) : String :=
  if c = quote || c = '\\' then "\\".push c
  else if c = '\n' then "\\n"
  else if c = '\t' then "\\t"
  else if c = '\r' then "\\r"
  else if c.toNat = 0 then "\\0"
  else if isPrintable c then c.toString
  else "\\u\x7b" ++ String.ofList (Nat.toDigits 16 c.toNat) ++ "\x7d"

/-- A text between quotes. -/
def quoted (quote : Char) (text : String) : String :=
  (text.foldl (fun acc c => acc ++ escaped quote c) (String.singleton quote)).push quote

/-- Texts between brackets, separated by commas. -/
def bracketed (items : List String) : String := "[" ++ ", ".intercalate items ++ "]"

end Text

instance : Literal Nat := ⟨fun n => toString n⟩

instance : Literal Int := ⟨fun n => toString n⟩

instance : Literal UInt64 := ⟨fun n => literal n.toNat⟩

instance : Literal Int64 := ⟨fun n => literal n.toInt⟩

instance : Literal Bool := ⟨fun b => if b then "true" else "false"⟩

instance : Literal Char := ⟨fun c => quoted '\'' c.toString⟩

instance : Literal String := ⟨quoted '"'⟩

instance {α : Type} [Literal α] : Literal (List α) := ⟨fun l => bracketed (l.map literal)⟩

instance {α : Type} [Literal α] : Literal (Option α) where
  literal
    | none => "None"
    | some a => "Some(" ++ literal a ++ ")"

instance {α β : Type} [Literal α] [Literal β] : Literal (α × β) :=
  ⟨fun p => "(" ++ literal p.1 ++ ", " ++ literal p.2 ++ ")"⟩

end Falsify
