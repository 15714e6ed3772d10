import Falsify.Json.Reader
import Falsify.Text.Numeral

/-! # Records in JSON

A record with named fields is read from an object or from an array.  In an object the fields come in any
order, each at most once, and members that are no fields are passed over; an array holds the fields in
their order.

* `text?_ofText`: a text reads back as it was written. -/

namespace Falsify.Json

/-- The fields of a record that are present, with their values. -/
abbrev Fields := List (String × Json)

/-- The fields of a record with the given field names. -/
def fields? (names : List String) : Json → Option Fields
  | array items => if items.length ≤ names.length then some (names.zip items) else none
  | object members => do
    let members ← members.mapM fun (key, value) => key.map (·, value)
    let known := members.filter fun (key, _) => names.contains key
    guard (known.map Prod.fst).Nodup
    return known
  | _ => none

/-- A 64-bit word: a number without sign, fraction and exponent. -/
def word? : Json → Option UInt64
  | number numeral => Text.word? numeral.toList
  | _ => none

/-- A truth value. -/
def bool? : Json → Option Bool
  | bool b => some b
  | _ => none

/-- A string that is a text. -/
def text? : Json → Option String
  | string text => text
  | _ => none

/-- The items of an array. -/
def items? : Json → Option (List Json)
  | array items => some items
  | _ => none

/-- A value or null. -/
def nullable? {α : Type} (decode : Json → Option α) : Json → Option (Option α)
  | null => some none
  | json => some <$> decode json

namespace Fields

/-- A field that has to be present. -/
def get? {α : Type} (fields : Fields) (name : String) (decode : Json → Option α) : Option α :=
  fields.lookup name >>= decode

/-- A field that keeps a default when it is absent. -/
def getD? {α : Type} (fields : Fields) (name : String) (decode : Json → Option α) (default : α) :
    Option α :=
  match fields.lookup name with
  | none => some default
  | some json => decode json

end Fields

@[simp] theorem text?_ofText (text : String) : (ofText text).text? = some text := rfl

end Falsify.Json
