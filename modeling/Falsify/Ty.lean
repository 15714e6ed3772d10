import Falsify.Sampler.Container
import Falsify.Text.Literal

/-! # Types with a default sampler

The types that can be quantified over without naming a sampler: numbers, truth values, characters and
strings, and lists, optional values and pairs of such types.  `Ty` is the code of such a type; its values,
its proxies and its sampler are computed from the code. -/

namespace Falsify

/-- The code of a type that has a default sampler. -/
inductive Ty where
  | natural
  | integer
  | bool
  | char
  | string
  | list (element : Ty)
  | option (inner : Ty)
  | pair (first second : Ty)
  deriving DecidableEq, Inhabited

namespace Ty

/-- The values of a type. -/
@[reducible] def Value : Ty → Type
  | natural => UInt64
  | integer => Int64
  | bool => Bool
  | char => Char
  | string => String
  | list t => List t.Value
  | option t => Option t.Value
  | pair s t => s.Value × t.Value

/-- The proxies that values of a type are drawn and shrunk through. -/
@[reducible] def Proxy : Ty → Type
  | natural => UInt64
  | integer => Int64
  | bool => Bool
  | char => UInt64
  | string => List UInt64
  | list t => List t.Proxy
  | option t => Option t.Proxy
  | pair s t => s.Proxy × t.Proxy

/-- The default sampler of a type. -/
def sampler {σ : Type} : (t : Ty) → Sampler σ t.Proxy t.Value
  | natural => .natural
  | integer => .integer
  | bool => .bool
  | char => .char
  | string => .string
  | list t => .list t.sampler
  | option t => .option t.sampler
  | pair s t => .pair s.sampler t.sampler

/-- The values of a type have texts. -/
instance literalValue : (t : Ty) → Literal t.Value
  | natural => inferInstanceAs (Literal UInt64)
  | integer => inferInstanceAs (Literal Int64)
  | bool => inferInstanceAs (Literal Bool)
  | char => inferInstanceAs (Literal Char)
  | string => inferInstanceAs (Literal String)
  | list t => have := literalValue t; inferInstanceAs (Literal (List t.Value))
  | option t => have := literalValue t; inferInstanceAs (Literal (Option t.Value))
  | pair s t =>
    have := literalValue s
    have := literalValue t
    inferInstanceAs (Literal (s.Value × t.Value))

/-- So have the proxies; those of characters are numbers and those of strings lists of them. -/
instance literalProxy : (t : Ty) → Literal t.Proxy
  | natural => inferInstanceAs (Literal UInt64)
  | integer => inferInstanceAs (Literal Int64)
  | bool => inferInstanceAs (Literal Bool)
  | char => inferInstanceAs (Literal UInt64)
  | string => inferInstanceAs (Literal (List UInt64))
  | list t => have := literalProxy t; inferInstanceAs (Literal (List t.Proxy))
  | option t => have := literalProxy t; inferInstanceAs (Literal (Option t.Proxy))
  | pair s t =>
    have := literalProxy s
    have := literalProxy t
    inferInstanceAs (Literal (s.Proxy × t.Proxy))

/-- Values of a type can be compared. -/
instance decEqValue : (t : Ty) → DecidableEq t.Value
  | natural => inferInstanceAs (DecidableEq UInt64)
  | integer => inferInstanceAs (DecidableEq Int64)
  | bool => inferInstanceAs (DecidableEq Bool)
  | char => inferInstanceAs (DecidableEq Char)
  | string => inferInstanceAs (DecidableEq String)
  | list t => have := decEqValue t; inferInstanceAs (DecidableEq (List t.Value))
  | option t => have := decEqValue t; inferInstanceAs (DecidableEq (Option t.Value))
  | pair s t =>
    have := decEqValue s
    have := decEqValue t
    inferInstanceAs (DecidableEq (s.Value × t.Value))

/-- The value that a binder of a type is filled with when nothing depends on it: zero, `false`, the null
    character, an empty string or list, no value, or a pair of such values. -/
def default : (t : Ty) → t.Value
  | natural => 0
  | integer => 0
  | bool => false
  | char => '\x00'
  | string => ""
  | list _ => []
  | option _ => none
  | pair s t => (s.default, t.default)

end Ty

end Falsify
