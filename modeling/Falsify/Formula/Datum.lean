import Falsify.Ty

/-! # Values of written statements

In a statement that is given as data, every value has the same type `Datum`, whatever it is a value of.  The
values and proxies of a type with a default sampler are embedded in it. -/

namespace Falsify.Formula

open Text

/-- A value of any type. -/
inductive Datum where
  | int (n : Int)
  | bool (b : Bool)
  | char (c : Char)
  | text (s : String)
  | list (items : List Datum)
  | none
  | some (v : Datum)
  | pair (first second : Datum)
  deriving Inhabited, BEq

namespace Datum

mutual

/-- The text of a value in reports. -/
def write : Datum → String
  | int n => literal n
  | bool b => literal b
  | char c => literal c
  | text s => literal s
  | list items => bracketed (writeAll items)
  | none => "None"
  | some v => "Some(" ++ v.write ++ ")"
  | pair v w => "(" ++ v.write ++ ", " ++ w.write ++ ")"

/-- The texts of values in reports. -/
def writeAll : List Datum → List String
  | [] => []
  | v :: vs => v.write :: writeAll vs

end

instance : Literal Datum := ⟨write⟩

/-- The integer that a value is. -/
def int? : Datum → Option Int
  | int n => .some n
  | _ => .none

/-- The items of a list; the items of a text are its characters. -/
def items : Datum → List Datum
  | list items => items
  | text s => s.toList.map char
  | _ => []

/-- The 64-bit word that a value is. -/
def word? (v : Datum) : Option UInt64 :=
  v.int?.bind fun n => if 0 ≤ n ∧ n.toNat < UInt64.size then .some (UInt64.ofNat n.toNat) else .none

/-- A 64-bit word as a value. -/
def ofWord (n : UInt64) : Datum := int n.toNat

/-- The 64-bit integer that a value is. -/
def integer? (v : Datum) : Option Int64 :=
  v.int?.bind fun n =>
    if Int64.minValue.toInt ≤ n ∧ n ≤ Int64.maxValue.toInt then .some (Int64.ofInt n) else .none

end Datum

end Formula

namespace Ty

open Formula

/-- A value of a type, as a value of any type. -/
def embed : (t : Ty) → t.Value → Datum
  | natural, n => .ofWord n
  | integer, x => .int x.toInt
  | bool, b => .bool b
  | char, c => .char c
  | string, s => .text s
  | list t, l => .list (List.map t.embed l)
  | option _, .none => .none
  | option t, .some a => .some (t.embed a)
  | pair s t, (a, b) => .pair (s.embed a) (t.embed b)

/-- A proxy of a type, as a value. -/
def showProxy : (t : Ty) → t.Proxy → Datum
  | natural, n => .ofWord n
  | integer, x => .int x.toInt
  | bool, b => .bool b
  | char, n => .ofWord n
  | string, l => .list (List.map Datum.ofWord l)
  | list t, l => .list (List.map t.showProxy l)
  | option _, .none => .none
  | option t, .some a => .some (t.showProxy a)
  | pair s t, (a, b) => .pair (s.showProxy a) (t.showProxy b)

/-- The proxy of a type that a value shows. -/
def readProxy : (t : Ty) → Datum → Option t.Proxy
  | natural, v => v.word?
  | integer, v => v.integer?
  | bool, .bool b => .some b
  | char, v => v.word?
  | string, .list l => l.mapM Datum.word?
  | list t, .list l => l.mapM t.readProxy
  | option _, .none => .some .none
  | option t, .some v => .some <$> t.readProxy v
  | pair s t, .pair v w => do return (← s.readProxy v, ← t.readProxy w)
  | _, _ => .none

end Ty

end Falsify
