import Falsify.Formula.Datum

/-! # Terms and text templates

The terms of written statements compute with values: whole numbers without bounds, truth values, characters,
texts, lists, optional values and pairs.  Terms are expected to be well typed; an operation that does not fit
its arguments has no value.

A template is a text with names in braces.  Names that are bound are replaced by the texts of their values;
any other brace stands for itself. -/

namespace Falsify.Formula

/-- The operations of terms. -/
inductive Operation where
  | add
  | sub
  | mul
  /-- The remainder, never negative. -/
  | rem
  | abs
  | lt
  | le
  | gt
  | ge
  | eq
  | ne
  | and
  | or
  | not
  | length
  | sum
  | reverse
  /-- The integers of a list in ascending order. -/
  | sort
  | append
  /-- The list of the arguments. -/
  | list
  | has
  /-- The code point of a character. -/
  | code
  | isSome
  | getOr
  | first
  | second
  deriving DecidableEq, Inhabited

/-- A term. -/
inductive Term where
  | value (v : Datum)
  | var (name : String)
  | op (o : Operation) (args : List Term)
  /-- Whether a term holds for any of the items of a list. -/
  | any (name : String) (l holds : Term)
  /-- Whether a term holds for all items of a list. -/
  | all (name : String) (l holds : Term)
  deriving Inhabited

/-- The values of variables, the innermost binding first. -/
abbrev Env := List (String × Datum)

/-- The sum of the integers in a list. -/
def sumOf (items : List Datum) : Int := (items.filterMap Datum.int?).foldl (· + ·) 0

/-- The value of an operation. -/
def Operation.apply : Operation → List Datum → Datum
  | add, [.int a, .int b] => .int (a + b)
  | sub, [.int a, .int b] => .int (a - b)
  | mul, [.int a, .int b] => .int (a * b)
  | rem, [.int a, .int b] => .int (a % b)
  | abs, [.int a] => .int a.natAbs
  | lt, [.int a, .int b] => .bool (a < b)
  | le, [.int a, .int b] => .bool (a ≤ b)
  | gt, [.int a, .int b] => .bool (b < a)
  | ge, [.int a, .int b] => .bool (b ≤ a)
  | eq, [v, w] => .bool (v == w)
  | ne, [v, w] => .bool (v != w)
  | and, [.bool a, .bool b] => .bool (a && b)
  | or, [.bool a, .bool b] => .bool (a || b)
  | not, [.bool a] => .bool !a
  | length, [l] => .int l.items.length
  | sum, [l] => .int (sumOf l.items)
  | reverse, [l] => .list l.items.reverse
  | sort, [l] => .list (((l.items.filterMap Datum.int?).mergeSort (· ≤ ·)).map .int)
  | append, [l, m] => .list (l.items ++ m.items)
  | list, items => .list items
  | has, [l, v] => .bool (l.items.contains v)
  | code, [.char c] => .int c.toNat
  | isSome, [.some _] => .bool true
  | isSome, [.none] => .bool false
  | getOr, [.some v, _] => v
  | getOr, [.none, v] => v
  | first, [.pair v _] => v
  | second, [.pair _ w] => w
  | _, _ => .none

namespace Term

mutual

/-- The value of a term. -/
def eval : Term → Env → Datum
  | value v, _ => v
  | var name, env => (env.lookup name).getD .none
  | op o args, env => o.apply (evalAll args env)
  | any name l holds, env =>
    .bool ((l.eval env).items.any fun v => holds.eval ((name, v) :: env) == .bool true)
  | all name l holds, env =>
    .bool ((l.eval env).items.all fun v => holds.eval ((name, v) :: env) == .bool true)

/-- The values of terms. -/
def evalAll : List Term → Env → List Datum
  | [], _ => []
  | t :: ts, env => t.eval env :: evalAll ts env

end

/-- Whether a term is true. -/
def holds (t : Term) (env : Env) : Bool := t.eval env == .bool true

end Term

/-! ## Templates -/

/-- Replaces the names in braces that are bound. -/
def expandChars (lookup : String → Option String) : List Char → List Char
  | [] => []
  | c :: rest =>
    let name := rest.takeWhile (· ≠ '\x7d')
    match if c = '\x7b' ∧ name.length < rest.length then lookup (String.ofList name) else none with
    | some text => text.toList ++ expandChars lookup (rest.drop (name.length + 1))
    | none => c :: expandChars lookup rest
termination_by text => text.length
decreasing_by all_goals grind

/-- Replaces the names in braces that are bound by the texts of their values. -/
def expand (env : Env) (names : List (String × String)) (template : String) : String :=
  let lookup := fun name => ((env.lookup name).map literal).or (names.lookup name)
  String.ofList (expandChars lookup template.toList)

end Falsify.Formula
