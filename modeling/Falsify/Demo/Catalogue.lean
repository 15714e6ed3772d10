import Falsify.Statement

/-! # A small catalogue of statements

Statements to try a check on: most of them hold, one is false, and one gives up when samples are small. -/

namespace Falsify.Demo

variable {σ : Type}

/-- `x + 0 = x`, for naturals. -/
def addZero : Statement σ :=
  .forAllOf .natural "x" fun x =>
    .decided (literal x ++ " + 0 = " ++ literal x) (x + 0 == x)

/-- `x < 5`, for naturals, which is false. -/
def belowFive : Statement σ :=
  .forAllOf .natural "x" fun x => .decided (literal x ++ " < 5") (x < 5)

/-- `x > 10 → x > 5`, for naturals. -/
def guarded : Statement σ :=
  .forAllOf .natural "x" fun x =>
    .guarded (literal x ++ " > 10") (x > 10) (.decided (literal x ++ " > 5") (x > 5))

/-- `p ∨ ¬p`, for truth values. -/
def excludedMiddle : Statement σ :=
  .forAllOf .bool "p" fun p => .or (.decided (literal p) p) (.not (.decided (literal p) p))

/-- Reversing a list twice gives the list back, whatever the type of its elements. -/
def reverseInvolutive : Statement σ :=
  .forAllTypes "α" fun t =>
    .forAllOf (.list t) "xs" fun xs =>
      .decided "reverse (reverse xs) = xs" (xs.reverse.reverse = xs)

/-- The statements of the catalogue and their names. -/
def catalogue : List (String × Statement σ) :=
  [("add_zero", addZero), ("below_five", belowFive), ("guarded", guarded),
    ("excluded_middle", excludedMiddle), ("reverse_involutive", reverseInvolutive)]

end Falsify.Demo
