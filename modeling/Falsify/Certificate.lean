/-! # Certificates

A certificate is the justification that comes with a test result: a chain of steps, each one a sentence.
The engine extends and joins chains and never looks into them.

* `conjoin_assoc`: bracketing of joined chains does not matter. -/

namespace Falsify

/-- A chain of justification steps, in the order in which they were taken. -/
structure Certificate where
  steps : List String
  deriving DecidableEq, Inhabited

namespace Certificate

/-- The certificate that rests on a single fact. -/
def ofFact (fact : String) : Certificate := ⟨[fact]⟩

/-- A certificate extended by one more step. -/
def via (c : Certificate) (step : String) : Certificate := ⟨c.steps ++ [step]⟩

/-- Two independent certificates, one after the other. -/
def conjoin (c d : Certificate) : Certificate := ⟨c.steps ++ d.steps⟩

/-- The steps of a certificate in one line. -/
def text (c : Certificate) : String := " ; ".intercalate c.steps

@[simp] theorem steps_via (c : Certificate) (step : String) :
    (c.via step).steps = c.steps ++ [step] := rfl

theorem conjoin_assoc (c d e : Certificate) :
    (c.conjoin d).conjoin e = c.conjoin (d.conjoin e) := by
  simp [conjoin]

end Certificate

end Falsify
