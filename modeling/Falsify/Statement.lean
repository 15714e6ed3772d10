import Falsify.Ty

/-! # Statements

The statements that can be tested: decidable atoms, the connectives, and quantifiers over the values of a
sampler.  The names of bound variables are part of a statement, so a report can say which value refutes it.

Atoms are decided in a world that they may change, and so are the draws of samplers; a statement over a
world that nothing looks at is a plain proposition.

* `text_not`, `text_and`, `text_or`, `text_iff`: the text of a connective, from the texts of its parts. -/

namespace Falsify

/-- A decidable proposition and its text. -/
structure Atom (σ : Type) where
  text : String
  /-- Decides the proposition. -/
  holds : StateM σ Bool

/-- An atom whose truth value is known. -/
def Atom.known {σ : Type} (text : String) (holds : Bool) : Atom σ := ⟨text, pure holds⟩

/-- A statement that can be tested. -/
inductive Statement (σ : Type) : Type 1 where
  /-- A decidable proposition. -/
  | atom (a : Atom σ)
  /-- `¬p`. -/
  | not (p : Statement σ)
  /-- `p ∧ q`. -/
  | and (p q : Statement σ)
  /-- `p ∨ q`. -/
  | or (p q : Statement σ)
  /-- `p ↔ q`. -/
  | iff (p q : Statement σ)
  /-- `∀ var, body var`, for the values of a sampler. -/
  | forAll {π α : Type} [Literal π] [Literal α] (var : String) (sampler : Sampler σ π α)
      (body : α → Statement σ)
  /-- `guard → body`, where the guard is known to hold or not. -/
  | guarded (guard : String) (holds : Bool) (body : Statement σ)
  /-- `∀ var, body` where the body does not mention `var`; `witness` is the text of some value of its
      type. -/
  | unused (var witness : String) (body : Statement σ)
  /-- `∀ var, guard var → body var`, for a sampler all of whose values satisfy the guard; the guard is
      given by its texts. -/
  | suchThat {π α : Type} [Literal π] [Literal α] (var : String) (sampler : Sampler σ π α)
      (guard : α → String) (body : α → Statement σ)
  /-- `∀ var : Type, family var`. -/
  | forAllTypes (var : String) (family : Ty → Statement σ)
  /-- `body`, before each test of which the world is changed. -/
  | preparing (change : σ → σ) (body : Statement σ)

namespace Statement

variable {σ : Type}

/-- An atom whose truth value is known. -/
def decided (text : String) (holds : Bool) : Statement σ := atom (.known text holds)

/-- `∀ var : t, body var`, with the default sampler of the type. -/
def forAllOf (t : Ty) (var : String) (body : t.Value → Statement σ) : Statement σ :=
  forAll var t.sampler body

/-- `∀ var : t, body` where the body does not mention `var`. -/
def unusedOf (t : Ty) (var : String) (body : Statement σ) : Statement σ :=
  unused var (literal t.default) body

/-- The text of a statement; what depends on a bound value is left out. -/
def text : Statement σ → String
  | atom a => a.text
  | not p => "¬(" ++ p.text ++ ")"
  | and p q => "(" ++ p.text ++ " ∧ " ++ q.text ++ ")"
  | or p q => "(" ++ p.text ++ " ∨ " ++ q.text ++ ")"
  | iff p q => "(" ++ p.text ++ " ↔ " ++ q.text ++ ")"
  | forAll var _ _ => "∀ " ++ var ++ ", …"
  | guarded guard _ _ => guard ++ " → …"
  | unused var _ body => "∀ " ++ var ++ ", " ++ body.text
  | suchThat var _ _ _ => "∀ " ++ var ++ ", …"
  | forAllTypes var _ => "∀ " ++ var ++ " : Type, …"
  | preparing _ body => body.text

/-- The text of a statement, marked as that of a statement. -/
def markedText (p : Statement σ) : String := "Prop(" ++ p.text ++ ")"

theorem text_not (p : Statement σ) : (not p).text = "¬(" ++ p.text ++ ")" := rfl

theorem text_and (p q : Statement σ) :
    (and p q).text = "(" ++ p.text ++ " ∧ " ++ q.text ++ ")" := rfl

theorem text_or (p q : Statement σ) :
    (or p q).text = "(" ++ p.text ++ " ∨ " ++ q.text ++ ")" := rfl

theorem text_iff (p q : Statement σ) :
    (iff p q).text = "(" ++ p.text ++ " ↔ " ++ q.text ++ ")" := rfl

end Statement

end Falsify
