import Falsify.Search
import Falsify.Statement

/-! # Testing a statement once

Each form of statement has one way of being tested.  An atom is decided; connectives test their parts and
combine the outcomes; a quantifier draws one sample, tests its body there and, when the body fails,
searches for a smaller sample that fails as well.

An equivalence `p ↔ q` is tested as `(p ∧ q) ∨ (¬p ∧ ¬q)`, which tests its parts twice unless both hold.

* `run_iff`: testing an equivalence is testing that disjunction. -/

namespace Falsify

open Tester

variable {σ : Type}

/-- The outcome of deciding an atom. -/
def Atom.outcome (text : String) (holds : Bool) : Outcome :=
  if holds then .proved (.ofFact ("decide: " ++ text))
  else .refuted (.ofFact ("decide: ¬(" ++ text ++ ")")) ("issue: " ++ text ++ " does not hold")

/-- Tests a quantified body at one sample, searches for a smaller one if it fails and that is wanted, and
    labels the outcome with the value that the variable ends up with.  What holds at one value need not
    hold at others, so evidence is dropped. -/
def testBound {π α : Type} [Literal π] [Literal α] (trace : TraceToggles) (var : String)
    (sampler : Sampler σ π α) (body : Search.Body σ α) (minimize : Bool) : Tester σ Outcome := do
  let p ← draw sampler.draw
  emit (trace.successes || trace.discarded) fun _ => .bound var (literal p)
  let r ← body (sampler.interpret p) minimize
  let (witness, r) ←
    if r.isFailure then do
      emit trace.successes fun _ => .failing var (literal p)
      if minimize then Search.minimize trace var sampler body p r else pure (p, r)
    else pure (p, r)
  let binding := var ++ " := " ++ literal (sampler.interpret witness)
  return r.annotate binding (.weakening ("specialise " ++ binding))

/-- The outcome of a body whose guard holds by the choice of the sampler. -/
def Outcome.byConstruction (guard : String) (r : Outcome) : Outcome :=
  r.annotate ("guard: " ++ guard ++ " (by construction)")
    (.equivalence (guard ++ " holds by construction"))

/-- The outcome of one instance of a statement about all types. -/
def Outcome.instantiated (var name : String) (r : Outcome) : Outcome :=
  let binding := var ++ " := " ++ name
  r.annotate binding (.weakening ("instantiate " ++ binding))

namespace Statement

/-- The rule by which an equivalence is tested. -/
def iffRule : String := "(p ↔ q) ↔ (p ∧ q) ∨ (¬p ∧ ¬q)"

/-- The rule by which a quantifier over a subtype is tested. -/
def subtypeRule (var : String) : String :=
  "(∀ " ++ var ++ ", P " ++ var ++ " → β " ++ var ++ ") ↔ ∀ " ++ var ++ " : subtype P, β " ++ var

/-- Tests a statement once.  `minimize` says whether a failing sample is searched for a smaller one. -/
def run (trace : TraceToggles) : Statement σ → (minimize : Bool) → Tester σ Outcome
  | atom a, _ => do
    let holds ← stateful a.holds
    return Atom.outcome a.text holds
  | not p, minimize => do
    let r ← p.run trace minimize
    return r.negate p.text
  | and p q, minimize => do
    let l ← p.run trace minimize
    let r ← q.run trace minimize
    return l.and r
  | or p q, minimize => do
    let l ← p.run trace minimize
    if l.isSuccess then return l
    let r ← q.run trace minimize
    return l.or r
  | iff p q, minimize => do
    let both := do
      let l ← p.run trace minimize
      let r ← q.run trace minimize
      return l.and r
    let neither := do
      let l ← p.run trace minimize
      let r ← q.run trace minimize
      return (l.negate p.text).and (r.negate q.text)
    -- The parts are tested a second time unless both hold.
    let l ← both
    if l.isSuccess then return l.across (.equivalence iffRule)
    let r ← neither
    return (l.or r).across (.equivalence iffRule)
  | forAll var sampler body, minimize =>
    testBound trace var sampler (fun a minimize => (body a).run trace minimize) minimize
  | guarded guard holds body, minimize => do
    if holds then
      let r ← body.run trace minimize
      return r.annotate ("guard: " ++ guard) (.equivalence ("guard " ++ guard ++ " holds"))
    emit (trace.discarded || trace.successes) fun _ => .discarded guard
    return .gaveUp
  | unused var witness body, minimize => do
    emit (trace.discarded || trace.successes) fun _ => .unused var
    let r ← body.run trace minimize
    return (r.annotate (var ++ " is irrelevant (unused)") .identity).across
      (.equivalence (var ++ " instantiated with witness " ++ witness))
  | suchThat var sampler guard body, minimize => do
    let tested := fun a minimize => do
      let r ← (body a).run trace minimize
      return r.byConstruction (guard a)
    let r ← testBound trace var sampler tested minimize
    return r.across (.equivalence (subtypeRule var))
  | forAllTypes var family, minimize => do
    let l ← (family .integer).run trace minimize
    let l := l.instantiated var "i64"
    -- The second instance is tested only if the first one holds.
    if !l.isSuccess then return l
    let r ← (family .string).run trace minimize
    return l.and (r.instantiated var "String")
  | preparing change body, minimize => do
    stateful (modify change)
    body.run trace minimize

theorem run_iff (trace : TraceToggles) (p q : Statement σ) (minimize : Bool) :
    (iff p q).run trace minimize =
      Outcome.across (.equivalence iffRule) <$>
        ((p.and q).or (p.not.and q.not)).run trace minimize := by
  simp only [run, map_eq_pure_bind, bind_assoc, pure_bind]
  refine bind_congr fun l => bind_congr fun r => ?_
  split <;> simp

end Statement

end Falsify
