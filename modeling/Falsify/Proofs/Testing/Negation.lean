import Falsify.Proofs.Testing.Decisions
import Mathlib.Logic.Function.Iterate

/-!
# Iterated negation

A statement with so many negations in front of it is tested by testing the statement once.  What is said about it
depends on whether that test ends with a certificate.  A certificate is turned around by each negation: a
refutation becomes evidence by an introduction, and evidence becomes a refutation by an elimination, which also
says what it is that holds.  Without a certificate nothing can be turned around, and the first negation gives up.

## Key results

- `Outcome.negateTimes_certified`: certificate and labels after `n` negations, for either kind of outcome.
- `Outcome.negateTimes_failure`, `Outcome.negateTimes_success`: the same for a refutation and for evidence.
- `Statement.run_negations`: the test behind `n` negations is that of the statement itself.
- `Statement.text_negations`: the text of the statement behind `n` negations.
- `iterated_negation`: all of this together.
-/

namespace Falsify

open Tester

/-! ## Outcomes -/

namespace Outcome

/-- The outcome that a certificate decides: a success with the certificate as evidence, or a failure with it as
    refutation, which has taken no steps to find. -/
def certified (holds : Bool) (c : Certificate) (labels : List String) : Outcome :=
  if holds then success (some c) labels else failure c labels 0

/-- The step by which a negation extends the certificate of its operand. -/
def negationStep (holds : Bool) : String :=
  if holds then "negation elimination" else "negation introduction"

/-- The label that quotes the operand of a negation, which holds. -/
def holdsLabel (text : String) : String := "issue: " ++ text ++ " holds"

/-- The outcome for a statement with `n` negations in front, from that for the statement itself; `text j` is the
    text of the statement with `j` negations in front. -/
def negateTimes (text : Nat → String) : Nat → Outcome → Outcome
  | 0, r => r
  | n + 1, r => (r.negateTimes text n).negate (text n)

/-- Denying an outcome with a certificate turns its kind around and adds a step to the certificate. -/
theorem negate_certified (text : String) (holds : Bool) (c : Certificate) (labels : List String) :
    (certified holds c labels).negate text =
      certified (!holds) (c.via (negationStep holds)) (if holds then labels ++ [holdsLabel text] else labels) := by
  cases holds <;> rfl

variable (text : Nat → String)

/-- Each negation turns the certificate around, so it stands for the statement with every other one. -/
theorem negateTimes_certified (holds : Bool) (c : Certificate) (labels : List String) (n : Nat) :
    (certified holds c labels).negateTimes text n =
      certified (holds == (n % 2 == 0))
        ⟨c.steps ++ (List.range n).map fun i => negationStep (holds == (i % 2 == 0))⟩
        (labels ++ ((List.range n).filter fun i => holds == (i % 2 == 0)).map fun i => holdsLabel (text i)) := by
  induction n with
  | zero => simp [negateTimes]
  | succ n ih =>
    have hturn : (holds == ((n + 1) % 2 == 0)) = !(holds == (n % 2 == 0)) := by
      rcases Nat.mod_two_eq_zero_or_one n with h | h <;> cases holds <;> simp [Nat.add_mod, h]
    rw [negateTimes, ih, negate_certified, hturn, List.range_succ]
    -- The new step is at the end, and the new label too if the operand holds.
    cases hlast : holds == (n % 2 == 0) <;> simp [hlast, Certificate.via]

/-- The operands that hold, and so the steps, alternate: from evidence the even ones, from a refutation the odd
    ones. -/
theorem true_beq_even (i : Nat) : (true == (i % 2 == 0)) = decide (i % 2 = 0) := by
  rw [Bool.true_beq]
  rfl

theorem false_beq_even (i : Nat) : (false == (i % 2 == 0)) = decide (i % 2 = 1) := by
  rcases Nat.mod_two_eq_zero_or_one i with h | h <;> simp [h]

/-- From evidence, the steps begin with an elimination. -/
theorem negationStep_even (i : Nat) :
    negationStep (decide (i % 2 = 0)) = if i % 2 = 0 then "negation elimination" else "negation introduction" := by
  simp only [negationStep, decide_eq_true_iff]

/-- From a refutation, they begin with an introduction. -/
theorem negationStep_odd (i : Nat) :
    negationStep (decide (i % 2 = 1)) = if i % 2 = 0 then "negation introduction" else "negation elimination" := by
  rcases Nat.mod_two_eq_zero_or_one i with h | h <;> simp [h, negationStep]

/-- The number of steps that a failure has taken is lost by the first negation. -/
theorem negateTimes_failure_eq (c : Certificate) (labels : List String) (steps : UInt64) {n : Nat} (hn : 0 < n) :
    (failure c labels steps).negateTimes text n = (certified false c labels).negateTimes text n := by
  induction hn with
  | refl => rfl
  | step _ ih => rw [negateTimes, ih, negateTimes]

/-- A failure that is denied over and over: its certificate grows by a step each time, and its labels by one each
    second time. -/
theorem negateTimes_failure (c : Certificate) (labels : List String) (steps : UInt64) {n : Nat} (hn : 0 < n) :
    (failure c labels steps).negateTimes text n =
      certified (n % 2 = 1)
        ⟨c.steps ++ (List.range n).map fun i => if i % 2 = 0 then "negation introduction" else "negation elimination"⟩
        (labels ++ ((List.range n).filter (· % 2 = 1)).map fun i => holdsLabel (text i)) := by
  rw [negateTimes_failure_eq text c labels steps hn, negateTimes_certified]
  simp only [false_beq_even, negationStep_odd]

/-- A success with evidence that is denied over and over, which starts with the other step. -/
theorem negateTimes_success (c : Certificate) (labels : List String) (n : Nat) :
    (success (some c) labels).negateTimes text n =
      certified (n % 2 = 0)
        ⟨c.steps ++ (List.range n).map fun i => if i % 2 = 0 then "negation elimination" else "negation introduction"⟩
        (labels ++ ((List.range n).filter (· % 2 = 0)).map fun i => holdsLabel (text i)) := by
  have hcertified := negateTimes_certified text true c labels n
  simp only [true_beq_even, negationStep_even] at hcertified
  exact hcertified

/-- Without a certificate the first negation gives up, and so do all others. -/
theorem negateTimes_eq_gaveUp {r : Outcome} (hfail : r.isFailure = false) (hevidence : r.evidence? = none) {n : Nat}
    (hn : 0 < n) : r.negateTimes text n = gaveUp := by
  induction hn with
  | refl =>
    cases r with
    | success e l =>
      -- A success without evidence is the one success that is not turned into a failure.
      obtain rfl : e = none := hevidence
      rfl
    | gaveUp => rfl
    | failure => cases hfail
  | step _ ih => rw [negateTimes, ih, negate]

end Outcome

/-! ## Tests -/

namespace Statement

variable {σ : Type}

/-- The test behind `n` negations is that of the statement itself. -/
theorem run_negations (p : Statement σ) (trace : TraceToggles) (minimize : Bool) (s : Session σ) (n : Nat) :
    (not^[n] p).run trace minimize s =
      ((p.run trace minimize s).1.negateTimes (fun i => (not^[i] p).text) n, (p.run trace minimize s).2) := by
  induction n with
  | zero => rfl
  | succ n ih => rw [Function.iterate_succ_apply', run_not_apply, ih, Outcome.negateTimes]

/-- Negations put themselves on record as what they deny does. -/
theorem recorded_negations (p : Statement σ) (n : Nat) : (not^[n] p).recorded = not^[n] p.recorded := by
  induction n with
  | zero => rfl
  | succ n ih => rw [Function.iterate_succ_apply', Function.iterate_succ_apply', recorded, ih]

/-- The text of a statement stands behind all signs of negation, in as many brackets. -/
theorem text_negations (p : Statement σ) (n : Nat) :
    (not^[n] p).text =
      String.join (List.replicate n "¬(") ++ p.text ++ String.join (List.replicate n ")") := by
  induction n with
  | zero => simp
  | succ n ih =>
    rw [Function.iterate_succ_apply', text_not, ih, List.replicate_succ, List.replicate_succ']
    simp [String.append_assoc]

end Statement

open Statement in
/-- **Iterated negation.**  A statement with `n` negations in front is tested by testing the statement once, from
    the same session to the same session and by the same decisions.  If that test has no certificate, the negations
    give up.  A refutation becomes evidence by the first negation and a refutation again by the second, and so on;
    evidence becomes a refutation by the first.  Each negation adds a step to the certificate, and each one whose
    operand holds adds a label that quotes it. -/
theorem iterated_negation {σ : Type} (p : Statement σ) (trace : TraceToggles) (minimize : Bool) (s : Session σ)
    {n : Nat} (hn : 0 < n) :
    let r := p.run trace minimize s
    let ran := (Statement.not^[n] p).run trace minimize s
    let steps (first second : String) := (List.range n).map fun i => if i % 2 = 0 then first else second
    let quoted (parity : Nat) := ((List.range n).filter (· % 2 = parity)).map fun i =>
      "issue: " ++ (Statement.not^[i] p).text ++ " holds"
    ran.2 = r.2 ∧
    (Statement.not^[n] p).decisions trace minimize s = p.decisions trace minimize s ∧
    (r.1 = .gaveUp → ran.1 = .gaveUp) ∧
    (∀ l, r.1 = .success none l → ran.1 = .gaveUp) ∧
    (∀ c l k, r.1 = .failure c l k →
      let turned : Certificate := ⟨c.steps ++ steps "negation introduction" "negation elimination"⟩
      ran.1 = if n % 2 = 1 then .success (some turned) (l ++ quoted 1) else .failure turned (l ++ quoted 1) 0) ∧
    (∀ c l, r.1 = .success (some c) l →
      let turned : Certificate := ⟨c.steps ++ steps "negation elimination" "negation introduction"⟩
      ran.1 = if n % 2 = 1 then .failure turned (l ++ quoted 0) 0 else .success (some turned) (l ++ quoted 0)) ∧
    ∀ i, (Statement.not^[i] p).text =
      String.join (List.replicate i "¬(") ++ p.text ++ String.join (List.replicate i ")") := by
  intro r ran steps quoted
  -- The statement below is tested once; the rest is arithmetic on its outcome.
  have hran : ran = (r.1.negateTimes (fun i => (Statement.not^[i] p).text) n, r.2) := run_negations p trace minimize s n
  refine ⟨by rw [hran], ?_, fun hr => ?_, fun l hr => ?_, fun c l k hr => ?_, fun c l hr => ?_, p.text_negations⟩
  · rw [decisions, recorded_negations, run_negations, decisions]
  · rw [hran, hr]
    exact Outcome.negateTimes_eq_gaveUp _ rfl rfl hn
  · rw [hran, hr]
    exact Outcome.negateTimes_eq_gaveUp _ rfl rfl hn
  · rw [hran, hr]
    dsimp only
    rw [Outcome.negateTimes_failure _ c l k hn]
    simp only [Outcome.certified, decide_eq_true_iff]
    rfl
  · rw [hran, hr]
    dsimp only
    rw [Outcome.negateTimes_success]
    -- Which of the two it is depends on the parity of the number of negations.
    rcases Nat.mod_two_eq_zero_or_one n with h | h
    · rw [if_neg (by omega), h]
      rfl
    · rw [if_pos h, h]
      rfl

/-- Three negations of a statement that holds, and four of one that does not. -/
theorem iterated_negation_decided :
    let s : Session Unit := { gen := Gen.ofSeed 0, world := () }
    ((Statement.not^[3] (.decided "1 < 2" true)).run .all true s).1 =
        .failure ⟨["decide: 1 < 2", "negation elimination", "negation introduction", "negation elimination"]⟩
          ["issue: 1 < 2 holds", "issue: ¬(¬(1 < 2)) holds"] 0 ∧
      ((Statement.not^[4] (.decided "2 < 1" false)).run .all true s).1 =
        .failure ⟨["decide: ¬(2 < 1)", "negation introduction", "negation elimination", "negation introduction",
            "negation elimination"]⟩
          ["issue: 2 < 1 does not hold", "issue: ¬(2 < 1) holds", "issue: ¬(¬(¬(2 < 1))) holds"] 0 := by
  intro s
  constructor
  · obtain ⟨-, -, -, -, -, hheld, -⟩ :=
      iterated_negation (.decided "1 < 2" true) .all true s (show 0 < 3 by decide)
    exact hheld (.ofFact "decide: 1 < 2") [] rfl
  · obtain ⟨-, -, -, -, hrefuted, -⟩ :=
      iterated_negation (.decided "2 < 1" false) .all true s (show 0 < 4 by decide)
    exact hrefuted (.ofFact "decide: ¬(2 < 1)") ["issue: 2 < 1 does not hold"] 0 rfl

end Falsify
