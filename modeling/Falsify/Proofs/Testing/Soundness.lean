import Falsify.Proofs.Suite.Trials
import Falsify.Proofs.Testing.Run
import Falsify.Sampler.Graph
import Mathlib.Logic.Basic

/-!
# Soundness of testing

The meaning of a statement is the ordinary one: connectives are those of logic, and a quantifier speaks of
all proxies of its sampler.  Testing looks at a few samples only, so an outcome can say two things about
that meaning: a failure says that the statement is false, and evidence says that it is true.

## Key results

- `Outcome.Sound.and`, `Outcome.Sound.or`, `Outcome.Sound.negate`, `Outcome.Sound.across`: outcomes that are
  right about their statements combine to outcomes that are right about the combined ones.
- `Statement.soundlyTested`: the outcome of every test is right about the statement.
- `verdicts_sound`: only a false statement fails, only a true one is proved, and only a false one is reported
  to have a counterexample.
-/

namespace Falsify

variable {σ : Type}

/-! ## Meaning -/

/-- The atom gives the answer `b` in every world. -/
def Atom.Answers (a : Atom σ) (b : Bool) : Prop := ∀ w, (a.holds w).1 = b

/-- The atom gives the same answer every time, though it may change the world. -/
def Atom.IsPure (a : Atom σ) : Prop := ∃ b, a.Answers b

namespace Statement

/-- All atoms of a statement are pure, as far as testing can come to them. -/
def IsPure : Statement σ → Prop
  | atom a => a.IsPure
  | not p => p.IsPure
  | and p q => p.IsPure ∧ q.IsPure
  | or p q => p.IsPure ∧ q.IsPure
  | iff p q => p.IsPure ∧ q.IsPure
  | forAll _ sampler body => ∀ p, (body (sampler.interpret p)).IsPure
  | guarded _ holds body => holds = true → body.IsPure
  | unused _ _ body => body.IsPure
  | suchThat _ sampler _ body => ∀ p, (body (sampler.interpret p)).IsPure
  | forAllTypes _ family => (family .integer).IsPure ∧ (family .string).IsPure
  | preparing _ body => body.IsPure

/-- The statement is true.  A quantifier over types speaks of the types that it is tested at. -/
def Holds : Statement σ → Prop
  | atom a => a.Answers true
  | not p => ¬p.Holds
  | and p q => p.Holds ∧ q.Holds
  | or p q => p.Holds ∨ q.Holds
  | iff p q => (p.Holds ↔ q.Holds)
  | forAll _ sampler body => ∀ p, (body (sampler.interpret p)).Holds
  | guarded _ holds body => holds = true → body.Holds
  | unused _ _ body => body.Holds
  | suchThat _ sampler _ body => ∀ p, (body (sampler.interpret p)).Holds
  | forAllTypes _ family => (family .integer).Holds ∧ (family .string).Holds
  | preparing _ body => body.Holds

end Statement

/-! ## Outcomes that are right -/

/-- What a transport from `P` to `Q` needs to know about them. -/
def Transport.Valid (P Q : Prop) : Transport → Prop
  | identity => (P ↔ Q)
  | equivalence _ => (P ↔ Q)
  | weakening _ => Q → P

theorem Transport.Valid.identity (P : Prop) : Transport.identity.Valid P P := Iff.rfl

theorem Transport.Valid.equivalence {P Q : Prop} (rule : String) (h : P ↔ Q) :
    (Transport.equivalence rule).Valid P Q := h

theorem Transport.Valid.weakening {P Q : Prop} (rule : String) (h : Q → P) :
    (Transport.weakening rule).Valid P Q := h

namespace Outcome

/-- The outcome is right about `P`: it is a failure only if `P` is false, and it carries evidence only if
    `P` is true. -/
structure Sound (r : Outcome) (P : Prop) : Prop where
  refutes : r.isFailure = true → ¬P
  proves : r.evidence?.isSome = true → P

namespace Sound

variable {r r' : Outcome} {P Q : Prop}

theorem gaveUp : Outcome.gaveUp.Sound P := ⟨nofun, nofun⟩

/-- The conjunction of sound outcomes is sound. -/
theorem and (h : r.Sound P) (h' : r'.Sound Q) : (r.and r').Sound (P ∧ Q) := by
  constructor
  · intro hfail hPQ
    cases r with
    -- A conjunction fails with the first conjunct that does.
    | failure => exact h.refutes rfl hPQ.1
    | success | gaveUp =>
      cases r' with
      | failure => exact h'.refutes rfl hPQ.2
      | success | gaveUp => cases hfail
  · intro hevidence
    cases r with
    | failure | gaveUp => cases r' <;> cases hevidence
    | success e l =>
      cases r' with
      | failure | gaveUp => cases hevidence
      | success e' l' =>
        cases e with
        | none => cases hevidence
        | some c =>
          cases e' with
          | none => cases hevidence
          | some c' => exact ⟨h.proves rfl, h'.proves rfl⟩

/-- So is their disjunction. -/
theorem or (h : r.Sound P) (h' : r'.Sound Q) : (r.or r').Sound (P ∨ Q) := by
  constructor
  · intro hfail hPQ
    cases r with
    | success | gaveUp => cases r' <;> cases hfail
    | failure =>
      cases r' with
      | success | gaveUp => cases hfail
      -- A disjunction fails only after both disjuncts have.
      | failure => exact hPQ.elim (h.refutes rfl) (h'.refutes rfl)
  · intro hevidence
    cases r with
    | success => exact .inl (h.proves hevidence)
    | failure | gaveUp =>
      cases r' with
      | success => exact .inr (h'.proves hevidence)
      | failure | gaveUp => cases hevidence

/-- The outcome of a disjunction whose first part has succeeded. -/
theorem or_of_isSuccess (h : r.Sound P) (hr : r.isSuccess = true) : r.Sound (P ∨ Q) := by
  cases r with
  | success => exact ⟨nofun, fun hevidence => .inl (h.proves hevidence)⟩
  | failure | gaveUp => cases hr

/-- A failure of `P` proves `¬P`, and only evidence for `P` refutes it. -/
theorem negate (h : r.Sound P) (text : String) : (r.negate text).Sound (¬P) := by
  cases r with
  | failure => exact ⟨nofun, fun _ => h.refutes rfl⟩
  | gaveUp => exact .gaveUp
  | success e l =>
    cases e with
    -- Without evidence the success is given up on, and so claims nothing.
    | none => exact .gaveUp
    | some c => exact ⟨fun _ hP => hP (h.proves rfl), nofun⟩

/-- An outcome stays sound along a step that is valid. -/
theorem across {t : Transport} (h : r.Sound P) (ht : t.Valid P Q) : (r.across t).Sound Q := by
  -- A refutation moves against the direction of the proof, which every transport allows.
  have hback : Q → P := by
    cases t with
    | identity | equivalence => exact ht.2
    | weakening => exact ht
  cases r with
  | gaveUp => exact .gaveUp
  | failure => exact ⟨fun _ hQ => h.refutes rfl (hback hQ), nofun⟩
  | success e l =>
    refine ⟨nofun, fun hevidence => ?_⟩
    cases e with
    | none => cases t <;> cases hevidence
    | some c =>
      cases t with
      | identity | equivalence => exact ht.1 (h.proves rfl)
      | weakening => cases hevidence

theorem labelled (h : r.Sound P) (label : String) : (r.labelled label).Sound P := by
  cases r <;> exact ⟨h.refutes, h.proves⟩

theorem annotate {t : Transport} (h : r.Sound P) (label : String) (ht : t.Valid P Q) :
    (r.annotate label t).Sound Q :=
  (h.across ht).labelled label

theorem addShrinks (h : r.Sound P) (n : UInt64) : (r.addShrinks n).Sound P := by
  cases r <;> exact ⟨h.refutes, h.proves⟩

end Sound

end Outcome

/-- The outcome of a pure atom says what the atom answers. -/
theorem Atom.sound_outcome (a : Atom σ) (h : a.IsPure) (w : σ) :
    (Atom.outcome a.text (a.holds w).1).Sound (a.Answers true) := by
  obtain ⟨b, hb⟩ := h
  rw [hb w]
  cases b with
  | true => exact ⟨nofun, fun _ => hb⟩
  | false =>
    refine ⟨fun _ htrue => ?_, nofun⟩
    -- A pure atom answers the same in every world, so one answer refutes it.
    have : (a.holds w).1 = true := htrue w
    rw [hb w] at this
    cases this

/-! ## Tests -/

section Binding

variable {π α : Type} [Literal π] [Literal α]

/-- If the test of the body is right about the body wherever it is made, then the test of the bound variable
    is right about all proxies. -/
theorem sound_testBound {trace : TraceToggles} {var : String} {sampler : Sampler σ π α}
    {body : Search.Body σ α} {Q : π → Prop}
    (h : ∀ p minimize s, (body (sampler.interpret p) minimize s).1.Sound (Q p))
    (minimize : Bool) (s : Session σ) :
    (testBound trace var sampler body minimize s).1.Sound (∀ p, Q p) := by
  -- Whichever proxy the variable settles on, the body was tested there.
  obtain ⟨p, m, t, n, -, hrun⟩ := exists_settles_testBound trace var sampler body minimize s
  rw [hrun]
  exact ((h p m t).addShrinks (.ofNat n)).annotate _ (.weakening _ fun hall => hall p)

end Binding

namespace Statement

/-- Every test of the statement is right about it. -/
def SoundlyTested (trace : TraceToggles) (p : Statement σ) : Prop :=
  ∀ minimize s, (p.run trace minimize s).1.Sound p.Holds

namespace SoundlyTested

variable {trace : TraceToggles} {p q : Statement σ}

/-- Denials of what is soundly tested are. -/
theorem not (hp : p.SoundlyTested trace) : p.not.SoundlyTested trace := by
  intro minimize s
  rw [run_not_apply]
  exact (hp minimize s).negate p.text

/-- Conjunctions of such statements are, whatever the first part does to the session. -/
theorem and (hp : p.SoundlyTested trace) (hq : q.SoundlyTested trace) :
    (p.and q).SoundlyTested trace := by
  intro minimize s
  rw [run_and_apply]
  exact (hp minimize s).and (hq minimize _)

/-- Disjunctions of such statements are. -/
theorem or (hp : p.SoundlyTested trace) (hq : q.SoundlyTested trace) :
    (p.or q).SoundlyTested trace := by
  intro minimize s
  rw [run_or_apply]
  dsimp only
  split
  · rename_i hl
    exact (hp minimize s).or_of_isSuccess hl
  · exact (hp minimize s).or (hq minimize _)

/-- Equivalences are, by way of the disjunction that they are tested as. -/
theorem iff (hp : p.SoundlyTested trace) (hq : q.SoundlyTested trace) :
    (p.iff q).SoundlyTested trace := by
  intro minimize s
  rw [run_iff_apply]
  exact (((hp.and hq).or (hp.not.and hq.not)) minimize s).across
    (.equivalence _ iff_iff_and_or_not_and_not.symm)

/-- Statements about all types are, if their two instances are. -/
theorem forAllTypes {var : String} {family : Ty → Statement σ}
    (hi : (family .integer).SoundlyTested trace) (hs : (family .string).SoundlyTested trace) :
    (Statement.forAllTypes var family).SoundlyTested trace := by
  intro minimize s
  -- Each instance is weaker than the statement: it can refute it, and its evidence is dropped.
  have hl : (((family .integer).run trace minimize s).1.instantiated var "i64").Sound
      (Statement.forAllTypes var family).Holds :=
    (hi minimize s).annotate _ (.weakening _ And.left)
  rw [run_forAllTypes_apply]
  dsimp only
  split
  · have hr : (((family .string).run trace minimize ((family .integer).run trace minimize s).2).1.instantiated
        var "String").Sound (Statement.forAllTypes var family).Holds :=
      (hs minimize _).annotate _ (.weakening _ And.right)
    exact and_self (Statement.forAllTypes var family).Holds ▸ hl.and hr
  · exact hl

end SoundlyTested

/-- The outcome of a test is right about the statement. -/
theorem soundlyTested {p : Statement σ} (hp : p.IsPure) (trace : TraceToggles) :
    p.SoundlyTested trace := by
  induction p with
  | atom a => exact fun _ s => a.sound_outcome hp s.world
  | not p ih => exact (ih hp).not
  | and p q ihp ihq => exact (ihp hp.1).and (ihq hp.2)
  | or p q ihp ihq => exact (ihp hp.1).or (ihq hp.2)
  | iff p q ihp ihq => exact (ihp hp.1).iff (ihq hp.2)
  | forAll var sampler body ih => exact sound_testBound fun p => ih _ (hp p)
  | guarded guard holds body ih =>
    intro minimize s
    rw [run_guarded_apply]
    cases holds with
    | false => exact .gaveUp
    | true =>
      -- The guard is true, so the guarded statement says what its body says.
      have hbody : body.Holds ↔ (true = true → body.Holds) := ⟨fun h _ => h, fun h => h rfl⟩
      exact (ih (hp rfl) minimize s).annotate _ (.equivalence _ hbody)
  | unused var witness body ih =>
    intro minimize s
    rw [run_unused_apply]
    exact ((ih hp minimize _).annotate _ (.identity _)).across (.equivalence _ Iff.rfl)
  | suchThat var sampler guard body ih =>
    intro minimize s
    rw [run_suchThat_apply]
    have hbody : ∀ p minimize s,
        (subtypeBody trace guard body (sampler.interpret p) minimize s).1.Sound
          (body (sampler.interpret p)).Holds :=
      fun p minimize s => (ih _ (hp p) minimize s).annotate _ (.equivalence _ Iff.rfl)
    exact (sound_testBound hbody minimize s).across (.equivalence _ Iff.rfl)
  | forAllTypes var family ih => exact .forAllTypes (ih _ hp.1) (ih _ hp.2)
  | preparing change body ih => exact fun minimize s => ih hp minimize _

end Statement

/-- Verdicts are sound: a failure is seen only of a false statement, evidence only of a true one, and a
    counterexample is reported only for a false one, on every host and so from every seed. -/
theorem verdicts_sound {p : Statement σ} (hp : p.IsPure) :
    (∀ trace minimize s, ((p.run trace minimize s).1.isFailure = true → ¬p.Holds) ∧
      ((p.run trace minimize s).1.evidence?.isSome = true → p.Holds)) ∧
    ∀ (τ : Type) (host : Host (StateM τ)) (cfg : Config) (world : σ) (h : τ) (text : String),
      (check host cfg p world h).1.1 = .error (.counterexample text) → ¬p.Holds := by
  refine ⟨fun trace minimize s => ?_, fun τ host cfg world h text hcheck => ?_⟩
  · have hsound := p.soundlyTested hp trace minimize s
    exact ⟨hsound.refutes, hsound.proves⟩
  · -- A counterexample that is reported is a failure of a test in some session.
    obtain ⟨s, hs⟩ := exists_run_isFailure_of_check host cfg p world h hcheck
    exact (p.soundlyTested hp cfg.trace true s).refutes hs

/-- A test of `¬∀ x, x < 3` that draws 5 proves it, since the quantifier below fails. -/
theorem holds_not_forAll_lt_three :
    let p : Statement Unit := .not (.forAll "x" (.graph 5 []) fun x => .decided "x < 3" (x < 3))
    let s : Session Unit := { gen := .ofSeed 0, world := () }
    p.IsPure ∧ (p.run {} false s).1.evidence?.isSome = true ∧ p.Holds := by
  intro p s
  have hp : p.IsPure := fun q => ⟨_, fun _ => rfl⟩
  have hrun : (p.run {} false s).1.evidence?.isSome = true := rfl
  exact ⟨hp, hrun, ((verdicts_sound hp).1 {} false s).2 hrun⟩

end Falsify
