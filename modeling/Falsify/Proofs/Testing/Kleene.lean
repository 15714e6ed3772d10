import Falsify.Proofs.Suite.Invariant
import Falsify.Proofs.Testing.Soundness

/-!
# Statements without quantifiers

A statement without quantifiers has one of three truth values: a guard that does not hold leaves it unknown,
and the connectives are those of strong Kleene logic.  Testing such a statement evaluates it, although an
equivalence is tested by way of a disjunction of conjunctions: as long as no sample is involved, a success
always comes with evidence, and so a negation never loses one.

## Key results

- `Truth.iff_eq_or_and`: the rule by which an equivalence is tested is one of strong Kleene logic.
- `Outcome.Says.and`, `Outcome.Says.or`, `Outcome.Says.negate`, `Outcome.Says.across`: outcomes combine as
  the truth values that they say.
- `Statement.says_run`: testing a statement without quantifiers says its truth value.
- `quantifierFree_decided`: so does every trial of a suite.
-/

namespace Falsify

open Tester

variable {σ τ : Type}

/-! ## Truth values -/

/-- A truth value of strong Kleene logic, where `none` is unknown. -/
abbrev Truth := Option Bool

namespace Truth

/-- What is known is denied. -/
def not : Truth → Truth := Option.map Bool.not

def and : Truth → Truth → Truth
  | some false, _ | _, some false => some false
  | some true, some true => some true
  | _, _ => none

def or : Truth → Truth → Truth
  | some true, _ | _, some true => some true
  | some false, some false => some false
  | _, _ => none

/-- An equivalence is known if both parts are. -/
def iff : Truth → Truth → Truth
  | some a, some b => some (a == b)
  | _, _ => none

/-- The status of a test that finds out the truth value. -/
def status : Truth → Status
  | some true => .passed
  | some false => .failed
  | none => .gaveUp

/-- An equivalence holds if both parts hold or neither does, also among three values. -/
theorem iff_eq_or_and (u v : Truth) : u.iff v = (u.and v).or (u.not.and v.not) := by
  rcases u with _ | _ | _ <;> rcases v with _ | _ | _ <;> rfl

end Truth

namespace Statement

/-- The statement has no quantifier, as far as testing can come to one. -/
def IsQuantifierFree : Statement σ → Prop
  | atom _ => True
  | not p => p.IsQuantifierFree
  | and p q => p.IsQuantifierFree ∧ q.IsQuantifierFree
  | or p q => p.IsQuantifierFree ∧ q.IsQuantifierFree
  | iff p q => p.IsQuantifierFree ∧ q.IsQuantifierFree
  | guarded _ holds body => holds = true → body.IsQuantifierFree
  | unused _ _ body => body.IsQuantifierFree
  | preparing _ body => body.IsQuantifierFree
  | _ => False

/-- The truth value of a statement without quantifiers whose atoms are decided in the world `w`; a statement
    with quantifiers has none. -/
def truth (w : σ) : Statement σ → Truth
  | atom a => some (a.holds w).1
  | not p => (p.truth w).not
  | and p q => (p.truth w).and (q.truth w)
  | or p q => (p.truth w).or (q.truth w)
  | iff p q => (p.truth w).iff (q.truth w)
  | guarded _ holds body => if holds then body.truth w else none
  | unused _ _ body => body.truth w
  | preparing _ body => body.truth w
  | _ => none

end Statement

/-! ## Outcomes -/

namespace Outcome

/-- The outcome says a truth value: a success with evidence, a failure without search steps, or giving up. -/
inductive Says : Outcome → Truth → Prop
  | yes (c : Certificate) (labels : List String) : Says (success (some c) labels) (some true)
  | no (c : Certificate) (labels : List String) : Says (failure c labels 0) (some false)
  | unknown : Says gaveUp none

namespace Says

variable {r r' : Outcome} {u v : Truth}

/-- What an outcome says determines its status. -/
theorem status_eq (h : r.Says u) : r.status = u.status := by
  cases h <;> rfl

/-- A success that says a truth value has evidence. -/
theorem isSome_evidence (h : r.Says u) (hr : r.isSuccess = true) : r.evidence?.isSome = true := by
  cases h with
  | yes => rfl
  | no | unknown => cases hr

theorem shrinks_eq_zero (h : r.Says u) : r.shrinks = 0 := by
  cases h <;> rfl

theorem eq_gaveUp_iff (h : r.Says u) : r = gaveUp ↔ u = none := by
  cases h <;> simp

theorem isFailure_iff (h : r.Says u) : r.isFailure = true ↔ u = some false := by
  cases h <;> simp [isFailure]

/-- A conjunction says the conjunction of what its parts say. -/
theorem and (h : r.Says u) (h' : r'.Says v) : (r.and r').Says (u.and v) := by
  cases h with
  | yes c l =>
    cases h' with
    | yes c' l' => exact .yes (c.conjoin c') (l ++ l')
    | no c' l' => exact .no c' l'
    | unknown => exact .unknown
  | no c l => exact .no c l
  | unknown =>
    cases h' with
    | yes | unknown => exact .unknown
    | no c' l' => exact .no c' l'

/-- A disjunction says the disjunction of what its parts say. -/
theorem or (h : r.Says u) (h' : r'.Says v) : (r.or r').Says (u.or v) := by
  cases h with
  | yes c l => exact .yes c l
  | no c l =>
    cases h' with
    | yes c' l' => exact .yes c' l'
    | no c' l' => exact .no (c.conjoin c') (l ++ l')
    | unknown => exact .unknown
  | unknown =>
    cases h' with
    | yes c' l' => exact .yes c' l'
    | no | unknown => exact .unknown

/-- A disjunction whose first part has succeeded. -/
theorem or_of_isSuccess (h : r.Says u) (hr : r.isSuccess = true) (v : Truth) : r.Says (u.or v) := by
  cases h with
  | yes c l => exact .yes c l
  | no | unknown => cases hr

/-- A success always has the evidence that refutes the negation. -/
theorem negate (h : r.Says u) (text : String) : (r.negate text).Says u.not := by
  cases h with
  | yes c l => exact .no _ _
  | no c l => exact .yes _ _
  | unknown => exact .unknown

/-- Across an equivalence, an outcome says the same. -/
theorem across_equivalence (h : r.Says u) (rule : String) : (r.across (.equivalence rule)).Says u := by
  cases h with
  | yes c l => exact .yes (c.via rule) l
  | no c l => exact .no _ l
  | unknown => exact .unknown

theorem across_identity (h : r.Says u) : (r.across .identity).Says u := by
  cases h with
  | yes c l => exact .yes c l
  | no c l => exact .no c l
  | unknown => exact .unknown

theorem labelled (h : r.Says u) (label : String) : (r.labelled label).Says u := by
  cases h with
  | yes c l => exact .yes c _
  | no c l => exact .no c _
  | unknown => exact .unknown

end Says

end Outcome

/-! ## Tests -/

namespace Statement

/-- Every test of the statement says the truth value. -/
def TestsAs (trace : TraceToggles) (p : Statement σ) (v : Truth) : Prop :=
  ∀ minimize s, (p.run trace minimize s).1.Says v

namespace TestsAs

variable {trace : TraceToggles} {p q : Statement σ} {u v : Truth}

/-- The test of a negation says the negation. -/
theorem not (hp : p.TestsAs trace u) : p.not.TestsAs trace u.not := by
  intro minimize s
  rw [run_not_apply]
  exact (hp minimize s).negate p.text

/-- That of a conjunction says the conjunction. -/
theorem and (hp : p.TestsAs trace u) (hq : q.TestsAs trace v) : (p.and q).TestsAs trace (u.and v) := by
  intro minimize s
  rw [run_and_apply]
  exact (hp minimize s).and (hq minimize _)

/-- That of a disjunction says the disjunction, although it may leave out the second part. -/
theorem or (hp : p.TestsAs trace u) (hq : q.TestsAs trace v) : (p.or q).TestsAs trace (u.or v) := by
  intro minimize s
  rw [run_or_apply]
  dsimp only
  -- A success of the first part decides the disjunction, so leaving out the second makes no difference.
  split
  · rename_i hl
    exact (hp minimize s).or_of_isSuccess hl v
  · exact (hp minimize s).or (hq minimize _)

/-- That of an equivalence says the equivalence, as the disjunction that it is tested as has the same value. -/
theorem iff (hp : p.TestsAs trace u) (hq : q.TestsAs trace v) : (p.iff q).TestsAs trace (u.iff v) := by
  intro minimize s
  rw [run_iff_apply, Truth.iff_eq_or_and]
  exact (((hp.and hq).or (hp.not.and hq.not)) minimize s).across_equivalence iffRule

end TestsAs

/-- Testing a statement without quantifiers says its truth value, which is the same in every world. -/
theorem says_run {p : Statement σ} (hfree : p.IsQuantifierFree) (hp : p.IsPure) (trace : TraceToggles)
    (w : σ) : p.TestsAs trace (p.truth w) := by
  induction p with
  | atom a =>
    -- A pure atom answers in the world of the session as it does in `w`.
    intro minimize s
    obtain ⟨b, hb⟩ := hp
    rw [run_atom_apply, truth, hb s.world, hb w]
    cases b with
    | true => exact .yes _ _
    | false => exact .no _ _
  | not p ih => exact (ih hfree hp).not
  | and p q ihp ihq => exact (ihp hfree.1 hp.1).and (ihq hfree.2 hp.2)
  | or p q ihp ihq => exact (ihp hfree.1 hp.1).or (ihq hfree.2 hp.2)
  | iff p q ihp ihq => exact (ihp hfree.1 hp.1).iff (ihq hfree.2 hp.2)
  | guarded guard holds body ih =>
    intro minimize s
    rw [run_guarded_apply]
    cases holds with
    | false => exact .unknown
    | true => exact ((ih (hfree rfl) (hp rfl) minimize s).across_equivalence _).labelled _
  | unused var witness body ih =>
    intro minimize s
    rw [run_unused_apply]
    exact (((ih hfree hp minimize _).across_identity).labelled _).across_equivalence _
  | preparing change body ih => exact fun minimize s => ih hfree hp minimize _
  | forAll | suchThat | forAllTypes => exact hfree.elim

/-- Without quantifiers there is nothing to draw. -/
theorem drawsKeep_of_isQuantifierFree {γ : Type} (view : Session σ → γ) {p : Statement σ}
    (hp : p.IsQuantifierFree) : p.DrawsKeep view := by
  induction p with
  | atom => trivial
  | not p ih | unused _ _ p ih | preparing _ p ih => exact ih hp
  | and p q ihp ihq | or p q ihp ihq | iff p q ihp ihq => exact ⟨ihp hp.1, ihq hp.2⟩
  | guarded _ _ body ih => exact fun h => ih (hp h)
  | forAll | suchThat | forAllTypes => exact hp.elim

end Statement

/-! ## Suites -/

namespace Suite

section

variable {now : StateM τ Timestamp} {cfg : Config} {p : Statement σ} {v : Truth} {s : Session σ} {h : τ}

/-- A trial of a statement whose tests all say one truth value. -/
theorem says_trial (hp : p.TestsAs cfg.trace v) {i : Nat} {t : Trial}
    (ht : (Suite.run now cfg p s h).1.1.trials[i]? = some t) : t.outcome.Says v := by
  rw [(records_run now cfg p s h ht).outcome]
  exact hp true _

/-- All trials are run, unless tests say that the statement is false. -/
theorem size_of_testsAs (hp : p.TestsAs cfg.trace v) (hv : v ≠ some false) :
    (Suite.run now cfg p s h).1.1.trials.size = cfg.trials.toNat := by
  have hstops := stopsAt_run now cfg p s h
  -- A suite that stops early has seen a failure, which no test here is.
  refine Nat.le_antisymm hstops.size_le (Nat.le_of_not_lt fun hlt => ?_)
  obtain ⟨t, hback, hfail⟩ := hstops.isFailure_of_lt hlt
  exact hv ((says_trial hp hback).isFailure_iff.1 hfail)

/-- A trial is attempted once, unless tests say that the truth value is unknown. -/
theorem attempts_of_testsAs (hp : p.TestsAs cfg.trace v) (hv : v ≠ none) {i : Nat} {t : Trial}
    (ht : (Suite.run now cfg p s h).1.1.trials[i]? = some t) : t.attempts.toNat = 1 :=
  attempts_eq_one (fun s hgaveUp => hv ((hp true s).eq_gaveUp_iff.1 hgaveUp)) ht

/-- The first trial is the last one, if tests say that the statement is false. -/
theorem exists_trials_eq_of_testsAs_false (hp : p.TestsAs cfg.trace (some false)) (hcfg : cfg.trials ≠ 0) :
    ∃ t, (Suite.run now cfg p s h).1.1.trials = #[t] ∧ t.status = .failed ∧ t.attempts.toNat = 1 := by
  have hstops := stopsAt_run now cfg p s h
  have hne : cfg.trials.toNat ≠ 0 := fun h => hcfg (UInt64.toNat_inj.1 h)
  have hfirst := Array.getElem?_eq_getElem (hstops.size_pos (Nat.pos_of_ne_zero hne))
  -- The first trial fails, so it is also the last one.
  have hsize := hstops.eq_last_of_isFailure 0 _ hfirst ((says_trial hp hfirst).isFailure_iff.2 rfl)
  obtain ⟨t, htrials⟩ := Array.size_eq_one_iff.1 hsize.symm
  have ht : (Suite.run now cfg p s h).1.1.trials[0]? = some t := by rw [htrials]; rfl
  exact ⟨t, htrials, (says_trial hp ht).status_eq, attempts_of_testsAs hp nofun ht⟩

end

end Suite

/-- **Statements without quantifiers are decided.**  A test of one says its truth value: successes have
    evidence, failures took no steps of a search, and the generator is left as it was.  So a suite of at
    least one trial passes in all of its trials at the first attempt if the statement is true, fails in the
    first one if it is false, and gives up in all of them, as often as its budget allows, if that is
    unknown. -/
theorem quantifierFree_decided {p : Statement σ} (hfree : p.IsQuantifierFree) (hp : p.IsPure) (w : σ) :
    (∀ trace minimize s,
      (p.run trace minimize s).1.status = (p.truth w).status ∧
      ((p.run trace minimize s).1.isSuccess = true → (p.run trace minimize s).1.evidence?.isSome = true) ∧
      (p.run trace minimize s).1.shrinks = 0 ∧
      (p.run trace minimize s).2.gen = s.gen) ∧
    ∀ (τ : Type) (now : StateM τ Timestamp) (cfg : Config) (s : Session σ) (h : τ), cfg.trials ≠ 0 →
      let trials := (Suite.run now cfg p s h).1.1.trials
      (p.truth w = some true → trials.size = cfg.trials.toNat ∧
        ∀ t ∈ trials, t.status = .passed ∧ t.attempts.toNat = 1) ∧
      (p.truth w = some false → ∃ t, trials = #[t] ∧ t.status = .failed ∧ t.attempts.toNat = 1) ∧
      (p.truth w = none → trials.size = cfg.trials.toNat ∧
        ∀ t ∈ trials, t.status = .gaveUp ∧ t.attempts.toNat = max 1 cfg.retries.toNat) := by
  -- What one test says, and then what every test of a suite says, which is the same at each attempt.
  refine ⟨fun trace minimize s => ?_, fun τ now cfg s h hcfg => ?_⟩
  · have hsaid := p.says_run hfree hp trace w minimize s
    exact ⟨hsaid.status_eq, hsaid.isSome_evidence, hsaid.shrinks_eq_zero,
      p.keeps_run (showsDrawsOnly_gen id trace) (p.drawsKeep_of_isQuantifierFree _ hfree) minimize s⟩
  · have htests := p.says_run hfree hp cfg.trace w
    refine ⟨fun hv => ?_, fun hv => ?_, fun hv => ?_⟩
    · rw [hv] at htests
      refine ⟨Suite.size_of_testsAs htests nofun, fun t ht => ?_⟩
      obtain ⟨i, hi⟩ := Array.getElem?_of_mem ht
      exact ⟨(Suite.says_trial htests hi).status_eq, Suite.attempts_of_testsAs htests nofun hi⟩
    · rw [hv] at htests
      exact Suite.exists_trials_eq_of_testsAs_false htests hcfg
    · rw [hv] at htests
      refine ⟨Suite.size_of_testsAs htests nofun, fun t ht => ?_⟩
      obtain ⟨i, hi⟩ := Array.getElem?_of_mem ht
      have hsaid := Suite.says_trial htests hi
      exact ⟨hsaid.status_eq,
        (Suite.records_run now cfg p s h hi).attempts_of_gaveUp (hsaid.eq_gaveUp_iff.2 rfl)⟩

/-- An equivalence whose parts are both true, and the negation of a conjunction that a guard leaves
    unknown. -/
theorem quantifierFree_decided_iff_guarded :
    let p : Statement Unit := .iff (.not (.decided "2 < 1" false))
      (.guarded "0 < 1" true (.unused "x" "0" (.decided "1 < 2" true)))
    let q : Statement Unit := .not (.and (.decided "0 < 1" true) (.guarded "1 < 0" false p))
    (p.IsQuantifierFree ∧ p.IsPure ∧ p.truth () = some true ∧
      ∀ trace minimize s, (p.run trace minimize s).1.status = .passed) ∧
    (q.IsQuantifierFree ∧ q.IsPure ∧ q.truth () = none ∧
      ∀ trace minimize s, (q.run trace minimize s).1.status = .gaveUp) := by
  intro p q
  have hpfree : p.IsQuantifierFree := ⟨trivial, fun _ => trivial⟩
  have hp : p.IsPure := ⟨⟨false, fun _ => rfl⟩, fun _ => ⟨true, fun _ => rfl⟩⟩
  have hqfree : q.IsQuantifierFree := ⟨trivial, fun h => nomatch h⟩
  have hq : q.IsPure := ⟨⟨true, fun _ => rfl⟩, fun h => nomatch h⟩
  exact ⟨⟨hpfree, hp, rfl, fun trace minimize s =>
      ((quantifierFree_decided hpfree hp ()).1 trace minimize s).1⟩,
    ⟨hqfree, hq, rfl, fun trace minimize s =>
      ((quantifierFree_decided hqfree hq ()).1 trace minimize s).1⟩⟩

end Falsify
