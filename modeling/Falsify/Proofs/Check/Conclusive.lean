import Falsify.Proofs.Check.Verdict
import Falsify.Proofs.Testing.Kleene
import Falsify.Proofs.Testing.Visits

/-!
# Tests that do not give up

A test gives up where a guard does not hold, and where a success without evidence is denied.  What a quantifier
reports has no evidence, but a statement without quantifiers and guards always has it: whatever its atoms
answer, its tests say something known.  So if guards are left out altogether, and no quantifier stands under a
negation or in an equivalence, then no test gives up, and no trial is attempted a second time.

## Key results

- `Statement.known_run`: without quantifiers and guards, a test says whether the statement holds.
- `Statement.run_ne_gaveUp`: without guards and denied quantifiers, a test does not give up.
- `unguarded_conclusive`: what this means for suites and for checks.
-/

namespace Falsify

variable {σ τ : Type}

/-! ## Outcomes -/

namespace Truth

theorem and_some (a b : Bool) : Truth.and (some a) (some b) = some (a && b) := by
  cases a <;> cases b <;> rfl

theorem or_some (a b : Bool) : Truth.or (some a) (some b) = some (a || b) := by
  cases a <;> cases b <;> rfl

end Truth

namespace Outcome

variable {r s : Outcome}

/-- The outcome says that the statement holds or that it does not. -/
def Known (r : Outcome) : Prop := ∃ b : Bool, r.Says (some b)

namespace Known

/-- What is known is no giving up. -/
theorem ne_gaveUp (h : r.Known) : r ≠ gaveUp := by
  obtain ⟨b, hb⟩ := h
  intro hr
  cases hb.eq_gaveUp_iff.1 hr

/-- A denial of what is known is known. -/
theorem negate (h : r.Known) (text : String) : (r.negate text).Known := by
  obtain ⟨b, hb⟩ := h
  exact ⟨!b, hb.negate text⟩

theorem and (hr : r.Known) (hs : s.Known) : (r.and s).Known := by
  obtain ⟨a, ha⟩ := hr
  obtain ⟨b, hb⟩ := hs
  exact ⟨a && b, Truth.and_some a b ▸ ha.and hb⟩

theorem or (hr : r.Known) (hs : s.Known) : (r.or s).Known := by
  obtain ⟨a, ha⟩ := hr
  obtain ⟨b, hb⟩ := hs
  exact ⟨a || b, Truth.or_some a b ▸ ha.or hb⟩

/-- Across an equivalence, what is known stays known. -/
theorem across_equivalence (h : r.Known) (rule : String) : (r.across (.equivalence rule)).Known :=
  h.imp fun _ hb => hb.across_equivalence rule

theorem across_identity (h : r.Known) : (r.across .identity).Known := h.imp fun _ hb => hb.across_identity

theorem labelled (h : r.Known) (label : String) : (r.labelled label).Known :=
  h.imp fun _ hb => hb.labelled label

end Known

/-- Moving an outcome does not make it one of giving up. -/
theorem across_ne_gaveUp (h : r ≠ gaveUp) (t : Transport) : r.across t ≠ gaveUp := by
  cases r with
  | success | failure => nofun
  | gaveUp => exact (h rfl).elim

theorem annotate_ne_gaveUp (h : r ≠ gaveUp) (label : String) (t : Transport) : r.annotate label t ≠ gaveUp := by
  cases r with
  | success | failure => nofun
  | gaveUp => exact (h rfl).elim

theorem addShrinks_ne_gaveUp (h : r ≠ gaveUp) (n : UInt64) : r.addShrinks n ≠ gaveUp := by
  cases r with
  | success | failure => nofun
  | gaveUp => exact (h rfl).elim

/-- A conjunction or a disjunction gives up only if one of its parts does. -/
theorem and_ne_gaveUp (hr : r ≠ gaveUp) (hs : s ≠ gaveUp) : r.and s ≠ gaveUp := by
  cases r with
  | gaveUp => exact (hr rfl).elim
  | failure => nofun
  | success =>
    cases s with
    | gaveUp => exact (hs rfl).elim
    | success | failure => nofun

/-- A disjunction gives up only if a part of it does. -/
theorem or_ne_gaveUp (hr : r ≠ gaveUp) (hs : s ≠ gaveUp) : r.or s ≠ gaveUp := by
  cases r with
  | gaveUp => exact (hr rfl).elim
  | success => nofun
  | failure =>
    cases s with
    | gaveUp => exact (hs rfl).elim
    | success | failure => nofun

end Outcome

/-! ## Statements -/

namespace Statement

/-- No guard stands in the statement, nor in any body or instance of it that testing can come to. -/
def HasNoGuards : Statement σ → Prop
  | atom _ => True
  | not p => p.HasNoGuards
  | and p q => p.HasNoGuards ∧ q.HasNoGuards
  | or p q => p.HasNoGuards ∧ q.HasNoGuards
  | iff p q => p.HasNoGuards ∧ q.HasNoGuards
  | forAll _ sampler body => ∀ p, (body (sampler.interpret p)).HasNoGuards
  | guarded .. => False
  | unused _ _ body => body.HasNoGuards
  | suchThat _ sampler _ body => ∀ p, (body (sampler.interpret p)).HasNoGuards
  | forAllTypes _ family => (family .integer).HasNoGuards ∧ (family .string).HasNoGuards
  | preparing _ body => body.HasNoGuards

/-- No quantifier stands under a negation or in an equivalence, whose test denies its parts as well. -/
def DeniesNoQuantifier : Statement σ → Prop
  | atom _ => True
  | not p => p.IsQuantifierFree
  | and p q => p.DeniesNoQuantifier ∧ q.DeniesNoQuantifier
  | or p q => p.DeniesNoQuantifier ∧ q.DeniesNoQuantifier
  | iff p q => p.IsQuantifierFree ∧ q.IsQuantifierFree
  | forAll _ sampler body => ∀ p, (body (sampler.interpret p)).DeniesNoQuantifier
  | guarded _ holds body => holds = true → body.DeniesNoQuantifier
  | unused _ _ body => body.DeniesNoQuantifier
  | suchThat _ sampler _ body => ∀ p, (body (sampler.interpret p)).DeniesNoQuantifier
  | forAllTypes _ family => (family .integer).DeniesNoQuantifier ∧ (family .string).DeniesNoQuantifier
  | preparing _ body => body.DeniesNoQuantifier

variable (trace : TraceToggles) (minimize : Bool)

/-- Without quantifiers and guards, a test says whether the statement holds.  Its atoms may answer differently
    each time that they are decided. -/
theorem known_run {p : Statement σ} (hguards : p.HasNoGuards) (hfree : p.IsQuantifierFree) (s : Session σ) :
    (p.run trace minimize s).1.Known := by
  induction p generalizing s with
  | atom a =>
    rw [run_atom_apply]
    cases (a.holds s.world).1 with
    | true => exact ⟨true, .yes _ _⟩
    | false => exact ⟨false, .no _ _⟩
  | not p ih => exact (ih hguards hfree s).negate p.text
  | and p q ihp ihq => exact (ihp hguards.1 hfree.1 s).and (ihq hguards.2 hfree.2 _)
  | or p q ihp ihq =>
    exact forall_run_or (ihp hguards.1 hfree.1) (ihq hguards.2 hfree.2) (fun _ _ => .or) s
  | iff p q ihp ihq =>
    have hp := ihp hguards.1 hfree.1
    have hq := ihq hguards.2 hfree.2
    -- The equivalence is tested as both or neither, and both of these are known.
    have hboth (t : Session σ) : ((p.and q).run trace minimize t).1.Known := (hp t).and (hq _)
    have hneither (t : Session σ) : ((p.not.and q.not).run trace minimize t).1.Known :=
      ((hp t).negate p.text).and ((hq _).negate q.text)
    rw [run_iff_apply]
    exact .across_equivalence (forall_run_or hboth hneither (fun _ _ => .or) s) iffRule
  -- A guard may fail, so it has been excluded.
  | guarded => exact hguards.elim
  | unused var witness body ih =>
    exact (((ih hguards hfree _).across_identity).labelled _).across_equivalence _
  | preparing change body ih => exact ih hguards hfree _
  | forAll | suchThat | forAllTypes => exact hfree.elim

/-- Without guards and denied quantifiers, a test does not give up. -/
theorem run_ne_gaveUp {p : Statement σ} (hguards : p.HasNoGuards) (hdenies : p.DeniesNoQuantifier)
    (s : Session σ) : (p.run trace minimize s).1 ≠ .gaveUp := by
  induction p generalizing minimize s with
  | atom => exact (known_run trace minimize hguards trivial s).ne_gaveUp
  | not p => exact (known_run trace minimize (p := p.not) hguards hdenies s).ne_gaveUp
  | iff p q => exact (known_run trace minimize (p := p.iff q) hguards hdenies s).ne_gaveUp
  | and p q ihp ihq =>
    exact Outcome.and_ne_gaveUp (ihp minimize hguards.1 hdenies.1 s) (ihq minimize hguards.2 hdenies.2 _)
  | or p q ihp ihq =>
    exact forall_run_or (P := (· ≠ .gaveUp)) (ihp minimize hguards.1 hdenies.1)
      (ihq minimize hguards.2 hdenies.2) (fun _ _ => Outcome.or_ne_gaveUp) s
  | forAll var sampler body ih =>
    -- The outcome is that of some test of the body, with or without a search.
    obtain ⟨p, m, t, n, -, hrun⟩ := exists_visits_testBound trace var sampler
      (fun a m => (body a).run trace m) minimize s
    rw [run_forAll_apply, hrun]
    exact Outcome.annotate_ne_gaveUp (Outcome.addShrinks_ne_gaveUp (ih _ m (hguards p) (hdenies p) t) (.ofNat n)) _ _
  | guarded => exact hguards.elim
  | unused var witness body ih =>
    exact Outcome.across_ne_gaveUp (Outcome.annotate_ne_gaveUp (ih minimize hguards hdenies _) _ _) _
  | suchThat var sampler guard body ih =>
    obtain ⟨p, m, t, n, -, hrun⟩ := exists_visits_testBound trace var sampler
      (subtypeBody trace guard body) minimize s
    rw [run_suchThat_apply]
    dsimp only
    rw [hrun]
    have hbody : (subtypeBody trace guard body (sampler.interpret p) m t).1 ≠ .gaveUp :=
      Outcome.annotate_ne_gaveUp (ih _ m (hguards p) (hdenies p) t) _ _
    exact Outcome.across_ne_gaveUp
      (Outcome.annotate_ne_gaveUp (Outcome.addShrinks_ne_gaveUp hbody (.ofNat n)) _ _) _
  | forAllTypes var family ih =>
    exact forall_run_forAllTypes (P := (· ≠ .gaveUp))
      (fun t => Outcome.annotate_ne_gaveUp (ih .integer minimize hguards.1 hdenies.1 t) _ _)
      (fun t => Outcome.annotate_ne_gaveUp (ih .string minimize hguards.2 hdenies.2 t) _ _)
      (fun _ _ => Outcome.and_ne_gaveUp) s
  | preparing change body ih => exact ih minimize hguards hdenies _

end Statement

/-! ## Suites -/

namespace Suite

variable {now : StateM τ Timestamp} {cfg : Config} {p : Statement σ} {s : Session σ} {h : τ}

/-- If no test gives up, no trial does. -/
theorem outcome_ne_gaveUp (hrun : ∀ s, (p.run cfg.trace true s).1 ≠ .gaveUp) :
    ∀ t ∈ (Suite.run now cfg p s h).1.1.trials, t.outcome ≠ .gaveUp :=
  forall_mem_run now cfg p (Q := (· ≠ .gaveUp)) hrun s h

/-- If no test gives up, the count of those that did is zero. -/
theorem gaveUp_eq_zero (hrun : ∀ s, (p.run cfg.trace true s).1 ≠ .gaveUp) :
    (Suite.run now cfg p s h).1.1.gaveUp = 0 := by
  refine Array.countP_eq_zero.2 fun t ht hstatus => ?_
  exact outcome_ne_gaveUp hrun t ht (Outcome.status_eq_gaveUp_iff.1 (of_decide_eq_true hstatus))

end Suite

/-! ## Checks -/

section

variable {host : Host (StateM τ)} {cfg : Config} {p : Statement σ} {world : σ} {h : τ}

/-- A check with trials that finds no counterexample and can write its record ends with the summary of a report
    without a failure. -/
theorem check_fst_eq_ok (htrials : cfg.trials ≠ 0)
    (hpassed : ∀ text, (check host cfg p world h).1.1 ≠ .error (.counterexample text))
    (hwritten : ∀ error, error.IsOfLog → (check host cfg p world h).1.1 ≠ .error error) :
    let chosen := seeded host cfg h
    let report := (suiteOf host cfg p world chosen.1 chosen.2).1.1
    report.failure = none ∧ (check host cfg p world h).1.1 = .ok (report.summary chosen.1) := by
  intro chosen report
  -- The check says what its report and its log say; both kinds of fault are ruled out in turn.
  rw [check_fst_eq htrials] at hpassed hwritten ⊢
  cases hfailure : report.failure with
  | some t =>
    rw [show Report.failure _ = _ from hfailure] at hpassed
    exact (hpassed _ rfl).elim
  | none =>
    rw [show Report.failure _ = _ from hfailure] at hwritten
    refine ⟨rfl, ?_⟩
    dsimp only at hwritten ⊢
    split at hwritten
    · rename_i error _ happended
      exact (hwritten error (Observation.raises_append _ _ _ _ _ _ _ happended) rfl).elim
    · rfl

/-- If no test gives up, its summary counts all trials as passed. -/
theorem exists_summary_of_check (hrun : ∀ s, (p.run cfg.trace true s).1 ≠ .gaveUp) (htrials : cfg.trials ≠ 0)
    (hpassed : ∀ text, (check host cfg p world h).1.1 ≠ .error (.counterexample text))
    (hwritten : ∀ error, error.IsOfLog → (check host cfg p world h).1.1 ≠ .error error) :
    ∃ summary, (check host cfg p world h).1.1 = .ok summary ∧ summary.trials = cfg.trials ∧
      summary.passed = cfg.trials ∧ summary.gaveUp = 0 := by
  obtain ⟨hnone, hok⟩ := check_fst_eq_ok htrials hpassed hwritten
  let chosen := seeded host cfg h
  let report := (suiteOf host cfg p world chosen.1 chosen.2).1.1
  have hstops : report.StopsAt cfg.trials.toNat := stopsAt_suiteOf chosen.1
  have hzero : report.gaveUp = 0 := Suite.gaveUp_eq_zero hrun
  obtain ⟨htotal, hpass, hgaveUp, hcounts⟩ := hstops.summary_eq hnone chosen.1
  -- No trial has given up, so the trials that passed make up the total.
  rw [hzero] at hgaveUp hcounts
  exact ⟨_, hok, htotal, UInt64.toNat_inj.1 (hpass.trans hcounts), UInt64.toNat_inj.1 hgaveUp⟩

end

/-- **Nothing is given up without guards.**  No test of a statement without guards and without denied quantifiers
    gives up, whatever its atoms answer and whatever is drawn.  So each trial of a suite is attempted once,
    none gives up, and a check that finds no counterexample and can write its record reports that all trials
    have passed. -/
theorem unguarded_conclusive {p : Statement σ} (hguards : p.HasNoGuards) (hdenies : p.DeniesNoQuantifier) :
    (∀ trace minimize s, (p.run trace minimize s).1 ≠ .gaveUp) ∧
    (∀ (τ : Type) (now : StateM τ Timestamp) (cfg : Config) (s : Session σ) (h : τ),
      let report := (Suite.run now cfg p s h).1.1
      (∀ t ∈ report.trials, t.attempts.toNat = 1 ∧ t.status ≠ .gaveUp) ∧ report.gaveUp = 0) ∧
    ∀ (τ : Type) (host : Host (StateM τ)) (cfg : Config) (world : σ) (h : τ), cfg.trials ≠ 0 →
      let checked := (check host cfg p world h).1.1
      (∀ text, checked ≠ .error (.counterexample text)) → (∀ error, error.IsOfLog → checked ≠ .error error) →
      ∃ summary, checked = .ok summary ∧ summary.trials = cfg.trials ∧ summary.passed = cfg.trials ∧
        summary.gaveUp = 0 := by
  have hrun (trace : TraceToggles) (minimize : Bool) (s : Session σ) :=
    Statement.run_ne_gaveUp trace minimize hguards hdenies s
  refine ⟨hrun, fun τ now cfg s h => ⟨fun t ht => ?_, Suite.gaveUp_eq_zero (hrun cfg.trace true)⟩, ?_⟩
  · obtain ⟨i, hi⟩ := Array.getElem?_of_mem ht
    refine ⟨Suite.attempts_eq_one (hrun cfg.trace true) hi, fun hstatus => ?_⟩
    exact Suite.outcome_ne_gaveUp (hrun cfg.trace true) t ht (Outcome.status_eq_gaveUp_iff.1 hstatus)
  · intro τ host cfg world h htrials checked hpassed hwritten
    exact exists_summary_of_check (hrun cfg.trace true) htrials hpassed hwritten

/-- `(∀ x, ¬on ∨ x = 0) ∧ ∀ α, (∀ y, on) ↔ ¬on`, where the switch that `on` asks for is turned by each look at
    it. -/
theorem unguarded_conclusive_switch :
    let on : Statement Bool := .atom ⟨"on", fun switch => (switch, !switch)⟩
    let p : Statement Bool := .and
      (.forAll "x" .natural fun x => .or on.not (.decided "x = 0" (x == 0)))
      (.forAllTypes "α" fun _ => .iff (.unused "y" "0" on) on.not)
    p.HasNoGuards ∧ p.DeniesNoQuantifier ∧
      (∀ trace minimize s, (p.run trace minimize s).1 ≠ .gaveUp) ∧
      ∀ (cfg : Config) (now : StateM Unit Timestamp) (s : Session Bool),
        (Suite.run now cfg p s ()).1.1.gaveUp = 0 := by
  intro on p
  have hguards : p.HasNoGuards :=
    ⟨fun _ => ⟨trivial, trivial⟩, ⟨trivial, trivial⟩, ⟨trivial, trivial⟩⟩
  have hdenies : p.DeniesNoQuantifier :=
    ⟨fun _ => ⟨trivial, trivial⟩, ⟨trivial, trivial⟩, ⟨trivial, trivial⟩⟩
  obtain ⟨hrun, hsuite, -⟩ := unguarded_conclusive hguards hdenies
  exact ⟨hguards, hdenies, hrun, fun cfg now s => (hsuite Unit now cfg s ()).2⟩

end Falsify
