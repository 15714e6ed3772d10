import Falsify.Proofs.Suite.Invariant
import Falsify.Proofs.Suite.Reporting

/-!
# Larger budgets for retries

Two suites that differ only in how often a trial may be attempted.  Attempts come one after the other from the
same sources in both, so the suites part ways at the first trial that spends the smaller budget, and not before.
The line about retries names the budget, so only sources are compared here and not traces.

## Key results

- `LastAttempt.le_of_budget_le`: a trial under a larger budget is attempted at least as often.
- `LastAttempt.eq_of_ne_gaveUp`: it is attempted just as often if it does not give up under the smaller one.
- `toSource_trialStart_withRetries`: trials start from the same source while none has given up.
- `timed_run`: the clock is read once after each trial.
- `retries_beyond_need_irrelevant`: the whole comparison of two suites.
-/

namespace Falsify

open Tester

variable {σ τ : Type}

/-- The settings with another number of retries. -/
def Config.withRetries (cfg : Config) (retries : UInt64) : Config := { cfg with retries }

namespace Suite

variable {p : Statement σ} {s t : Session σ}

/-! ## Attempts -/

section

variable {cfg cfg' : Config}

/-- Attempts at a trial start from the same sources, whatever the budgets are. -/
theorem toSource_attemptStart (hst : s.toSource = t.toSource) (k : Nat) :
    (attemptStart cfg p s k).toSource = (attemptStart cfg' p t k).toSource := by
  induction k with
  | zero => exact hst
  | succ k ih =>
    simp only [attemptStart, toSource_emit]
    exact (p.sameButTrace_run cfg.trace cfg'.trace true _ _ ih).2

/-- Attempts at a trial have the same outcomes and lead to the same sources, whatever the budgets are. -/
theorem attempted_eq (cfg cfg' : Config) (p : Statement σ) (hst : s.toSource = t.toSource) (k : Nat) :
    (attempted cfg p s k).1 = (attempted cfg' p t k).1 ∧
      (attempted cfg p s k).2.toSource = (attempted cfg' p t k).2.toSource :=
  p.sameButTrace_run cfg.trace cfg'.trace true _ _ (toSource_attemptStart hst k)

namespace LastAttempt

variable {last last' : Nat}

/-- Under a larger budget, a trial is attempted at least as often. -/
theorem le_of_budget_le (h : LastAttempt cfg p s last) (h' : LastAttempt cfg' p t last')
    (hst : s.toSource = t.toSource) (hbudget : cfg.budget ≤ cfg'.budget) : last ≤ last' := by
  rcases Nat.lt_or_ge last' last with hlt | hge
  · -- Attempt `last'` gives up under the smaller budget too, so it would have spent all of the larger one.
    have hgaveUp : (attempted cfg' p t last').1 = .gaveUp := by
      rw [← (attempted_eq cfg cfg' p hst last').1]
      exact h.gaveUp_of_lt last' hlt
    have hspent := h'.eq_budget_of_gaveUp hgaveUp
    have hlast := h.lt_budget
    omega
  · exact hge

/-- A trial that does not give up is attempted just as often under a larger budget. -/
theorem eq_of_ne_gaveUp (h : LastAttempt cfg p s last) (h' : LastAttempt cfg' p t last')
    (hst : s.toSource = t.toSource) (hbudget : cfg.budget ≤ cfg'.budget)
    (hne : (attempted cfg p s last).1 ≠ .gaveUp) : last' = last := by
  have hle := h.le_of_budget_le h' hst hbudget
  rcases Nat.eq_or_lt_of_le hle with heq | hlt
  · exact heq.symm
  · -- A later last attempt would mean that this one had given up under the larger budget.
    have hgaveUp := h'.gaveUp_of_lt last hlt
    rw [← (attempted_eq cfg cfg' p hst last).1] at hgaveUp
    exact absurd hgaveUp hne

/-- A trial that gives up is attempted more often under a budget that is really larger. -/
theorem lt_of_gaveUp (h : LastAttempt cfg p s last) (h' : LastAttempt cfg' p t last')
    (hst : s.toSource = t.toSource) (hbudget : cfg.budget < cfg'.budget)
    (hgaveUp : (attempted cfg p s last).1 = .gaveUp) : last < last' := by
  have hle := h.le_of_budget_le h' hst (Nat.le_of_lt hbudget)
  rcases Nat.eq_or_lt_of_le hle with rfl | hlt
  · -- One attempt cannot be the last one under both budgets, as it would have spent both of them.
    have hspent := h.eq_budget_of_gaveUp hgaveUp
    rw [(attempted_eq cfg cfg' p hst last).1] at hgaveUp
    have hspent' := h'.eq_budget_of_gaveUp hgaveUp
    omega
  · exact hlt

end LastAttempt

end

/-! ## Trials -/

variable {cfg : Config} {retries : UInt64}

/-- Trials are prepared alike under any number of retries. -/
theorem toSource_prepared (hst : s.toSource = t.toSource) (index : UInt64) :
    (prepared cfg index s).toSource = (prepared (cfg.withRetries retries) index t).toSource := by
  simp only [prepared, toSource_emit]
  exact (SameButTrace.resize _ s t hst).2

/-- A trial that does not give up is the same trial under a larger budget. -/
theorem trial_withRetries (hbudget : cfg.budget ≤ (cfg.withRetries retries).budget)
    (hst : s.toSource = t.toSource) {index : UInt64} {time : Timestamp}
    (hne : ((trial cfg p index s).1 time).outcome ≠ .gaveUp) :
    (trial cfg p index s).1 = (trial (cfg.withRetries retries) p index t).1 ∧
      (trial cfg p index s).2.toSource = (trial (cfg.withRetries retries) p index t).2.toSource := by
  -- Both stop at the first attempt that does not give up, and the smaller budget has reached it.
  obtain ⟨last, hlast, htrial⟩ := exists_trial cfg p index s
  obtain ⟨last', hlast', htrial'⟩ := exists_trial (cfg.withRetries retries) p index t
  have hprepared : (prepared cfg index s).toSource = (prepared (cfg.withRetries retries) index t).toSource :=
    toSource_prepared hst index
  rw [htrial] at hne
  obtain rfl := hlast.eq_of_ne_gaveUp hlast' hprepared hbudget hne
  obtain ⟨houtcome, hsource⟩ := attempted_eq cfg (cfg.withRetries retries) p hprepared last'
  rw [htrial, htrial']
  dsimp only
  rw [houtcome]
  exact ⟨rfl, hsource⟩

/-- Trials start from the same source as long as none has given up. -/
theorem toSource_trialStart_withRetries (hbudget : cfg.budget ≤ (cfg.withRetries retries).budget) {i : Nat}
    (hne : ∀ j < i, ∃ time, ((trial cfg p (.ofNat j) (trialStart cfg p s j)).1 time).outcome ≠ .gaveUp) :
    (trialStart cfg p s i).toSource = (trialStart (cfg.withRetries retries) p s i).toSource := by
  induction i with
  | zero => rfl
  | succ i ih =>
    -- A trial that has not given up has made the same attempts under both budgets.
    obtain ⟨time, hlast⟩ := hne i (Nat.lt_succ_self i)
    have hstart := ih fun j hj => hne j (Nat.lt_succ_of_lt hj)
    exact (trial_withRetries hbudget hstart hlast).2

/-! ## The clock -/

/-- The state of a clock after it has been read so many times. -/
def clockAfter (now : StateM τ Timestamp) (h : τ) : Nat → τ
  | 0 => h
  | i + 1 => (now (clockAfter now h i)).2

/-- The trials of a report are marked with what a clock shows when it is read once after each of them. -/
structure Timed (now : StateM τ Timestamp) (start : τ) (report : Report) (h : τ) : Prop where
  clock : h = clockAfter now start report.trials.size
  finishedAt : ∀ i t, report.trials[i]? = some t → t.finishedAt = (now (clockAfter now start i)).1

/-- A trial that ends at the time that the clock shows next keeps a report timed. -/
theorem Timed.push {now : StateM τ Timestamp} {start h : τ} {report : Report} (hr : Timed now start report h)
    {t : Trial} (ht : t.finishedAt = (now h).1) : Timed now start ⟨report.trials.push t⟩ (now h).2 := by
  constructor
  · simp only [Array.size_push, clockAfter]
    rw [← hr.clock]
  · intro i u hu
    rw [Array.getElem?_push] at hu
    split at hu
    · rename_i hi
      obtain rfl := Option.some.inj hu
      rw [hi, ← hr.clock, ht]
    · exact hr.finishedAt i u hu

/-- The clock is read once after each trial. -/
theorem timed_trialsFrom (now : StateM τ Timestamp) (cfg : Config) (p : Statement σ) {start h : τ} (left : Nat)
    (report : Report) (s : Session σ) (hr : Timed now start report h) :
    Timed now start (trialsFrom now cfg p left report s h).1.1 (trialsFrom now cfg p left report s h).2 := by
  induction left generalizing report s h with
  | zero => exact hr
  | succ left ih =>
    rw [trialsFrom_succ]
    dsimp only
    split
    · exact hr.push rfl
    · exact ih _ _ (hr.push rfl)

/-- The trials of a suite end at the times that its clock shows, one after the other. -/
theorem timed_run (now : StateM τ Timestamp) (cfg : Config) (p : Statement σ) (s : Session σ) (h : τ) :
    Timed now h (Suite.run now cfg p s h).1.1 (Suite.run now cfg p s h).2 :=
  timed_trialsFrom now cfg p _ {} s ⟨rfl, nofun⟩

end Suite

/-! ## Suites -/

namespace Report

/-- None of the first `n` trials gave up. -/
def NoneGaveUp (r : Report) (n : Nat) : Prop :=
  ∀ i < n, ∀ t, r.trials[i]? = some t → t.outcome ≠ .gaveUp

/-- Of two suites that stop at the first failure, one gets as far as the other one as long as their trials have
    the same outcomes. -/
theorem StopsAt.lt_size {n i : Nat} {r r' : Report} (h : r.StopsAt n) (h' : r'.StopsAt n)
    (hi : i < r.trials.size)
    (hsame : ∀ j < i, ∀ t t', r.trials[j]? = some t → r'.trials[j]? = some t' → t'.outcome = t.outcome) :
    i < r'.trials.size := by
  have hn := h.size_le
  rcases Nat.lt_or_ge i r'.trials.size with hlt | hge
  · exact hlt
  · -- It would have stopped at a failure, where the other one has seen the same failure and gone on.
    obtain ⟨t', hback, hfail⟩ := h'.isFailure_of_lt (by omega)
    rw [Array.back?] at hback
    have hpos := (Array.getElem?_eq_some_iff.1 hback).1
    have hlt : r'.trials.size - 1 < r.trials.size := by omega
    have ht := Array.getElem?_eq_getElem hlt
    rw [hsame _ (by omega) _ _ ht hback] at hfail
    have hlast := h.eq_last_of_isFailure _ _ ht hfail
    omega

end Report

namespace Suite

variable {now : StateM τ Timestamp} {h h' : τ}

/-- The next trial starts from the same source if none of those recorded before it gave up. -/
theorem toSource_trialStart_of_noneGaveUp (hbudget : cfg.budget ≤ (cfg.withRetries retries).budget) {i : Nat}
    (hi : i ≤ (Suite.run now cfg p s h).1.1.trials.size) (hnone : (Suite.run now cfg p s h).1.1.NoneGaveUp i) :
    (trialStart cfg p s i).toSource = (trialStart (cfg.withRetries retries) p s i).toSource := by
  refine toSource_trialStart_withRetries hbudget fun j hj => ?_
  have hlt : j < (Suite.run now cfg p s h).1.1.trials.size := by omega
  have hu := Array.getElem?_eq_getElem hlt
  -- The trials on record are those of the history, which tells what they started from.
  obtain ⟨time, heq⟩ := (leads_run now cfg p s h).recorded j _ hu
  refine ⟨time, ?_⟩
  rw [← heq]
  exact hnone j hj _ hu

/-- Trials that both suites have run are the same but for their times, if none has given up so far. -/
theorem eq_of_noneGaveUp (hbudget : cfg.budget ≤ (cfg.withRetries retries).budget) {i : Nat} {t t' : Trial}
    (ht : (Suite.run now cfg p s h).1.1.trials[i]? = some t)
    (ht' : (Suite.run now (cfg.withRetries retries) p s h').1.1.trials[i]? = some t')
    (hnone : (Suite.run now cfg p s h).1.1.NoneGaveUp (i + 1)) :
    t' = { t with finishedAt := t'.finishedAt } := by
  have hi := (Array.getElem?_eq_some_iff.1 ht).1
  -- The trials before have not given up, so this one starts from the same generator.
  have hstart := toSource_trialStart_of_noneGaveUp hbudget (Nat.le_of_lt hi)
    fun j hj => hnone j (Nat.lt_succ_of_lt hj)
  have hne := hnone i (Nat.lt_succ_self i) t ht
  obtain ⟨time, rfl⟩ := (leads_run now cfg p s h).recorded i t ht
  obtain ⟨time', rfl⟩ := (leads_run now (cfg.withRetries retries) p s h').recorded i t' ht'
  rw [← (trial_withRetries hbudget hstart hne).1]
  rfl

/-- The suite with the larger budget gets to the first trial that gives up under the smaller one. -/
theorem exists_getElem?_withRetries (h' : τ) (hbudget : cfg.budget ≤ (cfg.withRetries retries).budget) {i : Nat}
    {t : Trial} (ht : (Suite.run now cfg p s h).1.1.trials[i]? = some t)
    (hnone : (Suite.run now cfg p s h).1.1.NoneGaveUp i) :
    ∃ t', (Suite.run now (cfg.withRetries retries) p s h').1.1.trials[i]? = some t' := by
  have hstops := stopsAt_run now cfg p s h
  have hstops' := stopsAt_run now (cfg.withRetries retries) p s h'
  have hi := (Array.getElem?_eq_some_iff.1 ht).1
  refine ⟨_, Array.getElem?_eq_getElem (hstops.lt_size hstops' hi fun j hj u u' hu hu' => ?_)⟩
  rw [eq_of_noneGaveUp hbudget hu hu' fun k hk => hnone k (by omega)]

/-- The two suites run equally many trials if none gives up. -/
theorem size_withRetries (hbudget : cfg.budget ≤ (cfg.withRetries retries).budget)
    (hnone : (Suite.run now cfg p s h).1.1.NoneGaveUp (Suite.run now cfg p s h).1.1.trials.size) :
    (Suite.run now (cfg.withRetries retries) p s h').1.1.trials.size =
      (Suite.run now cfg p s h).1.1.trials.size := by
  have hstops := stopsAt_run now cfg p s h
  have hstops' := stopsAt_run now (cfg.withRetries retries) p s h'
  -- Trial for trial the outcomes agree, so neither suite can stop before the other.
  have hsame : ∀ (j : Nat) (t t' : Trial), (Suite.run now cfg p s h).1.1.trials[j]? = some t →
      (Suite.run now (cfg.withRetries retries) p s h').1.1.trials[j]? = some t' → t'.outcome = t.outcome := by
    intro j t t' ht ht'
    have hj := (Array.getElem?_eq_some_iff.1 ht).1
    rw [eq_of_noneGaveUp hbudget ht ht' fun k hk => hnone k (by omega)]
  apply Nat.le_antisymm
  · refine Nat.le_of_not_lt fun hlt => Nat.lt_irrefl _ (hstops'.lt_size hstops hlt fun j _ t' t ht' ht => ?_)
    exact (hsame j t t' ht ht').symm
  · refine Nat.le_of_not_lt fun hlt => Nat.lt_irrefl _ (hstops.lt_size hstops' hlt fun j _ t t' ht ht' => ?_)
    exact hsame j t t' ht ht'

/-- The number of attempts on record tells which attempt was the last one. -/
theorem Records.lastAttempt {cfg : Config} {start : Session σ} {i : Nat} {t : Trial}
    (h : Records cfg p start i t) :
    LastAttempt cfg p (prepared cfg (.ofNat i) (trialStart cfg p start i)) (t.attempts.toNat - 1) := by
  have hpos := h.attempts_pos
  have hle := h.attempts_le
  refine ⟨by omega, h.gaveUp, fun hgaveUp => ?_⟩
  -- A last attempt that gave up is the one at which the budget ran out.
  have hspent := h.attempts_of_gaveUp (h.outcome.trans hgaveUp)
  omega

/-- The first trial that gives up under the smaller budget has spent it, and all of these attempts are made under
    the larger one as well. -/
theorem exists_attempts_withRetries (hbudget : cfg.budget ≤ (cfg.withRetries retries).budget) {i : Nat} {t : Trial}
    (ht : (Suite.run now cfg p s h).1.1.trials[i]? = some t) (hgaveUp : t.outcome = .gaveUp)
    (hnone : (Suite.run now cfg p s h).1.1.NoneGaveUp i) :
    ∃ t', (Suite.run now (cfg.withRetries retries) p s h').1.1.trials[i]? = some t' ∧
      t'.index = t.index ∧ t'.size = t.size ∧ t.attempts.toNat = cfg.budget ∧
      cfg.budget ≤ t'.attempts.toNat ∧
      (∀ k < cfg.budget,
        (p.run cfg.trace true (attemptAt (cfg.withRetries retries) p s i k)).1 = .gaveUp) ∧
      (cfg.budget < (cfg.withRetries retries).budget → cfg.budget < t'.attempts.toNat) := by
  have hi := (Array.getElem?_eq_some_iff.1 ht).1
  obtain ⟨t', ht'⟩ := exists_getElem?_withRetries h' hbudget ht hnone
  have hrec := records_run now cfg p s h ht
  have hrec' := records_run now (cfg.withRetries retries) p s h' ht'
  have hspent := hrec.attempts_of_gaveUp hgaveUp
  have hpos := hrec.attempts_pos
  have hpos' := hrec'.attempts_pos
  have hindex : t'.index = t.index := UInt64.toNat_inj.1 (hrec'.index.trans hrec.index.symm)
  have hstart : (prepared cfg (.ofNat i) (trialStart cfg p s i)).toSource =
      (prepared (cfg.withRetries retries) (.ofNat i) (trialStart (cfg.withRetries retries) p s i)).toSource :=
    toSource_prepared (toSource_trialStart_of_noneGaveUp hbudget (Nat.le_of_lt hi) hnone) (.ofNat i)
  have hle := hrec.lastAttempt.le_of_budget_le hrec'.lastAttempt hstart hbudget
  have hlast : (attempted cfg p (prepared cfg (.ofNat i) (trialStart cfg p s i)) (t.attempts.toNat - 1)).1 =
      .gaveUp := hrec.outcome.symm.trans hgaveUp
  refine ⟨t', ht', hindex, ?_, hspent, by omega, fun k hk => ?_, fun hlt => ?_⟩
  · rw [hrec'.size, hrec.size, hindex]
    rfl
  · -- The attempts before the last one have given up, and so has the last one.
    refine (attempted_eq cfg (cfg.withRetries retries) p hstart k).1.symm.trans ?_
    rcases Nat.lt_or_ge k (t.attempts.toNat - 1) with hbefore | hge
    · exact hrec.gaveUp k hbefore
    · obtain rfl : k = t.attempts.toNat - 1 := by omega
      exact hlast
  · have hmore := hrec.lastAttempt.lt_of_gaveUp hrec'.lastAttempt hstart hlt hlast
    omega

/-- **Retries beyond need change nothing.**  Two suites that differ in their budgets for retries alone run the same
    trials until one gives up under the smaller budget, but for the times that their clocks show; if none does, they
    leave the same report and the same source.  Where the first one gives up, all attempts that it has made are made
    under the larger budget too, with more of them if that is really larger. -/
theorem retries_beyond_need_irrelevant (now : StateM τ Timestamp) {cfg : Config} {retries : UInt64}
    (hbudget : max 1 cfg.retries.toNat ≤ max 1 retries.toNat) (p : Statement σ) (s : Session σ) (h h' : τ) :
    let cfg' := cfg.withRetries retries
    let ran := Suite.run now cfg p s h
    let ran' := Suite.run now cfg' p s h'
    (∀ i t, ran.1.1.trials[i]? = some t → ran.1.1.NoneGaveUp (i + 1) →
      ∃ time, ran'.1.1.trials[i]? = some { t with finishedAt := time } ∧ (h' = h → time = t.finishedAt)) ∧
    (ran.1.1.NoneGaveUp ran.1.1.trials.size →
      ran'.1.1.trials.size = ran.1.1.trials.size ∧ ran'.1.2.toSource = ran.1.2.toSource ∧
      (h' = h → ran'.1.1 = ran.1.1 ∧ ran'.2 = ran.2)) ∧
    (∀ i t, ran.1.1.trials[i]? = some t → t.outcome = .gaveUp → ran.1.1.NoneGaveUp i →
      ∃ t', ran'.1.1.trials[i]? = some t' ∧ t'.index = t.index ∧ t'.size = t.size ∧
        t.attempts.toNat = cfg.budget ∧ cfg.budget ≤ t'.attempts.toNat ∧
        (∀ k < cfg.budget, (p.run cfg.trace true (attemptAt cfg' p s i k)).1 = .gaveUp) ∧
        (cfg.budget < cfg'.budget → cfg.budget < t'.attempts.toNat)) := by
  intro cfg' ran ran'
  have htimed := timed_run now cfg p s h
  have htimed' := timed_run now cfg' p s h'
  -- The trials before the first that gives up agree but for their times, and with the same clock in these too.
  have htrial : ∀ i t, ran.1.1.trials[i]? = some t → ran.1.1.NoneGaveUp (i + 1) →
      ∃ time, ran'.1.1.trials[i]? = some { t with finishedAt := time } ∧
        (h' = h → time = t.finishedAt) := by
    intro i t ht hnone
    obtain ⟨t', ht'⟩ := exists_getElem?_withRetries h' hbudget ht fun j hj => hnone j (by omega)
    refine ⟨t'.finishedAt, ?_, ?_⟩
    · rw [← eq_of_noneGaveUp hbudget ht ht' hnone]
      exact ht'
    · rintro rfl
      rw [htimed.finishedAt i t ht, htimed'.finishedAt i t' ht']
  refine ⟨htrial, fun hnone => ?_, fun i t ht hgaveUp hnone => ?_⟩
  · have hsize : ran'.1.1.trials.size = ran.1.1.trials.size := size_withRetries hbudget hnone
    refine ⟨hsize, ?_, ?_⟩
    · -- As many trials lead to the same session.
      rw [(leads_run now cfg p s h).session, (leads_run now cfg' p s h').session, hsize]
      exact (toSource_trialStart_of_noneGaveUp hbudget (Nat.le_refl _) hnone).symm
    · rintro rfl
      have htrials : ran'.1.1.trials = ran.1.1.trials := by
        refine Array.ext hsize fun i hi' hi => ?_
        have ht := Array.getElem?_eq_getElem hi
        obtain ⟨time, ht', htime⟩ := htrial i _ ht fun j hj => hnone j (by omega)
        rw [htime rfl, Array.getElem?_eq_getElem hi'] at ht'
        exact Option.some.inj ht'
      refine ⟨congrArg Report.mk htrials, ?_⟩
      rw [htimed.clock, htimed'.clock, hsize]
  · exact exists_attempts_withRetries hbudget ht hgaveUp hnone

/-- A switch that is turned by each look at it, and a guard that never holds: the statement gives up whenever the
    switch is off.  Of two trials the second one gives up with a single attempt, and is attempted again if it may be
    attempted three times. -/
theorem retries_beyond_need_irrelevant_switch :
    let p : Statement Bool :=
      .or (.atom ⟨"on", fun on => (on, !on)⟩) (.guarded "1 < 0" false (.decided "2 < 1" false))
    let cfg : Config := { trials := 2, retries := 1 }
    let start : Session Bool := { gen := .ofSeed 7, world := true }
    let ran := Suite.run (pure default : StateM Unit Timestamp) cfg p start ()
    let ran' := Suite.run (pure default : StateM Unit Timestamp) (cfg.withRetries 3) p start ()
    max 1 cfg.retries.toNat ≤ max 1 (3 : UInt64).toNat ∧
      ran.1.1.NoneGaveUp 1 ∧ ran'.1.1.trials[0]? = ran.1.1.trials[0]? ∧
      (∃ t, ran.1.1.trials[1]? = some t ∧ t.outcome = .gaveUp) ∧
      ∃ t', ran'.1.1.trials[1]? = some t' ∧ 1 < t'.attempts.toNat := by
  intro p cfg start ran ran'
  have hbudget : max 1 cfg.retries.toNat ≤ max 1 (3 : UInt64).toNat := by decide
  obtain ⟨hsame, -, hmore⟩ :=
    retries_beyond_need_irrelevant (pure default : StateM Unit Timestamp) hbudget p start () ()
  have hfirst : ∃ t, ran.1.1.trials[0]? = some t ∧ t.outcome ≠ .gaveUp := ⟨_, rfl, nofun⟩
  have hsecond : ∃ t, ran.1.1.trials[1]? = some t ∧ t.outcome = .gaveUp := ⟨_, rfl, rfl⟩
  obtain ⟨t, ht, hne⟩ := hfirst
  -- Only the second trial gives up: the first one finds the switch on.
  have hnone : ran.1.1.NoneGaveUp 1 := by
    intro i hi u hu
    obtain rfl : i = 0 := by omega
    rw [ht] at hu
    cases hu
    exact hne
  refine ⟨hbudget, hnone, ?_, hsecond, ?_⟩
  · obtain ⟨time, ht', htime⟩ := hsame 0 t ht hnone
    rw [ht', htime rfl, ht]
  · obtain ⟨u, hu, hgaveUp⟩ := hsecond
    obtain ⟨t', ht', -, -, -, -, -, hlt⟩ := hmore 1 u hu hgaveUp hnone
    exact ⟨t', ht', hlt (by decide)⟩

end Suite

end Falsify
