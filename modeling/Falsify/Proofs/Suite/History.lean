import Falsify.Proofs.Suite.Trials
import Falsify.Proofs.Testing.Frame

/-!
# The history of a suite

Which session each attempt at each trial starts from.  A suite is two nested loops, and its history names
every test that they make: attempt `k` at trial `i` is the test from `attemptAt cfg p start i k`, for a
suite that starts in the session `start`.

## Key results

- `LastAttempt.exists_attempts`: a trial is attempted until it does not give up or its budget is spent.
- `exists_trial`: what a trial records is the outcome of its last attempt.
- `leads_run`: the report of a suite records the trials of its history, and the suite ends where they end.
- `size_attemptAt`: attempts are made at the size of their trial.
-/

namespace Falsify

open Tester

variable {σ τ : Type}

theorem Outcome.isGaveUp_iff {r : Outcome} : r.isGaveUp = true ↔ r = .gaveUp := by
  cases r <;> simp [isGaveUp]

/-- A budget is a word and never zero. -/
theorem Config.budget_bounds (cfg : Config) : 1 ≤ cfg.budget ∧ cfg.budget < UInt64.size := by
  have hretries := cfg.retries.toNat_lt
  unfold budget UInt64.size
  omega

namespace Suite

/-! ## Attempts -/

section

variable (cfg : Config) (p : Statement σ)

/-- The session in which attempt `k` at a trial starts, counted from zero, if the first attempt starts in
    the session `s` and all attempts before `k` give up. -/
def attemptStart (s : Session σ) : Nat → Session σ
  | 0 => s
  | k + 1 => (emit (cfg.trace.discarded && k == 0) (fun _ => .retrying (cfg.budget - 1))
      (p.run cfg.trace true (attemptStart s k)).2).2

/-- Attempt `k` at a trial whose first attempt starts in the session `s`. -/
def attempted (s : Session σ) (k : Nat) : Outcome × Session σ :=
  p.run cfg.trace true (attemptStart cfg p s k)

/-- Attempt `last` is the last one at a trial whose first attempt starts in the session `s`. -/
structure LastAttempt (s : Session σ) (last : Nat) : Prop where
  lt_budget : last < cfg.budget
  gaveUp_of_lt : ∀ k < last, (attempted cfg p s k).1 = .gaveUp
  eq_budget_of_gaveUp : (attempted cfg p s last).1 = .gaveUp → last + 1 = cfg.budget

end

variable {cfg : Config} {p : Statement σ} {s : Session σ}

/-- The line about retries is written after the first attempt only, and then names what is left. -/
theorem attemptStart_succ {left made : Nat} (hbudget : made + left + 2 = cfg.budget) :
    (emit (cfg.trace.discarded && made == 0) (fun _ => .retrying (left + 1))
      (attempted cfg p s made).2).2 = attemptStart cfg p s (made + 1) := by
  -- Only the first attempt is numbered zero, and as many are left after it as the budget allows.
  cases made with
  | zero =>
    rw [attemptStart, show cfg.budget - 1 = left + 1 by omega]
    rfl
  | succ made =>
    rw [attemptStart, show (made + 1 == 0) = false from rfl, Bool.and_false]
    rfl

/-- The attempts from attempt `made` on, if all before it gave up. -/
theorem exists_attempt {left made : Nat} (hbudget : made + left + 1 = cfg.budget)
    (hgaveUp : ∀ k < made, (attempted cfg p s k).1 = .gaveUp) :
    ∃ last, LastAttempt cfg p s last ∧
      attempt cfg.trace p left made (attemptStart cfg p s made) =
        ((last + 1, (attempted cfg p s last).1), (attempted cfg p s last).2) := by
  -- The induction is on the attempts that are left; those made so far have all given up.
  induction left generalizing made with
  | zero => exact ⟨made, ⟨by omega, hgaveUp, fun _ => hbudget⟩, rfl⟩
  | succ left ih =>
    rw [attempt_succ]
    dsimp only
    split
    · rename_i hr
      rw [show (emit _ _ (p.run cfg.trace true (attemptStart cfg p s made)).2).2 = _ from
        attemptStart_succ (by omega)]
      refine ih (by omega) fun k hk => ?_
      rcases Nat.lt_succ_iff_lt_or_eq.1 hk with hlt | rfl
      · exact hgaveUp k hlt
      · exact Outcome.isGaveUp_iff.1 hr
    · rename_i hr
      exact ⟨made, ⟨by omega, hgaveUp, fun h => absurd (Outcome.isGaveUp_iff.2 h) hr⟩, rfl⟩

/-- A trial is attempted until it does not give up or its budget is spent, and ends with the last attempt. -/
theorem LastAttempt.exists_attempts (cfg : Config) (p : Statement σ) (s : Session σ) :
    ∃ last, LastAttempt cfg p s last ∧
      attempts cfg p s = ((last + 1, (attempted cfg p s last).1), (attempted cfg p s last).2) := by
  have hbudget : 0 + (cfg.budget - 1) + 1 = cfg.budget := by
    have := cfg.budget_bounds.1
    omega
  exact exists_attempt hbudget nofun

/-! ## Trials -/

section

variable (cfg : Config) (p : Statement σ)

/-- The session in which the first attempt at a trial starts, if the trial starts in the session `s`. -/
def prepared (index : UInt64) (s : Session σ) : Session σ :=
  (emit cfg.trace.successes (fun _ => .newSample) (resize (sizeOfTrial index cfg.trials cfg.maxSize) s).2).2

/-- The session in which trial `i` of a suite starts, if the suite starts in the session `start`. -/
def trialStart (start : Session σ) : Nat → Session σ
  | 0 => start
  | i + 1 => (trial cfg p (.ofNat i) (trialStart start i)).2

/-- The session in which attempt `k` at trial `i` of a suite starts. -/
def attemptAt (start : Session σ) (i k : Nat) : Session σ :=
  attemptStart cfg p (prepared cfg (.ofNat i) (trialStart cfg p start i)) k

/-- A report and a session are what the trials of a suite that starts in the session `start` lead to. -/
structure Leads (start : Session σ) (report : Report) (s : Session σ) : Prop where
  session : s = trialStart cfg p start report.trials.size
  recorded : ∀ i t, report.trials[i]? = some t →
    ∃ time, t = (trial cfg p (.ofNat i) (trialStart cfg p start i)).1 time

end

/-- A trial is prepared by setting its size. -/
@[simp] theorem size_prepared (cfg : Config) (index : UInt64) (s : Session σ) :
    (prepared cfg index s).gen.size = sizeOfTrial index cfg.trials cfg.maxSize := by
  rw [prepared, toSource_emit]
  rfl

/-- What a trial records is the outcome of its last attempt, and it ends where that attempt ends. -/
theorem exists_trial (cfg : Config) (p : Statement σ) (index : UInt64) (s : Session σ) :
    ∃ last, LastAttempt cfg p (prepared cfg index s) last ∧
      trial cfg p index s =
        (fun finishedAt =>
          { index, size := sizeOfTrial index cfg.trials cfg.maxSize, attempts := .ofNat (last + 1),
            outcome := (attempted cfg p (prepared cfg index s) last).1, finishedAt },
          (attempted cfg p (prepared cfg index s) last).2) := by
  -- A trial is its attempts, from the session that has been prepared for it.
  obtain ⟨last, hlast, hrun⟩ := LastAttempt.exists_attempts cfg p (prepared cfg index s)
  have htrial : trial cfg p index s =
      (fun finishedAt =>
        { index, size := sizeOfTrial index cfg.trials cfg.maxSize,
          attempts := .ofNat (attempts cfg p (prepared cfg index s)).1.1,
          outcome := (attempts cfg p (prepared cfg index s)).1.2, finishedAt },
        (attempts cfg p (prepared cfg index s)).2) := rfl
  refine ⟨last, hlast, ?_⟩
  rw [htrial, hrun]

/-- What holds of the trials so far holds of them and one more. -/
theorem Leads.push {start s : Session σ} {report : Report} (h : Leads cfg p start report s)
    (time : Timestamp) :
    Leads cfg p start ⟨report.trials.push ((trial cfg p (.ofNat report.trials.size) s).1 time)⟩
      (trial cfg p (.ofNat report.trials.size) s).2 := by
  constructor
  · show _ = trialStart cfg p start (report.trials.push _).size
    rw [Array.size_push, trialStart, h.session]
  · intro i t ht
    rw [Array.getElem?_push] at ht
    split at ht
    · -- The trial that is pushed comes last, and it started where the history has led to.
      rename_i hi
      obtain rfl := Option.some.inj ht
      refine ⟨time, ?_⟩
      rw [hi, ← h.session]
    · exact h.recorded i t ht

section

variable (now : StateM τ Timestamp)

/-- The trials of a suite go on as they have begun. -/
theorem leads_trialsFrom {start s : Session σ} {report : Report} (left : Nat) (h : τ)
    (hleads : Leads cfg p start report s) :
    Leads cfg p start (trialsFrom now cfg p left report s h).1.1
      (trialsFrom now cfg p left report s h).1.2 := by
  -- The suite may stop after any trial, so the history is kept for the report so far, not for the whole schedule.
  induction left generalizing report s h with
  | zero => exact hleads
  | succ left ih =>
    rw [trialsFrom_succ]
    dsimp only
    split
    · exact hleads.push _
    · exact ih _ (hleads.push _)

/-- The report of a suite records the trials of its history, and the suite ends where they end. -/
theorem leads_run (cfg : Config) (p : Statement σ) (s : Session σ) (h : τ) :
    Leads cfg p s (Suite.run now cfg p s h).1.1 (Suite.run now cfg p s h).1.2 :=
  leads_trialsFrom now _ h ⟨rfl, nofun⟩

end

/-! ## Sizes -/

/-- Every attempt at a trial starts under the size of the first one, if the samplers leave it alone. -/
theorem size_attemptStart (hp : p.KeepsSize) (cfg : Config) (s : Session σ) (k : Nat) :
    (attemptStart cfg p s k).gen.size = s.gen.size := by
  induction k with
  | zero => rfl
  | succ k ih =>
    -- The next attempt starts at the size that the test has left, which is the one it was made at.
    rw [attemptStart, toSource_emit, p.size_run hp]
    exact ih

/-- Every attempt at a trial is made at the size of the trial, if the samplers leave the size alone. -/
theorem size_attemptAt (hp : p.KeepsSize) (cfg : Config) (start : Session σ) (i k : Nat) :
    (attemptAt cfg p start i k).gen.size = sizeOfTrial (.ofNat i) cfg.trials cfg.maxSize := by
  rw [attemptAt, size_attemptStart hp, size_prepared]

end Suite

end Falsify
