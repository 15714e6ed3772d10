import Falsify.Proofs.Sampler.Size
import Falsify.Proofs.Suite.History

/-!
# The suite invariant

What holds of the report of every suite, whatever outcomes its statement has one after the other: how its
trials are numbered, how often each was attempted and why no more often, which trial can fail, and what the
counts of the report add up to.

## Key results

- `Report.StopsAt`: a report of a suite that stops at the first failure; its failure and its counts.
- `Suite.stopsAt_run`: every suite stops at the first failure, and only there.
- `Suite.report_invariant`: the whole invariant.
-/

namespace Falsify

open Tester

variable {σ τ : Type}

/-- A failure is on record as failed, and nothing else is. -/
@[simp] theorem Outcome.status_eq_failed_iff {r : Outcome} : r.status = .failed ↔ r.isFailure = true := by
  cases r <;> simp [status, isFailure]

theorem Outcome.status_eq_gaveUp_iff {r : Outcome} : r.status = .gaveUp ↔ r = .gaveUp := by
  cases r <;> simp [status]

namespace Report

/-- Every trial is of one kind. -/
theorem passed_add_gaveUp_add_failed (r : Report) :
    r.passed + r.gaveUp + r.count .failed = r.trials.size := by
  unfold passed gaveUp count
  rw [← Array.length_toList]
  simp only [← Array.countP_toList]
  induction r.trials.toList with
  | nil => rfl
  | cons t ts ih =>
    simp only [List.countP_cons, List.length_cons]
    -- A trial counts for exactly one of the three.
    cases t.status <;> simp <;> omega

/-- The report of a suite of at most `n` trials that stops at the first failure. -/
structure StopsAt (n : Nat) (r : Report) : Prop where
  size_le : r.trials.size ≤ n
  eq_last_of_isFailure : ∀ i t, r.trials[i]? = some t → t.outcome.isFailure = true → i + 1 = r.trials.size
  isFailure_of_lt : r.trials.size < n → ∃ t, r.trials.back? = some t ∧ t.outcome.isFailure = true

namespace StopsAt

variable {n : Nat} {r : Report}

/-- A suite of at least one trial runs one. -/
theorem size_pos (h : r.StopsAt n) (hn : 0 < n) : 0 < r.trials.size := by
  rcases Nat.eq_zero_or_pos r.trials.size with hzero | hpos
  · -- With trials left a suite stops only after a failure, and so after a trial.
    obtain ⟨t, ht, -⟩ := h.isFailure_of_lt (hzero ▸ hn)
    rw [Array.eq_empty_of_size_eq_zero hzero] at ht
    cases ht
  · exact hpos

/-- The failure of the report is the trial that failed, wherever one did. -/
theorem failure_eq_some_iff (h : r.StopsAt n) (t : Trial) :
    r.failure = some t ↔ t ∈ r.trials ∧ t.outcome.isFailure = true := by
  refine ⟨mem_of_failure, fun ⟨hmem, hfail⟩ => ?_⟩
  obtain ⟨i, hi⟩ := Array.getElem?_of_mem hmem
  -- A trial that failed is the last one, which is where the report looks for a failure.
  have hlast := h.eq_last_of_isFailure i t hi hfail
  refine Option.filter_eq_some_iff.2 ⟨?_, hfail⟩
  rw [Array.back?, ← hlast]
  exact hi

/-- Only the last trial can have failed. -/
theorem count_failed (h : r.StopsAt n) : r.count .failed = if r.failure.isSome then 1 else 0 := by
  rcases r with ⟨trials⟩
  rcases Nat.eq_zero_or_pos trials.size with hzero | hpos
  · rw [Array.eq_empty_of_size_eq_zero hzero]
    rfl
  · obtain ⟨init, last, rfl⟩ := Array.exists_push_of_size_pos hpos
    -- A failure among the trials before the last would itself be the last.
    have hinit : init.countP (·.status = .failed) = 0 := by
      refine Array.countP_eq_zero.2 fun t ht => ?_
      obtain ⟨i, hi⟩ := Array.getElem?_of_mem ht
      have hlt := (Array.getElem?_eq_some_iff.1 hi).1
      have hlast := h.eq_last_of_isFailure i t
      simp only [Array.getElem?_push, Array.size_push, if_neg (Nat.ne_of_lt hlt)] at hlast
      simp only [decide_eq_true_eq, Trial.status, Outcome.status_eq_failed_iff]
      intro hfail
      have := hlast hi hfail
      omega
    rw [count, failure_push, Array.countP_push, hinit]
    cases hfail : last.outcome.isFailure <;> simp [Trial.status, hfail]

end StopsAt

end Report

namespace Suite

section

variable (now : StateM τ Timestamp) (cfg : Config) (p : Statement σ)

/-- A suite stops at the first failure, if none of the trials before has failed. -/
theorem stopsAt_trialsFrom (left : Nat) (report : Report) (s : Session σ) (h : τ)
    (hreport : ∀ t ∈ report.trials, t.outcome.isFailure = false) :
    (trialsFrom now cfg p left report s h).1.1.StopsAt (report.trials.size + left) := by
  -- None of the trials so far has failed, and the suite goes on only after one that has not either.
  induction left generalizing report s h with
  | zero =>
    refine ⟨Nat.le_refl _, fun i t ht hfail => ?_, fun hlt => absurd hlt (Nat.lt_irrefl _)⟩
    rw [hreport t (Array.mem_of_getElem? ht)] at hfail
    cases hfail
  | succ left ih =>
    rw [trialsFrom_succ]
    dsimp only
    split
    · rename_i hfail
      refine ⟨?_, fun i t ht htfail => ?_, fun _ => ⟨_, Array.back?_push, hfail⟩⟩
      · simp only [Array.size_push]
        omega
      · rw [Array.getElem?_push] at ht
        split at ht
        · rename_i hi
          rw [hi, Array.size_push]
        · rw [hreport t (Array.mem_of_getElem? ht)] at htfail
          cases htfail
    · rename_i hpass
      have hstops := ih
        ⟨report.trials.push ((trial cfg p (.ofNat report.trials.size) s).1 (now h).1)⟩
        (trial cfg p (.ofNat report.trials.size) s).2 (now h).2 fun t ht => by
          rcases Array.mem_push.1 ht with ht | rfl
          · exact hreport t ht
          · exact Bool.eq_false_iff.2 hpass
      rwa [Array.size_push, Nat.add_assoc, Nat.add_comm 1] at hstops

/-- A suite stops at the first failure, and only there. -/
theorem stopsAt_run (s : Session σ) (h : τ) :
    (Suite.run now cfg p s h).1.1.StopsAt cfg.trials.toNat := by
  have hstops := stopsAt_trialsFrom now cfg p cfg.trials.toNat {} s h nofun
  rwa [show ({} : Report).trials.size + cfg.trials.toNat = cfg.trials.toNat from Nat.zero_add _] at hstops

end

/-- What the report of a suite that starts in the session `start` says about the trial with a number. -/
structure Records (cfg : Config) (p : Statement σ) (start : Session σ) (i : Nat) (t : Trial) : Prop where
  index : t.index.toNat = i
  size : t.size = sizeOfTrial t.index cfg.trials cfg.maxSize
  attempts_pos : 1 ≤ t.attempts.toNat
  attempts_le : t.attempts.toNat ≤ cfg.budget
  outcome : t.outcome = (p.run cfg.trace true (attemptAt cfg p start i (t.attempts.toNat - 1))).1
  gaveUp : ∀ k < t.attempts.toNat - 1, (p.run cfg.trace true (attemptAt cfg p start i k)).1 = .gaveUp
  attempts_of_gaveUp : t.outcome = .gaveUp → t.attempts.toNat = cfg.budget

/-- The size of a trial, from its place in the report. -/
theorem Records.size_eq {cfg : Config} {p : Statement σ} {start : Session σ} {i : Nat} {t : Trial}
    (h : Records cfg p start i t) : t.size = sizeOfTrial (.ofNat i) cfg.trials cfg.maxSize := by
  rw [h.size, ← h.index, UInt64.ofNat_toNat]

/-- The report of a suite says of each trial what happened at it. -/
theorem records_run (now : StateM τ Timestamp) (cfg : Config) (p : Statement σ) (s : Session σ) (h : τ)
    {i : Nat} {t : Trial} (ht : (Suite.run now cfg p s h).1.1.trials[i]? = some t) :
    Records cfg p s i t := by
  obtain ⟨time, rfl⟩ := (leads_run now cfg p s h).recorded i t ht
  obtain ⟨last, hlast, htrial⟩ := exists_trial cfg p (.ofNat i) (trialStart cfg p s i)
  have hi : i < cfg.trials.toNat :=
    Nat.lt_of_lt_of_le (Array.getElem?_eq_some_iff.1 ht).1 (stopsAt_run now cfg p s h).size_le
  -- The attempts are counted in a word, and the budget is one, so the count is exact.
  have hattempts : (UInt64.ofNat (last + 1)).toNat = last + 1 := by
    have hlt := hlast.lt_budget
    have hbudget := cfg.budget_bounds.2
    exact UInt64.toNat_ofNat_of_lt' (by omega)
  rw [htrial]
  constructor
  · exact UInt64.toNat_ofNat_of_lt' (Nat.lt_trans hi cfg.trials.toNat_lt)
  · rfl
  · show 1 ≤ (UInt64.ofNat (last + 1)).toNat
    omega
  · show (UInt64.ofNat (last + 1)).toNat ≤ cfg.budget
    rw [hattempts]
    exact hlast.lt_budget
  · show _ = (p.run cfg.trace true (attemptAt cfg p s i ((UInt64.ofNat (last + 1)).toNat - 1))).1
    rw [hattempts]
    rfl
  · show ∀ k < (UInt64.ofNat (last + 1)).toNat - 1, _
    rw [hattempts]
    exact hlast.gaveUp_of_lt
  · intro hgaveUp
    show (UInt64.ofNat (last + 1)).toNat = cfg.budget
    rw [hattempts]
    exact hlast.eq_budget_of_gaveUp hgaveUp

/-- If no test gives up, each trial is attempted once. -/
theorem attempts_eq_one {now : StateM τ Timestamp} {cfg : Config} {p : Statement σ} {s : Session σ} {h : τ}
    (hrun : ∀ s, (p.run cfg.trace true s).1 ≠ .gaveUp) {i : Nat} {t : Trial}
    (ht : (Suite.run now cfg p s h).1.1.trials[i]? = some t) : t.attempts.toNat = 1 := by
  have hrec := records_run now cfg p s h ht
  -- A second attempt would follow on one that gave up.
  refine Nat.le_antisymm (Nat.le_of_not_lt fun hlt => ?_) hrec.attempts_pos
  exact hrun _ (hrec.gaveUp 0 (by omega))

/-- **The suite invariant.**  Trials are numbered in order and run at the sizes of the schedule; each is
    attempted until it does not give up or its budget is spent, and records the last attempt; the suite stops
    at the first failure and only there, and the counts add up.  The attempts are those of the history that
    the suite ends with.

    The first attempt at a trial is made at the size of the trial, and every other one at the size that the
    attempt before it has left.  So all of them are made at the size of the trial, unless a sampler sets
    another. -/
theorem report_invariant (now : StateM τ Timestamp) (cfg : Config) (p : Statement σ) (s : Session σ)
    (h : τ) :
    let report := (Suite.run now cfg p s h).1.1
    report.trials.size ≤ cfg.trials.toNat ∧
    (Suite.run now cfg p s h).1.2 = trialStart cfg p s report.trials.size ∧
    (∀ i t, report.trials[i]? = some t →
      t.index.toNat = i ∧
      t.size = sizeOfTrial t.index cfg.trials cfg.maxSize ∧
      (attemptAt cfg p s i 0).gen.size = t.size ∧
      (∀ k, (attemptAt cfg p s i (k + 1)).gen.size =
        (p.run cfg.trace true (attemptAt cfg p s i k)).2.gen.size) ∧
      (p.KeepsSize → ∀ k < t.attempts.toNat, (attemptAt cfg p s i k).gen.size = t.size) ∧
      1 ≤ t.attempts.toNat ∧ t.attempts.toNat ≤ max 1 cfg.retries.toNat ∧
      t.outcome = (p.run cfg.trace true (attemptAt cfg p s i (t.attempts.toNat - 1))).1 ∧
      (∀ k < t.attempts.toNat - 1, (p.run cfg.trace true (attemptAt cfg p s i k)).1 = .gaveUp) ∧
      (t.status = .gaveUp → t.attempts.toNat = max 1 cfg.retries.toNat) ∧
      (t.status = .failed → i + 1 = report.trials.size)) ∧
    (report.trials.size < cfg.trials.toNat → ∃ t, report.trials.back? = some t ∧ t.status = .failed) ∧
    (∀ t, report.failure = some t ↔ t ∈ report.trials ∧ t.status = .failed) ∧
    report.passed + report.gaveUp + (if report.failure.isSome then 1 else 0) = report.trials.size := by
  have hleads := leads_run now cfg p s h
  have hstops := stopsAt_run now cfg p s h
  refine ⟨hstops.size_le, hleads.session, fun i t ht => ?_, fun hlt => ?_, fun t => ?_, ?_⟩
  · have hrec := records_run now cfg p s h ht
    refine ⟨hrec.index, hrec.size, ?_, fun k => ?_, fun hp k _ => ?_, hrec.attempts_pos, hrec.attempts_le,
      hrec.outcome, hrec.gaveUp, fun hgaveUp => ?_, fun hfail => ?_⟩
    · -- The size is set when the trial is prepared, which the first attempt follows on.
      rw [attemptAt, attemptStart, size_prepared, hrec.size_eq]
    · -- Between two attempts at most a line is written.
      rw [attemptAt, attemptStart, toSource_emit]
      rfl
    · rw [size_attemptAt hp, hrec.size_eq]
    · exact hrec.attempts_of_gaveUp (Outcome.status_eq_gaveUp_iff.1 hgaveUp)
    · exact hstops.eq_last_of_isFailure i t ht (Outcome.status_eq_failed_iff.1 hfail)
  · obtain ⟨t, hback, hfail⟩ := hstops.isFailure_of_lt hlt
    exact ⟨t, hback, Outcome.status_eq_failed_iff.2 hfail⟩
  · rw [hstops.failure_eq_some_iff, Trial.status, Outcome.status_eq_failed_iff]
  · rw [← hstops.count_failed]
    exact Report.passed_add_gaveUp_add_failed _

/-- `∀ x, 0 = 1 → 1 = 1` gives up at each attempt, and the default sampler leaves the size alone, so the first
    of two trials is attempted three times at size 5. -/
theorem report_invariant_kept :
    let p : Statement Unit :=
      .forAllOf .natural "x" fun _ => .guarded "0 = 1" false (.decided "1 = 1" true)
    let cfg : Config := { trials := 2, maxSize := 10, retries := 3 }
    let start : Session Unit := { gen := .ofSeed 0, world := () }
    p.KeepsSize ∧
      ∃ t, (Suite.run (pure default : StateM Unit Timestamp) cfg p start ()).1.1.trials[0]? = some t ∧
        t.size = 5 ∧ t.attempts = 3 ∧ ∀ k < 3, (attemptAt cfg p start 0 k).gen.size = 5 := by
  intro p cfg start
  have hp : p.KeepsSize := Statement.keepsSize_forAllOf fun _ _ => trivial
  have hrun : ((Suite.run (pure default : StateM Unit Timestamp) cfg p start ()).1.1.trials[0]?.map
      fun t => (t.size, t.attempts)) = some (5, 3) := by decide +kernel
  obtain ⟨t, ht, hsize⟩ := Option.map_eq_some_iff.1 hrun
  obtain ⟨hfive, hthree⟩ := Prod.ext_iff.1 hsize
  obtain ⟨-, -, htrials, -⟩ := report_invariant (pure default : StateM Unit Timestamp) cfg p start ()
  obtain ⟨-, -, -, -, hkept, -⟩ := htrials 0 t ht
  refine ⟨hp, t, ht, hfive, hthree, fun k hk => ?_⟩
  rw [hkept hp k (by rw [show t.attempts = 3 from hthree]; exact hk)]
  exact hfive

/-- If the sampler sets the size to zero instead, then only the first of the three attempts is made at size 5:
    the size is set for a trial once, and not again for each attempt. -/
theorem exists_attempts_at_other_size :
    let p : Statement Unit :=
      .forAll "b" (Sampler.bool.resized 0) fun _ => .guarded "0 = 1" false (.decided "1 = 1" true)
    let cfg : Config := { trials := 2, maxSize := 10, retries := 3 }
    let start : Session Unit := { gen := .ofSeed 0, world := () }
    ∃ t, (Suite.run (pure default : StateM Unit Timestamp) cfg p start ()).1.1.trials[0]? = some t ∧
      t.size = 5 ∧ t.attempts = 3 ∧
      (List.range 3).map (fun k => (attemptAt cfg p start 0 k).gen.size) = [5, 0, 0] ∧
      ¬∀ k < t.attempts.toNat, (attemptAt cfg p start 0 k).gen.size = t.size := by
  intro p cfg start
  have hrun : ((Suite.run (pure default : StateM Unit Timestamp) cfg p start ()).1.1.trials[0]?.map
      fun t => (t.size, t.attempts)) = some (5, 3) := by decide +kernel
  have hsizes : (List.range 3).map (fun k => (attemptAt cfg p start 0 k).gen.size) = [5, 0, 0] := by
    decide +kernel
  obtain ⟨t, ht, hsize⟩ := Option.map_eq_some_iff.1 hrun
  obtain ⟨hfive, hthree⟩ : t.size = 5 ∧ t.attempts = 3 := Prod.ext_iff.1 hsize
  refine ⟨t, ht, hfive, hthree, hsizes, fun hall => ?_⟩
  -- The second attempt is made at the size that the draw of the first one has set.
  have hsecond : (attemptAt cfg p start 0 1).gen.size = 0 := congrArg (·[1]!) hsizes
  have hclaimed := hall 1 (by rw [hthree]; decide)
  rw [hsecond, hfive] at hclaimed
  cases hclaimed

end Suite

end Falsify
