import Falsify.Check
import Falsify.Proofs.Observation.Append

/-!
# The trials behind a verdict

What the trials of a suite say is what single tests of the statement said, and a verdict rests on the trials
of one suite.  Both hold on every host, which is to say whatever the clock shows and wherever the seed comes
from.

## Key results

- `Suite.forall_mem_run`: a property of all outcomes of a test is one of all outcomes of a suite.
- `check_apply`: the answer of a check is the verdict about the suite of its seed.
- `exists_run_isFailure_of_check`: a check that reports a counterexample has seen a test fail.
-/

namespace Falsify

open Tester

variable {σ τ : Type}

namespace Suite

/-- An attempt that gives up is followed by the next one, if any are left. -/
theorem attempt_succ (trace : TraceToggles) (p : Statement σ) (left made : Nat) (s : Session σ) :
    attempt trace p (left + 1) made s =
      let r := p.run trace true s
      if r.1.isGaveUp then
        attempt trace p left (made + 1)
          (emit (trace.discarded && made == 0) (fun _ => .retrying (left + 1)) r.2).2
      else ((made + 1, r.1), r.2) := by
  -- The run of the loop in the monad, applied to the session; then by whether the test gave up.
  have hrun : attempt trace p (left + 1) made s =
      (if (p.run trace true s).1.isGaveUp = true then do
        emit (trace.discarded && made == 0) fun _ => .retrying (left + 1)
        attempt trace p left (made + 1)
      else pure (made + 1, (p.run trace true s).1)) (p.run trace true s).2 := rfl
  rw [hrun]
  dsimp only
  cases (p.run trace true s).1.isGaveUp <;> rfl

/-- The outcome that a trial ends with is that of a test. -/
theorem exists_attempt_eq (trace : TraceToggles) (p : Statement σ) (left made : Nat) (s : Session σ) :
    ∃ t, (attempt trace p left made s).1.2 = (p.run trace true t).1 := by
  -- An attempt that gives up leaves the outcome to the attempts that are left.
  induction left generalizing made s with
  | zero => exact ⟨s, rfl⟩
  | succ left ih =>
    rw [attempt_succ]
    dsimp only
    split
    · exact ih (made + 1) _
    · exact ⟨s, rfl⟩

/-- The outcome of a trial is that of a test. -/
theorem exists_trial_eq (cfg : Config) (p : Statement σ) (index : UInt64) (s : Session σ) :
    ∃ t, ∀ time, ((trial cfg p index s).1 time).outcome = (p.run cfg.trace true t).1 := by
  obtain ⟨t, ht⟩ := exists_attempt_eq cfg.trace p (cfg.budget - 1) 0
    (emit cfg.trace.successes (fun _ => .newSample)
      (resize (sizeOfTrial index cfg.trials cfg.maxSize) s).2).2
  exact ⟨t, fun _ => ht⟩

section

variable (now : StateM τ Timestamp) (cfg : Config) (p : Statement σ)

/-- A suite goes on after a trial unless that has failed. -/
theorem trialsFrom_succ (left : Nat) (report : Report) (s : Session σ) (h : τ) :
    trialsFrom now cfg p (left + 1) report s h =
      let ran := trial cfg p (.ofNat report.trials.size) s
      let done := ran.1 (now h).1
      let report : Report := ⟨report.trials.push done⟩
      if done.outcome.isFailure then ((report, ran.2), (now h).2)
      else trialsFrom now cfg p left report ran.2 (now h).2 := by
  show (if ((trial cfg p (.ofNat report.trials.size) s).1 (now h).1).outcome.isFailure = true then pure _
    else _ : StateM τ (Report × Session σ)) _ = _
  dsimp only
  cases ((trial cfg p (.ofNat report.trials.size) s).1 (now h).1).outcome.isFailure <;> rfl

/-- What holds of all outcomes of a test holds of all outcomes in the report of a suite. -/
theorem forall_mem_trialsFrom {Q : Outcome → Prop} (hQ : ∀ s, Q (p.run cfg.trace true s).1)
    (left : Nat) (report : Report) (s : Session σ) (h : τ)
    (hreport : ∀ t ∈ report.trials, Q t.outcome) :
    ∀ t ∈ (trialsFrom now cfg p left report s h).1.1.trials, Q t.outcome := by
  induction left generalizing report s h with
  | zero => exact hreport
  | succ left ih =>
    -- The trial that is run next has an outcome of the statement in some session.
    have hpush : ∀ t ∈ report.trials.push ((trial cfg p (.ofNat report.trials.size) s).1 (now h).1),
        Q t.outcome := by
      intro t ht
      rcases Array.mem_push.1 ht with ht | rfl
      · exact hreport t ht
      · obtain ⟨u, hu⟩ := exists_trial_eq cfg p (.ofNat report.trials.size) s
        rw [hu]
        exact hQ u
    rw [trialsFrom_succ]
    dsimp only
    split
    · exact hpush
    · exact ih _ _ _ hpush

/-- What holds of all outcomes of a test holds of all outcomes that a suite reports. -/
theorem forall_mem_run {Q : Outcome → Prop} (hQ : ∀ s, Q (p.run cfg.trace true s).1)
    (s : Session σ) (h : τ) :
    ∀ t ∈ (Suite.run now cfg p s h).1.1.trials, Q t.outcome :=
  forall_mem_trialsFrom now cfg p hQ _ {} s h nofun

end

end Suite

/-- The failure of a report is a trial in it, and a failure. -/
theorem Report.mem_of_failure {r : Report} {t : Trial} (h : r.failure = some t) :
    t ∈ r.trials ∧ t.outcome.isFailure = true := by
  obtain ⟨hback, hfail⟩ := Option.filter_eq_some_iff.1 h
  exact ⟨Array.mem_of_back? hback, hfail⟩

/-- A counterexample is reported only if a trial failed, as recording does not report any. -/
theorem exists_failure_of_verdict {cfg : Config} {seed : UInt64} {report : Report}
    {recorded : Except CheckError Unit} {text : String}
    (hrecorded : ∀ e, recorded = .error e → e.isCounterexample = false)
    (h : verdict cfg seed report recorded = .error (.counterexample text)) :
    ∃ t, report.failure = some t := by
  unfold verdict at h
  split at h
  · rename_i t ht
    exact ⟨t, ht⟩
  · cases recorded with
    | ok => cases h
    | error e =>
      obtain rfl : e = .counterexample text := Except.error.inj h
      exact nomatch hrecorded _ rfl

section

variable (host : Host (StateM τ)) (cfg : Config) (p : Statement σ) (world : σ)

/-- The suite of a check whose seed has been chosen, and the host after it. -/
def suiteOf (seed : UInt64) (h : τ) : (Report × Session σ) × τ :=
  Suite.run host.now cfg p { gen := .ofSeed seed, world }
    (host.log (.checking p.text seed cfg.trials cfg.maxSize) h).2

/-- The host after the trace of the suite has been logged. -/
def traced (seed : UInt64) (h : τ) : τ :=
  let ran := suiteOf host cfg p world seed h
  (ran.1.2.trace.toList.forM (fun line => host.log (.ofTrace line)) ran.2).2

/-- How recording the report of the suite went. -/
def recordedOf (seed : UInt64) (h : τ) : Except CheckError Unit × τ :=
  let report := (suiteOf host cfg p world seed h).1.1
  let t := traced host cfg p world seed h
  if cfg.record then recordReport host cfg p.text report t else (.ok (), t)

/-- How appending the observations of the suite goes, and the host after it. -/
def appended (seed : UInt64) (h : τ) : Except CheckError Nat × τ :=
  let named := host.runId (traced host cfg p world seed h)
  Observation.append host cfg.recordPath named.1 p.text (suiteOf host cfg p world seed h).1.1 named.2

/-- What is recorded is appended; recording says whether that worked, and logs it. -/
theorem exists_recordedOf_eq (seed : UInt64) (h : τ) (hrecord : cfg.record = true) :
    ∃ line, recordedOf host cfg p world seed h =
      ((appended host cfg p world seed h).1.map fun _ => (),
        (host.log line (appended host cfg p world seed h).2).2) := by
  rw [recordedOf, if_pos hrecord]
  unfold recordReport appended
  dsimp only [bind, StateT.bind, pure, StateT.pure, ExceptT.run]
  rcases host.runId (traced host cfg p world seed h) with ⟨runId, named⟩
  dsimp only
  rcases Observation.append host cfg.recordPath runId p.text (suiteOf host cfg p world seed h).1.1 named
    with ⟨fault | count, t⟩
  · exact ⟨_, rfl⟩
  · exact ⟨_, rfl⟩

/-- Recording does not report counterexamples. -/
theorem isCounterexample_recordedOf {seed : UInt64} {h : τ} {e : CheckError}
    (he : (recordedOf host cfg p world seed h).1 = .error e) : e.isCounterexample = false := by
  -- Only writing the record can fail here, and no error of the log is a counterexample.
  cases hrecord : cfg.record with
  | false =>
    rw [recordedOf, if_neg (by rw [hrecord]; exact Bool.false_ne_true)] at he
    cases he
  | true =>
    obtain ⟨line, hrecorded⟩ := exists_recordedOf_eq host cfg p world seed h hrecord
    rw [hrecorded] at he
    cases happended : (appended host cfg p world seed h).1 with
    | ok count =>
      rw [happended] at he
      cases he
    | error d =>
      rw [happended] at he
      obtain rfl : d = e := Except.error.inj he
      exact (Observation.raises_append _ _ _ _ _ _ _ happended).isCounterexample_eq_false

/-- The host and the seed that a check goes on with. -/
def seeded (h : τ) : UInt64 × τ :=
  match cfg.seed with
  | some seed => (seed, h)
  | none => host.entropy h

/-- The answer of a check with trials is the verdict about the suite of its seed. -/
theorem check_apply (h : τ) (htrials : cfg.trials ≠ 0) :
    (check host cfg p world h).1.1 =
      let chosen := seeded host cfg h
      verdict cfg chosen.1 (suiteOf host cfg p world chosen.1 chosen.2).1.1
        (recordedOf host cfg p world chosen.1 chosen.2).1 := by
  have hvalid : cfg.validate = .ok () := Config.validate_eq_ok_iff.2 htrials
  unfold check recordedOf seeded
  rw [hvalid]
  cases cfg.seed with
  | none => cases cfg.record <;> rfl
  | some seed => cases cfg.record <;> rfl

end

/-- A check reports a counterexample only if some test of the statement fails. -/
theorem exists_run_isFailure_of_check (host : Host (StateM τ)) (cfg : Config) (p : Statement σ)
    (world : σ) (h : τ) {text : String}
    (hcheck : (check host cfg p world h).1.1 = .error (.counterexample text)) :
    ∃ s, (p.run cfg.trace true s).1.isFailure = true := by
  by_cases htrials : cfg.trials = 0
  · rw [check_of_noTrials host cfg p world htrials] at hcheck
    cases hcheck
  · rw [check_apply host cfg p world h htrials] at hcheck
    -- A counterexample is reported for a trial on record that failed, and its outcome is that of a test.
    obtain ⟨t, ht⟩ :=
      exists_failure_of_verdict (fun _ => isCounterexample_recordedOf host cfg p world) hcheck
    obtain ⟨hmem, hfail⟩ := Report.mem_of_failure ht
    obtain ⟨s, hs⟩ := Suite.forall_mem_run host.now cfg p
      (Q := fun r => ∃ s, r = (p.run cfg.trace true s).1) (fun s => ⟨s, rfl⟩) _ _ t hmem
    exact ⟨s, hs ▸ hfail⟩

end Falsify
