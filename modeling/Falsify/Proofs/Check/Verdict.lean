import Falsify.Proofs.Check.Files
import Falsify.Proofs.Suite.Invariant
import Mathlib

/-!
# Verdicts rest on the trials

A check records its observations before it forms its verdict, and an error in recording them is held back:
it is reported only if no trial has failed.  So of the three ways in which a check can end, a counterexample
comes first, whatever becomes of the record.

## Key results

- `check_fst_eq`: the verdict of a check by what its report and its record say.
- `verdict_rests_on_trials`: which verdict a check comes to, and when it leaves all files as they were.
-/

namespace Falsify

variable {σ τ : Type}

/-! ## Reports without a failure -/

namespace Report.StopsAt

variable {n : Nat} {r : Report}

/-- A report without a failure is of a suite that has run all its trials. -/
theorem size_eq_of_failure_eq_none (h : r.StopsAt n) (hnone : r.failure = none) : r.trials.size = n := by
  refine Nat.le_antisymm h.size_le (Nat.le_of_not_lt fun hlt => ?_)
  obtain ⟨t, hback, hfail⟩ := h.isFailure_of_lt hlt
  rw [(h.failure_eq_some_iff t).2 ⟨Array.mem_of_back? hback, hfail⟩] at hnone
  cases hnone

/-- Every trial of such a report has passed or given up. -/
theorem passed_add_gaveUp (h : r.StopsAt n) (hnone : r.failure = none) : r.passed + r.gaveUp = n := by
  have hcounts := r.passed_add_gaveUp_add_failed
  rw [h.count_failed, hnone] at hcounts
  exact hcounts.trans (h.size_eq_of_failure_eq_none hnone)

/-- There is no failure in the report just if no trial has failed. -/
theorem failure_eq_none_iff (h : r.StopsAt n) :
    r.failure = none ↔ ∀ t ∈ r.trials, t.outcome.isFailure = false := by
  rw [Option.eq_none_iff_forall_ne_some]
  simp only [ne_eq, h.failure_eq_some_iff, not_and, Bool.not_eq_true]

end Report.StopsAt

/-- The summary of a report of `n` trials without a failure. -/
theorem Report.StopsAt.summary_eq {n : UInt64} {r : Report} (h : r.StopsAt n.toNat) (hnone : r.failure = none)
    (seed : UInt64) :
    (r.summary seed).trials = n ∧ (r.summary seed).passed.toNat = r.passed ∧
      (r.summary seed).gaveUp.toNat = r.gaveUp ∧ r.passed + r.gaveUp = n.toNat := by
  have hcounts := h.passed_add_gaveUp hnone
  have hn : n.toNat < UInt64.size := n.toNat_lt
  refine ⟨?_, ?_, ?_, hcounts⟩
  · show UInt64.ofNat r.trials.size = n
    rw [h.size_eq_of_failure_eq_none hnone, UInt64.ofNat_toNat]
  · exact UInt64.toNat_ofNat_of_lt' (by omega)
  · exact UInt64.toNat_ofNat_of_lt' (by omega)

/-! ## Verdicts -/

section

variable {host : Host (StateM τ)} {cfg : Config} {p : Statement σ} {world : σ} {h : τ}

/-- The suite of a check stops at the first failure. -/
theorem stopsAt_suiteOf (seed : UInt64) : (suiteOf host cfg p world seed h).1.1.StopsAt cfg.trials.toNat :=
  Suite.stopsAt_run _ cfg p _ _

/-- The verdict of a check, by its report and, if no trial has failed, by how recording it went. -/
theorem check_fst_eq (htrials : cfg.trials ≠ 0) :
    let chosen := seeded host cfg h
    let report := (suiteOf host cfg p world chosen.1 chosen.2).1.1
    (check host cfg p world h).1.1 =
      match report.failure with
      | some t => .error (.counterexample (if cfg.quiet then quietCounterexample else t.failureReport))
      | none =>
        match cfg.record, (appended host cfg p world chosen.1 chosen.2).1 with
        | true, .error error => .error error
        | _, _ => .ok (report.summary chosen.1) := by
  intro chosen report
  rw [check_apply host cfg p world h htrials]
  show verdict cfg chosen.1 report (recordedOf host cfg p world chosen.1 chosen.2).1 = _
  unfold verdict
  cases report.failure with
  | some t => rfl
  | none =>
    -- How recording went matters only if recording was wanted.
    cases hrecord : cfg.record with
    | false =>
      rw [recordedOf, if_neg (by rw [hrecord]; exact Bool.false_ne_true)]
    | true =>
      obtain ⟨line, hrecorded⟩ := exists_recordedOf_eq host cfg p world chosen.1 chosen.2 hrecord
      rw [hrecorded]
      cases (appended host cfg p world chosen.1 chosen.2).1 <;> rfl

/-- A trial that has failed is what a check reports, whatever becomes of the record. -/
theorem check_fst_of_isFailure (htrials : cfg.trials ≠ 0) {t : Trial}
    (ht : t ∈ (suiteOf host cfg p world (seeded host cfg h).1 (seeded host cfg h).2).1.1.trials)
    (hfail : t.outcome.isFailure = true) :
    (check host cfg p world h).1.1 =
      .error (.counterexample (if cfg.quiet then quietCounterexample else t.failureReport)) := by
  have hfailure := ((stopsAt_suiteOf _).failure_eq_some_iff t).2 ⟨ht, hfail⟩
  refine (check_fst_eq htrials).trans ?_
  rw [hfailure]

/-- If no trial has failed, the verdict is up to the record. -/
theorem check_fst_of_noneFailed (htrials : cfg.trials ≠ 0)
    (hpass : ∀ t ∈ (suiteOf host cfg p world (seeded host cfg h).1 (seeded host cfg h).2).1.1.trials,
      t.outcome.isFailure = false) :
    let chosen := seeded host cfg h
    (check host cfg p world h).1.1 =
      match cfg.record, (appended host cfg p world chosen.1 chosen.2).1 with
      | true, .error error => .error error
      | _, _ => .ok ((suiteOf host cfg p world chosen.1 chosen.2).1.1.summary chosen.1) := by
  intro chosen
  have hnone := (stopsAt_suiteOf _).failure_eq_none_iff.2 hpass
  refine (check_fst_eq htrials).trans ?_
  rw [hnone]

end

/-- **The verdict rests on the trials.**  Without trials a check finds fault with its configuration, and leaves
    the world and the host as they were.  Otherwise a trial that has failed is reported, whatever becomes of
    the record; if none has, an error in recording is; and if there is none either, the summary counts all
    trials that were wanted.

    Appending the record fails for a fault of the file, or for one that comes up while a record is written.  If
    the folders on the way to the file cannot be made or the file cannot be opened, nothing else is done: every
    file keeps the content that it had, on every host on which only writing changes contents.  A host whose
    files are a file tree is such a host, whatever is refused there. -/
theorem verdict_rests_on_trials (host : Host (StateM τ)) (cfg : Config) (p : Statement σ) (world : σ) (h : τ) :
    let chosen := seeded host cfg h
    let report := (suiteOf host cfg p world chosen.1 chosen.2).1.1
    let before := beforeRecord host cfg p world chosen.1 chosen.2
    let written := (appended host cfg p world chosen.1 chosen.2).1
    let checked := check host cfg p world h
    (cfg.trials = 0 → checked = ((.error (.configuration .noTrials), world), h)) ∧
    (cfg.trials ≠ 0 →
      (∀ t ∈ report.trials, t.outcome.isFailure = true →
        checked.1.1 = .error (.counterexample (if cfg.quiet then quietCounterexample
          else failureReport counterexampleBanner t.outcome.labels t.outcome.shrinks))) ∧
      ((∀ t ∈ report.trials, t.outcome.isFailure = false) →
        (∀ error, cfg.record = true → written = .error error → checked.1.1 = .error error) ∧
        ((cfg.record = true → ∃ count, written = .ok count) →
          ∃ summary, checked.1.1 = .ok summary ∧ summary.trials = cfg.trials ∧
            summary.passed.toNat = report.passed ∧ summary.gaveUp.toNat = report.gaveUp ∧
            summary.passed.toNat + summary.gaveUp.toNat = cfg.trials.toNat ∧ summary.seed = chosen.1))) ∧
    (∀ seed, cfg.seed = some seed → chosen.1 = seed) ∧
    (∀ error, written = .error error → error.IsOfLog) ∧
    (∀ o os fault, report.trials.toList.map (Observation.ofTrial (host.runId
          (traced host cfg p world chosen.1 chosen.2)).1 p.text) = o :: os →
      (openLog host cfg.recordPath before).1 = .ok () →
      (host.write cfg.recordPath o.toJson.text (openLog host cfg.recordPath before).2).1 = .error fault →
      written = .error (.unencodable fault.message)) ∧
    (∀ (path : String) (g : τ) (error : CheckError), (openLog host path g).1 = .error error →
      (∃ fault, error = .unwritable fault) ∧
      ∀ runId property report,
        Observation.append host path runId property report g = (.error error, (openLog host path g).2) ∧
        ∀ (γ : Type) (content? : τ → γ → Option String), host.OpensSafely content? → ∀ file content,
          content? g file = some content →
            content? (Observation.append host path runId property report g).2 file = some content) ∧
    (∀ (γ : Type) (content? : τ → γ → Option String), host.OpensSafely content? →
      cfg.trials = 0 ∨ cfg.record = false ∨ (∃ error, (openLog host cfg.recordPath before).1 = .error error) →
      ∀ file content, content? h file = some content → content? checked.2 file = some content) ∧
    (∀ files : τ → FileTree, host.KeepsFiles files → host.OpensSafely fun g place => (files g).read? place) := by
  intro chosen report before written checked
  -- The verdict on the trials, then the seed, then the faults of the log, by the step at which each of them
  -- occurs.
  have hstops : report.StopsAt cfg.trials.toNat := stopsAt_suiteOf chosen.1
  refine ⟨check_apply_of_noTrials host cfg p world h, fun htrials => ⟨fun t ht hfail => ?_, fun hpass => ?_⟩,
    fun seed hseed => ?_, Observation.raises_append _ _ _ _ _ _, fun o os fault hreport hopen hwrite => ?_,
    fun path g error hopen => ⟨raises_openLog host path g error hopen, fun runId property report => ?_⟩,
    fun γ content? hhost hunwritten => kept_check hhost hunwritten, fun files hhost => hhost.opensSafely⟩
  · exact check_fst_of_isFailure htrials ht hfail
  · have hverdict := check_fst_of_noneFailed htrials hpass
    refine ⟨fun error hrecord herror => ?_, fun hwritten => ⟨report.summary chosen.1, ?_, ?_⟩⟩
    · refine hverdict.trans ?_
      rw [hrecord, show Prod.fst _ = _ from herror]
    · refine hverdict.trans ?_
      cases hrecord : cfg.record with
      | false => rfl
      | true =>
        obtain ⟨count, hcount⟩ := hwritten hrecord
        rw [show Prod.fst _ = _ from hcount]
    · have hnone : report.failure = none := hstops.failure_eq_none_iff.2 hpass
      obtain ⟨htotal, hpassed, hgaveUp, hcounts⟩ := hstops.summary_eq hnone chosen.1
      exact ⟨htotal, hpassed, hgaveUp, by rw [hpassed, hgaveUp, hcounts], rfl⟩
  · show (seeded host cfg h).1 = seed
    rw [seeded, hseed]
  · exact Observation.append_fst_of_write_eq_error hopen hreport hwrite
  · -- A log that could not be opened is not written to.
    have happend := Observation.append_of_openLog_eq_error hopen runId property report
    refine ⟨happend, fun γ content? hhost file content hcontent => ?_⟩
    rw [happend]
    exact hhost.kept_openLog path g file content hcontent

/-- A statement that holds, on a simulated host where the log may not be appended to and on one whose disk is full.
    The check on the first one ends with a fault of the file, and the file that was there is as it was; the check
    on the second one ends with a fault of a record. -/
theorem verdict_rests_on_trials_refused :
    let cfg : Config := { trials := 1, seed := some 7, record := true, recordPath := "t" }
    let p : Statement Unit := .decided "1 = 1" true
    let fault : Access → FileFault
      | .write => .other "No space left on device (os error 28)"
      | _ => .other "Permission denied (os error 13)"
    let start (refused : Access) : Simulation :=
      { files := { FileTree.empty.insert ["f"] (.file "x") with
          refusal? := fun access _ => if access = refused then some (fault access) else none } }
    let checked (refused : Access) := check Host.simulated cfg p () (start refused)
    ((checked .append).1.1 = .error (.unwritable (fault .append)) ∧
      (checked .append).2.files.read? ["f"] = some "x") ∧
      (checked .write).1.1 = .error (.unencodable (fault .write).message) := by
  intro cfg p fault start checked
  have htrials : cfg.trials ≠ 0 := by decide
  have hpass (refused : Access) : ∀ t ∈ (suiteOf Host.simulated cfg p () 7 (start refused)).1.1.trials,
      t.outcome.isFailure = false :=
    Suite.forall_mem_run (Q := (·.isFailure = false)) _ cfg p (fun _ => rfl) _ _
  constructor
  · -- The log cannot be opened.
    obtain ⟨-, hchecked, -, -, -, hopened, hkept, hsafe⟩ :=
      verdict_rests_on_trials Host.simulated cfg p () (start .append)
    obtain ⟨-, hpassed⟩ := hchecked htrials
    obtain ⟨hreport, -⟩ := hpassed (hpass .append)
    have hopen : (openLog Host.simulated cfg.recordPath (beforeRecord Host.simulated cfg p () 7 (start .append))).1 =
        .error (.unwritable (fault .append)) := by cbv
    obtain ⟨hwritten, -⟩ := (hopened _ _ _ hopen).2 (Host.simulated.runId (traced Host.simulated cfg p () 7
      (start .append))).1 p.text (suiteOf Host.simulated cfg p () 7 (start .append)).1.1
    exact ⟨hreport _ rfl (congrArg Prod.fst hwritten),
      hkept _ _ (hsafe _ Host.keepsFiles_simulated) (.inr (.inr ⟨_, hopen⟩)) ["f"] "x" rfl⟩
  · -- The log can be opened, but its first record cannot be written.
    obtain ⟨-, hchecked, -, -, hrecord, -⟩ := verdict_rests_on_trials Host.simulated cfg p () (start .write)
    obtain ⟨-, hpassed⟩ := hchecked htrials
    obtain ⟨hreport, -⟩ := hpassed (hpass .write)
    have hopen : (openLog Host.simulated cfg.recordPath (beforeRecord Host.simulated cfg p () 7 (start .write))).1 =
        .ok () := by cbv
    have hpos : 0 < (suiteOf Host.simulated cfg p () 7 (start .write)).1.1.trials.toList.length :=
      (stopsAt_suiteOf 7).size_pos (by decide)
    obtain ⟨t, ts, hts⟩ := List.exists_cons_of_length_pos hpos
    have hfull : (openLog Host.simulated cfg.recordPath
        (beforeRecord Host.simulated cfg p () 7 (start .write))).2.files.refusal? .write
          (FileTree.place cfg.recordPath) = some (fault .write) := by cbv
    refine hreport _ rfl (hrecord _ _ (fault .write) (congrArg (List.map _) hts) hopen ?_)
    exact (Host.keepsFiles_simulated.write cfg.recordPath _).fst_of_error (FileTree.write_of_refusal? hfull _)

end Falsify
