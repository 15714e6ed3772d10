import Falsify.Proofs.Check.Verdict
import Falsify.Proofs.Observation.Record

/-!
# The observation log

Checks that record their observations at one path leave a file in which every trial of every check has one
line, in order, from which the trial can be read; what was in the file before is still there.  A check adds to
the end of the file, so the lines of many checks follow by induction from those of one.

## Key results

- `Job.content_after`: what one check adds to the file.
- `content_afterAll`: what a sequence of checks adds to it.
- `observation_log_lossless`: what can be read from the file afterwards.
-/

namespace Falsify

variable {σ τ : Type}

/-! ## Sequences of checks -/

/-- A check to be run.  The world that it starts in is its own, and may be the one that an earlier check has
    left. -/
structure Job where
  {σ : Type}
  cfg : Config
  statement : Statement σ
  world : σ

/-- What came of a check: the trials that were executed, what they are recorded under, and the answer. -/
structure JobRun where
  runId : Uuid
  property : String
  report : Report
  answer : Except CheckError Summary

/-- The observations of the trials of a check. -/
def JobRun.observations (run : JobRun) : List Observation :=
  Observation.ofReport run.runId run.property run.report

namespace Job

variable (host : Host (StateM τ)) (job : Job) (h : τ)

/-- The report of the suite of a check.  Without trials there is no suite. -/
def report : Report :=
  let chosen := seeded host job.cfg h
  if job.cfg.trials = 0 then {} else (suiteOf host job.cfg job.statement job.world chosen.1 chosen.2).1.1

/-- What comes of a check. -/
def run : JobRun where
  runId :=
    let chosen := seeded host job.cfg h
    (host.runId (traced host job.cfg job.statement job.world chosen.1 chosen.2)).1
  property := job.statement.text
  report := job.report host h
  answer := (check host job.cfg job.statement job.world h).1.1

/-- The host after a check. -/
def after : τ := (check host job.cfg job.statement job.world h).2

end Job

/-- What comes of checks that are run one after the other. -/
def runsOf (host : Host (StateM τ)) : List Job → τ → List JobRun
  | [], _ => []
  | job :: jobs, h => job.run host h :: runsOf host jobs (job.after host h)

/-- The host after checks that are run one after the other. -/
def afterAll (host : Host (StateM τ)) : List Job → τ → τ
  | [], h => h
  | job :: jobs, h => afterAll host jobs (job.after host h)

/-- Each run is that of a check, from the host as the checks before have left it. -/
theorem exists_of_mem_runsOf {host : Host (StateM τ)} {jobs : List Job} {h : τ} {run : JobRun}
    (hrun : run ∈ runsOf host jobs h) : ∃ job ∈ jobs, ∃ g, run = job.run host g := by
  induction jobs generalizing h with
  | nil => cases hrun
  | cons job jobs ih =>
    rw [runsOf, List.mem_cons] at hrun
    obtain rfl | hrun := hrun
    · exact ⟨job, List.mem_cons_self, h, rfl⟩
    · obtain ⟨job', hjob', hg⟩ := ih hrun
      exact ⟨job', List.mem_cons_of_mem _ hjob', hg⟩

/-- Checks are recorded under the texts of their statements. -/
theorem map_property_runsOf (host : Host (StateM τ)) (jobs : List Job) (h : τ) :
    (runsOf host jobs h).map JobRun.property = jobs.map fun job => job.statement.text := by
  induction jobs generalizing h with
  | nil => rfl
  | cons job jobs ih =>
    rw [runsOf, List.map_cons, List.map_cons, ih]
    rfl

/-! ## Trials -/

/-- The times in the report of a suite are times that the clock has shown. -/
theorem Suite.forall_finishedAt_trialsFrom {now : StateM τ Timestamp} {P : Timestamp → Prop}
    (hnow : ∀ h, P (now h).1) (cfg : Config) (p : Statement σ) (left : Nat) (report : Report) (s : Session σ)
    (h : τ) (hreport : ∀ t ∈ report.trials, P t.finishedAt) :
    ∀ t ∈ (trialsFrom now cfg p left report s h).1.1.trials, P t.finishedAt := by
  induction left generalizing report s h with
  | zero => exact hreport
  | succ left ih =>
    -- Every trial takes its time from the clock.
    have hpush : ∀ t ∈ report.trials.push ((trial cfg p (.ofNat report.trials.size) s).1 (now h).1),
        P t.finishedAt := by
      intro t ht
      rcases Array.mem_push.1 ht with ht | rfl
      · exact hreport t ht
      · exact hnow h
    rw [trialsFrom_succ]
    dsimp only
    split
    · exact hpush
    · exact ih _ _ _ hpush

namespace Job

section

variable (host : Host (StateM τ)) (job : Job) (h : τ)

/-- The report of a check stops at the first failure. -/
theorem stopsAt_report : (job.report host h).StopsAt job.cfg.trials.toNat := by
  unfold report
  split
  · rename_i htrials
    rw [htrials]
    exact ⟨Nat.le_refl 0, nofun, nofun⟩
  · exact Suite.stopsAt_run host.now job.cfg job.statement _ _

/-- The trials of a check are numbered in order. -/
theorem index_of_getElem? {i : Nat} {t : Trial} (ht : (job.report host h).trials[i]? = some t) :
    t.index.toNat = i := by
  unfold report at ht
  split at ht
  · cases ht
  · exact (Suite.records_run host.now job.cfg job.statement _ _ ht).index

/-- A check finds a counterexample exactly if one of its trials fails. -/
theorem exists_failed_iff :
    (∃ t ∈ (job.report host h).trials, t.status = .failed) ↔
      ∃ text, (job.run host h).answer = .error (.counterexample text) := by
  -- Without trials nothing fails, and what the check reports is a fault of its configuration.
  by_cases htrials : job.cfg.trials = 0
  · have hanswer : (job.run host h).answer = .error (.configuration .noTrials) :=
      congrArg (·.1.1) (check_apply_of_noTrials host job.cfg job.statement job.world h htrials)
    have hreport : job.report host h = {} := if_pos htrials
    simp [hanswer, hreport]
  · have hreport : job.report host h = _ := if_neg htrials
    have hanswer : (job.run host h).answer = _ := check_fst_eq htrials
    rw [hanswer, ← hreport]
    have hfailed : ∀ t ∈ (job.report host h).trials,
        t.status = .failed ↔ (job.report host h).failure = some t := by
      intro t ht
      rw [(job.stopsAt_report host h).failure_eq_some_iff, Trial.status, Outcome.status_eq_failed_iff]
      exact ⟨fun hfail => ⟨ht, hfail⟩, And.right⟩
    cases hfailure : (job.report host h).failure with
    | some t =>
      have ht := (Report.mem_of_failure hfailure).1
      exact ⟨fun _ => ⟨_, rfl⟩, fun _ => ⟨t, ht, (hfailed t ht).2 hfailure⟩⟩
    | none =>
      constructor
      · rintro ⟨t, ht, hfail⟩
        rw [(hfailed t ht).1 hfail] at hfailure
        cases hfailure
      · rintro ⟨text, htext⟩
        dsimp only at htext
        split at htext
        · -- What recording reports is a fault of a file or of a record.
          rename_i error _ herror
          obtain rfl : error = .counterexample text := Except.error.inj htext
          cases Observation.raises_append _ _ _ _ _ _ _ herror
        · cases htext

end

/-- On a host whose clock shows valid times, valid times are recorded. -/
theorem isValid_finishedAt {host : Host (StateM τ)} (hnow : ∀ h, (host.now h).1.IsValid) (job : Job) (h : τ) :
    ∀ t ∈ (job.report host h).trials, t.finishedAt.IsValid := by
  unfold report
  split
  · exact nofun
  · exact Suite.forall_finishedAt_trialsFrom hnow job.cfg job.statement _ _ _ _ nofun

/-! ## Files -/

variable {host : Host (StateM τ)} {files : τ → FileTree} {job : Job} {h : τ}

/-- A check appends its observations to the file at its path, if it has any trials. -/
theorem files_after (hhost : host.KeepsFiles files) (hrecord : job.cfg.record = true)
    (happend : ((files h).append job.cfg.recordPath "").1 = .ok ()) :
    files (job.after host h) =
      if job.cfg.trials = 0 then files h
      else ((files h).append job.cfg.recordPath (Observation.lines (job.run host h).observations)).2 := by
  split
  · rename_i htrials
    rw [after, check_apply_of_noTrials host job.cfg job.statement job.world h htrials]
  · rename_i htrials
    have hreport : job.report host h = _ := if_neg htrials
    have hobservations : (job.run host h).observations =
        Observation.ofReport (job.run host h).runId (job.run host h).property (job.report host h) := rfl
    -- Choosing a seed and running the trials touch no file, so what is appended comes on top of what was there.
    have hseeded : files (seeded host job.cfg h).2 = files h := view_seeded hhost.entropy job.cfg h
    have happend' : ((files (seeded host job.cfg h).2).append job.cfg.recordPath "").1 = .ok () := by
      rw [hseeded]
      exact happend
    rw [after, files_check hhost htrials, if_pos hrecord, hobservations, hreport, ← hseeded]
    exact (appended_eq hhost happend').2

end Job

/-- The content of the file at a path, where a file that is missing is as good as an empty one. -/
def contentAt (path : String) (t : FileTree) : String := (t.read? (FileTree.place path)).getD ""

section

variable {host : Host (StateM τ)} {files : τ → FileTree} {path : String} {h : τ}

/-- A check adds its observations to the end of the file at its path, and changes no other one.  The path can
    be appended to as before. -/
theorem Job.content_after {job : Job} (hhost : host.KeepsFiles files) (hrecord : job.cfg.record = true)
    (hpath : job.cfg.recordPath = path) (happend : ((files h).append path "").1 = .ok ()) :
    contentAt path (files (job.after host h)) =
        contentAt path (files h) ++ Observation.lines (job.run host h).observations ∧
      (∀ place, place ≠ FileTree.place path →
        (files (job.after host h)).read? place = (files h).read? place) ∧
      ((files (job.after host h)).append path "").1 = .ok () := by
  subst hpath
  rw [files_after hhost hrecord happend]
  split
  · rename_i htrials
    have hreport : job.report host h = {} := if_pos htrials
    -- A check without trials ends before the log is opened, and has no records.
    have hnone : (job.run host h).observations = [] := by
      show Observation.ofReport _ _ (job.report host h) = []
      rw [hreport]
      rfl
    rw [hnone]
    exact ⟨by simp [Observation.lines], fun _ _ => rfl, happend⟩
  · have hok := FileTree.append_fst_of_ok happend (Observation.lines (job.run host h).observations)
    refine ⟨?_, fun place hplace => ?_, FileTree.append_fst_append hok ""⟩
    · rw [contentAt, FileTree.read?_append_of_ok hok, if_pos rfl]
      rfl
    · rw [FileTree.read?_append_of_ok hok, if_neg hplace]

/-- Checks add their observations to the end of the file at their path, one check after the other. -/
theorem content_afterAll {jobs : List Job} (hhost : host.KeepsFiles files)
    (hjobs : ∀ job ∈ jobs, job.cfg.record = true ∧ job.cfg.recordPath = path)
    (happend : ((files h).append path "").1 = .ok ()) :
    contentAt path (files (afterAll host jobs h)) =
        contentAt path (files h) ++ Observation.lines ((runsOf host jobs h).flatMap JobRun.observations) ∧
      ∀ place, place ≠ FileTree.place path →
        (files (afterAll host jobs h)).read? place = (files h).read? place := by
  -- On the checks: each one starts from the file that the one before has left, and can append to it again.
  induction jobs generalizing h with
  | nil => exact ⟨by simp [runsOf, Observation.lines, afterAll], fun _ _ => rfl⟩
  | cons job jobs ih =>
    obtain ⟨hrecord, hpath⟩ := hjobs job List.mem_cons_self
    obtain ⟨hcontent, hothers, happend'⟩ := Job.content_after hhost hrecord hpath happend
    obtain ⟨hcontent', hothers'⟩ := ih (fun j hj => hjobs j (List.mem_cons_of_mem _ hj)) happend'
    refine ⟨?_, fun place hplace => (hothers' place hplace).trans (hothers place hplace)⟩
    rw [afterAll, hcontent', hcontent, runsOf, List.flatMap_cons, Observation.lines_append, String.append_assoc]

end

/-! ## The log -/

/-- The observation `o` shows the trial with the number `i` of a check as it was. -/
structure Observation.Shows (o : Observation) (run : JobRun) (i : Nat) (t : Trial) : Prop where
  kind : o.kind = "test_case"
  runId : o.runId = run.runId
  property : o.property = run.property
  status : o.status = t.status
  representation : o.representation =
    if t.outcome.labels = [] then "(no bindings)" else ", ".intercalate t.outcome.labels
  timestamp : o.timestamp = t.finishedAt
  index : o.trial = t.index
  number : o.trial.toNat = i
  size : o.size = t.size
  attempts : o.attempts = t.attempts

/-- The lines are the record of a check: there is one for each trial, in order, from which the trial is read.
    Only the last trial is on record as failed, and that exactly if the check found a counterexample. -/
structure JobRun.RecordedIn (run : JobRun) (lines : List (List Char)) : Prop where
  length_eq : lines.length = run.report.trials.size
  exists_shows : ∀ i t line, run.report.trials[i]? = some t → lines[i]? = some line →
    ∃ o, Observation.readLine? line = some o ∧ o.Shows run i t
  eq_last_of_failed : ∀ i line o, lines[i]? = some line → Observation.readLine? line = some o →
    o.status = .failed → i + 1 = lines.length
  exists_failed_iff : (∃ line ∈ lines, ∃ o, Observation.readLine? line = some o ∧ o.status = .failed) ↔
    ∃ text, run.answer = .error (.counterexample text)

/-- The lines of the observations of a check, without the breaks at their ends. -/
def JobRun.lines (run : JobRun) : List (List Char) := run.observations.map fun o => o.toJson.compact

/-- The line of a trial, by its number. -/
theorem JobRun.getElem?_lines (run : JobRun) (i : Nat) :
    run.lines[i]? =
      run.report.trials[i]?.map fun t => (Observation.ofTrial run.runId run.property t).toJson.compact := by
  rw [lines, observations, Observation.ofReport, List.map_map, List.getElem?_map, Array.getElem?_toList]
  rfl

/-- The observation that is made of a trial shows it. -/
theorem Observation.shows_ofTrial (run : JobRun) {i : Nat} {t : Trial} (hindex : t.index.toNat = i) :
    (ofTrial run.runId run.property t).Shows run i t where
  kind := rfl
  runId := rfl
  property := rfl
  status := rfl
  representation := by
    show t.outcome.representation = _
    unfold Outcome.representation
    cases t.outcome.labels <;> rfl
  timestamp := rfl
  index := rfl
  number := hindex
  size := rfl
  attempts := rfl

/-- The lines of a check whose trials have times that there are. -/
theorem Job.recordedIn_lines (host : Host (StateM τ)) (job : Job) (h : τ)
    (hclock : ∀ t ∈ (job.report host h).trials, t.finishedAt.IsValid) :
    (job.run host h).RecordedIn (job.run host h).lines := by
  have hstops := job.stopsAt_report host h
  -- A line that is read is that of a trial, and what is read from it is the observation of the trial.
  have hread {t : Trial} (ht : t ∈ (job.report host h).trials) :
      Observation.readLine? (Observation.ofTrial (job.run host h).runId (job.run host h).property t).toJson.compact =
        some (Observation.ofTrial (job.run host h).runId (job.run host h).property t) :=
    Observation.readLine?_compact (hclock t ht)
  have hlength : (job.run host h).lines.length = (job.report host h).trials.size := by
    rw [JobRun.lines, List.length_map, JobRun.observations, Observation.ofReport, List.length_map,
      Array.length_toList]
    rfl
  have htrial {i : Nat} {line : List Char} (hline : (job.run host h).lines[i]? = some line) :
      ∃ t, (job.report host h).trials[i]? = some t ∧ Observation.readLine? line =
        some (Observation.ofTrial (job.run host h).runId (job.run host h).property t) := by
    rw [JobRun.getElem?_lines, Option.map_eq_some_iff] at hline
    obtain ⟨t, ht, rfl⟩ := hline
    exact ⟨t, ht, hread (Array.mem_of_getElem? ht)⟩
  refine ⟨hlength, fun i t line ht hline => ?_, fun i line o hline ho hfailed => ?_, ?_⟩
  · obtain ⟨t', ht', hread'⟩ := htrial hline
    obtain rfl : t' = t := Option.some.inj (ht'.symm.trans ht)
    exact ⟨_, hread', Observation.shows_ofTrial _ (job.index_of_getElem? host h ht)⟩
  · obtain ⟨t, ht, hread'⟩ := htrial hline
    obtain rfl := Option.some.inj (hread'.symm.trans ho)
    rw [hlength]
    exact hstops.eq_last_of_isFailure i t ht (Outcome.status_eq_failed_iff.1 hfailed)
  · rw [← job.exists_failed_iff host h]
    constructor
    · rintro ⟨line, hline, o, ho, hfailed⟩
      obtain ⟨i, hi⟩ := List.getElem?_of_mem hline
      obtain ⟨t, ht, hread'⟩ := htrial hi
      obtain rfl := Option.some.inj (hread'.symm.trans ho)
      exact ⟨t, Array.mem_of_getElem? ht, hfailed⟩
    · rintro ⟨t, ht, hfailed⟩
      have hmem : t ∈ (job.report host h).trials.toList := Array.mem_toList_iff.2 ht
      exact ⟨_, List.mem_map_of_mem (List.mem_map_of_mem hmem), _, hread ht, hfailed⟩

/-- **The log is lossless.**  After checks that record at one path, and without an error in writing there, the
    file holds what it held before and then one line for each trial that was executed, check by check, each
    ended by a line break and without another.  The clock is taken to show times that there are, as any clock
    does.  If the file was missing, empty or ended with a line, then its lines are the old ones and those new
    ones, and from each new one the trial is read: the text of the statement, how the trial ended and at which
    bindings, its number, its size and its attempts.  In each check trials are numbered from zero, and only the
    last one may be on record as failed, which it is exactly if the check found a counterexample. -/
theorem observation_log_lossless {host : Host (StateM τ)} {files : τ → FileTree} (hhost : host.KeepsFiles files)
    {path : String} {jobs : List Job} (hjobs : ∀ job ∈ jobs, job.cfg.record = true ∧ job.cfg.recordPath = path)
    {h : τ} (happend : ((files h).append path "").1 = .ok ())
    (hold : contentAt path (files h) = "" ∨ (contentAt path (files h)).toList.getLast? = some '\n')
    (hclock : ∀ run ∈ runsOf host jobs h, ∀ t ∈ run.report.trials, t.finishedAt.IsValid) :
    let runs := runsOf host jobs h
    let old := contentAt path (files h)
    let content := contentAt path (files (afterAll host jobs h))
    runs.map JobRun.property = jobs.map (fun job => job.statement.text) ∧
    ∃ recorded : List (List (List Char)),
      List.Forall₂ JobRun.RecordedIn runs recorded ∧
      content.toList = old.toList ++ recorded.flatten.flatMap (fun line => line ++ ['\n']) ∧
      (∀ line ∈ recorded.flatten, '\n' ∉ line) ∧
      linesOf content.toList = linesOf old.toList ++ recorded.flatten := by
  intro runs old content
  have hcontent : content = old ++ Observation.lines (runs.flatMap JobRun.observations) :=
    (content_afterAll hhost hjobs happend).1
  have hrecorded : (runs.map JobRun.lines).flatten =
      (runs.flatMap JobRun.observations).map fun o => o.toJson.compact := by
    rw [List.map_flatMap, List.flatMap_def]
    rfl
  refine ⟨map_property_runsOf host jobs h, runs.map JobRun.lines, ?_, ?_, fun line hline => ?_, ?_⟩
  · -- Each run is recorded in the lines that it has added, whichever runs stand around it.
    refine List.forall₂_map_right_iff.2 (List.forall₂_same.2 fun run hrun => ?_)
    obtain ⟨job, -, g, rfl⟩ := exists_of_mem_runsOf hrun
    exact job.recordedIn_lines host g (hclock _ hrun)
  · rw [hcontent, String.toList_append, hrecorded, Observation.toList_lines]
  · rw [hrecorded] at hline
    obtain ⟨o, -, rfl⟩ := List.mem_map.1 hline
    exact o.plain_toJson.isVisible_compact.newline_notMem
  · -- No line that is added runs on from an unfinished line that was there before.
    have hstart : old.toList = [] ∨ old.toList.getLast? = some '\n' :=
      hold.imp_left fun hempty => by rw [show old = "" from hempty]; rfl
    rw [hcontent, String.toList_append, linesOf_append hstart, Observation.linesOf_lines, hrecorded]

/-- Two checks on the simulated host with its clock stopped, one of a statement with quotes and a line break in
    its text, and one that fails. -/
theorem observation_log_lossless_two :
    let host : Host (StateM Simulation) := { Host.simulated with now := pure (.ofNanoseconds 0) }
    let cfg : Config := { trials := 2, seed := some 7, record := true, recordPath := "t" }
    let jobs : List Job :=
      [{ cfg, statement := Statement.decided "\"\n\" = \"\\n\"" true, world := () },
        { cfg, statement := Statement.decided "1 = 2" false, world := () }]
    let runs := runsOf host jobs {}
    runs.map JobRun.property = ["\"\n\" = \"\\n\"", "1 = 2"] ∧
      ∃ recorded : List (List (List Char)),
        List.Forall₂ JobRun.RecordedIn runs recorded ∧
        linesOf (contentAt "t" (afterAll host jobs {}).files).toList = recorded.flatten := by
  intro host cfg jobs runs
  have hfiles : host.KeepsFiles Simulation.files := { Host.keepsFiles_simulated with now := fun _ => rfl }
  have hepoch : (Timestamp.ofNanoseconds 0).IsValid := ⟨by decide, by decide, by decide⟩
  have hnow : ∀ s : Simulation, (host.now s).1.IsValid := fun _ => hepoch
  have hjobs : ∀ job ∈ jobs, job.cfg.record = true ∧ job.cfg.recordPath = "t" := by
    simp [jobs, cfg]
  have happend : (FileTree.empty.append "t" "").1 = .ok () := by cbv
  have hclock : ∀ run ∈ runs, ∀ t ∈ run.report.trials, t.finishedAt.IsValid := by
    intro run hrun
    obtain ⟨job, -, g, rfl⟩ := exists_of_mem_runsOf hrun
    exact job.isValid_finishedAt hnow g
  obtain ⟨hproperties, recorded, hrecorded, -, -, hlines⟩ :=
    observation_log_lossless hfiles hjobs happend (.inl rfl) hclock
  exact ⟨hproperties, recorded, hrecorded, hlines⟩

end Falsify
