import Falsify.Proofs.Host.Files
import Falsify.Proofs.Suite.Trials

/-!
# What a check does to files

Everything that a check asks of its host but one leaves the files alone: only recording the observations
opens a file and writes to it, once, after all trials have been run.

## Key results

- `check_eq`: all that a check answers and leaves behind.
- `kept_check`: a check that does not come to write leaves the content of every file as it was.
- `files_check`: the files after a check with trials.
-/

namespace Falsify

variable {σ τ γ : Type}

/-! ## Suites -/

/-- A suite changes of its host what the clock changes. -/
theorem Suite.view_trialsFrom {now : StateM τ Timestamp} {view : τ → γ} (hnow : ∀ h, view (now h).2 = view h)
    (cfg : Config) (p : Statement σ) (left : Nat) (report : Report) (s : Session σ) (h : τ) :
    view (trialsFrom now cfg p left report s h).2 = view h := by
  induction left generalizing report s h with
  | zero => rfl
  | succ left ih =>
    rw [trialsFrom_succ]
    dsimp only
    split
    · exact hnow h
    · exact (ih _ _ _).trans (hnow h)

/-- Logging a list of lines changes what logging one line changes. -/
theorem Host.view_forM_log {host : Host (StateM τ)} {view : τ → γ}
    (hlog : ∀ line h, view (host.log line h).2 = view h) {ι : Type} (line : ι → LogLine) (xs : List ι) (h : τ) :
    view (xs.forM (fun x => host.log (line x)) h).2 = view h := by
  induction xs generalizing h with
  | nil => rfl
  | cons x xs ih => exact (ih _).trans (hlog _ h)

/-! ## Checks -/

section

variable (host : Host (StateM τ)) (cfg : Config) (p : Statement σ) (world : σ)

/-- A check runs its suite, records it if that is wanted, and logs the lines about its verdict. -/
theorem check_eq (h : τ) (htrials : cfg.trials ≠ 0) :
    check host cfg p world h =
      let chosen := seeded host cfg h
      let ran := (suiteOf host cfg p world chosen.1 chosen.2).1
      let recorded := recordedOf host cfg p world chosen.1 chosen.2
      ((verdict cfg chosen.1 ran.1 recorded.1, ran.2.world),
        ((verdictLines cfg chosen.1 ran.1 recorded.1).forM host.log recorded.2).2) := by
  have hvalid : cfg.validate = .ok () := Config.validate_eq_ok_iff.2 htrials
  unfold check recordedOf seeded
  rw [hvalid]
  cases cfg.seed with
  | none => cases cfg.record <;> rfl
  | some seed => cases cfg.record <;> rfl

/-- Without trials, a check leaves the world and the host alone. -/
theorem check_apply_of_noTrials (h : τ) (htrials : cfg.trials = 0) :
    check host cfg p world h = ((.error (.configuration .noTrials), world), h) := by
  rw [check_of_noTrials host cfg p world htrials]
  rfl

/-- The host of a check when its observations are about to be recorded. -/
def beforeRecord (seed : UInt64) (h : τ) : τ := (host.runId (traced host cfg p world seed h)).2

/-- A check whose log cannot be opened has nothing of it but the error. -/
theorem appended_of_openLog_eq_error {seed : UInt64} {h : τ} {error : CheckError}
    (hopen : (openLog host cfg.recordPath (beforeRecord host cfg p world seed h)).1 = .error error) :
    appended host cfg p world seed h =
      (.error error, (openLog host cfg.recordPath (beforeRecord host cfg p world seed h)).2) :=
  Observation.append_of_openLog_eq_error hopen _ _ _

end

section

variable {host : Host (StateM τ)} {cfg : Config} {p : Statement σ} {world : σ} {seed : UInt64} {h : τ}

/-! ### Views of the host -/

section

variable {view : τ → γ}

/-- Choosing a seed changes of the host what a random seed changes. -/
theorem view_seeded (hentropy : ∀ h, view (host.entropy h).2 = view h) (cfg : Config) (h : τ) :
    view (seeded host cfg h).2 = view h := by
  unfold seeded
  cases cfg.seed with
  | none => exact hentropy h
  | some seed => rfl

/-- The suite of a check and what is logged of it change of the host what the clock and the log change. -/
theorem view_traced (hnow : ∀ h, view (host.now h).2 = view h)
    (hlog : ∀ line h, view (host.log line h).2 = view h) : view (traced host cfg p world seed h) = view h := by
  have hran : view (suiteOf host cfg p world seed h).2 = view h :=
    (Suite.view_trialsFrom hnow cfg p _ {} _ _).trans (hlog _ h)
  exact (Host.view_forM_log hlog _ _ _).trans hran

/-- Recording a report changes of the host what appending changes, if it is wanted. -/
theorem view_recordedOf (hnow : ∀ h, view (host.now h).2 = view h)
    (hlog : ∀ line h, view (host.log line h).2 = view h) :
    view (recordedOf host cfg p world seed h).2 =
      if cfg.record then view (appended host cfg p world seed h).2 else view h := by
  split
  · rename_i hrecord
    -- Only a line of the log of the program is added to what appending has done.
    obtain ⟨line, hrecorded⟩ := exists_recordedOf_eq host cfg p world seed h hrecord
    rw [hrecorded]
    exact hlog _ _
  · rename_i hrecord
    rw [recordedOf, if_neg hrecord]
    exact view_traced hnow hlog

/-- A check with trials changes of the host what appending changes, if its observations are to be recorded. -/
theorem view_check (hentropy : ∀ h, view (host.entropy h).2 = view h) (hnow : ∀ h, view (host.now h).2 = view h)
    (hlog : ∀ line h, view (host.log line h).2 = view h) (htrials : cfg.trials ≠ 0) :
    let chosen := seeded host cfg h
    view (check host cfg p world h).2 =
      if cfg.record then view (appended host cfg p world chosen.1 chosen.2).2 else view h := by
  intro chosen
  rw [check_eq host cfg p world h htrials]
  -- The lines about the verdict come last.
  refine (Host.view_forM_log hlog id _ _).trans ?_
  rw [view_recordedOf hnow hlog, view_seeded hentropy]

end

/-! ### Contents -/

/-- Up to the point where its observations are recorded, a check leaves the content of every file alone. -/
theorem content?_beforeRecord {content? : τ → γ → Option String} (hhost : host.OpensSafely content?) :
    let chosen := seeded host cfg h
    content? (beforeRecord host cfg p world chosen.1 chosen.2) = content? h :=
  (hhost.runId _).trans ((view_traced hhost.now hhost.log).trans (view_seeded hhost.entropy cfg h))

/-- A check that does not come to write, as it has no trials, does not record them, or cannot open the log,
    leaves every file with the content that it had. -/
theorem kept_check {content? : τ → γ → Option String} (hhost : host.OpensSafely content?)
    (hunwritten : let chosen := seeded host cfg h
      cfg.trials = 0 ∨ cfg.record = false ∨ ∃ error,
        (openLog host cfg.recordPath (beforeRecord host cfg p world chosen.1 chosen.2)).1 = .error error) :
    Kept content? h (check host cfg p world h).2 := by
  by_cases htrials : cfg.trials = 0
  · rw [check_apply_of_noTrials host cfg p world h htrials]
    exact .of_eq rfl
  · have hcheck : content? (check host cfg p world h).2 =
        if cfg.record then content? (appended host cfg p world (seeded host cfg h).1 (seeded host cfg h).2).2
        else content? h :=
      view_check hhost.entropy hhost.now hhost.log htrials
    cases hrecord : cfg.record with
    | false =>
      rw [hrecord, if_neg Bool.false_ne_true] at hcheck
      exact .of_eq hcheck
    | true =>
      -- Recording was wanted, so it is the log that could not be opened.
      obtain ⟨error, herror⟩ := hunwritten.resolve_left htrials |>.resolve_left fun hoff => by
        rw [hrecord] at hoff
        cases hoff
      have happended := appended_of_openLog_eq_error host cfg p world herror
      rw [hrecord, if_pos rfl, happended] at hcheck
      have hopened := hhost.kept_openLog cfg.recordPath
        (beforeRecord host cfg p world (seeded host cfg h).1 (seeded host cfg h).2)
      exact ((Kept.of_eq (content?_beforeRecord hhost)).trans hopened).trans (.of_eq hcheck)

/-! ### Files -/

variable {files : τ → FileTree}

/-- The observations of the suite of a check, under the identifier that the host gives it, are appended to the
    file at its path, if that can be appended to. -/
theorem appended_eq (hhost : host.KeepsFiles files) (happend : ((files h).append cfg.recordPath "").1 = .ok ()) :
    let runId := (host.runId (traced host cfg p world seed h)).1
    let observations := Observation.ofReport runId p.text (suiteOf host cfg p world seed h).1.1
    (appended host cfg p world seed h).1 = .ok observations.length ∧
      files (appended host cfg p world seed h).2 =
        ((files h).append cfg.recordPath (Observation.lines observations)).2 := by
  intro runId observations
  have hfiles : files (host.runId (traced host cfg p world seed h)).2 = files h :=
    (hhost.runId _).trans (view_traced hhost.now hhost.log)
  have happlied := Observation.append_apply (h := (host.runId (traced host cfg p world seed h)).2) hhost
    (by rw [hfiles]; exact happend) runId p.text (suiteOf host cfg p world seed h).1.1
  rw [hfiles] at happlied
  exact happlied

/-- The files after a check with trials: those before it, with the observations of its suite appended if they
    are to be recorded. -/
theorem files_check (hhost : host.KeepsFiles files) (htrials : cfg.trials ≠ 0) :
    let chosen := seeded host cfg h
    files (check host cfg p world h).2 =
      if cfg.record then files (appended host cfg p world chosen.1 chosen.2).2 else files h :=
  view_check hhost.entropy hhost.now hhost.log htrials

end

end Falsify
