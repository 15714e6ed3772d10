import Falsify.Observation.Log
import Falsify.Suite.Run

/-! # Checking a statement

A check runs the suite of a configuration and turns its report into a verdict: a summary when no trial failed,
and otherwise the report of the trial that did.  The verdict rests on the trials alone: a counterexample is
reported even when the observations cannot be recorded.

* `check_of_noTrials`: without trials there is no check. -/

namespace Falsify

variable {m : Type → Type} [Monad m] {σ : Type}

/-- Records the observations of a report and says whether that worked. -/
def recordReport (host : Host m) (cfg : Config) (property : String) (report : Report) :
    m (Except CheckError Unit) := do
  let runId ← host.runId
  match ← (Observation.append host cfg.recordPath runId property report).run with
  | .ok count =>
    host.log (.recorded count runId cfg.recordPath)
    return .ok ()
  | .error error =>
    host.log (.recordingFailed error.message cfg.recordPath)
    return .error error

/-- The verdict about a run, given how recording it went. -/
def verdict (cfg : Config) (seed : UInt64) (report : Report) (recorded : Except CheckError Unit) :
    Except CheckError Summary :=
  match report.failure with
  | some t => .error (.counterexample (if cfg.quiet then quietCounterexample else t.failureReport))
  | none =>
    match recorded with
    | .error error => .error error
    | .ok () => .ok (report.summary seed)

/-- The log lines about a verdict. -/
def verdictLines (cfg : Config) (seed : UInt64) (report : Report)
    (recorded : Except CheckError Unit) : List LogLine :=
  let gaveUp := if report.gaveUp = 0 then [] else [LogLine.gaveUp report.gaveUp]
  let found :=
    match report.failure, recorded with
    | some t, _ => [LogLine.counterexample seed t.index]
    | none, .ok () => if cfg.quiet then [] else [LogLine.noCounterexample]
    | none, .error _ => []
  gaveUp ++ found

/-- Checks a statement with the settings of a configuration, from a state of its world.  Answers the verdict
    and the state that the world is left in. -/
def check (host : Host m) (cfg : Config) (p : Statement σ) (world : σ) :
    m (Except CheckError Summary × σ) := do
  match cfg.validate with
  | .error fault => return (.error (.configuration fault), world)
  | .ok () =>
    let seed ← match cfg.seed with
      | some seed => pure seed
      | none => host.entropy
    host.log (.checking p.text seed cfg.trials cfg.maxSize)
    let (report, session) ← Suite.run host.now cfg p { gen := .ofSeed seed, world }
    session.trace.toList.forM fun line => host.log (.ofTrace line)
    -- What failed is recorded as well, so the record comes before the verdict.
    let recorded ← if cfg.record then recordReport host cfg p.text report else pure (.ok ())
    (verdictLines cfg seed report recorded).forM host.log
    return (verdict cfg seed report recorded, session.world)

theorem check_of_noTrials (host : Host m) (cfg : Config) (p : Statement σ) (world : σ)
    (h : cfg.trials = 0) :
    check host cfg p world = pure (.error (.configuration .noTrials), world) := by
  simp [check, Config.validate, h]

end Falsify
