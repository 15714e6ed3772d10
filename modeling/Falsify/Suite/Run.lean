import Falsify.Suite.Report
import Falsify.Suite.Schedule
import Falsify.Testing

/-! # Running a suite

A suite tests a statement over and over, trial by trial at the sizes of the schedule, until a trial fails or
all trials are done.  A trial that gives up is attempted again, with fresh samples, as often as the budget
allows. -/

namespace Falsify.Suite

open Tester

variable {σ : Type}

/-- Attempts a trial that has been attempted `made` times before and may be attempted `left` times after
    this attempt.  Answers the number of attempts and the outcome of the last one. -/
def attempt (trace : TraceToggles) (p : Statement σ) : (left made : Nat) → Tester σ (Nat × Outcome)
  | 0, made => do
    let r ← p.run trace true
    return (made + 1, r)
  | left + 1, made => do
    let r ← p.run trace true
    if r.isGaveUp then
      emit (trace.discarded && made == 0) fun _ => .retrying (left + 1)
      attempt trace p left (made + 1)
    else return (made + 1, r)

/-- Attempts a trial as often as the budget of the configuration allows. -/
def attempts (cfg : Config) (p : Statement σ) : Tester σ (Nat × Outcome) :=
  attempt cfg.trace p (cfg.budget - 1) 0

/-- Runs the trial with a number; answers the record that it leaves, up to its time. -/
def trial (cfg : Config) (p : Statement σ) (index : UInt64) : Tester σ (Timestamp → Trial) := do
  let size := sizeOfTrial index cfg.trials cfg.maxSize
  resize size
  emit cfg.trace.successes fun _ => .newSample
  let (made, outcome) ← attempts cfg p
  return fun finishedAt => { index, size, attempts := .ofNat made, outcome, finishedAt }

/-- Runs up to `left` more trials after those of a report.  `now` is asked for the time after each one. -/
def trialsFrom {m : Type → Type} [Monad m] (now : m Timestamp) (cfg : Config) (p : Statement σ) :
    (left : Nat) → Report → Session σ → m (Report × Session σ)
  | 0, report, s => pure (report, s)
  | left + 1, report, s => do
    -- The trials done so far number the next one.
    let ran := trial cfg p (.ofNat report.trials.size) s
    let done := ran.1 (← now)
    let report : Report := ⟨report.trials.push done⟩
    if done.outcome.isFailure then pure (report, ran.2)
    else trialsFrom now cfg p left report ran.2

/-- Runs the trials of a configuration. -/
def run {m : Type → Type} [Monad m] (now : m Timestamp) (cfg : Config) (p : Statement σ)
    (s : Session σ) : m (Report × Session σ) :=
  trialsFrom now cfg p cfg.trials.toNat {} s

end Falsify.Suite
