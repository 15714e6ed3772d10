import Falsify.Json.Record
import Falsify.Outcome
import Falsify.Time.Timestamp

/-! # Reports of suite runs

What a suite run leaves behind: its trials in order, the one that failed if there is one, and counts of the
others.

* `failure_push`: which trial a report calls its failure. -/

namespace Falsify

/-- The record of one trial. -/
structure Trial where
  /-- The number of the trial, counted from zero. -/
  index : UInt64
  /-- The size that its samples were drawn under. -/
  size : UInt64
  /-- How often it was attempted; more than once only if it gave up. -/
  attempts : UInt64
  /-- The outcome of the last attempt. -/
  outcome : Outcome
  /-- When it was over. -/
  finishedAt : Timestamp
  deriving DecidableEq, Inhabited

/-- The kind of a trial's outcome. -/
def Trial.status (t : Trial) : Status := t.outcome.status

/-- The trials of a suite run, in order. -/
structure Report where
  trials : Array Trial := #[]
  deriving DecidableEq, Inhabited

/-- The counts of a run that found no counterexample, and the seed that replays it. -/
structure Summary where
  trials : UInt64
  passed : UInt64
  gaveUp : UInt64
  seed : UInt64
  deriving DecidableEq, Inhabited

namespace Report

/-- The trial that found a counterexample. -/
def failure (r : Report) : Option Trial := r.trials.back?.filter (·.outcome.isFailure)

/-- The number of trials of a kind. -/
def count (r : Report) (status : Status) : Nat := r.trials.countP (·.status = status)

/-- The number of trials that passed. -/
def passed (r : Report) : Nat := r.count .passed

/-- The number of trials that gave up. -/
def gaveUp (r : Report) : Nat := r.count .gaveUp

/-- The counts of a run. -/
def summary (r : Report) (seed : UInt64) : Summary :=
  ⟨.ofNat r.trials.size, .ofNat r.passed, .ofNat r.gaveUp, seed⟩

theorem failure_push (r : Report) (t : Trial) :
    failure ⟨r.trials.push t⟩ = if t.outcome.isFailure then some t else none := by
  simp [failure, Option.filter]

end Report

/-- The headline of a counterexample. -/
def counterexampleBanner : String := "Found a counterexample!"

/-- All that is said about a counterexample when reports are to be quiet. -/
def quietCounterexample : String := "Found a counterexample"

/-- The report of a failure: a headline, the labels line by line and the number of search steps. -/
def failureReport (banner : String) (labels : List String) (shrinks : UInt64) : String :=
  "\n".intercalate ["\n===================", banner, "\n".intercalate labels,
    "(" ++ toString shrinks.toNat ++ " shrinks)", "-------------------"]

/-- The report of the failure of a trial. -/
def Trial.failureReport (t : Trial) : String :=
  Falsify.failureReport counterexampleBanner t.outcome.labels t.outcome.shrinks

namespace Summary

/-- A summary as a JSON object. -/
def toJson (s : Summary) : Json :=
  .ofMembers [("trials", .ofWord s.trials), ("passed", .ofWord s.passed),
    ("gave_up", .ofWord s.gaveUp), ("seed", .ofWord s.seed)]

/-- The fields of a summary. -/
def fieldNames : List String := ["trials", "passed", "gave_up", "seed"]

/-- Reads a summary. -/
def ofJson? (json : Json) : Option Summary := do
  let fields ← json.fields? fieldNames
  return {
    trials := ← fields.get? "trials" Json.word?
    passed := ← fields.get? "passed" Json.word?
    gaveUp := ← fields.get? "gave_up" Json.word?
    seed := ← fields.get? "seed" Json.word? }

end Summary

end Falsify
