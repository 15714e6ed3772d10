import Falsify.Error

/-! # Configuration of a check

How many trials to run, how large their samples may be, how often to retry a trial, what to trace and
whether to record observations.  Every setting has a default.

* `validate_eq_ok_iff`: the only configuration that cannot be used is one without trials. -/

namespace Falsify

/-- Which lines of a run are traced. -/
structure TraceToggles where
  /-- Samples that a guard discarded. -/
  discarded : Bool := false
  /-- Samples, whatever becomes of them. -/
  successes : Bool := false
  /-- Steps of the search for a smaller counterexample. -/
  shrinks : Bool := false
  /-- The candidates that the search tries. -/
  candidates : Bool := false
  deriving DecidableEq, Inhabited

/-- All lines are traced. -/
def TraceToggles.all : TraceToggles := ⟨true, true, true, true⟩

/-- The settings of a check. -/
structure Config where
  /-- The number of trials. -/
  trials : UInt64 := 100
  /-- The upper bound of the size that samples are drawn under. -/
  maxSize : UInt64 := 100
  /-- How often a trial is attempted while it gives up; zero counts as one. -/
  retries : UInt64 := 10
  /-- Which lines are traced. -/
  trace : TraceToggles := {}
  /-- The seed of the random generator, or a random one. -/
  seed : Option UInt64 := none
  /-- Whether the report of a counterexample and the line about success are left out. -/
  quiet : Bool := false
  /-- Whether every trial is recorded in a file. -/
  record : Bool := false
  /-- The path of that file. -/
  recordPath : String := ".propcheck/observations.jsonl"
  deriving DecidableEq, Inhabited

namespace Config

/-- The defaults, with everything traced. -/
def verbose : Config := { trace := .all }

/-- The settings with a fixed seed. -/
def withSeed (cfg : Config) (seed : UInt64) : Config := { cfg with seed := some seed }

/-- The settings with every trial recorded at a path. -/
def withRecord (cfg : Config) (path : String) : Config :=
  { cfg with record := true, recordPath := path }

/-- Whether a check can be run with these settings. -/
def validate (cfg : Config) : Except ConfigFault Unit :=
  if cfg.trials = 0 then .error .noTrials else .ok ()

theorem validate_eq_ok_iff {cfg : Config} : cfg.validate = .ok () ↔ cfg.trials ≠ 0 := by
  unfold validate
  split <;> simp_all

/-- How often a trial is attempted before its giving up stands. -/
def budget (cfg : Config) : Nat := max 1 cfg.retries.toNat

end Config

end Falsify
