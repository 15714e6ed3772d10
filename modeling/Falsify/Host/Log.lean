import Falsify.Trace
import Falsify.Uuid

/-! # Log lines

What a program reports while it runs: a message with a level, the part of the program that it comes from and
named values. -/

namespace Falsify

/-- How important a log line is. -/
inductive LogLevel where
  | debug
  | info
  | warn
  | error
  deriving DecidableEq, Inhabited

/-- The word for a level. -/
def LogLevel.name : LogLevel → String
  | debug => "DEBUG"
  | info => "INFO"
  | warn => "WARN"
  | error => "ERROR"

/-- A value that a log line carries. -/
inductive LogValue where
  | number (n : UInt64)
  | word (s : String)
  deriving DecidableEq, Inhabited

/-- The text of a value. -/
def LogValue.text : LogValue → String
  | number n => toString n.toNat
  | word s => s

/-- A log line. -/
structure LogLine where
  level : LogLevel
  /-- The part of the program that reports. -/
  target : String
  message : String
  fields : List (String × LogValue) := []
  deriving DecidableEq, Inhabited

namespace LogLine

/-- The part of the program that runs checks. -/
def checkTarget : String := "cim_propcheck::runner"

/-- The part of the program that traces. -/
def traceTarget : String := "cim_propcheck::trace"

/-- A trace line as a log line. -/
def ofTrace (line : TraceLine) : LogLine := ⟨.info, traceTarget, line.text, []⟩

/-- A check begins. -/
def checking (statement : String) (seed trials maxSize : UInt64) : LogLine where
  level := .debug
  target := checkTarget
  message := "Checking " ++ statement
  fields := [("seed", .number seed), ("num_inst", .number trials), ("max_size", .number maxSize)]

/-- Observations were recorded. -/
def recorded (count : Nat) (runId : Uuid) (path : String) : LogLine where
  level := .debug
  target := checkTarget
  message := "Exported " ++ toString count ++ " observations"
  fields := [("run_id", .word runId.text), ("path", .word path)]

/-- Observations could not be recorded. -/
def recordingFailed (error path : String) : LogLine where
  level := .error
  target := checkTarget
  message := "Failed to export observations: " ++ error
  fields := [("path", .word path)]

/-- Some trials gave up. -/
def gaveUp (times : Nat) : LogLine where
  level := .warn
  target := checkTarget
  message := "Gave up after failing to generate values that fulfill the preconditions "
    ++ toString times ++ " times."

/-- A trial failed. -/
def counterexample (seed trial : UInt64) : LogLine where
  level := .warn
  target := checkTarget
  message := "Counterexample found; replay with this seed"
  fields := [("seed", .number seed), ("trial", .number trial)]

/-- No trial failed. -/
def noCounterexample : LogLine := ⟨.info, checkTarget, "No counterexample found", []⟩

/-- Whether a line is shown when debugging lines are not. -/
def isShown (line : LogLine) : Bool := line.level ≠ .debug

/-- The text of a log line: its level in five columns, its origin, its message and its values. -/
def text (line : LogLine) : String :=
  let level := line.level.name
  let gap := String.ofList (List.replicate (5 - level.length) ' ')
  let fields := line.fields.map fun (name, value) => " " ++ name ++ "=" ++ value.text
  gap ++ level ++ " " ++ line.target ++ ": " ++ line.message ++ String.join fields

end LogLine

end Falsify
