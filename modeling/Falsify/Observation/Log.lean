import Falsify.Host.Basic
import Falsify.Observation.Record

/-! # Observation log

The file that keeps the observations of runs.  Each run appends its own, under an identifier of its own, so
the runs in one file can be told apart.

A fault of the file is reported as such, with one exception: a record is written by its encoder, and a fault that
comes up while it does so is reported as one of encoding. -/

namespace Falsify

variable {m : Type → Type} [Monad m]

/-- A step with a file, whose fault is reported as an error of a check. -/
def orReport (report : FileFault → CheckError) (step : m (Except FileFault Unit)) :
    ExceptT CheckError m Unit :=
  ExceptT.mk do return (← step).mapError report

/-- Makes the folders on the way to the file at a path and opens it for appending. -/
def openLog (host : Host m) (path : String) : ExceptT CheckError m Unit := do
  orReport .unwritable (host.makeParents path)
  orReport .unwritable (host.openFile path)

namespace Observation

/-- Writes observations to the file at a path, which has been opened. -/
def writeAll (host : Host m) (path : String) : List Observation → ExceptT CheckError m Unit
  | [] => pure ()
  | o :: os => do
    orReport (fun fault => .unencodable fault.message) (host.write path o.toJson.text)
    -- The end of the line is not part of the record.
    orReport .unwritable (host.write path "\n")
    writeAll host path os

/-- Appends the observations of a report to the file at a path.  Answers how many there were. -/
def append (host : Host m) (path : String) (runId : Uuid) (property : String) (report : Report) :
    ExceptT CheckError m Nat := do
  openLog host path
  let os := ofReport runId property report
  writeAll host path os
  orReport .unwritable (host.flush path)
  return os.length

end Observation

end Falsify
