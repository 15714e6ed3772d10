import Falsify.Host.Log
import Falsify.Error
import Falsify.Time.Timestamp

/-! # Hosts

All that a check needs from its surroundings: random seeds, the time, identifiers for runs, a file to append
to and a place for log lines.  A check is written for any host, so it runs in the real world and in a
simulated one alike.  A file is appended to step by step, and each of the steps can fail. -/

namespace Falsify

/-- What a check needs from its surroundings. -/
structure Host (m : Type → Type) where
  /-- A random seed. -/
  entropy : m UInt64
  /-- The time. -/
  now : m Timestamp
  /-- A new identifier for a run. -/
  runId : m Uuid
  /-- Makes the folders on the way to the file at a path where they are missing. -/
  makeParents : (path : String) → m (Except FileFault Unit)
  /-- Opens the file at a path for appending, and makes it when it is missing. -/
  openFile : (path : String) → m (Except FileFault Unit)
  /-- Writes to the end of the file at a path, which has been opened.  What is written may be held back. -/
  write : (path text : String) → m (Except FileFault Unit)
  /-- Writes out what has been held back of the file at a path. -/
  flush : (path : String) → m (Except FileFault Unit)
  /-- Reports a line. -/
  log : LogLine → m Unit

end Falsify
