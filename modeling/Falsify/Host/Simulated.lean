import Falsify.FileTree
import Falsify.Host.Basic

/-! # A simulated host

A host whose surroundings are a value: a file tree, a clock that moves on by a fixed step whenever it is
looked at, numbered seeds and identifiers, and the log lines reported so far.  What is written is not held back. -/

namespace Falsify

/-- The surroundings of a simulated host. -/
structure Simulation where
  files : FileTree := .empty
  /-- The lines reported so far. -/
  log : Array LogLine := #[]
  /-- The time, in milliseconds since the start of 1970. -/
  clock : UInt64 := 0
  /-- The next seed. -/
  entropy : UInt64 := 0
  /-- The number of identifiers that were made. -/
  runs : UInt64 := 0
  deriving Inhabited

/-- Puts an edited file tree in the place of the one that is there; if the edit failed, that one stays. -/
def Simulation.edit (f : FileTree → Except FileFault FileTree) : StateM Simulation (Except FileFault Unit) :=
  fun s =>
    match f s.files with
    | .error fault => (.error fault, s)
    | .ok files => (.ok (), { s with files })

/-- The host that lives in a simulation. -/
def Host.simulated : Host (StateM Simulation) where
  entropy := fun s => (s.entropy, { s with entropy := s.entropy + 1 })
  now := fun s => (.ofNanoseconds (s.clock.toNat * 1000000), { s with clock := s.clock + 1 })
  runId := fun s => (.ofTime s.clock 0 s.runs, { s with runs := s.runs + 1 })
  makeParents path := fun s =>
    let made := s.files.makeParents path
    (made.1, { s with files := made.2 })
  openFile path := Simulation.edit (·.openFile path)
  write path text := Simulation.edit (·.write path text)
  flush _ := pure (.ok ())
  log line := fun s => ((), { s with log := s.log.push line })

end Falsify
