import Falsify.Sampler.Basic
import Falsify.Trace

/-! # Sessions

What testing reads and changes: the source of samples and the trace written so far.  A `Tester` is a step
of testing.

* `emit_false`: a line that is switched off leaves the session alone. -/

namespace Falsify

/-- A source of samples together with the trace of what was done with them. -/
structure Session (σ : Type) extends Source σ where
  trace : Array TraceLine := #[]

/-- A step of testing. -/
abbrev Tester (σ α : Type) : Type := StateM (Session σ) α

namespace Tester

variable {σ α : Type}

/-- A step that draws from the source. -/
def draw (f : StateM (Source σ) α) : Tester σ α := fun s =>
  let drawn := f s.toSource
  (drawn.1, { s with toSource := drawn.2 })

/-- A step that uses the world alone. -/
def stateful (f : StateM σ α) : Tester σ α := draw (Source.stateful f)

/-- Changes the size that samples are drawn under. -/
def resize (size : UInt64) : Tester σ Unit := fun s => ((), { s with gen := s.gen.withSize size })

/-- Writes a line to the trace if it is switched on. -/
def emit (on : Bool) (line : Unit → TraceLine) : Tester σ Unit := fun s =>
  ((), if on then { s with trace := s.trace.push (line ()) } else s)

theorem emit_false (line : Unit → TraceLine) (s : Session σ) : emit false line s = ((), s) := rfl

/-- Writing to the trace does not touch the source. -/
@[simp] theorem toSource_emit (on : Bool) (line : Unit → TraceLine) (s : Session σ) :
    (emit on line s).2.toSource = s.toSource := by
  cases on <;> rfl

end Tester

end Falsify
