import Falsify.Random.Gen

/-! # Samplers

A sampler draws random values of a type and offers smaller ones in place of a value that turned out to be a
counterexample.  It works on a *proxy*, which is interpreted as a value only at the end, so that a value is
made smaller by way of its structure even when the value itself no longer shows it.

That candidates can be followed only finitely often is part of the type (`Sampler.wf`): it is what makes
the search for a small counterexample end.

* `map_map`: one map after another is the map of both. -/

namespace Falsify

/-- What a draw reads and changes: the generator, and the world that stateful samplers live in. -/
structure Source (σ : Type) where
  gen : Gen
  world : σ

namespace Source

variable {σ α : Type}

/-- A draw that uses the generator alone. -/
def random (f : Gen → α × Gen) : StateM (Source σ) α := fun s =>
  let drawn := f s.gen
  (drawn.1, { s with gen := drawn.2 })

/-- A step that uses the world alone. -/
def stateful (f : StateM σ α) : StateM (Source σ) α := fun s =>
  let stepped := f s.world
  (stepped.1, { s with world := stepped.2 })

/-- The size that values are drawn under. -/
def size : StateM (Source σ) UInt64 := fun s => (s.gen.size, s)

end Source

/-- A way to draw values of `α` through proxies of `π`, in a world of `σ`. -/
structure Sampler (σ π α : Type) where
  /-- Draws a proxy at the size of the generator. -/
  draw : StateM (Source σ) π
  /-- The candidates that a proxy can be replaced with, most aggressive first. -/
  shrinks : π → List π
  /-- The value that a proxy stands for. -/
  interpret : π → α
  /-- Candidates of candidates come to an end. -/
  wf : WellFounded fun c p => c ∈ shrinks p

namespace Sampler

variable {σ π α β γ : Type}

/-- The sampler whose values are those of `s` after `f`, drawn and shrunk as before. -/
def map (f : α → β) (s : Sampler σ π α) : Sampler σ π β where
  draw := s.draw
  shrinks := s.shrinks
  interpret p := f (s.interpret p)
  wf := s.wf

theorem map_map (g : β → γ) (f : α → β) (s : Sampler σ π α) :
    (s.map f).map g = s.map fun a => g (f a) := rfl

/-- The sampler that draws as `s` does and offers no candidates. -/
def withoutShrinks (s : Sampler σ π α) : Sampler σ π α where
  draw := s.draw
  shrinks _ := []
  interpret := s.interpret
  wf := ⟨fun _ => ⟨_, fun _ h => nomatch h⟩⟩

/-- The sampler that draws the listed proxies in turn, over and over, and shrinks them as `s` does.
    `position` answers the number of the draw, counted from zero; with an empty list, `s` draws. -/
def scripted (s : Sampler σ π α) (position : StateM σ Nat) (proxies : List π) : Sampler σ π α where
  draw := do
    let i ← Source.stateful position
    match proxies[i % proxies.length]? with
    | some p => pure p
    | none => s.draw
  shrinks := s.shrinks
  interpret := s.interpret
  wf := s.wf

end Sampler

end Falsify
