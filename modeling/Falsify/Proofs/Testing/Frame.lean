import Falsify.Proofs.Testing.Relation

/-!
# What a test leaves alone

A test changes the session in three ways only: it draws from a sampler, it lets an atom or a preparation
change the world, and it writes to the trace.  A part of the session that none of these steps changes is the
same after the whole test, however deep the quantifiers are nested and whatever the searches try.

## Key results

- `Tester.keeps_iff_relates`: leaving something alone is a matter of a run beside itself.
- `Search.keeps_minimize`: a search changes nothing that the tests of its body do not change.
- `Statement.keeps_run`: a test changes nothing that the draws of its samplers do not change.
- `Statement.size_run`: a test leaves the size alone, if the samplers of the statement do.
- `Statement.trace_run`: a test writes nothing to the trace when all its lines are switched off.
-/

namespace Falsify

open Tester

variable {σ π α γ : Type}

/-! ## Steps -/

namespace Tester

/-- The step leaves a view of the session alone. -/
def Keeps (view : Session σ → γ) (f : Tester σ α) : Prop := ∀ s, view (f s).2 = view s

namespace Keeps

variable {β : Type} {view : Session σ → γ} {f : Tester σ α}

theorem pure (a : α) : Keeps view (Pure.pure a) := fun _ => rfl

/-- What two steps leave alone, both of them together leave alone. -/
theorem bind {k : α → Tester σ β} (h : Keeps view f) (hk : ∀ a, Keeps view (k a)) : Keeps view (f >>= k) :=
  fun s => (hk _ _).trans (h s)

theorem ite {c : Prop} [Decidable c] {g : Tester σ α} (hf : Keeps view f) (hg : Keeps view g) :
    Keeps view (if c then f else g) := by
  split
  · exact hf
  · exact hg

end Keeps

/-- To leave something alone is to keep a run related to itself, with what was there. -/
theorem keeps_iff_relates {view : Session σ → γ} {f : Tester σ α} :
    Keeps view f ↔ ∀ c, Relates (fun s t => s = t ∧ view s = c) f f := by
  constructor
  · rintro h c s _ ⟨rfl, rfl⟩
    exact ⟨rfl, rfl, h s⟩
  · intro h s
    exact (h (view s) s s ⟨rfl, rfl⟩).2.2

/-- A view of the session that shows neither the world nor the lines that a test writes to the trace, so that
    only draws can change it.  Each line is switched by a function of the toggles that is off when all of
    them are off. -/
structure ShowsDrawsOnly (view : Session σ → γ) (trace : TraceToggles) : Prop where
  emit : ∀ switch : TraceToggles → Bool, switch {} = false → ∀ line,
    Keeps view (Tester.emit (switch trace) line)
  stateful : ∀ {α : Type} (f : StateM σ α), Keeps view (Tester.stateful f)

/-- The generator is such a view, and so is the size that it draws under. -/
theorem showsDrawsOnly_gen (view : Gen → γ) (trace : TraceToggles) :
    ShowsDrawsOnly (σ := σ) (fun s => view s.gen) trace where
  emit switch _ line s :=
    congrArg (fun t : Source σ => view t.gen) (toSource_emit (switch trace) line s)
  stateful _ _ := rfl

/-- The trace is such a view if all lines are switched off. -/
theorem showsDrawsOnly_trace : ShowsDrawsOnly (σ := σ) (fun s => s.trace) {} where
  emit switch hoff line s := by rw [hoff, emit_false]
  stateful _ _ := rfl

/-- Runs beside themselves stay equal, and keep what the view shows. -/
theorem ShowsDrawsOnly.relatesSteps {view : Session σ → γ} {trace : TraceToggles}
    (h : ShowsDrawsOnly view trace) (c : γ) :
    RelatesSteps (fun s t => s = t ∧ view s = c) trace trace where
  emit switch hoff line := keeps_iff_relates.1 (h.emit switch hoff line) c
  stateful f := keeps_iff_relates.1 (h.stateful f) c

end Tester

/-! ## Searches -/

/-- A search changes nothing that the tests of its body do not change. -/
theorem Search.keeps_minimize [Literal π] {view : Session σ → γ} {trace : TraceToggles} {var : String}
    {sampler : Sampler σ π α} {body : Search.Body σ α} (hview : ShowsDrawsOnly view trace)
    (hbody : ∀ p m, Keeps view (body (sampler.interpret p) m)) (p : π) (r : Outcome) :
    Keeps view (minimize trace var sampler body p r) :=
  keeps_iff_relates.2 fun c =>
    relates_minimize (hview.relatesSteps c).emit rfl (fun p m => keeps_iff_relates.1 (hbody p m) c) p r

/-! ## Statements -/

namespace Statement

/-- Drawing from any sampler of the statement leaves a view of the session alone. -/
def DrawsKeep (view : Session σ → γ) (p : Statement σ) : Prop := p.Draws fun _ d => Keeps view (draw d)

/-- A test changes nothing that the draws of its samplers do not change. -/
theorem keeps_run {view : Session σ → γ} {trace : TraceToggles} (hview : ShowsDrawsOnly view trace)
    {p : Statement σ} (hp : p.DrawsKeep view) (minimize : Bool) : Keeps view (p.run trace minimize) :=
  keeps_iff_relates.2 fun c =>
    relates_run (hview.relatesSteps c) (hp.mono fun _ _ hd => keeps_iff_relates.1 hd c) minimize

/-- No sampler of the statement changes the size that it draws under. -/
def KeepsSize (p : Statement σ) : Prop := p.DrawsKeep fun s => s.gen.size

/-- A test leaves the size alone, if the samplers of the statement do. -/
theorem size_run {p : Statement σ} (hp : p.KeepsSize) (trace : TraceToggles) (minimize : Bool)
    (s : Session σ) : (p.run trace minimize s).2.gen.size = s.gen.size :=
  keeps_run (showsDrawsOnly_gen Gen.size trace) hp minimize s

/-- Draws do not write to the trace. -/
theorem drawsKeep_trace (p : Statement σ) : p.DrawsKeep fun s => s.trace :=
  p.draws_of_forall fun _ _ _ => rfl

/-- A test writes nothing to the trace when all its lines are switched off. -/
theorem trace_run (p : Statement σ) (minimize : Bool) (s : Session σ) :
    (p.run {} minimize s).2.trace = s.trace :=
  keeps_run showsDrawsOnly_trace p.drawsKeep_trace minimize s

end Statement

end Falsify
