import Falsify.Proofs.Testing.Decisions

/-!
# Mapped samplers

Mapping a function over a sampler and applying it in the body of a quantifier come to the same test: the proxies
that are drawn, offered and settled on are those of the sampler, and only what they stand for is read through
the function.  The two reports differ in one place, which is where the quantifier shows its value.

Mapping goes well with itself and with containers: a container over a mapped sampler is the container over the
sampler, mapped part by part.

## Key results

- `settled_map`: both tests settle on the same proxy with the same outcome.
- `Outcome.Rebound`: two outcomes of a quantifier that differ in the value that they show.
- `Sampler.list_map`, `Sampler.option_map`, `Sampler.pair_map`: containers over mapped samplers.
- `mapping_transparent`: the two tests side by side.
-/

namespace Falsify

open Tester

variable {σ π ρ α β γ δ : Type}

/-! ## Samplers -/

namespace Sampler

/-- Samplers are given by what they draw, offer and interpret. -/
theorem eq_of_draw_eq {s t : Sampler σ π α} (hdraw : s.draw = t.draw) (hshrinks : s.shrinks = t.shrinks)
    (hinterpret : s.interpret = t.interpret) : s = t := by
  cases s
  cases t
  -- The fourth field of a sampler is a proof, so nothing is left to compare.
  cases hdraw
  cases hshrinks
  cases hinterpret
  rfl

/-- Lists are drawn and offered by way of the proxies of their elements, which mapping leaves alone. -/
theorem list_map (f : α → β) (s : Sampler σ π α) : (s.map f).list = s.list.map (List.map f) := by
  refine eq_of_draw_eq rfl rfl (funext fun ps => ?_)
  show ps.map (f ∘ s.interpret) = (ps.map s.interpret).map f
  rw [List.map_map]

/-- Mapping the value of an option is mapping inside the option. -/
theorem option_map (f : α → β) (s : Sampler σ π α) : (s.map f).option = s.option.map (Option.map f) := by
  refine eq_of_draw_eq rfl rfl (funext fun o => ?_)
  show o.map (f ∘ s.interpret) = (o.map s.interpret).map f
  rw [Option.map_map]

theorem pair_map (f : α → β) (g : γ → δ) (s : Sampler σ π α) (t : Sampler σ ρ γ) :
    (s.map f).pair (t.map g) = (s.pair t).map (Prod.map f g) := rfl

end Sampler

/-! ## Bound variables -/

namespace Tester

theorem relates_eq_refl (f : Tester σ α) : Relates Eq f f := by
  rintro s _ rfl
  exact ⟨rfl, rfl⟩

/-- Steps that do the same from equal sessions are equal. -/
theorem eq_of_relates_eq {f g : Tester σ α} (h : Relates Eq f g) : f = g :=
  funext fun s => Prod.ext (h s s rfl).1 (h s s rfl).2

end Tester

section Binding

variable [Literal π]

/-- The body sees the same values either way, so the same candidates fail and the search takes the same way. -/
theorem settled_map (trace : TraceToggles) (var : String) (sampler : Sampler σ π α) (f : α → β)
    (body : Search.Body σ β) (minimize : Bool) :
    settled trace var (sampler.map f) body minimize =
      settled trace var sampler (fun a => body (f a)) minimize := by
  have hlines : RelatesLines (σ := σ) Eq trace trace := fun _ _ _ => relates_eq_refl _
  have hdraw : Relates Eq (draw (sampler.map f).draw) (draw sampler.draw) := relates_eq_refl _
  have hbody (p : π) (m : Bool) :
      Relates Eq (body ((sampler.map f).interpret p) m) (body (f (sampler.interpret p)) m) := relates_eq_refl _
  exact eq_of_relates_eq (relates_settled hlines hdraw rfl hbody minimize)

end Binding

/-! ## Outcomes -/

/-- The outcomes of two quantifiers over `var`, one of which shows the text `v` for the value that it settled on,
    and the other one the text `w`. -/
inductive Outcome.Rebound (var v w : String) : Outcome → Outcome → Prop
  | success (labels : List String) :
      Rebound var v w (.success none ((var ++ " := " ++ v) :: labels))
        (.success none ((var ++ " := " ++ w) :: labels))
  | gaveUp : Rebound var v w .gaveUp .gaveUp
  | failure (steps labels : List String) (shrinks : UInt64) :
      Rebound var v w
        (.failure ⟨steps ++ ["contrapositive of " ++ ("specialise " ++ (var ++ " := " ++ v))]⟩
          ((var ++ " := " ++ v) :: labels) shrinks)
        (.failure ⟨steps ++ ["contrapositive of " ++ ("specialise " ++ (var ++ " := " ++ w))]⟩
          ((var ++ " := " ++ w) :: labels) shrinks)

namespace Outcome.Rebound

variable {var v w : String} {r s : Outcome}

/-- One outcome of a body, reported with either text. -/
theorem annotate (var v w : String) (r : Outcome) :
    Rebound var v w
      (r.annotate (var ++ " := " ++ v) (.weakening ("specialise " ++ (var ++ " := " ++ v))))
      (r.annotate (var ++ " := " ++ w) (.weakening ("specialise " ++ (var ++ " := " ++ w)))) := by
  cases r with
  | success e labels => exact .success labels
  | gaveUp => exact .gaveUp
  | failure c labels n => exact .failure c.steps labels n

theorem status_eq (h : Rebound var v w r s) : r.status = s.status := by
  cases h <;> rfl

theorem evidence_eq (h : Rebound var v w r s) : r.evidence? = s.evidence? := by
  cases h <;> rfl

theorem shrinks_eq (h : Rebound var v w r s) : r.shrinks = s.shrinks := by
  cases h <;> rfl

end Outcome.Rebound

/-! ## Statements -/

namespace Statement

variable [Literal π] [Literal α] [Literal β] (var : String) (sampler : Sampler σ π α) (f : α → β)
  (body : β → Statement σ) (trace : TraceToggles) (minimize : Bool) (s : Session σ)

/-- The test of a quantifier over a mapped sampler, beside that of the quantifier whose body maps. -/
theorem run_forAll_map :
    let mapped := (forAll var (sampler.map f) body).run trace minimize s
    let composed := (forAll var sampler fun a => body (f a)).run trace minimize s
    (∃ p, Outcome.Rebound var (literal (f (sampler.interpret p))) (literal (sampler.interpret p))
      mapped.1 composed.1) ∧ mapped.2 = composed.2 := by
  -- Both settle on one proxy, and each shows what it stands for under its own sampler.
  have hmapped : (forAll var (sampler.map f) body).run trace minimize =
      boundReport var (sampler.map f) <$>
        settled trace var sampler (fun a m => (body (f a)).run trace m) minimize :=
    (testBound_eq minimize).trans (congrArg _ (settled_map trace var sampler f _ minimize))
  have hcomposed : (forAll var sampler fun a => body (f a)).run trace minimize =
      boundReport var sampler <$>
        settled trace var sampler (fun a m => (body (f a)).run trace m) minimize :=
    testBound_eq minimize
  rw [hmapped, hcomposed]
  exact ⟨⟨_, .annotate var _ _ _⟩, rfl⟩

/-- Mapping does not change which decisions are made. -/
theorem decisions_forAll_map :
    (forAll var (sampler.map f) body).decisions trace minimize s =
      (forAll var sampler fun a => body (f a)).decisions trace minimize s := by
  -- Recording changes draws alone, so the recorded sampler of the one is the mapped one of the other.
  have hsession := (run_forAll_map var sampler.recorded f (fun b => (body b).recorded) trace minimize s.recorded).2
  exact congrArg (fun t : Session (Recorded σ) => t.world.decisions) hsession

end Statement

open Statement in
/-- **Mapped samplers are transparent.**  A quantifier over a mapped sampler is tested as the quantifier over the
    sampler whose body applies the function itself: with the same decisions, to the same session, and to outcomes
    that differ in the value that they show for the variable.  Mapping twice is mapping once by both functions,
    and a container over a mapped sampler is the container over the sampler, mapped part by part. -/
theorem mapping_transparent [Literal π] [Literal α] [Literal β] [Literal γ] (var : String)
    (sampler : Sampler σ π α) (f : α → β) (g : β → γ) :
    (∀ (body : β → Statement σ) (trace : TraceToggles) (minimize : Bool) (s : Session σ),
      let mapped := forAll var (sampler.map f) body
      let composed := forAll var sampler fun a => body (f a)
      let r := mapped.run trace minimize s
      let r' := composed.run trace minimize s
      r.1.status = r'.1.status ∧ r.1.evidence? = r'.1.evidence? ∧ r.1.shrinks = r'.1.shrinks ∧
        (∃ p, Outcome.Rebound var (literal (f (sampler.interpret p))) (literal (sampler.interpret p)) r.1 r'.1) ∧
        r.2 = r'.2 ∧ mapped.decisions trace minimize s = composed.decisions trace minimize s) ∧
    (∀ (body : γ → Statement σ) (trace : TraceToggles) (minimize : Bool),
      (forAll var ((sampler.map f).map g) body).run trace minimize =
        (forAll var (sampler.map fun a => g (f a)) body).run trace minimize) ∧
    (sampler.map f).list = sampler.list.map (List.map f) ∧
    (sampler.map f).option = sampler.option.map (Option.map f) ∧
    ∀ {ρ δ ε : Type} (other : Sampler σ ρ δ) (h : δ → ε),
      (sampler.map f).pair (other.map h) = (sampler.pair other).map (Prod.map f h) := by
  refine ⟨fun body trace minimize s => ?_, fun body trace minimize => by rw [Sampler.map_map],
    sampler.list_map f, sampler.option_map f, fun other h => sampler.pair_map f h other⟩
  obtain ⟨⟨p, hp⟩, hsession⟩ := run_forAll_map var sampler f body trace minimize s
  exact ⟨hp.status_eq, hp.evidence_eq, hp.shrinks_eq, ⟨p, hp⟩, hsession,
    decisions_forAll_map var sampler f body trace minimize s⟩

end Falsify
