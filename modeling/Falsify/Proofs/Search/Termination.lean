import Falsify.Proofs.Sampler.Weight
import Falsify.Proofs.Search.Descent

/-!
# How long a search takes

The search as a loop that is given a number of rounds, and a number that is enough: one round for each unit
of the weight that its start has, and one in which no candidate fails.  Nothing is asked of the tests, which
may draw, give up and keep state.

## Key results

- `descendWithin_eq`: the loop comes to the result of the search if it has more rounds than its start weighs.
- `Sampler.Steps.add_le`: each step to a candidate takes some weight away.
- `minimize_ends`: every search with a built sampler ends, within the weight of its start.
-/

namespace Falsify

open Candidate

variable {σ π α : Type} {sampler : Sampler σ π α} {weight : π → Nat}

/-- Following candidates for `n` steps takes away a weight of at least `n`. -/
theorem Sampler.Steps.add_le (hw : Lighter sampler.shrinks weight) {n : Nat} {p q : π}
    (h : sampler.Steps n p q) : n + weight q ≤ weight p := by
  induction h with
  | refl p => exact Nat.le_of_eq (Nat.zero_add _)
  | head hc _ ih =>
    -- Each step takes at least one off the weight.
    have hlt := hw _ _ hc
    omega

namespace Search

variable [Literal π] {trace : TraceToggles} {var : String} {body : Body σ α}

section Loop

variable (trace : TraceToggles) (var : String) (sampler : Sampler σ π α) (body : Body σ α)

/-- The search as a loop of so many rounds, without a result if more would be needed.  It only looks at the
    candidates of the proxies that it comes to, not at why they come to an end. -/
def descendWithin : Nat → π → Outcome → UInt64 → Session σ → Option ((π × Outcome) × Session σ)
  | 0, _, _, _, _ => none
  | rounds + 1, p, r, steps, s =>
    match firstFailing trace var sampler.interpret body (sampler.shrinks p)
      (offered trace var sampler p s) with
    | (some (c, r), t) => descendWithin rounds c r (steps + 1) (moved trace var p c t)
    | (none, t) => some ((p, r.addShrinks steps), stopped trace var p t)

/-- The whole search as a loop of so many rounds. -/
def minimizeWithin (rounds : Nat) (p : π) (r : Outcome) (s : Session σ) :
    Option ((π × Outcome) × Session σ) :=
  descendWithin trace var sampler body rounds p r 0 (begun trace var p s)

end Loop

/-- A loop with more rounds than its start weighs comes to the result of the search. -/
theorem descendWithin_eq (hw : Lighter sampler.shrinks weight) {rounds : Nat} {p : π}
    (h : weight p < rounds) (r : Outcome) (steps : UInt64) (s : Session σ) :
    descendWithin trace var sampler body rounds p r steps s =
      some (descend trace var sampler body p r steps s) := by
  induction rounds generalizing p r steps s with
  | zero => exact absurd h (Nat.not_lt_zero _)
  | succ rounds ih =>
    rw [descendWithin, descend_eq]
    rcases firstFailing_cases trace var sampler.interpret body (sampler.shrinks p)
      (offered trace var sampler p s) with ⟨c, t, hc, heq⟩ | ⟨t, -, heq⟩
    · -- The next round starts at a candidate, which weighs less.
      rw [heq]
      have hlt := hw p c hc.mem
      exact ih (by omega) _ _ _
    · rw [heq]

/-- **Termination.**  Whatever sampler is built and whatever the tests do, candidates weigh less than what
    they stand in for, the search ends within one round more than its start weighs, and the steps that it
    adds to the outcome are at most what the start weighs more than the end. -/
theorem minimize_ends {π α : Type} [Literal π] (c : Sampler.Construction π α) (σ : Type) :
    (∀ p, ∀ q ∈ (c.sampler (σ := σ)).shrinks p, c.weight q < c.weight p) ∧
    (∀ (trace : TraceToggles) (var : String) (body : Body σ α) (start : π) (r : Outcome) (s : Session σ),
      minimizeWithin trace var c.sampler body (c.weight start + 1) start r s =
        some (minimize trace var c.sampler body start r s) ∧
      ∃ path t, Descent trace var c.sampler body start (begun trace var start s) path t ∧
        minimize trace var c.sampler body start r s =
          (((ending c.sampler body start r path).1,
            (ending c.sampler body start r path).2.addShrinks (.ofNat path.length)), t) ∧
        path.length + c.weight (ending c.sampler body start r path).1 ≤ c.weight start) := by
  refine ⟨c.lighter, fun trace var body start r s => ⟨?_, ?_⟩⟩
  · exact descendWithin_eq c.lighter (Nat.lt_succ_self _) r 0 (begun trace var start s)
  · -- The path is a chain of candidates from the start, so its length is part of the weight that is lost.
    obtain ⟨path, t, hpath, hrun⟩ := exists_descent_minimize trace var c.sampler body start r s
    exact ⟨path, t, hpath, hrun, (hpath.steps r).add_le c.lighter⟩

/-- A list of one optional integer, the least one: leaving the integer out makes the list lighter, and the
    search for a list that is not empty ends within the rounds that the list weighs. -/
theorem minimize_ends_singleton_minValue :
    let c := Sampler.Construction.list (.option .integer)
    [none] ∈ (c.sampler (σ := Unit)).shrinks [some Int64.minValue] ∧
      c.weight [none] < c.weight [some Int64.minValue] ∧
      ∀ r s, (minimizeWithin {} "xs" (c.sampler (σ := Unit)) (predicateBody fun xs => !xs.isEmpty)
        (c.weight [some Int64.minValue] + 1) [some Int64.minValue] r s).isSome = true := by
  intro c
  obtain ⟨hlighter, hends⟩ := minimize_ends c Unit
  have hmem : [none] ∈ (c.sampler (σ := Unit)).shrinks [some Int64.minValue] :=
    List.mem_append_right _ (mem_replacements.2 (.head List.mem_cons_self))
  refine ⟨hmem, hlighter _ _ hmem, fun r s => ?_⟩
  rw [(hends {} "xs" (predicateBody fun xs => !xs.isEmpty) [some Int64.minValue] r s).1]
  rfl

end Search

end Falsify
