import Falsify.Config
import Falsify.Outcome
import Falsify.Session
import Falsify.Text.Literal

/-! # Search for a small counterexample

A failing sample is replaced by its first candidate that fails too, and so on until no candidate fails.
Candidates are tested without a search of their own.  The search ends because candidates of candidates come
to an end, and it counts its steps on the outcome that it ends with.

* `mem_of_firstFailing`: what a round of testing candidates finds. -/

namespace Falsify.Search

open Tester

variable {σ π α : Type} [Literal π]

/-- A test of a quantified body at a value; the truth value says whether failing samples inside the body
    are searched for smaller ones. -/
abbrev Body (σ α : Type) : Type := α → Bool → Tester σ Outcome

/-- Tests candidates in order until one fails. -/
def firstFailing (trace : TraceToggles) (var : String) (interpret : π → α) (body : Body σ α) :
    List π → Tester σ (Option (π × Outcome))
  | [] => pure none
  | c :: cs => do
    emit trace.candidates fun _ => .trying var (literal c)
    let r ← body (interpret c) false
    if r.isFailure then pure (some (c, r)) else firstFailing trace var interpret body cs

/-- A round finds a candidate that was to be tested, with an outcome that is a failure. -/
theorem mem_of_firstFailing {trace : TraceToggles} {var : String} {interpret : π → α}
    {body : Body σ α} {cs : List π} {s : Session σ} {c : π} {r : Outcome}
    (h : (firstFailing trace var interpret body cs s).1 = some (c, r)) :
    c ∈ cs ∧ r.isFailure = true := by
  induction cs generalizing s with
  | nil => cases h
  | cons d ds ih =>
    simp only [firstFailing, bind, StateT.bind] at h
    split at h
    split at h
    split at h
    · rename_i hr
      cases h
      exact ⟨List.mem_cons_self, hr⟩
    · exact (ih h).imp_left (List.mem_cons_of_mem d)

/-- Follows failing candidates down from a proxy and its outcome, which were reached in `steps` steps. -/
def descend (trace : TraceToggles) (var : String) (sampler : Sampler σ π α) (body : Body σ α)
    (p : π) (r : Outcome) (steps : UInt64) (s : Session σ) : (π × Outcome) × Session σ :=
  let cs := sampler.shrinks p
  let s := (emit trace.candidates (fun _ => .offers var (literal p) (literal cs)) s).2
  match h : firstFailing trace var sampler.interpret body cs s with
  | (some (c, r), s) =>
    let s := (emit trace.shrinks (fun _ => .shrunk var (literal c) (literal p)) s).2
    -- The candidate is below the proxy, so the search gets shorter.
    descend trace var sampler body c r (steps + 1) s
  | (none, s) =>
    let s := (emit trace.shrinks (fun _ => .minimal var (literal p)) s).2
    ((p, r.addShrinks steps), s)
termination_by sampler.wf.wrap p
decreasing_by exact (mem_of_firstFailing (congrArg Prod.fst h)).1

/-- The smallest failing proxy that the search reaches from a failing one, and its outcome. -/
def minimize (trace : TraceToggles) (var : String) (sampler : Sampler σ π α) (body : Body σ α)
    (p : π) (r : Outcome) : Tester σ (π × Outcome) := do
  emit trace.shrinks fun _ => .search
  emit trace.shrinks fun _ => .searchFrom var (literal p)
  descend trace var sampler body p r 0

/-- The test of a plain predicate. -/
def predicateBody (fails : α → Bool) : Body σ α := fun a _ =>
  pure (if fails a then .refuted (.ofFact "predicate") "fails" else .passed)

/-- The smallest value failing a plain predicate that the search reaches, and the number of its steps. -/
def minimizeValue (sampler : Sampler σ π α) (fails : α → Bool) (start : π) (world : σ) : α × UInt64 :=
  let body := predicateBody fails
  let session : Session σ := { gen := Gen.ofSeed 0, world }
  let initial := body (sampler.interpret start) false session
  let found := (minimize {} "value" sampler body start initial.1 initial.2).1
  (sampler.interpret found.1, found.2.shrinks)

end Falsify.Search
