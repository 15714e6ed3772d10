import Falsify.Search

/-!
# Descents of the search

The search for a small counterexample as a relation: which candidates a round tests, in which session it
tests each of them, and which proxies the rounds lead through.  The functions of the search follow these
relations, so what is to be shown of a search is shown of a `Descent`, by induction on it.

## Key results

- `firstFailing_cases`: a round ends at the first candidate that fails, or has tested them all.
- `exists_descent_minimize`: the search follows a descent and counts its steps.
- `Descent.steps`: each proxy of a descent is a candidate of the one before.
- `Descent.exists_noneFails`: no candidate of the last proxy fails.
-/

namespace Falsify

/-- `s.Steps n p q`: following candidates of the sampler `s` leads from `p` to `q` in `n` steps. -/
inductive Sampler.Steps {σ π α : Type} (s : Sampler σ π α) : Nat → π → π → Prop
  | refl (p : π) : Steps s 0 p p
  | head {n : Nat} {p c q : π} (h : c ∈ s.shrinks p) (rest : Steps s n c q) : Steps s (n + 1) p q

namespace Search

open Tester

variable {σ π α : Type} [Literal π]

/-! ## Rounds -/

section Rounds

variable (trace : TraceToggles) (var : String) (interpret : π → α) (body : Body σ α)

/-- The session in which a round that has come to the candidate `c` in the session `s` tests it. -/
def announced (c : π) (s : Session σ) : Session σ :=
  (emit trace.candidates (fun _ => .trying var (literal c)) s).2

/-- The test of the candidate `c` by a round that has come to it in the session `s`. -/
def tested (c : π) (s : Session σ) : Outcome × Session σ :=
  body (interpret c) false (announced trace var c s)

/-- `FailsFirst … cs s c t`: of the candidates `cs`, tested in order from the session `s` on, `c` is the
    first that fails, and it is tested in the session `t`. -/
inductive FailsFirst : List π → Session σ → π → Session σ → Prop
  | head {c : π} {cs : List π} {s : Session σ}
      (h : (tested trace var interpret body c s).1.isFailure = true) :
      FailsFirst (c :: cs) s c (announced trace var c s)
  | tail {c d : π} {cs : List π} {s t : Session σ}
      (h : (tested trace var interpret body c s).1.isFailure = false)
      (rest : FailsFirst cs (tested trace var interpret body c s).2 d t) :
      FailsFirst (c :: cs) s d t

/-- `NoneFails … cs s t`: the candidates `cs`, tested in order from the session `s` on, all do not fail,
    and the session after the last test is `t`. -/
inductive NoneFails : List π → Session σ → Session σ → Prop
  | nil {s : Session σ} : NoneFails [] s s
  | cons {c : π} {cs : List π} {s t : Session σ}
      (h : (tested trace var interpret body c s).1.isFailure = false)
      (rest : NoneFails cs (tested trace var interpret body c s).2 t) :
      NoneFails (c :: cs) s t

end Rounds

variable {trace : TraceToggles} {var : String} {interpret : π → α} {body : Body σ α}

/-- A round tests its first candidate, and goes on with the others if that does not fail. -/
theorem firstFailing_cons (c : π) (cs : List π) (s : Session σ) :
    firstFailing trace var interpret body (c :: cs) s =
      if (tested trace var interpret body c s).1.isFailure then
        (some (c, (tested trace var interpret body c s).1), (tested trace var interpret body c s).2)
      else firstFailing trace var interpret body cs (tested trace var interpret body c s).2 := by
  show (if (tested trace var interpret body c s).1.isFailure then pure _
    else firstFailing trace var interpret body cs : Tester σ _) (tested trace var interpret body c s).2 = _
  cases (tested trace var interpret body c s).1.isFailure <;> rfl

theorem FailsFirst.mem {cs : List π} {s t : Session σ} {c : π}
    (h : FailsFirst trace var interpret body cs s c t) : c ∈ cs := by
  induction h with
  | head => exact List.mem_cons_self
  | tail _ _ ih => exact List.mem_cons_of_mem _ ih

/-- The candidate that a round ends at fails in the session in which it is tested. -/
theorem FailsFirst.isFailure {cs : List π} {s t : Session σ} {c : π}
    (h : FailsFirst trace var interpret body cs s c t) :
    (body (interpret c) false t).1.isFailure = true := by
  induction h with
  | head h => exact h
  | tail _ _ ih => exact ih

section

variable {fails : α → Bool} (hbody : ∀ a s, (body a false s).1.isFailure = fails a)

include hbody

/-- A round that finds a candidate, for a body whose failures depend on the value alone. -/
theorem FailsFirst.find?_eq {cs : List π} {s t : Session σ} {c : π}
    (h : FailsFirst trace var interpret body cs s c t) : cs.find? (fun c => fails (interpret c)) = some c := by
  induction h with
  | head h =>
    -- Whether the body fails does not depend on the session, so the verdict of the test is that of the predicate.
    rw [tested, hbody] at h
    exact List.find?_cons_of_pos h
  | tail h _ ih =>
    rw [tested, hbody] at h
    rw [← ih]
    exact List.find?_cons_of_neg (Bool.eq_false_iff.1 h)

/-- A round that finds no candidate, for such a body. -/
theorem NoneFails.isFailure_eq_false {cs : List π} {s t : Session σ}
    (h : NoneFails trace var interpret body cs s t) {c : π} (hc : c ∈ cs) : fails (interpret c) = false := by
  induction h with
  | nil => cases hc
  | cons hfirst _ ih =>
    rcases List.mem_cons.1 hc with rfl | hc
    · rw [← hfirst, tested, hbody]
    · exact ih hc

end

/-- A round ends at the first candidate that fails, with the outcome of its test, or else with nothing
    after all candidates have been tested. -/
theorem firstFailing_cases (trace : TraceToggles) (var : String) (interpret : π → α) (body : Body σ α)
    (cs : List π) (s : Session σ) :
    (∃ c t, FailsFirst trace var interpret body cs s c t ∧
      firstFailing trace var interpret body cs s =
        (some (c, (body (interpret c) false t).1), (body (interpret c) false t).2)) ∨
    (∃ t, NoneFails trace var interpret body cs s t ∧
      firstFailing trace var interpret body cs s = (none, t)) := by
  induction cs generalizing s with
  | nil => exact .inr ⟨s, .nil, rfl⟩
  | cons c cs ih =>
    rw [firstFailing_cons]
    cases hr : (tested trace var interpret body c s).1.isFailure with
    | true =>
      rw [if_pos rfl]
      -- The first candidate fails in the session in which its test has been announced.
      exact .inl ⟨c, announced trace var c s, .head hr, rfl⟩
    | false =>
      rw [if_neg Bool.false_ne_true]
      rcases ih (tested trace var interpret body c s).2 with ⟨d, t, hd, heq⟩ | ⟨t, ht, heq⟩
      · exact .inl ⟨d, t, .tail hr hd, heq⟩
      · exact .inr ⟨t, .cons hr ht, heq⟩

/-! ## Descents -/

section Descents

variable (trace : TraceToggles) (var : String) (sampler : Sampler σ π α) (body : Body σ α)

/-- The session in which the candidates of the proxy `p` are tested, if `p` is reached in `s`. -/
def offered (p : π) (s : Session σ) : Session σ :=
  (emit trace.candidates (fun _ => .offers var (literal p) (literal (sampler.shrinks p))) s).2

/-- The session in which the search goes on from the candidate `c` of `p`, if the test of `c` ended in
    `s`. -/
def moved (p c : π) (s : Session σ) : Session σ :=
  (emit trace.shrinks (fun _ => .shrunk var (literal c) (literal p)) s).2

/-- The session after the search has stopped at `p`, if the last test ended in `s`. -/
def stopped (p : π) (s : Session σ) : Session σ :=
  (emit trace.shrinks (fun _ => .minimal var (literal p)) s).2

/-- The session in which the search reaches its start `p`, if it begins in `s`. -/
def begun (p : π) (s : Session σ) : Session σ :=
  (emit trace.shrinks (fun _ => .searchFrom var (literal p))
    (emit trace.shrinks (fun _ => .search) s).2).2

/-- `Descent … p s path t`: from the proxy `p`, reached in the session `s`, each round moves on to the
    first candidate that fails, until no candidate does, and `t` is the session after that.  The path lists
    the proxies after `p`, each with the session in which it was tested. -/
inductive Descent : π → Session σ → List (π × Session σ) → Session σ → Prop
  | minimal {p : π} {s t : Session σ}
      (h : NoneFails trace var sampler.interpret body (sampler.shrinks p)
        (offered trace var sampler p s) t) :
      Descent p s [] (stopped trace var p t)
  | step {p c : π} {s t u : Session σ} {path : List (π × Session σ)}
      (h : FailsFirst trace var sampler.interpret body (sampler.shrinks p)
        (offered trace var sampler p s) c t)
      (rest : Descent c (moved trace var p c (body (sampler.interpret c) false t).2) path u) :
      Descent p s ((c, t) :: path) u

/-- The proxy that a path from `p` ends at, and the outcome that was seen there; `r` is the outcome seen
    at `p`. -/
def ending (p : π) (r : Outcome) : List (π × Session σ) → π × Outcome
  | [] => (p, r)
  | (c, t) :: path => ending c (body (sampler.interpret c) false t).1 path

end Descents

variable {sampler : Sampler σ π α}

/-- One round of the search, by what it ends with. -/
theorem descend_eq (p : π) (r : Outcome) (steps : UInt64) (s : Session σ) :
    descend trace var sampler body p r steps s =
      match firstFailing trace var sampler.interpret body (sampler.shrinks p)
        (offered trace var sampler p s) with
      | (some (c, r), t) =>
        descend trace var sampler body c r (steps + 1) (moved trace var p c t)
      | (none, t) => ((p, r.addShrinks steps), stopped trace var p t) := by
  rw [descend]
  split
  · rename_i c r t h
    rw [show firstFailing trace var sampler.interpret body (sampler.shrinks p)
      (offered trace var sampler p s) = _ from h]
    rfl
  · rename_i t h
    rw [show firstFailing trace var sampler.interpret body (sampler.shrinks p)
      (offered trace var sampler p s) = _ from h]
    rfl

/-- The search follows a descent and adds the number of its steps to the outcome that it ends with. -/
theorem exists_descent_descend (trace : TraceToggles) (var : String) (sampler : Sampler σ π α)
    (body : Body σ α) (p : π) (r : Outcome) (steps : UInt64) (s : Session σ) :
    ∃ path t, Descent trace var sampler body p s path t ∧
      descend trace var sampler body p r steps s =
        (((ending sampler body p r path).1,
          (ending sampler body p r path).2.addShrinks (steps + .ofNat path.length)), t) := by
  -- A round moves on to a candidate only, so the induction is along the candidates.
  induction sampler.wf.apply p generalizing r steps s with
  | intro p _ ih =>
    rw [descend_eq]
    rcases firstFailing_cases trace var sampler.interpret body (sampler.shrinks p)
      (offered trace var sampler p s) with ⟨c, t, hc, heq⟩ | ⟨t, ht, heq⟩
    · rw [heq]
      obtain ⟨path, u, hpath, hrun⟩ := ih c hc.mem (body (sampler.interpret c) false t).1 (steps + 1)
        (moved trace var p c (body (sampler.interpret c) false t).2)
      refine ⟨(c, t) :: path, u, .step hc hpath, ?_⟩
      show descend trace var sampler body c _ (steps + 1) _ = _
      -- The step just taken and those below it are counted in words, which add up as numbers do.
      rw [hrun, List.length_cons, UInt64.ofNat_add, UInt64.add_assoc, UInt64.add_comm 1]
      rfl
    · rw [heq]
      refine ⟨[], _, .minimal ht, ?_⟩
      rw [List.length_nil, show UInt64.ofNat 0 = 0 from rfl, UInt64.add_zero]
      rfl

/-- The whole search follows a descent from its start, after the lines that announce it. -/
theorem exists_descent_minimize (trace : TraceToggles) (var : String) (sampler : Sampler σ π α)
    (body : Body σ α) (p : π) (r : Outcome) (s : Session σ) :
    ∃ path t, Descent trace var sampler body p (begun trace var p s) path t ∧
      minimize trace var sampler body p r s =
        (((ending sampler body p r path).1,
          (ending sampler body p r path).2.addShrinks (.ofNat path.length)), t) := by
  obtain ⟨path, t, hpath, hrun⟩ :=
    exists_descent_descend trace var sampler body p r 0 (begun trace var p s)
  refine ⟨path, t, hpath, ?_⟩
  rw [UInt64.zero_add] at hrun
  exact hrun

namespace Descent

variable {p : π} {s t : Session σ} {path : List (π × Session σ)}

/-- A descent takes one step to a candidate for each proxy on its path. -/
theorem steps (h : Descent trace var sampler body p s path t) (r : Outcome) :
    sampler.Steps path.length p (ending sampler body p r path).1 := by
  induction h generalizing r with
  | minimal => exact .refl _
  | step hc _ ih => exact .head hc.mem (ih _)

/-- No candidate of the proxy that a descent ends at fails. -/
theorem exists_noneFails (h : Descent trace var sampler body p s path t) (r : Outcome) :
    ∃ u v, NoneFails trace var sampler.interpret body
      (sampler.shrinks (ending sampler body p r path).1) u v := by
  induction h generalizing r with
  | minimal h => exact ⟨_, _, h⟩
  | step _ _ ih => exact ih _

/-- A search that starts at a failure ends at one. -/
theorem isFailure_ending (h : Descent trace var sampler body p s path t) {r : Outcome}
    (hr : r.isFailure = true) : (ending sampler body p r path).2.isFailure = true := by
  induction h generalizing r with
  | minimal => exact hr
  | step hc _ ih => exact ih hc.isFailure

end Descent

omit [Literal π] in
/-- A path ends at its last entry, with the outcome of the test that the entry names. -/
theorem ending_of_getLast? {p q : π} {r : Outcome} {t : Session σ} {path : List (π × Session σ)}
    (h : path.getLast? = some (q, t)) :
    ending sampler body p r path = (q, (body (sampler.interpret q) false t).1) := by
  induction path generalizing p r with
  | nil => cases h
  | cons entry path ih =>
    cases path with
    | nil =>
      cases h
      rfl
    | cons next path =>
      exact ih (p := entry.1) (r := (body (sampler.interpret entry.1) false entry.2).1) h

end Search

end Falsify
