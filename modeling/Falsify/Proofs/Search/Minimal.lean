import Falsify.Proofs.Candidate.Order
import Falsify.Proofs.Search.Descent
import Falsify.Ty

/-!
# Minimal counterexamples

For a predicate that is easier to fail the larger a value is, the search is as good as trying every smaller
value: where it stops, nothing smaller fails, although it has tested the candidates only.

## Key results

- `Ty.gapless`: the candidates of every default sampler leave no gap in the order of its proxies.
- `exists_minimal_minimizeValue`: what the search stops at, for every sampler without gaps.
- `minimizeValue_least`: the same for every default sampler, and what it comes to for numbers and for lists
  of numbers.
-/

namespace Falsify

open Candidate

/-! ## The order of proxies -/

namespace Ty

/-- The order of the proxies of a type: numbers and the places of characters by value, integers by magnitude
    and sign, `false` before `true`, nothing before something, pairs part by part, and lists by what is left
    when elements are removed or made smaller. -/
def Le : (t : Ty) → t.Proxy → t.Proxy → Prop
  | natural => fun m n : UInt64 => m ≤ n
  | integer => IntegerLe
  | bool => fun b c : Bool => b ≤ c
  | char => fun m n : UInt64 => m ≤ n
  | string => List.SublistForall₂ fun m n : UInt64 => m ≤ n
  | list t => List.SublistForall₂ t.Le
  | option t => OptionLe t.Le
  | pair s t => PairLe s.Le t.Le

/-- The candidates of no type leave a gap. -/
theorem gapless {σ : Type} : (t : Ty) → Gapless (t.sampler (σ := σ)).shrinks t.Le
  | natural => .natural
  | integer => .integer
  | bool => .bool
  | char => .natural
  | string => .list .natural
  | list t => .list t.gapless
  | option t => .option t.gapless
  | pair s t => .pair s.gapless t.gapless

end Ty

/-- Steps are added to a failure. -/
theorem Outcome.shrinks_addShrinks {r : Outcome} (h : r.isFailure = true) (n : UInt64) :
    (r.addShrinks n).shrinks = r.shrinks + n := by
  cases r with
  | failure => rfl
  | success | gaveUp => cases h

variable {σ π α : Type} {sampler : Sampler σ π α} {le : π → π → Prop} {fails : α → Bool}

/-- Following candidates leads down. -/
theorem Sampler.Steps.descends {n : Nat} {p q : π} (hsteps : sampler.Steps n p q)
    (h : Gapless sampler.shrinks le) : le q p := by
  induction hsteps with
  | refl p => exact h.refl p
  | head hc _ ih => exact h.trans ih (h.le_of_mem hc)

namespace Search

/-! ## Searches for a plain predicate -/

section Predicate

variable [Literal π] {trace : TraceToggles} {var : String} {s t : Session σ}

@[simp] theorem isFailure_predicateBody (fails : α → Bool) (a : α) (b : Bool) (s : Session σ) :
    (predicateBody fails a b s).1.isFailure = fails a := by
  show Outcome.isFailure (if fails a then _ else _) = _
  cases fails a <;> rfl

@[simp] theorem shrinks_predicateBody (fails : α → Bool) (a : α) (b : Bool) (s : Session σ) :
    (predicateBody fails a b s).1.shrinks = 0 := by
  show Outcome.shrinks (if fails a then _ else _) = 0
  cases fails a <;> rfl

/-- A search that starts at a proxy that fails ends at one. -/
theorem Descent.fails_ending {p : π} {path : List (π × Session σ)}
    (h : Descent trace var sampler (predicateBody fails) p s path t)
    (hp : fails (sampler.interpret p) = true) (r : Outcome) :
    fails (sampler.interpret (ending sampler (predicateBody fails) p r path).1) = true := by
  induction h generalizing r with
  | minimal => exact hp
  | step hc _ ih => exact ih (by simpa using hc.isFailure) _

omit [Literal π] in
/-- Neither does the test at which a search ends. -/
theorem shrinks_ending_predicateBody (p : π) {r : Outcome} (hr : r.shrinks = 0) (path : List (π × Session σ)) :
    (ending sampler (predicateBody fails) p r path).2.shrinks = 0 := by
  induction path generalizing p r with
  | nil => exact hr
  | cons step path ih => exact ih step.1 (shrinks_predicateBody ..)

/-- The search for a failing value follows a descent, and the number that it comes with is that of the steps. -/
theorem exists_descent_minimizeValue (sampler : Sampler σ π α) (world : σ) {start : π}
    (hstart : fails (sampler.interpret start) = true) :
    ∃ s r path t, Descent {} "value" sampler (predicateBody fails) start s path t ∧
      minimizeValue sampler fails start world =
        (sampler.interpret (ending sampler (predicateBody fails) start r path).1, .ofNat path.length) := by
  -- The search starts from a failure, as the start fails.
  let initial := predicateBody fails (sampler.interpret start) false { gen := Gen.ofSeed 0, world }
  obtain ⟨path, t, hpath, hrun⟩ :=
    exists_descent_minimize {} "value" sampler (predicateBody fails) start initial.1 initial.2
  refine ⟨_, initial.1, path, t, hpath, ?_⟩
  have hinitial : initial.1.isFailure = true := (isFailure_predicateBody ..).trans hstart
  have hfails := hpath.isFailure_ending hinitial
  have hzero : (ending sampler (predicateBody fails) start initial.1 path).2.shrinks = 0 :=
    shrinks_ending_predicateBody start (shrinks_predicateBody ..) path
  -- The predicate counts no steps itself, so the count is the number of moves.
  have hcount := Outcome.shrinks_addShrinks hfails (.ofNat path.length)
  rw [hzero, UInt64.zero_add] at hcount
  rw [← hcount]
  exact congrArg (fun found : (π × Outcome) × Session σ => (sampler.interpret found.1.1, found.1.2.shrinks)) hrun

end Predicate

/-! ## Minimality -/

/-- Whatever is above a proxy that fails, fails. -/
def UpwardClosed (sampler : Sampler σ π α) (le : π → π → Prop) (fails : α → Bool) : Prop :=
  ∀ p q, le p q → fails (sampler.interpret p) = true → fails (sampler.interpret q) = true

/-- The proxy `p` fails, and nothing that is below it does. -/
def IsMinimal (sampler : Sampler σ π α) (le : π → π → Prop) (fails : α → Bool) (p : π) : Prop :=
  fails (sampler.interpret p) = true ∧
    ∀ q, le q p → q ≠ p → fails (sampler.interpret q) = false

/-- If no candidate fails, nothing smaller does. -/
theorem isMinimal_of_forall_mem (h : Gapless sampler.shrinks le) (hup : UpwardClosed sampler le fails)
    {p : π} (hp : fails (sampler.interpret p) = true)
    (hcs : ∀ c ∈ sampler.shrinks p, fails (sampler.interpret c) = false) :
    IsMinimal sampler le fails p := by
  refine ⟨hp, fun q hq hne => ?_⟩
  obtain ⟨c, hc, hqc⟩ := h.exists_between hq hne
  rw [← Bool.not_eq_true]
  intro hfails
  -- A smaller proxy that fails would make the candidate between it and the result fail too.
  have hcfails := hup q c hqc hfails
  exact Bool.false_ne_true ((hcs c hc).symm.trans hcfails)

/-- The search for a smaller value stops at a minimal one at or below its start. -/
theorem exists_minimal_minimizeValue [Literal π] (h : Gapless sampler.shrinks le)
    (hup : UpwardClosed sampler le fails) {start : π} (hstart : fails (sampler.interpret start) = true)
    (world : σ) :
    ∃ p, (minimizeValue sampler fails start world).1 = sampler.interpret p ∧ le p start ∧
      IsMinimal sampler le fails p := by
  obtain ⟨s, r, path, t, hpath, hrun⟩ := exists_descent_minimizeValue sampler world hstart
  refine ⟨_, congrArg Prod.fst hrun, (hpath.steps r).descends h, ?_⟩
  -- The last round has seen that no candidate fails, and the order leaves no gap below them.
  obtain ⟨u, v, hnone⟩ := hpath.exists_noneFails _
  exact isMinimal_of_forall_mem h hup (hpath.fails_ending hstart _) fun c hc =>
    hnone.isFailure_eq_false (fun _ _ => isFailure_predicateBody ..) hc

/-- The search for a failing natural finds the least one. -/
theorem minimizeValue_natural (world : σ) {fails : UInt64 → Bool} {start : UInt64}
    (hup : ∀ m n, m ≤ n → fails m = true → fails n = true) (hstart : fails start = true) :
    fails (minimizeValue .natural fails start world).1 = true ∧
      ∀ n, fails n = true → (minimizeValue .natural fails start world).1 ≤ n := by
  have hgapless : Gapless (Sampler.natural (σ := σ)).shrinks (· ≤ ·) := .natural
  obtain ⟨p, hp, -, hfails, hmin⟩ := exists_minimal_minimizeValue hgapless hup hstart world
  rw [hp]
  refine ⟨hfails, fun n hn => ?_⟩
  -- The order is total, so a value that is not below the result is above it.
  rcases UInt64.le_total p n with hle | hle
  · exact hle
  · by_cases hne : n = p
    · exact UInt64.le_of_eq hne.symm
    · exact absurd ((hmin n hle hne).symm.trans hn) Bool.false_ne_true

/-- A list that has a great element keeps one when it grows. -/
theorem any_le_of_sublistForall₂ {b : UInt64} {ms ns : List UInt64} (h : List.SublistForall₂ (· ≤ ·) ms ns)
    (hany : ms.any (b ≤ ·) = true) : ns.any (b ≤ ·) = true := by
  induction h with
  | nil => cases hany
  | @cons m n ms ns hmn _ ih =>
    rw [List.any_cons, Bool.or_eq_true, decide_eq_true_iff] at hany ⊢
    exact hany.imp (fun hm => UInt64.le_trans hm hmn) ih
  | cons_right _ ih =>
    rw [List.any_cons, Bool.or_eq_true]
    exact .inr (ih hany)

/-- The search for a list with an element that is not below `b` finds the list of `b` alone. -/
theorem minimizeValue_list_any (world : σ) {b : UInt64} {start : List UInt64}
    (hstart : start.any (b ≤ ·) = true) :
    (minimizeValue (.list .natural) (fun ns => ns.any (b ≤ ·)) start world).1 = [b] := by
  have hgapless : Gapless (Sampler.list (Sampler.natural (σ := σ))).shrinks (List.SublistForall₂ (· ≤ ·)) :=
    .list .natural
  have hid (ns : List UInt64) : (Sampler.list (Sampler.natural (σ := σ))).interpret ns = ns := List.map_id ns
  have hup : UpwardClosed (Sampler.list (Sampler.natural (σ := σ))) (List.SublistForall₂ (· ≤ ·))
      fun ns => ns.any (b ≤ ·) := by
    intro ms ns h hms
    rw [hid] at hms ⊢
    exact any_le_of_sublistForall₂ h hms
  obtain ⟨ns, heq, -, hfails, hmin⟩ :=
    exists_minimal_minimizeValue hgapless hup (by rw [hid]; exact hstart) world
  rw [heq, hid]
  rw [hid] at hfails
  obtain ⟨n, hn, hbn⟩ := List.any_eq_true.1 hfails
  -- The list of `b` alone fails and is below every list that fails, so only itself can be minimal.
  have hbelow : List.SublistForall₂ (· ≤ ·) [b] ns :=
    List.sublistForall₂_iff.2 ⟨[n], .cons (of_decide_eq_true hbn) .nil, List.singleton_sublist.2 hn⟩
  by_contra hne
  have hpass : [b].any (b ≤ ·) = false := hmin [b] hbelow fun h => hne h.symm
  rw [List.any_cons, decide_eq_true (UInt64.le_refl b)] at hpass
  cases hpass

/-- **Minimal counterexamples.**  For every type with a default sampler and every predicate that fails above
    each value that it fails at, the search ends at or below its start, at a value that fails while nothing
    below it does: for naturals the least that fails, and for lists of naturals that are searched for an
    element from `b` on, the list of `b` alone. -/
theorem minimizeValue_least {σ : Type} (world : σ) :
    (∀ (t : Ty) (fails : t.Value → Bool) (start : t.Proxy),
      UpwardClosed (t.sampler (σ := σ)) t.Le fails →
      fails ((t.sampler (σ := σ)).interpret start) = true →
      ∃ p, (minimizeValue t.sampler fails start world).1 = (t.sampler (σ := σ)).interpret p ∧
        t.Le p start ∧ IsMinimal (t.sampler (σ := σ)) t.Le fails p) ∧
    (∀ (fails : UInt64 → Bool) (start : UInt64),
      (∀ m n, m ≤ n → fails m = true → fails n = true) → fails start = true →
      fails (minimizeValue .natural fails start world).1 = true ∧
        ∀ n, fails n = true → (minimizeValue .natural fails start world).1 ≤ n) ∧
    (∀ (b : UInt64) (start : List UInt64), start.any (b ≤ ·) = true →
      (minimizeValue (.list .natural) (fun ns => ns.any (b ≤ ·)) start world).1 = [b]) := by
  refine ⟨fun t fails start hup hstart => ?_, fun fails start hup hstart => ?_, fun b start hstart => ?_⟩
  · exact exists_minimal_minimizeValue t.gapless hup hstart world
  · exact minimizeValue_natural world hup hstart
  · exact minimizeValue_list_any world hstart

/-- A search among the negative integers, from the one that has no mirror image, and searches for an element
    from 3 on, in a list and on its own. -/
theorem minimizeValue_least_minValue :
    UpwardClosed (Ty.integer.sampler (σ := Unit)) Ty.integer.Le (fun x : Int64 => decide (x < 0)) ∧
      (∃ p : Int64,
        (minimizeValue Ty.integer.sampler (fun x : Int64 => decide (x < 0)) Int64.minValue ()).1 = p ∧
          IntegerLe p Int64.minValue ∧
          IsMinimal (Ty.integer.sampler (σ := Unit)) Ty.integer.Le (fun x : Int64 => decide (x < 0)) p) ∧
      (∀ n, decide (3 ≤ n) = true → (minimizeValue .natural (fun n => decide (3 ≤ n)) 7 ()).1 ≤ n) ∧
      (minimizeValue (.list .natural) (fun ns => ns.any (3 ≤ ·)) [5, 1] ()).1 = [3] := by
  obtain ⟨hty, hnatural, hlist⟩ := minimizeValue_least ()
  have hup : UpwardClosed (Ty.integer.sampler (σ := Unit)) Ty.integer.Le
      (fun x : Int64 => decide (x < 0)) := by
    intro y x hle hneg
    exact decide_eq_true (hle.2 (of_decide_eq_true hneg))
  have hup' (m n : UInt64) (hmn : m ≤ n) (hm : decide (3 ≤ m) = true) : decide (3 ≤ n) = true :=
    decide_eq_true (UInt64.le_trans (of_decide_eq_true hm) hmn)
  exact ⟨hup, hty .integer _ Int64.minValue hup (by decide), (hnatural _ 7 hup' (by decide)).2,
    hlist 3 [5, 1] (by decide)⟩

end Search

end Falsify
