import Falsify.Proofs.Testing.Soundness
import Mathlib.Algebra.GroupWithZero.Nat

/-!
# Reported counterexamples

A chain is a decidable atom below any number of binders, where what stands below a binder may depend on the
bound value.  A failure of a chain comes from one path through it: one proxy for each quantifier, at whose
values all guards hold and the atom is false.  The report of the failure is printed from that path.

## Key results

- `Path.Found.pairwise`, `Path.Found.eq_zero`: at most one quantifier on a path has moved away from the proxy
  that was drawn for it, and none if no search was wanted.
- `Statement.exists_path_of_failure`: a failure of a chain has such a path; its labels, its refutation and its
  steps are those of the path.
-/

namespace Falsify

open Tester

variable {σ : Type}

/-- A pure atom below quantifiers, guards and unused binders. -/
def Statement.IsChain : Statement σ → Prop
  | atom a => a.IsPure
  | forAll _ sampler body => ∀ p, (body (sampler.interpret p)).IsChain
  | guarded _ holds body => holds = true → body.IsChain
  | unused _ _ body => body.IsChain
  | suchThat _ sampler _ body => ∀ p, (body (sampler.interpret p)).IsChain
  | preparing _ body => body.IsChain
  | _ => False

/-- A way through a chain to its atom: a proxy for each quantifier, whose value decides what stands below. -/
inductive Path : Statement σ → Type 1
  | atom {a : Atom σ} : Path (.atom a)
  | forAll {π α : Type} [Literal π] [Literal α] {var : String} {sampler : Sampler σ π α}
      {body : α → Statement σ} (proxy : π) (below : Path (body (sampler.interpret proxy))) :
      Path (.forAll var sampler body)
  | guarded {guard : String} {holds : Bool} {body : Statement σ} (below : Path body) :
      Path (.guarded guard holds body)
  | unused {var witness : String} {body : Statement σ} (below : Path body) :
      Path (.unused var witness body)
  | suchThat {π α : Type} [Literal π] [Literal α] {var : String} {sampler : Sampler σ π α}
      {guard : α → String} {body : α → Statement σ} (proxy : π)
      (below : Path (body (sampler.interpret proxy))) :
      Path (.suchThat var sampler guard body)
  | preparing {change : σ → σ} {body : Statement σ} (below : Path body) :
      Path (.preparing change body)

namespace Path

/-! ## What a path says -/

/-- All guards on the path hold, and the atom at its end is false. -/
def Refutes : {p : Statement σ} → Path p → Prop
  | _, @atom _ a => a.Answers false
  | _, forAll _ below => below.Refutes
  | _, @guarded _ _ holds _ below => holds = true ∧ below.Refutes
  | _, unused below => below.Refutes
  | _, suchThat _ below => below.Refutes
  | _, preparing below => below.Refutes

/-- What the binders of the path are bound to, the outermost first, and the atom that does not hold. -/
def labels : {p : Statement σ} → Path p → List String
  | _, @atom _ a => ["issue: " ++ a.text ++ " does not hold"]
  | _, @forAll _ _ _ _ _ var sampler _ proxy below =>
    (var ++ " := " ++ literal (sampler.interpret proxy)) :: below.labels
  | _, @guarded _ guard _ _ below => ("guard: " ++ guard) :: below.labels
  | _, @unused _ var _ _ below => (var ++ " is irrelevant (unused)") :: below.labels
  | _, @suchThat _ _ _ _ _ var sampler guard _ proxy below =>
    (var ++ " := " ++ literal (sampler.interpret proxy)) ::
      ("guard: " ++ guard (sampler.interpret proxy) ++ " (by construction)") :: below.labels
  | _, preparing below => below.labels

/-- The step that carries a refutation against the direction of a rule. -/
def contrapositive (rule : String) : String := "contrapositive of " ++ rule

/-- The steps from the atom that does not hold to the whole chain, the innermost binder first. -/
def steps : {p : Statement σ} → Path p → List String
  | _, @atom _ a => ["decide: ¬(" ++ a.text ++ ")"]
  | _, @forAll _ _ _ _ _ var sampler _ proxy below =>
    below.steps ++
      [contrapositive ("specialise " ++ (var ++ " := " ++ literal (sampler.interpret proxy)))]
  | _, @guarded _ guard _ _ below =>
    below.steps ++ [contrapositive ("guard " ++ guard ++ " holds")]
  | _, @unused _ var witness _ below =>
    below.steps ++ [contrapositive (var ++ " instantiated with witness " ++ witness)]
  | _, @suchThat _ _ _ _ _ var sampler guard _ proxy below =>
    below.steps ++
      [contrapositive (guard (sampler.interpret proxy) ++ " holds by construction"),
       contrapositive ("specialise " ++ (var ++ " := " ++ literal (sampler.interpret proxy))),
       contrapositive ("(∀ " ++ var ++ ", P " ++ var ++ " → β " ++ var ++ ") ↔ ∀ " ++ var ++
        " : subtype P, β " ++ var)]
  | _, preparing below => below.steps

/-! ## How a path is found -/

/-- `path.Found trace minimize s counts`: the test of the chain from the session `s` settles on the proxies
    of the path.  Each quantifier is tested in some session of the run; the proxy on the path is reached from
    the one that is drawn there, and `counts` says in how many steps, for the outermost quantifier first. -/
inductive Found (trace : TraceToggles) :
    {p : Statement σ} → Path p → (minimize : Bool) → Session σ → (counts : List Nat) → Prop
  | atom {a : Atom σ} {minimize : Bool} {s : Session σ} :
      Found trace (p := .atom a) .atom minimize s []
  | forAll {π α : Type} [Literal π] [Literal α] {var : String} {sampler : Sampler σ π α}
      {body : α → Statement σ} {proxy : π} {below : Path (body (sampler.interpret proxy))}
      {minimize m : Bool} {s t : Session σ} {n : Nat} {counts : List Nat}
      (hsteps : sampler.Steps n (sampler.draw s.toSource).1 proxy)
      (h : Settles trace var sampler (fun a minimize => (body a).run trace minimize)
        minimize s proxy m t n)
      (hbelow : Found trace below m t counts) :
      Found trace (p := .forAll var sampler body) (.forAll proxy below) minimize s (n :: counts)
  | guarded {guard : String} {holds : Bool} {body : Statement σ} {below : Path body}
      {minimize : Bool} {s : Session σ} {counts : List Nat}
      (hbelow : Found trace below minimize s counts) :
      Found trace (p := .guarded guard holds body) (.guarded below) minimize s counts
  | unused {var witness : String} {body : Statement σ} {below : Path body}
      {minimize : Bool} {s : Session σ} {counts : List Nat}
      (hbelow : Found trace below minimize
        (emit (trace.discarded || trace.successes) (fun _ => .unused var) s).2 counts) :
      Found trace (p := .unused var witness body) (.unused below) minimize s counts
  | suchThat {π α : Type} [Literal π] [Literal α] {var : String} {sampler : Sampler σ π α}
      {guard : α → String} {body : α → Statement σ} {proxy : π}
      {below : Path (body (sampler.interpret proxy))}
      {minimize m : Bool} {s t : Session σ} {n : Nat} {counts : List Nat}
      (hsteps : sampler.Steps n (sampler.draw s.toSource).1 proxy)
      (h : Settles trace var sampler (Statement.subtypeBody trace guard body) minimize s proxy m t n)
      (hbelow : Found trace below m t counts) :
      Found trace (p := .suchThat var sampler guard body) (.suchThat proxy below) minimize s
        (n :: counts)
  | preparing {change : σ → σ} {body : Statement σ} {below : Path body}
      {minimize : Bool} {s : Session σ} {counts : List Nat}
      (hbelow : Found trace below minimize { s with world := change s.world } counts) :
      Found trace (p := .preparing change body) (.preparing below) minimize s counts

namespace Found

variable {trace : TraceToggles} {p : Statement σ} {path : Path p} {minimize : Bool} {s : Session σ}
  {counts : List Nat}

/-- Where no search is wanted, the proxies of the path are those that were drawn. -/
theorem eq_zero (h : path.Found trace false s counts) : ∀ n ∈ counts, n = 0 := by
  -- The path is followed under the toggle of the whole test, so it is made a variable for the induction.
  generalize hm : false = minimize at h
  induction h with
  | atom => exact nofun
  | guarded _ ih | unused _ ih | preparing _ ih => exact ih hm
  | forAll _ hsettles _ ih | suchThat _ hsettles _ ih =>
    subst hm
    obtain ⟨rfl, rfl⟩ := hsettles.eq_zero_of_not_minimize
    intro n hn
    rcases List.mem_cons.1 hn with rfl | hn
    · rfl
    · exact ih rfl n hn

/-- Of any two quantifiers on the path, at most one has moved away from the proxy that was drawn for it:
    what stands below one that has moved was tested without a search. -/
theorem pairwise (h : path.Found trace minimize s counts) :
    counts.Pairwise fun m n => m = 0 ∨ n = 0 := by
  induction h with
  | atom => exact .nil
  | guarded _ ih | unused _ ih | preparing _ ih => exact ih
  | @forAll _ _ _ _ _ _ _ _ _ _ _ _ _ n _ _ hsettles hbelow ih
  | @suchThat _ _ _ _ _ _ _ _ _ _ _ _ _ _ n _ _ hsettles hbelow ih =>
    refine List.pairwise_cons.2 ⟨fun k hk => ?_, ih⟩
    -- A layer that has moved had its body tested without searches, so nothing has moved below it.
    rcases Nat.eq_zero_or_pos n with hn | hn
    · exact .inl hn
    · obtain rfl := hsettles.eq_false_of_pos hn
      exact .inr (hbelow.eq_zero k hk)

end Found

end Path

/-! ## Where a failure comes from -/

namespace Outcome

variable {r : Outcome} {c : Certificate} {labels : List String} {n : UInt64}

/-- A failure has a refutation, labels and a number of steps. -/
theorem isFailure_iff : r.isFailure = true ↔ ∃ c labels n, r = failure c labels n := by
  cases r <;> simp [isFailure]

/-- A failure that has been moved was a failure before, with the same labels and steps of the search. -/
theorem exists_of_across_eq_failure {t : Transport} (h : r.across t = failure c labels n) :
    ∃ d, r = failure d labels n ∧ c = t.backward d := by
  cases r with
  | success | gaveUp => cases h
  | failure d =>
    cases h
    exact ⟨d, rfl, rfl⟩

/-- What becomes a failure by a label and a move was one before, with one label less. -/
theorem exists_of_annotate_eq_failure {label : String} {t : Transport}
    (h : r.annotate label t = failure c labels n) :
    ∃ d l, r = failure d l n ∧ c = t.backward d ∧ labels = label :: l := by
  cases r with
  | success | gaveUp => cases h
  | failure d l =>
    cases h
    exact ⟨d, l, rfl, rfl, rfl⟩

/-- A failure to which steps have been added was a failure before, with so many steps fewer. -/
theorem exists_of_addShrinks_eq_failure {k : UInt64} (h : r.addShrinks k = failure c labels n) :
    ∃ m, r = failure c labels m ∧ n = m + k := by
  cases r with
  | success | gaveUp => cases h
  | failure d l m =>
    cases h
    exact ⟨m, rfl, rfl⟩

end Outcome

/-- A failure of a bound variable is one of its body at the proxy that the variable settles on. -/
theorem exists_settles_of_failure {π α : Type} [Literal π] [Literal α] {trace : TraceToggles}
    {var : String} {sampler : Sampler σ π α} {body : Search.Body σ α} {minimize : Bool} {s : Session σ}
    {c : Certificate} {labels : List String} {n : UInt64}
    (h : (testBound trace var sampler body minimize s).1 = .failure c labels n) :
    ∃ p m t k d l j, Settles trace var sampler body minimize s p m t k ∧
      (body (sampler.interpret p) m t).1 = .failure d l j ∧
      c = d.via ("contrapositive of " ++ ("specialise " ++ boundText var sampler p)) ∧
      labels = boundText var sampler p :: l ∧ n = .ofNat k + j := by
  obtain ⟨p, m, t, k, hsettles, hrun⟩ := exists_settles_testBound trace var sampler body minimize s
  rw [hrun] at h
  -- The quantifier is taken off from the outside: first its label, then its count of moves.
  obtain ⟨d, l, h, hc, hl⟩ := Outcome.exists_of_annotate_eq_failure h
  obtain ⟨j, h, hn⟩ := Outcome.exists_of_addShrinks_eq_failure h
  exact ⟨p, m, t, k, d, l, j, hsettles, h, hc, hl, hn.trans (UInt64.add_comm j _)⟩

/-- Steps add up in words as they do in numbers. -/
theorem ofNat_sum_cons (k : Nat) (counts : List Nat) :
    UInt64.ofNat (k :: counts).sum = .ofNat k + .ofNat counts.sum := by
  rw [List.sum_cons, UInt64.ofNat_add]

namespace Statement

/-- A failure of a chain reports the path to an atom that does not hold. -/
theorem exists_path_of_failure {p : Statement σ} (hp : p.IsChain) (trace : TraceToggles)
    (minimize : Bool) (s : Session σ) {c : Certificate} {labels : List String} {n : UInt64}
    (h : (p.run trace minimize s).1 = .failure c labels n) :
    ∃ (path : Path p) (counts : List Nat), path.Found trace minimize s counts ∧ path.Refutes ∧
      labels = path.labels ∧ c.steps = path.steps ∧ n = .ofNat counts.sum := by
  -- The session and the flag change from layer to layer: a layer that has moved tests what is below it anew.
  induction p generalizing minimize s c labels n with
  | not | and | or | iff | forAllTypes => cases hp
  | atom a =>
    obtain ⟨b, hb⟩ := hp
    rw [run_atom_apply, hb s.world] at h
    cases b with
    | true => cases h
    | false =>
      cases h
      exact ⟨.atom, [], .atom, hb, rfl, rfl, rfl⟩
  | guarded guard holds body ih =>
    rw [run_guarded_apply] at h
    cases holds with
    | false => cases h
    | true =>
      obtain ⟨d, l, hbody, rfl, rfl⟩ := Outcome.exists_of_annotate_eq_failure h
      obtain ⟨path, counts, hfound, hrefutes, rfl, hsteps, hn⟩ := ih (hp rfl) minimize s hbody
      refine ⟨.guarded path, counts, .guarded hfound, ⟨rfl, hrefutes⟩, rfl, ?_, hn⟩
      rw [Path.steps, ← hsteps]
      rfl
  | unused var witness body ih =>
    rw [run_unused_apply] at h
    obtain ⟨d, hlabelled, rfl⟩ := Outcome.exists_of_across_eq_failure h
    obtain ⟨e, l, hbody, rfl, rfl⟩ := Outcome.exists_of_annotate_eq_failure hlabelled
    obtain ⟨path, counts, hfound, hrefutes, rfl, hsteps, hn⟩ := ih hp minimize _ hbody
    refine ⟨.unused path, counts, .unused hfound, hrefutes, rfl, ?_, hn⟩
    rw [Path.steps, ← hsteps]
    rfl
  | preparing change body ih =>
    rw [run_preparing_apply] at h
    obtain ⟨path, counts, hfound, hrefutes, hlabels, hsteps, hn⟩ := ih hp minimize _ h
    exact ⟨.preparing path, counts, .preparing hfound, hrefutes, hlabels, hsteps, hn⟩
  | forAll var sampler body ih =>
    rw [run_forAll_apply] at h
    obtain ⟨q, m, t, k, d, l, j, hsettles, hbody, rfl, rfl, rfl⟩ := exists_settles_of_failure h
    obtain ⟨path, counts, hfound, hrefutes, rfl, hsteps, rfl⟩ := ih _ (hp q) m t hbody
    refine ⟨.forAll q path, k :: counts, .forAll hsettles.steps hsettles hfound, hrefutes, rfl, ?_,
      (ofNat_sum_cons k counts).symm⟩
    rw [Path.steps, ← hsteps]
    rfl
  | suchThat var sampler guard body ih =>
    rw [run_suchThat_apply] at h
    obtain ⟨c', hbound, rfl⟩ := Outcome.exists_of_across_eq_failure h
    obtain ⟨q, m, t, k, d, l, j, hsettles, htested, rfl, rfl, rfl⟩ := exists_settles_of_failure hbound
    obtain ⟨e, l', hbody, rfl, rfl⟩ := Outcome.exists_of_annotate_eq_failure htested
    obtain ⟨path, counts, hfound, hrefutes, rfl, hsteps, rfl⟩ := ih _ (hp q) m t hbody
    refine ⟨.suchThat q path, k :: counts, .suchThat hsettles.steps hsettles hfound, hrefutes, rfl, ?_,
      (ofNat_sum_cons k counts).symm⟩
    rw [Path.steps, ← hsteps]
    simp only [Transport.backward, Certificate.steps_via, List.append_assoc, List.cons_append,
      List.nil_append]
    rfl

end Statement

/-- A counterexample is real and its report is faithful: a failure of a chain comes from a path at which all
    guards hold and the atom does not.  Labels and refutation are printed from the values on that path.  The
    steps are those of the one quantifier that has moved, and there are none if no search was wanted. -/
theorem failure_reports_path {p : Statement σ} (hp : p.IsChain) (trace : TraceToggles) (minimize : Bool)
    (s : Session σ) {c : Certificate} {labels : List String} {n : UInt64}
    (h : (p.run trace minimize s).1 = .failure c labels n) :
    ∃ (path : Path p) (counts : List Nat), path.Found trace minimize s counts ∧ path.Refutes ∧
      labels = path.labels ∧ c.steps = path.steps ∧ n = .ofNat counts.sum ∧
      (counts.sum < UInt64.size → n.toNat = counts.sum) ∧
      (counts.Pairwise fun m n => m = 0 ∨ n = 0) ∧ (minimize = false → n = 0) := by
  obtain ⟨path, counts, hfound, hrefutes, hlabels, hsteps, hn⟩ :=
    p.exists_path_of_failure hp trace minimize s h
  refine ⟨path, counts, hfound, hrefutes, hlabels, hsteps, hn, fun hfits => ?_, hfound.pairwise, ?_⟩
  · rw [hn]
    exact UInt64.toNat_ofNat_of_lt' hfits
  · rintro rfl
    rw [hn, List.sum_eq_zero_iff_forall_eq_nat.2 hfound.eq_zero]
    rfl

/-- The report of `∀ x, 2 < x → x < 3` when 5 is drawn, after a search for a smaller number. -/
theorem failure_reports_path_of_guarded :
    let p : Statement Unit := .forAll "x" (.graph 5 [(5, [1, 4])]) fun x =>
      .guarded "2 < x" (2 < x) (.decided "x < 3" (x < 3))
    let s : Session Unit := { gen := .ofSeed 0, world := () }
    p.IsChain ∧ ∃ c labels n, (p.run {} true s).1 = .failure c labels n ∧
      ∃ (path : Path p) (counts : List Nat), path.Found {} true s counts ∧ path.Refutes ∧
        labels = path.labels ∧ c.steps = path.steps ∧ n = .ofNat counts.sum ∧
        (counts.sum < UInt64.size → n.toNat = counts.sum) ∧
        (counts.Pairwise fun m n => m = 0 ∨ n = 0) ∧ (true = false → n = 0) := by
  intro p s
  have hp : p.IsChain := fun _ _ => ⟨_, fun _ => rfl⟩
  have hfail : (p.run {} true s).1.isFailure = true := (isFailure_testBound ..).trans rfl
  obtain ⟨c, labels, n, hrun⟩ := Outcome.isFailure_iff.1 hfail
  exact ⟨hp, c, labels, n, hrun, failure_reports_path hp {} true s hrun⟩

end Falsify
