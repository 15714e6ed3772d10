import Falsify.Proofs.Search.Descent
import Falsify.Testing

/-!
# What a test does, session by session

For each form of statement, the outcome of testing it from a session and the session after that, in terms of
testing its parts.  Of a bound variable it is said which proxy it settles on: the one that is drawn, or the
one at the end of a descent from it.

## Key results

- `exists_settles_testBound`: the outcome for a bound variable is that of its body at the proxy that the
  variable settles on, with the steps of the search added.
- `isFailure_testBound`: the search for a smaller proxy does not change whether the test fails.
- `Settles.steps`: that proxy is reached from the proxy that was drawn.
- `run_or_apply`, `run_iff_apply`, `run_forAllTypes_apply`: which parts are tested.
- `forall_run_or`, `forall_run_forAllTypes`: what carries over from the parts, whichever are tested.
-/

namespace Falsify

open Tester

variable {σ π α : Type} [Literal π] [Literal α]

/-! ## Bound variables -/

section Binding

variable (trace : TraceToggles) (var : String) (sampler : Sampler σ π α) (body : Search.Body σ α)

/-- The proxy that is drawn for a variable from the session `s`, and the session after that. -/
def drawn (s : Session σ) : π × Session σ :=
  let p := Tester.draw sampler.draw s
  (p.1, (emit (trace.successes || trace.discarded) (fun _ => .bound var (literal p.1)) p.2).2)

/-- The test of the body at the proxy that is drawn from the session `s`. -/
def sampled (minimize : Bool) (s : Session σ) : Outcome × Session σ :=
  body (sampler.interpret (drawn trace var sampler s).1) minimize (drawn trace var sampler s).2

/-- The session in which the search for a smaller proxy starts, if the one drawn from the session `s`
    fails. -/
def searched (s : Session σ) : Session σ :=
  Search.begun trace var (drawn trace var sampler s).1
    (emit trace.successes (fun _ => .failing var (literal (drawn trace var sampler s).1))
      (sampled trace var sampler body true s).2).2

/-- `Settles … minimize s p m t n`: testing a bound variable from the session `s` settles on the proxy `p`,
    at which the body is tested with the flag `m` in the session `t`; the search takes `n` steps to it. -/
inductive Settles : Bool → Session σ → π → Bool → Session σ → Nat → Prop
  /-- The proxy that was drawn stays, since there is no search or none of its candidates fails. -/
  | sample {minimize : Bool} {s : Session σ}
      (h : minimize = true → (sampled trace var sampler body true s).1.isFailure = true →
        ∃ t, Search.Descent trace var sampler body (drawn trace var sampler s).1
          (searched trace var sampler body s) [] t) :
      Settles minimize s (drawn trace var sampler s).1 minimize (drawn trace var sampler s).2 0
  /-- The proxy that was drawn fails, and a descent from it ends at another one. -/
  | shrunk {s t u : Session σ} {p : π} {path : List (π × Session σ)}
      (hfail : (sampled trace var sampler body true s).1.isFailure = true)
      (h : Search.Descent trace var sampler body (drawn trace var sampler s).1
        (searched trace var sampler body s) path u)
      (hlast : path.getLast? = some (p, t)) :
      Settles true s p false t path.length

/-- The text of a variable and the value that a proxy of it stands for. -/
def boundText (p : π) : String := var ++ " := " ++ literal (sampler.interpret p)

end Binding

variable {trace : TraceToggles} {var : String} {sampler : Sampler σ π α} {body : Search.Body σ α}

omit [Literal α] in
/-- The proxy that a variable settles on is reached from the one that was drawn for it. -/
theorem Settles.steps {minimize m : Bool} {s t : Session σ} {p : π} {n : Nat}
    (h : Settles trace var sampler body minimize s p m t n) :
    sampler.Steps n (sampler.draw s.toSource).1 p := by
  cases h with
  | sample => exact .refl _
  | shrunk hfail h hlast =>
    have hsteps := h.steps (sampled trace var sampler body true s).1
    rwa [Search.ending_of_getLast? hlast] at hsteps

omit [Literal α] in
/-- Where no search is wanted, the variable settles on the proxy that was drawn. -/
theorem Settles.eq_zero_of_not_minimize {m : Bool} {s t : Session σ} {p : π} {n : Nat}
    (h : Settles trace var sampler body false s p m t n) : n = 0 ∧ m = false := by
  cases h
  exact ⟨rfl, rfl⟩

omit [Literal α] in
/-- A variable whose search has moved on settles on a proxy that was tested without a search. -/
theorem Settles.eq_false_of_pos {minimize m : Bool} {s t : Session σ} {p : π} {n : Nat}
    (h : Settles trace var sampler body minimize s p m t n) (hn : 0 < n) : m = false := by
  cases h with
  | sample => exact absurd hn (Nat.lt_irrefl 0)
  | shrunk => rfl

/-- The outcome of a quantifier whose variable has settled on a proxy, at which its body has an outcome. -/
def boundReport (var : String) (sampler : Sampler σ π α) (found : π × Outcome) : Outcome :=
  found.2.annotate (boundText var sampler found.1)
    (.weakening ("specialise " ++ boundText var sampler found.1))

omit [Literal α] in
/-- What the test of a bound variable settles on: a proxy, and the outcome of the body there. -/
def settled (trace : TraceToggles) (var : String) (sampler : Sampler σ π α) (body : Search.Body σ α)
    (minimize : Bool) : Tester σ (π × Outcome) := do
  let p ← draw sampler.draw
  emit (trace.successes || trace.discarded) fun _ => .bound var (literal p)
  let r ← body (sampler.interpret p) minimize
  if r.isFailure then
    emit trace.successes fun _ => .failing var (literal p)
    if minimize then Search.minimize trace var sampler body p r else return (p, r)
  else return (p, r)

/-- A bound variable is tested by settling on a proxy and reporting it. -/
theorem testBound_eq (minimize : Bool) :
    testBound trace var sampler body minimize =
      boundReport var sampler <$> settled trace var sampler body minimize := by
  unfold testBound settled
  simp only [map_bind]
  -- The two differ only in where the outcome is moved to the quantifier, which is at the end of each branch.
  refine bind_congr fun p => bind_congr fun _ => bind_congr fun r => ?_
  split
  · cases minimize <;> rfl
  · rfl

omit [Literal π] in
/-- A quantifier reports a failure just where its body has failed. -/
private theorem isFailure_boundReport (found : π × Outcome) :
    (boundReport var sampler found).isFailure = found.2.isFailure := by
  rw [boundReport, Outcome.annotate, Outcome.isFailure_labelled, Outcome.isFailure_across]

/-- The test of a bound variable after its body has been tested at the proxy that was drawn. -/
theorem testBound_apply (minimize : Bool) (s : Session σ) :
    testBound trace var sampler body minimize s =
      (if (sampled trace var sampler body minimize s).1.isFailure = true then do
        emit trace.successes fun _ => .failing var (literal (drawn trace var sampler s).1)
        if minimize = true then do
          let found ← Search.minimize trace var sampler body (drawn trace var sampler s).1
            (sampled trace var sampler body minimize s).1
          pure (boundReport var sampler found)
        else
          pure (boundReport var sampler
            ((drawn trace var sampler s).1, (sampled trace var sampler body minimize s).1))
      else
        pure (boundReport var sampler
          ((drawn trace var sampler s).1, (sampled trace var sampler body minimize s).1)) :
      Tester σ Outcome) (sampled trace var sampler body minimize s).2 := by
  rfl

/-- A bound variable whose sample fails is reported at the end of a descent from that sample. -/
private theorem exists_descent_testBound {s : Session σ}
    (hr : (sampled trace var sampler body true s).1.isFailure = true) :
    ∃ path t, Search.Descent trace var sampler body (drawn trace var sampler s).1
        (searched trace var sampler body s) path t ∧
      (testBound trace var sampler body true s).1 = boundReport var sampler
        ((Search.ending sampler body (drawn trace var sampler s).1
            (sampled trace var sampler body true s).1 path).1,
          (Search.ending sampler body (drawn trace var sampler s).1
            (sampled trace var sampler body true s).1 path).2.addShrinks (.ofNat path.length)) := by
  obtain ⟨path, t, hpath, hrun⟩ := Search.exists_descent_minimize trace var sampler body
    (drawn trace var sampler s).1 (sampled trace var sampler body true s).1
    (emit trace.successes (fun _ => .failing var (literal (drawn trace var sampler s).1))
      (sampled trace var sampler body true s).2).2
  -- The search starts from the sample and its outcome, once the failure has been announced.
  refine ⟨path, t, hpath, ?_⟩
  rw [testBound_apply, if_pos hr, if_pos rfl]
  show boundReport var sampler (Search.minimize trace var sampler body (drawn trace var sampler s).1
    (sampled trace var sampler body true s).1
    (emit trace.successes (fun _ => .failing var (literal (drawn trace var sampler s).1))
      (sampled trace var sampler body true s).2).2).1 = _
  rw [hrun]

/-- The outcome for a bound variable is that of its body at the proxy that the variable settles on, moved
    to the quantifier. -/
theorem exists_settles_testBound (trace : TraceToggles) (var : String) (sampler : Sampler σ π α)
    (body : Search.Body σ α) (minimize : Bool) (s : Session σ) :
    ∃ p m t n, Settles trace var sampler body minimize s p m t n ∧
      (testBound trace var sampler body minimize s).1 =
        ((body (sampler.interpret p) m t).1.addShrinks (.ofNat n)).annotate (boundText var sampler p)
          (.weakening ("specialise " ++ boundText var sampler p)) := by
  -- The variable settles on the sample, unless that has failed and a search follows.
  cases hr : (sampled trace var sampler body minimize s).1.isFailure with
  | false =>
    refine ⟨_, _, _, _, .sample ?_, ?_⟩
    · rintro rfl hfail
      rw [hr] at hfail
      cases hfail
    · rw [testBound_apply, if_neg (by rw [hr]; exact Bool.false_ne_true), Outcome.addShrinks_ofNat_zero]
      rfl
  | true =>
    cases minimize with
    | false =>
      refine ⟨_, _, _, _, .sample nofun, ?_⟩
      rw [testBound_apply, if_pos hr, Outcome.addShrinks_ofNat_zero]
      rfl
    | true =>
      obtain ⟨path, u, hpath, hreport⟩ := exists_descent_testBound hr
      -- The outcome that is reported is the one seen at the end of the path, which may be its start.
      cases hlast : path.getLast? with
      | none =>
        rw [List.getLast?_eq_none_iff] at hlast
        subst hlast
        exact ⟨_, _, _, _, .sample fun _ _ => ⟨u, hpath⟩, hreport⟩
      | some last =>
        obtain ⟨p, t⟩ := last
        rw [Search.ending_of_getLast? hlast] at hreport
        exact ⟨p, false, t, path.length, .shrunk hr hpath hlast, hreport⟩

/-- The test of a bound variable fails just if its body fails at the proxy that is drawn: a search starts at
    a failure and ends at one. -/
theorem isFailure_testBound (trace : TraceToggles) (var : String) (sampler : Sampler σ π α)
    (body : Search.Body σ α) (minimize : Bool) (s : Session σ) :
    (testBound trace var sampler body minimize s).1.isFailure =
      (sampled trace var sampler body minimize s).1.isFailure := by
  -- A search is made for a failure only, and it ends at one.
  cases hr : (sampled trace var sampler body minimize s).1.isFailure with
  | false =>
    rw [testBound_apply, if_neg (by rw [hr]; exact Bool.false_ne_true)]
    exact (isFailure_boundReport _).trans hr
  | true =>
    cases minimize with
    | false =>
      rw [testBound_apply, if_pos hr]
      exact (isFailure_boundReport _).trans hr
    | true =>
      obtain ⟨path, u, hpath, hreport⟩ := exists_descent_testBound hr
      rw [hreport, isFailure_boundReport, Outcome.isFailure_addShrinks]
      exact hpath.isFailure_ending hr

/-! ## Statements -/

@[simp] theorem Outcome.isSuccess_instantiated (var name : String) (r : Outcome) :
    (r.instantiated var name).isSuccess = r.isSuccess := by
  cases r <;> rfl

namespace Statement

variable (trace : TraceToggles) (minimize : Bool) (s : Session σ)

theorem run_atom_apply (a : Atom σ) :
    (atom a).run trace minimize s =
      (Atom.outcome a.text (a.holds s.world).1, { s with world := (a.holds s.world).2 }) := rfl

theorem run_not_apply (p : Statement σ) :
    p.not.run trace minimize s =
      ((p.run trace minimize s).1.negate p.text, (p.run trace minimize s).2) := rfl

/-- Both parts of a conjunction are tested, the second one in the session that the first has left. -/
theorem run_and_apply (p q : Statement σ) :
    (p.and q).run trace minimize s =
      let l := p.run trace minimize s
      let r := q.run trace minimize l.2
      (l.1.and r.1, r.2) := rfl

/-- The second part of a disjunction is tested unless the first one holds. -/
theorem run_or_apply (p q : Statement σ) :
    (p.or q).run trace minimize s =
      let l := p.run trace minimize s
      let r := q.run trace minimize l.2
      if l.1.isSuccess then l else (l.1.or r.1, r.2) := by
  have hrun : (p.or q).run trace minimize s =
      (if (p.run trace minimize s).1.isSuccess = true then pure (p.run trace minimize s).1
        else (p.run trace minimize s).1.or <$> q.run trace minimize)
        (p.run trace minimize s).2 := rfl
  rw [hrun]
  dsimp only
  cases (p.run trace minimize s).1.isSuccess <;> rfl

/-- What two parts and their disjunction have in common, the test of the disjunction has, although it may leave
    out the second part. -/
theorem forall_run_or {P : Outcome → Prop} {trace : TraceToggles} {minimize : Bool} {p q : Statement σ}
    (hp : ∀ s, P (p.run trace minimize s).1) (hq : ∀ s, P (q.run trace minimize s).1)
    (hor : ∀ l r, P l → P r → P (l.or r)) (s : Session σ) : P ((p.or q).run trace minimize s).1 := by
  rw [run_or_apply]
  dsimp only
  split
  · exact hp s
  · exact hor _ _ (hp s) (hq _)

/-- An equivalence is tested as a disjunction, whose outcome is moved to it. -/
theorem run_iff_apply (p q : Statement σ) :
    (p.iff q).run trace minimize s =
      let r := ((p.and q).or (p.not.and q.not)).run trace minimize s
      (r.1.across (.equivalence iffRule), r.2) := by
  rw [run_iff]
  rfl

/-- A body is tested if its guard holds, and otherwise the test gives up. -/
theorem run_guarded_apply (guard : String) (holds : Bool) (body : Statement σ) :
    (guarded guard holds body).run trace minimize s =
      if holds then
        let r := body.run trace minimize s
        (r.1.annotate ("guard: " ++ guard) (.equivalence ("guard " ++ guard ++ " holds")), r.2)
      else (.gaveUp, (emit (trace.discarded || trace.successes) (fun _ => .discarded guard) s).2) := by
  cases holds <;> rfl

theorem run_unused_apply (var witness : String) (body : Statement σ) :
    (unused var witness body).run trace minimize s =
      let r := body.run trace minimize
        (emit (trace.discarded || trace.successes) (fun _ => .unused var) s).2
      ((r.1.annotate (var ++ " is irrelevant (unused)") .identity).across
        (.equivalence (var ++ " instantiated with witness " ++ witness)), r.2) := rfl

/-- A quantifier is tested as a bound variable. -/
theorem run_forAll_apply (var : String) (sampler : Sampler σ π α) (body : α → Statement σ) :
    (forAll var sampler body).run trace minimize s =
      testBound trace var sampler (fun a minimize => (body a).run trace minimize) minimize s := rfl

/-- The test of the body of a quantifier over a subtype. -/
def subtypeBody (guard : α → String) (body : α → Statement σ) : Search.Body σ α :=
  fun a minimize => Outcome.byConstruction (guard a) <$> (body a).run trace minimize

/-- A quantifier over a subtype is tested as a bound variable whose body has its guard by construction. -/
theorem run_suchThat_apply (var : String) (sampler : Sampler σ π α) (guard : α → String)
    (body : α → Statement σ) :
    (suchThat var sampler guard body).run trace minimize s =
      let r := testBound trace var sampler (subtypeBody trace guard body) minimize s
      (r.1.across (.equivalence (subtypeRule var)), r.2) := rfl

/-- The second instance of a statement about all types is tested only if the first one holds. -/
theorem run_forAllTypes_apply (var : String) (family : Ty → Statement σ) :
    (forAllTypes var family).run trace minimize s =
      let l := (family .integer).run trace minimize s
      let r := (family .string).run trace minimize l.2
      if l.1.isSuccess then ((l.1.instantiated var "i64").and (r.1.instantiated var "String"), r.2)
      else (l.1.instantiated var "i64", l.2) := by
  have hrun : (forAllTypes var family).run trace minimize s =
      (if !(((family .integer).run trace minimize s).1.instantiated var "i64").isSuccess then
          pure (((family .integer).run trace minimize s).1.instantiated var "i64")
        else (fun r => (((family .integer).run trace minimize s).1.instantiated var "i64").and
          (r.instantiated var "String")) <$> (family .string).run trace minimize)
        ((family .integer).run trace minimize s).2 := rfl
  rw [hrun, Outcome.isSuccess_instantiated]
  dsimp only
  -- The second type is tested only after the first has succeeded.
  cases ((family .integer).run trace minimize s).1.isSuccess <;> rfl

/-- What the instances of a statement about all types and their conjunction have in common, its test has. -/
theorem forall_run_forAllTypes {P : Outcome → Prop} {trace : TraceToggles} {minimize : Bool} {var : String}
    {family : Ty → Statement σ}
    (hfirst : ∀ s, P (((family .integer).run trace minimize s).1.instantiated var "i64"))
    (hsecond : ∀ s, P (((family .string).run trace minimize s).1.instantiated var "String"))
    (hand : ∀ l r, P l → P r → P (l.and r)) (s : Session σ) :
    P ((forAllTypes var family).run trace minimize s).1 := by
  rw [run_forAllTypes_apply]
  dsimp only
  split
  · exact hand _ _ (hfirst s) (hsecond _)
  · exact hfirst s

theorem run_preparing_apply (change : σ → σ) (body : Statement σ) :
    (preparing change body).run trace minimize s =
      body.run trace minimize { s with world := change s.world } := rfl

end Statement

end Falsify
