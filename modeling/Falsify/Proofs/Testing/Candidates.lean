import Falsify.Proofs.Search.Greedy
import Falsify.Proofs.Testing.Decisions
import Mathlib.Order.Filter.AtTopBot.Basic

/-!
# Tests with other candidates

What the test of a statement becomes when its samplers draw as before and offer other candidates.  These may be
any at all: nothing says that candidates of candidates come to an end, and those of `fun p => [p]` never do.  So
each search is given a number of rounds, and a test has no answer if one of its searches needs more than that.

With the candidates of the statement itself, and with enough rounds, the test is the one that it was.

## Key results

- `Statement.Candidates`: a choice of other candidates for every sampler of a statement.
- `Statement.runWithin`: the test of a statement with other candidates and so many rounds for each search.
- `Statement.answers_run`: the answer of such a test, where no search is made or the candidates are the
  statement's own; `Statement.runWithin_false`: the first of the two.
-/

namespace Falsify

open Tester

variable {σ π α β : Type}

/-! ## Steps without an answer -/

/-- A step of testing that may have no answer. -/
abbrev PartialTester (σ α : Type) : Type := StateT (Session σ) Option α

namespace PartialTester

def total (f : Tester σ α) : PartialTester σ α := fun s => some (f s)

/-- The step that follows starts from what the first one has answered, if it has. -/
theorem bind_eq (f : PartialTester σ α) (k : α → PartialTester σ β) (s : Session σ) :
    (f >>= k) s = (f s).bind fun answered => k answered.1 answered.2 := rfl

theorem total_bind_apply (f : Tester σ α) (k : α → PartialTester σ β) (s : Session σ) :
    (total f >>= k) s = k (f s).1 (f s).2 := rfl

/-- From every session, the steps with the numbers of rounds in `F` have the answer of the step `g`. -/
def Answers (F : Filter Nat) (f : Nat → PartialTester σ α) (g : Tester σ α) : Prop :=
  ∀ s, ∀ᶠ rounds in F, f rounds s = some (g s)

namespace Answers

variable {F : Filter Nat} {f f' : Nat → PartialTester σ α} {g g' : Tester σ α}

/-- A step answers itself. -/
theorem total (g : Tester σ α) : Answers F (fun _ => PartialTester.total g) g := fun _ => .of_forall fun _ => rfl

theorem pure (a : α) : Answers (σ := σ) F (fun _ => Pure.pure a) (Pure.pure a) := .total (Pure.pure a)

/-- A step and the one that follows it answer together, as both have done so from some number of rounds on. -/
theorem bind {k : Nat → α → PartialTester σ β} {l : α → Tester σ β} (h : Answers F f g)
    (hk : ∀ a, Answers F (fun rounds => k rounds a) (l a)) :
    Answers F (fun rounds => f rounds >>= k rounds) (g >>= l) := by
  intro s
  filter_upwards [h s, hk (g s).1 (g s).2] with rounds hf hl
  rw [bind_eq, hf]
  exact hl

theorem ite {c : Prop} [Decidable c] (h : Answers F f g) (h' : Answers F f' g') :
    Answers F (fun rounds => if c then f rounds else f' rounds) (if c then g else g') := by
  by_cases hc : c
  · simp only [if_pos hc]
    exact h
  · simp only [if_neg hc]
    exact h'

/-- What is answered with all numbers of rounds is answered with each of them. -/
theorem eq_total (h : Answers ⊤ f g) (rounds : Nat) : f rounds = PartialTester.total g :=
  funext fun s => Filter.eventually_top.1 (h s) rounds

end Answers

end PartialTester

open PartialTester

/-! ## Searches -/

namespace Search

/-- A test of a quantified body that may have no answer. -/
abbrev PartialBody (σ α : Type) : Type := α → Bool → PartialTester σ Outcome

section

variable [Literal π] (trace : TraceToggles) (var : String) (shrinks : π → List π) (interpret : π → α)
  (body : PartialBody σ α)

/-- Tests candidates in order until one fails. -/
def firstFailingWithin : List π → PartialTester σ (Option (π × Outcome))
  | [] => pure none
  | c :: cs => do
    total (emit trace.candidates fun _ => .trying var (literal c))
    let r ← body (interpret c) false
    if r.isFailure then pure (some (c, r)) else firstFailingWithin cs

/-- Follows failing candidates down for at most so many rounds. -/
def followWithin : (rounds : Nat) → π → Outcome → UInt64 → PartialTester σ (π × Outcome)
  | 0, _, _, _ => failure
  | rounds + 1, p, r, steps => do
    total (emit trace.candidates fun _ => .offers var (literal p) (literal (shrinks p)))
    match ← firstFailingWithin trace var interpret body (shrinks p) with
    | some (c, r) =>
      total (emit trace.shrinks fun _ => .shrunk var (literal c) (literal p))
      followWithin rounds c r (steps + 1)
    | none =>
      total (emit trace.shrinks fun _ => .minimal var (literal p))
      return (p, r.addShrinks steps)

/-- The search from a failing proxy in at most so many rounds, with any function for the candidates. -/
def searchWithin (rounds : Nat) (p : π) (r : Outcome) : PartialTester σ (π × Outcome) := do
  total (emit trace.shrinks fun _ => .search)
  total (emit trace.shrinks fun _ => .searchFrom var (literal p))
  followWithin trace var shrinks interpret body rounds p r 0

end

variable [Literal π] {trace : TraceToggles} {var : String}

/-- A search depends on its body through the tests that do not search themselves. -/
theorem searchWithin_congr {shrinks : π → List π} {interpret : π → α} {body : PartialBody σ α}
    (body' : PartialBody σ α) (h : ∀ a, body a false = body' a false) (rounds : Nat) (p : π) (r : Outcome) :
    searchWithin trace var shrinks interpret body rounds p r =
      searchWithin trace var shrinks interpret body' rounds p r := by
  -- A search tests candidates without searches of their own, so only this half of the body is run.
  have hround (cs : List π) : firstFailingWithin trace var interpret body cs =
      firstFailingWithin trace var interpret body' cs := by
    induction cs with
    | nil => rfl
    | cons c cs ih => rw [firstFailingWithin, firstFailingWithin, h, ih]
  have hfollow (steps : UInt64) : followWithin trace var shrinks interpret body rounds p r steps =
      followWithin trace var shrinks interpret body' rounds p r steps := by
    induction rounds generalizing p r steps with
    | zero => rfl
    | succ rounds ih =>
      rw [followWithin, followWithin, hround]
      refine bind_congr fun _ => bind_congr fun found => ?_
      split
      · exact bind_congr fun _ => ih _ _ _
      · rfl
  rw [searchWithin, searchWithin, hfollow]

/-- With the candidates of a sampler and a body that has its answers, this is the loop of so many rounds. -/
theorem searchWithin_total (sampler : Sampler σ π α) (body : Body σ α) (rounds : Nat) (p : π) (r : Outcome)
    (s : Session σ) :
    searchWithin trace var sampler.shrinks sampler.interpret (fun a m => total (body a m)) rounds p r s =
      minimizeWithin trace var sampler body rounds p r s := by
  -- Round by round: a body that always answers lets every round answer, and then the two loops run in step.
  have hround (cs : List π) : firstFailingWithin trace var sampler.interpret (fun a m => total (body a m)) cs =
      total (firstFailing trace var sampler.interpret body cs) := by
    induction cs with
    | nil => rfl
    | cons c cs ih =>
      funext s
      rw [firstFailingWithin, ih, total_bind_apply, total_bind_apply, total, firstFailing_cons]
      show (if (tested trace var sampler.interpret body c s).1.isFailure then _ else _ : PartialTester σ _)
        (tested trace var sampler.interpret body c s).2 = _
      split <;> rfl
  have hfollow (steps : UInt64) (s : Session σ) :
      followWithin trace var sampler.shrinks sampler.interpret (fun a m => total (body a m)) rounds p r steps s =
        descendWithin trace var sampler body rounds p r steps s := by
    induction rounds generalizing p r steps s with
    | zero => rfl
    | succ rounds ih =>
      rw [followWithin, descendWithin, hround, total_bind_apply, total_bind_apply, ← offered]
      rcases firstFailing trace var sampler.interpret body (sampler.shrinks p) (offered trace var sampler p s)
        with ⟨_ | ⟨c, r⟩, t⟩
      · rfl
      · exact ih _ _ _ _
  exact hfollow 0 (begun trace var p s)

end Search

/-! ## Bound variables -/

section

variable [Literal π] [Literal α] {trace : TraceToggles} {var : String} {sampler : Sampler σ π α}

/-- Tests a quantified body at a drawn sample and searches for a smaller one in at most so many rounds, with any
    function for the candidates. -/
def testBoundWithin (trace : TraceToggles) (rounds : Nat) (var : String) (sampler : Sampler σ π α)
    (shrinks : π → List π) (body : Search.PartialBody σ α) (minimize : Bool) : PartialTester σ Outcome := do
  let p ← total (draw sampler.draw)
  total (emit (trace.successes || trace.discarded) fun _ => .bound var (literal p))
  let r ← body (sampler.interpret p) minimize
  let (witness, r) ←
    if r.isFailure then do
      total (emit trace.successes fun _ => .failing var (literal p))
      if minimize then Search.searchWithin trace var shrinks sampler.interpret body rounds p r else pure (p, r)
    else pure (p, r)
  let binding := var ++ " := " ++ literal (sampler.interpret witness)
  return r.annotate binding (.weakening ("specialise " ++ binding))

omit [Literal α] in
/-- With the candidates of the sampler and enough rounds, the search has the answer of the search. -/
theorem Search.answers_searchWithin {F : Filter Nat} (hF : F ≤ Filter.atTop) {body : Nat → PartialBody σ α}
    {body' : Body σ α} (hbody : ∀ rounds a, body rounds a false = total (body' a false)) (p : π) (r : Outcome) :
    Answers F (fun rounds => searchWithin trace var sampler.shrinks sampler.interpret (body rounds) rounds p r)
      (minimize trace var sampler body' p r) := by
  intro s
  obtain ⟨path, t, hpath, -⟩ := exists_descent_minimize trace var sampler body' p r s
  -- One round for each step of the search, and one in which no candidate fails.
  filter_upwards [hF (Filter.eventually_gt_atTop path.length)] with rounds hrounds
  rw [searchWithin_congr (fun a m => total (body' a m)) (hbody rounds), searchWithin_total, minimizeWithin,
    hpath.descendWithin_eq_ite, if_pos hrounds]
  rfl

/-- What the test of a bound variable answers, where no search is wanted or the candidates are those of the
    sampler. -/
theorem answers_testBoundWithin {F : Filter Nat} {shrinks : π → List π} {body : Nat → Search.PartialBody σ α}
    {body' : Search.Body σ α} {minimize : Bool}
    (hsearch : minimize = false ∨ F ≤ Filter.atTop ∧ shrinks = sampler.shrinks)
    (hbody : ∀ a, Answers F (fun rounds => body rounds a minimize) (body' a minimize))
    (hunsearched : ∀ rounds a, body rounds a false = total (body' a false)) :
    Answers F (fun rounds => testBoundWithin trace rounds var sampler shrinks (body rounds) minimize)
      (testBound trace var sampler body' minimize) := by
  -- Only the search may fail to answer, and it is made only for a failure under the toggle.
  refine .bind (.total _) fun p => .bind (.total _) fun _ => .bind (hbody _) fun r => .ite ?_ (.pure _)
  refine .bind (.total _) fun _ => ?_
  obtain rfl | ⟨hF, rfl⟩ := hsearch
  · exact .pure _
  · exact .ite (.bind (Search.answers_searchWithin hF hunsearched p r) fun _ => .pure _) (.pure _)

end

/-! ## Statements -/

namespace Statement

/-- Other candidates for the samplers of a statement: for each quantifier a function that takes the place of the
    candidates of its sampler, also for those that stand in a body, at each value. -/
def Candidates : Statement σ → Type
  | atom _ => Unit
  | not p => p.Candidates
  | and p q => p.Candidates × q.Candidates
  | or p q => p.Candidates × q.Candidates
  | iff p q => p.Candidates × q.Candidates
  | forAll (π := π) (α := α) _ _ body => (π → List π) × ∀ a : α, (body a).Candidates
  | guarded _ _ body => body.Candidates
  | unused _ _ body => body.Candidates
  | suchThat (π := π) (α := α) _ _ _ body => (π → List π) × ∀ a : α, (body a).Candidates
  | forAllTypes _ family => ∀ t, (family t).Candidates
  | preparing _ body => body.Candidates

/-- The candidates that the samplers of a statement offer themselves. -/
def candidates : (p : Statement σ) → p.Candidates
  | atom _ => ()
  | not p => p.candidates
  | and p q => (p.candidates, q.candidates)
  | or p q => (p.candidates, q.candidates)
  | iff p q => (p.candidates, q.candidates)
  | forAll _ sampler body => (sampler.shrinks, fun a => (body a).candidates)
  | guarded _ _ body => body.candidates
  | unused _ _ body => body.candidates
  | suchThat _ sampler _ body => (sampler.shrinks, fun a => (body a).candidates)
  | forAllTypes _ family => fun t => (family t).candidates
  | preparing _ body => body.candidates

/-- The same candidates for the statement whose atoms put themselves on record. -/
def Candidates.recorded : {p : Statement σ} → p.Candidates → p.recorded.Candidates
  | atom _, c => c
  | not p, c => recorded (p := p) c
  | and p q, c => (recorded (p := p) c.1, recorded (p := q) c.2)
  | or p q, c => (recorded (p := p) c.1, recorded (p := q) c.2)
  | iff p q, c => (recorded (p := p) c.1, recorded (p := q) c.2)
  | forAll _ _ body, c => (c.1, fun a => recorded (p := body a) (c.2 a))
  | guarded _ _ body, c => recorded (p := body) c
  | unused _ _ body, c => recorded (p := body) c
  | suchThat _ _ _ body, c => (c.1, fun a => recorded (p := body a) (c.2 a))
  | forAllTypes _ family, c => fun t => recorded (p := family t) (c t)
  | preparing _ body, c => recorded (p := body) c

/-- Tests a statement once, with other candidates and at most so many rounds for each search. -/
def runWithin (trace : TraceToggles) (rounds : Nat) :
    (p : Statement σ) → p.Candidates → (minimize : Bool) → PartialTester σ Outcome
  | atom a, _, _ => do
    let holds ← total (stateful a.holds)
    return Atom.outcome a.text holds
  | not p, c, minimize => do
    let r ← p.runWithin trace rounds c minimize
    return r.negate p.text
  | and p q, c, minimize => do
    let l ← p.runWithin trace rounds c.1 minimize
    let r ← q.runWithin trace rounds c.2 minimize
    return l.and r
  | or p q, c, minimize => do
    let l ← p.runWithin trace rounds c.1 minimize
    if l.isSuccess then return l
    let r ← q.runWithin trace rounds c.2 minimize
    return l.or r
  | iff p q, c, minimize => do
    let both := do
      let l ← p.runWithin trace rounds c.1 minimize
      let r ← q.runWithin trace rounds c.2 minimize
      return l.and r
    let neither := do
      let l ← p.runWithin trace rounds c.1 minimize
      let r ← q.runWithin trace rounds c.2 minimize
      return (l.negate p.text).and (r.negate q.text)
    let l ← both
    if l.isSuccess then return l.across (.equivalence iffRule)
    let r ← neither
    return (l.or r).across (.equivalence iffRule)
  | forAll var sampler body, c, minimize =>
    testBoundWithin trace rounds var sampler c.1
      (fun a minimize => (body a).runWithin trace rounds (c.2 a) minimize) minimize
  | guarded guard holds body, c, minimize => do
    if holds then
      let r ← body.runWithin trace rounds c minimize
      return r.annotate ("guard: " ++ guard) (.equivalence ("guard " ++ guard ++ " holds"))
    total (emit (trace.discarded || trace.successes) fun _ => .discarded guard)
    return .gaveUp
  | unused var witness body, c, minimize => do
    total (emit (trace.discarded || trace.successes) fun _ => .unused var)
    let r ← body.runWithin trace rounds c minimize
    return (r.annotate (var ++ " is irrelevant (unused)") .identity).across
      (.equivalence (var ++ " instantiated with witness " ++ witness))
  | suchThat var sampler guard body, c, minimize => do
    let tested := fun a minimize => do
      let r ← (body a).runWithin trace rounds (c.2 a) minimize
      return r.byConstruction (guard a)
    let r ← testBoundWithin trace rounds var sampler c.1 tested minimize
    return r.across (.equivalence (subtypeRule var))
  | forAllTypes var family, c, minimize => do
    let l ← (family .integer).runWithin trace rounds (c .integer) minimize
    let l := l.instantiated var "i64"
    if !l.isSuccess then return l
    let r ← (family .string).runWithin trace rounds (c .string) minimize
    return l.and (r.instantiated var "String")
  | preparing change body, c, minimize => do
    total (stateful (modify change))
    body.runWithin trace rounds c minimize

/-- The decisions that such a test makes, in order. -/
def decisionsWithin (trace : TraceToggles) (rounds : Nat) (p : Statement σ) (c : p.Candidates) (minimize : Bool)
    (s : Session σ) : Option (List (Atom σ × σ)) :=
  (p.recorded.runWithin trace rounds c.recorded minimize s.recorded).map fun answered =>
    answered.2.world.decisions

/-- A test that does not search has its answer with any candidates and any number of rounds, and every test has it
    with the candidates of the statement itself and enough rounds. -/
theorem answers_run (trace : TraceToggles) {F : Filter Nat} (p : Statement σ) (c : p.Candidates) {minimize : Bool}
    (hc : minimize = false ∨ F ≤ Filter.atTop ∧ c = p.candidates) :
    Answers F (fun rounds => p.runWithin trace rounds c minimize) (p.run trace minimize) := by
  -- What a search tests is tested without a search of its own, so there any number of rounds will do.
  induction p generalizing F minimize with
  | atom a => exact .bind (.total _) fun _ => .pure _
  | not p ih => exact .bind (ih c hc) fun _ => .pure _
  | and p q ihp ihq =>
    have hp := ihp c.1 (hc.imp_right (And.imp_right (congrArg Prod.fst)))
    have hq := ihq c.2 (hc.imp_right (And.imp_right (congrArg Prod.snd)))
    exact .bind hp fun _ => .bind hq fun _ => .pure _
  | or p q ihp ihq =>
    have hp := ihp c.1 (hc.imp_right (And.imp_right (congrArg Prod.fst)))
    have hq := ihq c.2 (hc.imp_right (And.imp_right (congrArg Prod.snd)))
    exact .bind hp fun _ => .ite (.pure _) (.bind hq fun _ => .pure _)
  | iff p q ihp ihq =>
    have hp := ihp c.1 (hc.imp_right (And.imp_right (congrArg Prod.fst)))
    have hq := ihq c.2 (hc.imp_right (And.imp_right (congrArg Prod.snd)))
    refine .bind (.bind hp fun _ => .bind hq fun _ => .pure _) fun _ => .ite (.pure _) ?_
    exact .bind (.bind hp fun _ => .bind hq fun _ => .pure _) fun _ => .pure _
  -- At the sample the body is tested under the toggle, and at a candidate without a search.
  | forAll var sampler body ih =>
    refine answers_testBoundWithin (hc.imp_right (And.imp_right (congrArg Prod.fst))) (fun a => ?_) fun rounds a => ?_
    · exact ih a (c.2 a) (hc.imp_right (And.imp_right fun h => congrFun (congrArg Prod.snd h) a))
    · exact (ih a (c.2 a) (.inl rfl)).eq_total rounds
  | guarded guard holds body ih =>
    cases holds with
    | false => exact .bind (.total _) fun _ => .pure _
    | true => exact .bind (ih c hc) fun _ => .pure _
  | unused var witness body ih => exact .bind (.total _) fun _ => .bind (ih c hc) fun _ => .pure _
  | suchThat var sampler guard body ih =>
    refine .bind (answers_testBoundWithin (hc.imp_right (And.imp_right (congrArg Prod.fst))) (fun a => ?_)
      fun rounds a => ?_) fun _ => .pure _
    · have hbody := ih a (c.2 a) (hc.imp_right (And.imp_right fun h => congrFun (congrArg Prod.snd h) a))
      exact .bind hbody fun _ => .pure _
    · exact Answers.eq_total (.bind (ih a (c.2 a) (.inl rfl)) fun _ => .pure _) rounds
  | forAllTypes var family ih =>
    have hinstance (t : Ty) := ih t (c t) (hc.imp_right (And.imp_right (congrFun · t)))
    exact .bind (hinstance .integer) fun _ => .ite (.pure _) (.bind (hinstance .string) fun _ => .pure _)
  | preparing change body ih => exact .bind (.total _) fun _ => ih c hc

/-- Without a search, a test is the same with any candidates. -/
theorem runWithin_false (trace : TraceToggles) (rounds : Nat) (p : Statement σ) (c : p.Candidates) :
    p.runWithin trace rounds c false = total (p.run trace false) :=
  (p.answers_run trace c (.inl rfl)).eq_total rounds

end Statement

end Falsify
