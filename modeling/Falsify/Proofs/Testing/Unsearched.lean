import Falsify.Proofs.Testing.Candidates
import Falsify.Proofs.Testing.Visits

/-!
# Tests without a search

A test that is not to search hands this down to all that it tests, so of a sampler it uses what it draws and no
candidate.  It is the same test then when the samplers offer other candidates, even such that a search among them
would never end.

The candidates of a search are tested without a search, so all of this holds of what is tested there.

## Key results

- `Statement.shrinks_run_false`: a failure that is found has taken no steps.
- `Statement.keeps_searchLines_run_false`: no line of a search is written.
- `Statement.Tests.eq_false`: all parts are tested without a search.
- `unsearched_uses_no_candidates`: all of this together, and that candidates do not matter.
-/

namespace Falsify

open Tester PartialTester

variable {σ π α : Type}

/-! ## Steps and lines of a search -/

namespace Outcome

variable {r s : Outcome}

theorem shrinks_across (t : Transport) (r : Outcome) : (r.across t).shrinks = r.shrinks := by
  cases r <;> rfl

theorem shrinks_annotate (label : String) (t : Transport) (r : Outcome) :
    (r.annotate label t).shrinks = r.shrinks := by
  cases r <;> rfl

/-- A denial has no steps to show, as it forgets those of what it denies. -/
theorem shrinks_negate (text : String) (r : Outcome) : (r.negate text).shrinks = 0 := by
  rcases r with ⟨_ | _, _⟩ | _ | _ <;> rfl

/-- A conjunction has the steps of one of its parts. -/
theorem shrinks_and (hr : r.shrinks = 0) (hs : s.shrinks = 0) : (r.and s).shrinks = 0 := by
  cases r with
  | failure => exact hr
  | success | gaveUp =>
    cases s with
    | failure => exact hs
    | success | gaveUp => rfl

/-- A disjunction that fails has the steps of both of its parts. -/
theorem shrinks_or (hr : r.shrinks = 0) (hs : s.shrinks = 0) : (r.or s).shrinks = 0 := by
  cases r with
  | success => rfl
  | gaveUp => cases s <;> rfl
  | failure c l n =>
    cases s with
    | success | gaveUp => rfl
    | failure c' l' n' =>
      show n + n' = 0
      rw [show n = 0 from hr, show n' = 0 from hs]
      rfl

end Outcome

/-- The lines of a search that the trace holds so far. -/
def Session.searchLines (s : Session σ) : Array TraceLine := s.trace.filter TraceLine.isOfSearch

namespace Tester

/-- A line that is not of a search adds no line of a search. -/
theorem keeps_searchLines_emit (on : Bool) (line : Unit → TraceLine) (h : (line ()).isOfSearch = false) :
    Keeps (Session.searchLines (σ := σ)) (emit on line) := by
  intro s
  cases on with
  | false => rfl
  | true =>
    show (s.trace.push (line ())).filter TraceLine.isOfSearch = s.trace.filter TraceLine.isOfSearch
    rw [Array.filter_push, h, if_neg Bool.false_ne_true]

end Tester

/-- Neither does a bound variable that is tested without a search, if its body does not. -/
theorem keeps_searchLines_testBound [Literal π] [Literal α] (trace : TraceToggles) (var : String)
    (sampler : Sampler σ π α) {body : Search.Body σ α} (hbody : ∀ a, Keeps Session.searchLines (body a false)) :
    Keeps Session.searchLines (testBound trace var sampler body false) := by
  -- Neither the line about the sample nor the one about its failure is of a search.
  refine .bind (fun _ => rfl) fun p => .bind (keeps_searchLines_emit _ _ rfl) fun _ => ?_
  exact .bind (hbody _) fun r => .ite (.bind (keeps_searchLines_emit _ _ rfl) fun _ => .pure _) (.pure _)

namespace Statement

variable (trace : TraceToggles)

theorem shrinks_run_false (p : Statement σ) (s : Session σ) : (p.run trace false s).1.shrinks = 0 := by
  induction p generalizing s with
  | atom a =>
    rw [run_atom_apply, Atom.outcome]
    split <;> rfl
  | not p ih => exact Outcome.shrinks_negate _ _
  | and p q ihp ihq => exact Outcome.shrinks_and (ihp s) (ihq _)
  | or p q ihp ihq => exact forall_run_or (P := (·.shrinks = 0)) ihp ihq (fun _ _ => Outcome.shrinks_or) s
  | iff p q ihp ihq =>
    -- An equivalence is tested as a disjunction of two conjunctions.
    have hboth (t : Session σ) : ((p.and q).run trace false t).1.shrinks = 0 :=
      Outcome.shrinks_and (ihp t) (ihq _)
    have hneither (t : Session σ) : ((p.not.and q.not).run trace false t).1.shrinks = 0 :=
      Outcome.shrinks_and (Outcome.shrinks_negate _ _) (Outcome.shrinks_negate _ _)
    rw [run_iff_apply]
    exact (Outcome.shrinks_across _ _).trans
      (forall_run_or (P := (·.shrinks = 0)) hboth hneither (fun _ _ => Outcome.shrinks_or) s)
  | forAll var sampler body ih =>
    obtain ⟨p, m, t, n, hsettles, hrun⟩ := exists_settles_testBound trace var sampler
      (fun a m => (body a).run trace m) false s
    -- Without a search the variable stays at the sample, so the body was tested as it stands.
    obtain ⟨rfl, rfl⟩ := hsettles.eq_zero_of_not_minimize
    rw [run_forAll_apply, hrun, Outcome.shrinks_annotate, Outcome.addShrinks_ofNat_zero]
    exact ih _ t
  | guarded guard holds body ih =>
    rw [run_guarded_apply]
    cases holds with
    | false => rfl
    | true => exact (Outcome.shrinks_annotate _ _ _).trans (ih s)
  | unused var witness body ih =>
    exact (Outcome.shrinks_across _ _).trans ((Outcome.shrinks_annotate _ _ _).trans (ih _))
  | suchThat var sampler guard body ih =>
    obtain ⟨p, m, t, n, hsettles, hrun⟩ := exists_settles_testBound trace var sampler
      (subtypeBody trace guard body) false s
    obtain ⟨rfl, rfl⟩ := hsettles.eq_zero_of_not_minimize
    rw [run_suchThat_apply]
    refine (Outcome.shrinks_across _ _).trans ?_
    rw [hrun, Outcome.shrinks_annotate, Outcome.addShrinks_ofNat_zero]
    exact (Outcome.shrinks_annotate _ _ _).trans (ih _ t)
  | forAllTypes var family ih =>
    have hinstance (t : Ty) (name : String) (u : Session σ) :
        (((family t).run trace false u).1.instantiated var name).shrinks = 0 :=
      (Outcome.shrinks_annotate _ _ _).trans (ih t u)
    exact forall_run_forAllTypes (P := (·.shrinks = 0)) (hinstance _ _) (hinstance _ _)
      (fun _ _ => Outcome.shrinks_and) s
  | preparing change body ih => exact ih _

/-- No search begins, as each one writes of that first. -/
theorem keeps_searchLines_run_false (p : Statement σ) : Keeps Session.searchLines (p.run trace false) := by
  induction p with
  | atom a => exact .bind (fun _ => rfl) fun _ => .pure _
  | not p ih => exact .bind ih fun _ => .pure _
  | and p q ihp ihq => exact .bind ihp fun _ => .bind ihq fun _ => .pure _
  | or p q ihp ihq => exact .bind ihp fun _ => .ite (.pure _) (.bind ihq fun _ => .pure _)
  | iff p q ihp ihq =>
    refine .bind (.bind ihp fun _ => .bind ihq fun _ => .pure _) fun _ => .ite (.pure _) ?_
    exact .bind (.bind ihp fun _ => .bind ihq fun _ => .pure _) fun _ => .pure _
  | forAll var sampler body ih => exact keeps_searchLines_testBound trace var sampler ih
  | guarded guard holds body ih =>
    cases holds with
    | false => exact .bind (keeps_searchLines_emit _ _ rfl) fun _ => .pure _
    | true => exact .bind ih fun _ => .pure _
  | unused var witness body ih =>
    exact .bind (keeps_searchLines_emit _ _ rfl) fun _ => .bind ih fun _ => .pure _
  | suchThat var sampler guard body ih =>
    refine .bind (keeps_searchLines_testBound trace var sampler fun a => ?_) fun _ => .pure _
    exact .bind (ih a) fun _ => .pure _
  | forAllTypes var family ih =>
    exact .bind (ih .integer) fun _ => .ite (.pure _) (.bind (ih .string) fun _ => .pure _)
  | preparing change body ih => exact .bind (fun _ => rfl) fun _ => ih

variable {trace}

/-- A test without a search tests all parts without one. -/
theorem Tests.eq_false {p q : Statement σ} {k : Bool} {s t : Session σ} (h : p.Tests trace false s q k t) :
    k = false := by
  generalize hm : false = m at h
  induction h with
  | self => rfl
  | not _ ih | andLeft _ ih | andRight _ ih | orLeft _ ih | orRight _ _ ih | iff _ ih | guarded _ ih
  | unused _ ih | firstInstance _ ih | secondInstance _ _ ih | preparing _ ih => exact ih hm
  | forAll hvisit _ ih | suchThat hvisit _ ih =>
    -- Only a test with a search visits candidates, so the body is tested at the sample alone.
    subst hm
    cases hvisit
    exact ih rfl

end Statement

/-! ## Without a search -/

open Statement in
/-- **Nothing below a test without a search searches.**  Whatever takes the place of the candidates of its samplers,
    and with no rounds for a search at all, it ends in the same way, in the same session and after the same
    decisions.  That this is the test with other candidates is seen from the candidates of the statement itself:
    with these and enough rounds, every test is the one that it was.

    A failure has taken no steps, no part is tested with a search, and nothing is written of one.  As candidates
    are tested without a search, no search depends on the candidates of samplers that stand in its body either,
    whatever the quantifier makes of the outcomes of its body. -/
theorem unsearched_uses_no_candidates (p : Statement σ) (trace : TraceToggles) (s : Session σ) :
    (∀ (rounds : Nat) (c : p.Candidates),
      p.runWithin trace rounds c false s = some (p.run trace false s) ∧
      p.decisionsWithin trace rounds c false s = some (p.decisions trace false s)) ∧
    (∀ minimize, ∃ enough, ∀ rounds ≥ enough,
      p.runWithin trace rounds p.candidates minimize s = some (p.run trace minimize s)) ∧
    (p.run trace false s).1.shrinks = 0 ∧
    (∀ part k t, p.Tests trace false s part k t → k = false) ∧
    (p.run trace false s).2.searchLines = s.searchLines ∧
    ∀ {π α : Type} [Literal π] (var : String) (shrinks : π → List π) (interpret : π → α) (body : α → Statement σ)
      (c : ∀ a, (body a).Candidates) (report : α → Outcome → Outcome) (within rounds : Nat) (start : π) (r : Outcome),
        Search.searchWithin trace var shrinks interpret
            (fun a m => report a <$> (body a).runWithin trace within (c a) m) rounds start r =
          Search.searchWithin trace var shrinks interpret
            (fun a m => report a <$> total ((body a).run trace m)) rounds start r := by
  -- With the toggle off the candidates are not run at all; with it on, those of the statement itself are enough.
  refine ⟨fun rounds c => ⟨congrFun (p.runWithin_false trace rounds c) s, ?_⟩, fun minimize => ?_,
    p.shrinks_run_false trace s, fun part k t htests => htests.eq_false, p.keeps_searchLines_run_false trace s, ?_⟩
  · rw [decisionsWithin, runWithin_false]
    rfl
  · -- The candidates of the statement itself come to an end, so some number of rounds is enough.
    have hown : Answers Filter.atTop (fun rounds => p.runWithin trace rounds p.candidates minimize)
        (p.run trace minimize) := p.answers_run trace p.candidates (.inr ⟨le_rfl, rfl⟩)
    exact Filter.eventually_atTop.1 (hown s)
  · intro π α _ var shrinks interpret body c report within rounds start r
    refine Search.searchWithin_congr _ (fun a => ?_) rounds start r
    rw [runWithin_false]

/-- The number that stands for itself, offered in its own place over and over: a search for less than it has no
    answer however many rounds it is given, and without a search nothing of this is seen. -/
theorem unsearched_uses_no_candidates_endless :
    let p : Statement Unit := .forAllOf .natural "x" fun _ => .decided "0 = 1" false
    let endless : p.Candidates := (fun (n : UInt64) => [n], fun _ => ())
    ∀ rounds s, p.runWithin {} rounds endless true s = none ∧
      p.runWithin {} rounds endless false s = some (p.run {} false s) := by
  intro p endless rounds s
  obtain ⟨hrun, -⟩ := unsearched_uses_no_candidates p {} s
  refine ⟨?_, (hrun rounds endless).1⟩
  -- Each round moves on to the number that it has started from.
  have hfollow (left : Nat) (x : UInt64) (r : Outcome) (steps : UInt64) (t : Session Unit) :
      Search.followWithin {} "x" (fun n => [n]) (Sampler.natural (σ := Unit)).interpret
        (fun a m => (Statement.decided "0 = 1" false).runWithin {} rounds (endless.2 a) m) left x r steps t = none := by
    induction left generalizing x r steps t with
    | zero => rfl
    | succ left ih => exact ih x _ _ _
  exact congrArg (Option.bind · _) (hfollow rounds _ _ 0 _)

end Falsify
