import Falsify.Proofs.Search.Termination

/-!
# The search is greedy

A search tests the candidates of the proxy that it has come to, one after the other, moves on to the first one
that fails, and never comes back.  Said without sessions: the tests that it makes, with their outcomes, are a
list that is read off the candidates, and the proxies that it comes to are the failures on that list.  Said of
the body: these are all the times that it is run.

The same search can be written as a recursion that looks for something smaller below each failing candidate
and falls back on the candidate itself, with the number of steps handed down, and as a loop.

## Key results

- `Descent.exists_follows`: a descent follows the tests of a greedy search, from session to session.
- `Makes.log_eq`: a body that keeps a log of its runs has logged the tests that were made, and no others.
- `Descent.exists_greedy`: a descent makes the tests of a greedy search.
- `minimizeRecursive_eq`: the recursion and the search come to the same.
- `Descent.descendWithin_eq_ite`: so does the loop, once it has more rounds than the search takes steps.
- `minimize_greedy`: all of this for every search.
-/

namespace Falsify.Search

open Tester

variable {σ π α : Type}

/-! ## Tests -/

section

variable (interpret : π → α) (body : Body σ α)

/-- `Makes … s tests t`: from the session `s` on, the body is run at the listed candidates one after the other,
    each time without a search of its own and with the listed outcome, until the session is `t`.  Nothing else
    happens to the source; lines may be written to the trace in between. -/
inductive Makes : Session σ → List (π × Outcome) → Session σ → Prop
  | done {s t : Session σ} (h : s.toSource = t.toSource) : Makes s [] t
  | test {s u t : Session σ} {c : π} {tests : List (π × Outcome)} (h : s.toSource = u.toSource)
      (rest : Makes (body (interpret c) false u).2 tests t) :
      Makes s ((c, (body (interpret c) false u).1) :: tests) t

end

/-- `Greedy sampler p tests path`: a search that has come to the proxy `p` and makes the listed tests moves
    along the path.  In each round the tests are of the first candidates, in order, up to one that fails, and
    the path goes on there; in the last round they are of all candidates, and none of them fails. -/
inductive Greedy (sampler : Sampler σ π α) : π → List (π × Outcome) → List (π × Outcome) → Prop
  | minimal {p : π} {passed : List (π × Outcome)} (hall : passed.map Prod.fst = sampler.shrinks p)
      (hpassed : ∀ test ∈ passed, test.2.isFailure = false) : Greedy sampler p passed []
  | step {p c : π} {r : Outcome} {passed tests path : List (π × Outcome)}
      (hfirst : passed.map Prod.fst ++ [c] <+: sampler.shrinks p)
      (hpassed : ∀ test ∈ passed, test.2.isFailure = false) (hfails : r.isFailure = true)
      (rest : Greedy sampler c tests path) :
      Greedy sampler p (passed ++ (c, r) :: tests) ((c, r) :: path)

/-- `Follows … p s tests t`: a search that has come to the proxy `p`, and to the session `s` in the middle of a
    round there, makes the listed tests until it stops in the session `t`.  After a test that does not fail it
    goes on with the round, and after one that fails with a round of its own for the candidate. -/
inductive Follows [Literal π] (trace : TraceToggles) (var : String) (sampler : Sampler σ π α) (body : Body σ α) :
    π → Session σ → List (π × Outcome) → Session σ → Prop
  | stop {p : π} {s : Session σ} : Follows trace var sampler body p s [] (stopped trace var p s)
  | pass {p c : π} {s t : Session σ} {tests : List (π × Outcome)}
      (h : (tested trace var sampler.interpret body c s).1.isFailure = false)
      (rest : Follows trace var sampler body p (tested trace var sampler.interpret body c s).2 tests t) :
      Follows trace var sampler body p s ((c, (tested trace var sampler.interpret body c s).1) :: tests) t
  | move {p c : π} {s t : Session σ} {tests : List (π × Outcome)}
      (h : (tested trace var sampler.interpret body c s).1.isFailure = true)
      (rest : Follows trace var sampler body c
        (offered trace var sampler c (moved trace var p c (tested trace var sampler.interpret body c s).2)) tests t) :
      Follows trace var sampler body p s ((c, (tested trace var sampler.interpret body c s).1) :: tests) t

/-- A search moves on to failures only. -/
theorem Greedy.isFailure_of_mem {sampler : Sampler σ π α} {p : π} {tests path : List (π × Outcome)}
    (h : Greedy sampler p tests path) : ∀ step ∈ path, step.2.isFailure = true := by
  induction h with
  | minimal => exact nofun
  | step _ _ hfails _ ih => exact List.forall_mem_cons.2 ⟨hfails, ih⟩

section

variable {interpret : π → α} {body : Body σ α} {s s' t : Session σ} {tests : List (π × Outcome)}

/-- Only the source that the tests start from matters. -/
theorem Makes.of_toSource_eq (hs : s'.toSource = s.toSource) (h : Makes interpret body s tests t) :
    Makes interpret body s' tests t := by
  cases h with
  | done h => exact .done (hs.trans h)
  | test h rest => exact .test (hs.trans h) rest

/-- A body that keeps a log of its runs has logged the tests that were made, in order and once each. -/
theorem Makes.log_eq {log : Source σ → List (α × Bool × Outcome)}
    (hlog : ∀ a m s, log (body a m s).2.toSource = log s.toSource ++ [(a, m, (body a m s).1)])
    (h : Makes interpret body s tests t) :
    log t.toSource = log s.toSource ++ tests.map fun test => (interpret test.1, false, test.2) := by
  induction h with
  | done h => rw [h, List.map_nil, List.append_nil]
  | test h _ ih => rw [ih, hlog, h, List.map_cons, List.append_assoc, List.singleton_append]

end

variable [Literal π] {trace : TraceToggles} {var : String} {interpret : π → α} {body : Body σ α}

/-! ## Rounds -/

theorem toSource_announced (c : π) (s : Session σ) : (announced trace var c s).toSource = s.toSource :=
  toSource_emit _ _ _

variable {sampler : Sampler σ π α}

/-- A round that finds a candidate has tested those before it, which have passed, and then the candidate. -/
theorem FailsFirst.exists_follows {cs : List π} {s t : Session σ} {c : π}
    (h : FailsFirst trace var sampler.interpret body cs s c t) :
    ∃ passed : List (π × Outcome), passed.map Prod.fst ++ [c] <+: cs ∧
      (∀ test ∈ passed, test.2.isFailure = false) ∧
      ∀ p tests u, Follows trace var sampler body c
          (offered trace var sampler c (moved trace var p c (body (sampler.interpret c) false t).2)) tests u →
        Follows trace var sampler body p s
          (passed ++ (c, (body (sampler.interpret c) false t).1) :: tests) u := by
  induction h with
  | head hfail =>
    refine ⟨[], ?_, nofun, fun p tests u hrest => .move hfail hrest⟩
    exact List.prefix_cons_inj _ |>.2 List.nil_prefix
  | @tail c d cs s t hpass _ ih =>
    obtain ⟨passed, hfirst, hpassed, hfollows⟩ := ih
    -- A candidate that passes comes before what the rest of the round tests.
    refine ⟨(c, (tested trace var sampler.interpret body c s).1) :: passed, ?_, ?_, fun p tests u hrest => ?_⟩
    · exact List.prefix_cons_inj _ |>.2 hfirst
    · exact List.forall_mem_cons.2 ⟨hpass, hpassed⟩
    · exact .pass hpass (hfollows p tests u hrest)

/-- A round that finds no candidate has tested all of them, and all have passed. -/
theorem NoneFails.exists_follows {cs : List π} {s t : Session σ}
    (h : NoneFails trace var sampler.interpret body cs s t) :
    ∃ passed : List (π × Outcome), passed.map Prod.fst = cs ∧
      (∀ test ∈ passed, test.2.isFailure = false) ∧
      ∀ p, Follows trace var sampler body p s passed (stopped trace var p t) := by
  induction h with
  | nil => exact ⟨[], rfl, nofun, fun p => .stop⟩
  | @cons c cs s t hpass _ ih =>
    obtain ⟨passed, hall, hpassed, hfollows⟩ := ih
    refine ⟨(c, (tested trace var sampler.interpret body c s).1) :: passed, ?_, ?_, fun p => ?_⟩
    · rw [List.map_cons, hall]
    · exact List.forall_mem_cons.2 ⟨hpass, hpassed⟩
    · exact .pass hpass (hfollows p)

/-! ## Descents -/

/-- The proxies of a path with the outcomes of their tests. -/
def observed (sampler : Sampler σ π α) (body : Body σ α) (path : List (π × Session σ)) :
    List (π × Outcome) :=
  path.map fun step => (step.1, (body (sampler.interpret step.1) false step.2).1)

omit [Literal π] in
/-- A search ends at the last failure that it has observed, or at its start. -/
theorem ending_eq (p : π) (r : Outcome) (path : List (π × Session σ)) :
    ending sampler body p r path = (observed sampler body path).getLast?.getD (p, r) := by
  induction path generalizing p r with
  | nil => rfl
  | cons step path ih =>
    rw [ending, ih]
    unfold observed
    rw [List.map_cons, List.getLast?_cons, Option.getD_some]

/-- A descent follows the tests of a greedy search, in the session in which its start has offered its
    candidates. -/
theorem Descent.exists_follows {p : π} {s t : Session σ} {path : List (π × Session σ)}
    (h : Descent trace var sampler body p s path t) :
    ∃ tests, Greedy sampler p tests (observed sampler body path) ∧
      Follows trace var sampler body p (offered trace var sampler p s) tests t := by
  induction h with
  -- By the rounds of the descent: each contributes what has passed in it and the failure that it moves to.
  | @minimal p s t h =>
    obtain ⟨passed, hall, hpassed, hfollows⟩ := h.exists_follows
    exact ⟨passed, .minimal hall hpassed, hfollows p⟩
  | @step p c s t u path h _ ih =>
    obtain ⟨passed, hfirst, hpassed, hfollows⟩ := h.exists_follows
    obtain ⟨tests, hgreedy, hrest⟩ := ih
    exact ⟨_, .step hfirst hpassed h.isFailure hgreedy, hfollows p tests u hrest⟩

/-- To follow the tests is to make them, as the lines about them leave the source alone. -/
theorem Follows.makes {p : π} {s t : Session σ} {tests : List (π × Outcome)}
    (h : Follows trace var sampler body p s tests t) : Makes sampler.interpret body s tests t := by
  induction h with
  | stop => exact .done (toSource_emit _ _ _).symm
  | pass _ _ ih => exact .test (toSource_announced _ _).symm ih
  | @move p c s t tests _ _ ih =>
    -- Between two rounds only lines are written, and the next test does not see them.
    have hlines : (offered trace var sampler c
        (moved trace var p c (tested trace var sampler.interpret body c s).2)).toSource =
          (tested trace var sampler.interpret body c s).2.toSource := by
      rw [offered, toSource_emit, moved, toSource_emit]
    exact .test (toSource_announced _ _).symm (ih.of_toSource_eq hlines.symm)

/-- A descent makes the tests of a greedy search. -/
theorem Descent.exists_greedy {p : π} {s t : Session σ} {path : List (π × Session σ)}
    (h : Descent trace var sampler body p s path t) :
    ∃ tests, Greedy sampler p tests (observed sampler body path) ∧
      Makes sampler.interpret body s tests t := by
  obtain ⟨tests, hgreedy, hfollows⟩ := h.exists_follows
  exact ⟨tests, hgreedy, hfollows.makes.of_toSource_eq (toSource_emit _ _ _).symm⟩

/-! ## The recursion and the loop -/

/-- The search as a recursion: whatever fails below the first candidate that fails, or else that candidate
    with the number of steps that have led to it, or nothing if no candidate fails. -/
def recursive (trace : TraceToggles) (var : String) (sampler : Sampler σ π α) (body : Body σ α) (p : π)
    (depth : UInt64) (s : Session σ) : Option (π × Outcome) × Session σ :=
  match h : firstFailing trace var sampler.interpret body (sampler.shrinks p)
    (offered trace var sampler p s) with
  | (some (c, r), t) =>
    let below := recursive trace var sampler body c (depth + 1) (moved trace var p c t)
    (below.1.or (some (c, r.addShrinks (depth + 1))), below.2)
  | (none, t) => (none, stopped trace var p t)
termination_by sampler.wf.wrap p
decreasing_by exact (mem_of_firstFailing (congrArg Prod.fst h)).1

/-- The whole search as that recursion, which leaves its start alone if there is nothing below it. -/
def minimizeRecursive (trace : TraceToggles) (var : String) (sampler : Sampler σ π α) (body : Body σ α) (p : π)
    (r : Outcome) (s : Session σ) : (π × Outcome) × Session σ :=
  let below := recursive trace var sampler body p 0 (begun trace var p s)
  (below.1.getD (p, r), below.2)

/-- A step of the recursion: the round, and then the recursion from the candidate that it has found. -/
theorem recursive_eq (p : π) (depth : UInt64) (s : Session σ) :
    recursive trace var sampler body p depth s =
      match firstFailing trace var sampler.interpret body (sampler.shrinks p)
        (offered trace var sampler p s) with
      | (some (c, r), t) =>
        let below := recursive trace var sampler body c (depth + 1) (moved trace var p c t)
        (below.1.or (some (c, r.addShrinks (depth + 1))), below.2)
      | (none, t) => (none, stopped trace var p t) := by
  rw [recursive]
  split
  · rename_i h
    rw [h]
  · rename_i h
    rw [h]

/-- Where the recursion finds nothing, the search stays, and otherwise it ends where the recursion does. -/
theorem descend_eq_recursive (p : π) (r : Outcome) (depth : UInt64) (s : Session σ) :
    descend trace var sampler body p r depth s =
      let below := recursive trace var sampler body p depth s
      (below.1.getD (p, r.addShrinks depth), below.2) := by
  -- The two differ in when the steps are counted: here on the way down, there on the way back.
  induction sampler.wf.apply p generalizing r depth s with
  | intro p _ ih =>
    rw [descend_eq, recursive_eq]
    rcases firstFailing_cases trace var sampler.interpret body (sampler.shrinks p)
      (offered trace var sampler p s) with ⟨c, t, hc, heq⟩ | ⟨t, -, heq⟩
    · rw [heq]
      dsimp only
      rw [ih c hc.mem, Option.getD_or, Option.getD_some]
    · rw [heq]
      rfl

/-- The recursion comes to the result of the search. -/
theorem minimizeRecursive_eq (p : π) (r : Outcome) (s : Session σ) :
    minimizeRecursive trace var sampler body p r s = minimize trace var sampler body p r s := by
  have hdescend : descend trace var sampler body p r 0 (begun trace var p s) = _ :=
    descend_eq_recursive p r 0 (begun trace var p s)
  rw [Outcome.addShrinks_zero] at hdescend
  exact hdescend.symm

/-- A round that meets a failing candidate answers with it and with the outcome of its test. -/
theorem FailsFirst.firstFailing_eq {cs : List π} {s t : Session σ} {c : π}
    (h : FailsFirst trace var interpret body cs s c t) :
    firstFailing trace var interpret body cs s =
      (some (c, (body (interpret c) false t).1), (body (interpret c) false t).2) := by
  induction h with
  | head hfail =>
    rw [firstFailing_cons, if_pos hfail]
    rfl
  | tail hpass _ ih => rw [firstFailing_cons, if_neg (Bool.eq_false_iff.1 hpass), ih]

/-- A round that meets none answers with nothing. -/
theorem NoneFails.firstFailing_eq {cs : List π} {s t : Session σ}
    (h : NoneFails trace var interpret body cs s t) :
    firstFailing trace var interpret body cs s = (none, t) := by
  induction h with
  | nil => rfl
  | cons hpass _ ih => rw [firstFailing_cons, if_neg (Bool.eq_false_iff.1 hpass), ih]

/-- The loop comes to the result of the search if it has more rounds than the search takes steps, and otherwise
    to none. -/
theorem Descent.descendWithin_eq_ite {p : π} {s t : Session σ} {path : List (π × Session σ)}
    (h : Descent trace var sampler body p s path t) (rounds : Nat) (r : Outcome) (steps : UInt64) :
    descendWithin trace var sampler body rounds p r steps s =
      if path.length < rounds then some (descend trace var sampler body p r steps s) else none := by
  -- The rounds are used up one for each move, and the round that finds nothing needs one of its own.
  induction h generalizing rounds r steps with
  | minimal h =>
    cases rounds with
    | zero => rfl
    | succ rounds =>
      rw [descendWithin, descend_eq, h.firstFailing_eq, List.length_nil, if_pos (Nat.succ_pos rounds)]
  | @step p c s t u path h _ ih =>
    cases rounds with
    | zero => rfl
    | succ rounds =>
      rw [descendWithin, descend_eq, h.firstFailing_eq]
      dsimp only
      rw [ih, List.length_cons]
      simp only [Nat.add_lt_add_iff_right]

/-- **The search is greedy.**  It makes the tests of a greedy search, each in the session that the one before
    has left and without a search of its own, so a body that keeps a log of its runs has logged just these.  It
    ends at the last failure that it has moved on to, with the outcome of that very test and the number of its
    steps added to it, or at its start with the outcome seen there.  The sum is one of machine words, and that of
    the numbers where it fits into a word.  A search from a failure ends at one, and
    if failing depends on the value alone, no candidate of the proxy that it ends at fails.  The recursion with
    the number of steps handed down comes to the same, and so does a loop of enough rounds. -/
theorem minimize_greedy (trace : TraceToggles) (var : String) (sampler : Sampler σ π α) (body : Body σ α)
    (start : π) (r : Outcome) (s : Session σ) :
    let found := minimize trace var sampler body start r s
    ∃ tests path,
      Greedy sampler start tests path ∧
      Makes sampler.interpret body s tests found.2 ∧
      (path = [] → found.1 = (start, r)) ∧
      (∀ p observed, path.getLast? = some (p, observed) →
        found.1 = (p, observed.addShrinks (.ofNat path.length)) ∧
        (observed.shrinks.toNat + path.length < UInt64.size →
          found.1.2.shrinks.toNat = observed.shrinks.toNat + path.length)) ∧
      (∀ log : Source σ → List (α × Bool × Outcome),
        (∀ a m t, log (body a m t).2.toSource = log t.toSource ++ [(a, m, (body a m t).1)]) →
        log found.2.toSource =
          log s.toSource ++ tests.map fun test => (sampler.interpret test.1, false, test.2)) ∧
      (r.isFailure = true → found.1.2.isFailure = true) ∧
      (∀ fails : α → Bool, (∀ a t, (body a false t).1.isFailure = fails a) →
        ∀ c ∈ sampler.shrinks found.1.1, fails (sampler.interpret c) = false) ∧
      minimizeRecursive trace var sampler body start r s = found ∧
      ∀ rounds, minimizeWithin trace var sampler body rounds start r s =
        if path.length < rounds then some found else none := by
  intro found
  obtain ⟨path, t, hpath, hrun⟩ := exists_descent_minimize trace var sampler body start r s
  obtain ⟨tests, hgreedy, hmakes⟩ := hpath.exists_greedy
  have hfound : found = (((ending sampler body start r path).1,
      (ending sampler body start r path).2.addShrinks (.ofNat path.length)), t) := hrun
  have hlength : (observed sampler body path).length = path.length := List.length_map _
  -- The lines at the start of a search leave the source alone.
  have hbegun : s.toSource = (begun trace var start s).toSource := by
    rw [begun, toSource_emit, toSource_emit]
  have hmakes : Makes sampler.interpret body s tests found.2 := by
    rw [hfound]
    exact hmakes.of_toSource_eq hbegun
  refine ⟨tests, observed sampler body path, hgreedy, hmakes, fun hnil => ?_, fun p seen hlast => ?_,
    fun log hlog => hmakes.log_eq hlog, fun hr => ?_, fun fails hbody c hc => ?_,
    minimizeRecursive_eq start r s, fun rounds => ?_⟩
  · rw [observed, List.map_eq_nil_iff] at hnil
    rw [hfound, hnil, List.length_nil, Outcome.addShrinks_ofNat_zero]
    rfl
  · have hend : found.1 = (p, seen.addShrinks (.ofNat (observed sampler body path).length)) := by
      rw [hfound, ending_eq, hlast, hlength]
      rfl
    refine ⟨hend, fun hfits => ?_⟩
    rw [hend]
    exact Outcome.toNat_shrinks_addShrinks (hgreedy.isFailure_of_mem _ (List.mem_of_getLast? hlast)) hfits
  · rw [hfound, Outcome.isFailure_addShrinks]
    exact hpath.isFailure_ending hr
  · obtain ⟨u, v, hnone⟩ := hpath.exists_noneFails r
    rw [hfound] at hc
    exact hnone.isFailure_eq_false hbody hc
  · rw [hlength]
    exact hpath.descendWithin_eq_ite rounds r 0

/-- A body that logs its runs and fails from five on.  The search from eight leaves a log of the tests of a
    greedy search, and ends at a number with no candidate that is five or more. -/
theorem minimize_greedy_from_eight :
    let body : Body (List (UInt64 × Bool × Outcome)) UInt64 := fun x m s =>
      let r : Outcome := if 5 ≤ x then .refuted (.ofFact "5 ≤ x") "fails" else .passed
      (r, { s with world := s.world ++ [(x, m, r)] })
    ∀ r s, s.world = [] →
      let found := minimize {} "x" Sampler.natural body 8 r s
      ∃ tests path, Greedy (Sampler.natural (σ := List (UInt64 × Bool × Outcome))) 8 tests path ∧
        found.2.world = tests.map (fun test => (test.1, false, test.2)) ∧
        ∀ c ∈ Candidate.natural found.1.1, decide (5 ≤ c) = false := by
  intro body r s hworld found
  obtain ⟨tests, path, hgreedy, -, -, -, hlog, -, hminimal, -⟩ :=
    minimize_greedy {} "x" Sampler.natural body 8 r s
  have hlogged := hlog (fun s => s.world) fun _ _ _ => rfl
  rw [hworld, List.nil_append] at hlogged
  refine ⟨tests, path, hgreedy, hlogged, hminimal (fun x => 5 ≤ x) fun x t => ?_⟩
  show Outcome.isFailure (if 5 ≤ x then _ else _) = decide (5 ≤ x)
  split
  · rename_i hx
    exact (decide_eq_true hx).symm
  · rename_i hx
    exact (decide_eq_false hx).symm

end Falsify.Search
