import Falsify.Proofs.Testing.Decisions

/-!
# Conjunctions and disjunctions in any brackets

A conjunction tests both of its parts, and a disjunction leaves out its second part when the first one holds.
Both ways of putting two tests together are associative: not only do the outcomes combine in the same way, the
same tests are also made one after the other.  So a tree of conjunctions or of disjunctions is tested as the
list of its leaves says, whatever brackets stand around them.

## Key results

- `Bracketing.fold_eq_of_leaves_eq`: an associative operation over a tree depends on the leaves alone.
- `Statement.conjoins_run`, `Statement.disjoins_run`: the outcome of a tree, by the outcomes of its leaves.
- `rebracketing_irrelevant`: brackets around conjunctions and disjunctions do not matter.
-/

namespace Falsify

open Tester

universe u v

/-! ## Brackets -/

/-- A way to put brackets around the elements of a list that has at least one. -/
inductive Bracketing (α : Type u) : Type u where
  | leaf (a : α)
  | node (l r : Bracketing α)

namespace Bracketing

variable {α : Type u} {β : Type v}

/-- The elements of the list. -/
def leaves : Bracketing α → List α
  | leaf a => [a]
  | node l r => l.leaves ++ r.leaves

/-- Puts the leaves together as the brackets say. -/
def fold (op : α → α → α) : Bracketing α → α
  | leaf a => a
  | node l r => op (l.fold op) (r.fold op)

/-- Changes each leaf. -/
def map (f : α → β) : Bracketing α → Bracketing β
  | leaf a => leaf (f a)
  | node l r => node (l.map f) (r.map f)

theorem leaves_map (f : α → β) (t : Bracketing α) : (t.map f).leaves = t.leaves.map f := by
  induction t with
  | leaf a => rfl
  | node l r ihl ihr => rw [map, leaves, leaves, ihl, ihr, List.map_append]

/-- A function that turns one operation into another turns one way of folding into the other. -/
theorem fold_map {f : α → β} {op : α → α → α} {op' : β → β → β} (h : ∀ a b, f (op a b) = op' (f a) (f b))
    (t : Bracketing α) : f (t.fold op) = (t.map f).fold op' := by
  induction t with
  | leaf a => rfl
  | node l r ihl ihr => rw [fold, h, ihl, ihr, map, fold]

/-- With an associative operation, the brackets may all be moved to the left. -/
theorem exists_fold_eq_foldl (op : α → α → α) [Std.Associative op] (t : Bracketing α) :
    ∃ a as, t.leaves = a :: as ∧ t.fold op = as.foldl op a := by
  induction t with
  | leaf a => exact ⟨a, [], rfl, rfl⟩
  | node l r ihl ihr =>
    obtain ⟨a, as, hl, hfoldl⟩ := ihl
    obtain ⟨b, bs, hr, hfoldr⟩ := ihr
    refine ⟨a, as ++ b :: bs, by rw [leaves, hl, hr, List.cons_append], ?_⟩
    -- Both branches are folded from the left, and associativity joins the second to the first.
    rw [fold, hfoldl, hfoldr, List.foldl_append, List.foldl_cons, List.foldl_assoc]

/-- Under an associative operation, only the leaves and their order matter. -/
theorem fold_eq_of_leaves_eq (op : α → α → α) [Std.Associative op] {t u : Bracketing α}
    (h : t.leaves = u.leaves) : t.fold op = u.fold op := by
  obtain ⟨a, as, ht, hfoldt⟩ := t.exists_fold_eq_foldl op
  obtain ⟨b, bs, hu, hfoldu⟩ := u.exists_fold_eq_foldl op
  obtain ⟨rfl, rfl⟩ := List.cons.inj ((ht.symm.trans h).trans hu)
  rw [hfoldt, hfoldu]

end Bracketing

/-! ## Outcomes -/

namespace Outcome

/-- `Conjoins rs r`: the outcomes `rs` of the parts of a conjunction make up its outcome `r`. -/
inductive Conjoins : List Outcome → Outcome → Prop
  /-- The first part that fails decides, whatever comes after it. -/
  | fails {before after : List Outcome} {r : Outcome} (hbefore : ∀ x ∈ before, x.isFailure = false)
      (hr : r.isFailure = true) : Conjoins (before ++ r :: after) r
  /-- None fails, and some part gives up. -/
  | givesUp {rs : List Outcome} (h : ∀ x ∈ rs, x.isFailure = false) (hmem : gaveUp ∈ rs) : Conjoins rs gaveUp
  /-- All hold: their labels are put together, and there is evidence if all have it. -/
  | holds {held : List (Option Certificate × List String)} {e : Option Certificate}
      (he : e.isSome = held.all (·.1.isSome)) :
      Conjoins (held.map fun h => success h.1 h.2) (success e (held.flatMap (·.2)))

/-- The number of steps that all of the searches took. -/
def totalShrinks : List Outcome → UInt64
  | [] => 0
  | r :: rs => r.shrinks + totalShrinks rs

theorem totalShrinks_append (rs ss : List Outcome) :
    totalShrinks (rs ++ ss) = totalShrinks rs + totalShrinks ss := by
  induction rs with
  | nil => exact (UInt64.zero_add _).symm
  | cons r rs ih => rw [List.cons_append, totalShrinks, totalShrinks, ih, UInt64.add_assoc]

/-- `Disjoins rs r`: the outcomes `rs` of the parts of a disjunction up to the first that holds make up its
    outcome `r`. -/
inductive Disjoins : List Outcome → Outcome → Prop
  /-- The first part that holds decides, and is the last one. -/
  | holds {before : List Outcome} {r : Outcome} (hbefore : ∀ x ∈ before, x.isSuccess = false)
      (hr : r.isSuccess = true) : Disjoins (before ++ [r]) r
  /-- None holds, and some part gives up. -/
  | givesUp {rs : List Outcome} (h : ∀ x ∈ rs, x.isSuccess = false) (hmem : gaveUp ∈ rs) : Disjoins rs gaveUp
  /-- All fail: their refutations and labels are put together, and their search steps add up. -/
  | fails {failed : List (Certificate × List String × UInt64)} :
      Disjoins (failed.map fun f => failure f.1 f.2.1 f.2.2)
        (failure ⟨failed.flatMap (·.1.steps)⟩ (failed.flatMap (·.2.1))
          (totalShrinks (failed.map fun f => failure f.1 f.2.1 f.2.2)))

/-- A conjunction whose first part fails is that failure. -/
theorem and_of_isFailure {r : Outcome} (hr : r.isFailure = true) (s : Outcome) : r.and s = r := by
  cases r with
  | failure => rfl
  | success | gaveUp => cases hr

/-- One whose second part fails after the first did not is that failure. -/
theorem and_of_isFailure_right {r s : Outcome} (hr : r.isFailure = false) (hs : s.isFailure = true) :
    r.and s = s := by
  cases s with
  | failure =>
    cases r with
    | failure => cases hr
    | success | gaveUp => rfl
  | success | gaveUp => cases hs

/-- A disjunction whose second part holds after the first did not is that success. -/
theorem or_of_isSuccess_right {r s : Outcome} (hr : r.isSuccess = false) (hs : s.isSuccess = true) :
    r.or s = s := by
  cases s with
  | success =>
    cases r with
    | success => cases hr
    | failure | gaveUp => rfl
  | failure | gaveUp => cases hs

/-- A conjunction gives up where one part does and the other does not fail. -/
theorem and_gaveUp {r : Outcome} (hr : r.isFailure = false) : r.and gaveUp = gaveUp := by
  cases r with
  | failure => cases hr
  | success | gaveUp => rfl

/-- A disjunction gives up where one part does and the other does not hold. -/
theorem or_gaveUp {r : Outcome} (hr : r.isSuccess = false) : r.or gaveUp = gaveUp := by
  cases r with
  | success => cases hr
  | failure | gaveUp => rfl

theorem isSuccess_or (r s : Outcome) : (r.or s).isSuccess = (r.isSuccess || s.isSuccess) := by
  cases r <;> cases s <;> rfl

theorem forall_isFailure_held (held : List (Option Certificate × List String)) :
    ∀ x ∈ held.map (fun h => success h.1 h.2), x.isFailure = false := by
  intro x hx
  obtain ⟨_, -, rfl⟩ := List.mem_map.1 hx
  rfl

theorem forall_isSuccess_failed (failed : List (Certificate × List String × UInt64)) :
    ∀ x ∈ failed.map (fun f => failure f.1 f.2.1 f.2.2), x.isSuccess = false := by
  intro x hx
  obtain ⟨_, -, rfl⟩ := List.mem_map.1 hx
  rfl

namespace Conjoins

theorem singleton (r : Outcome) : Conjoins [r] r := by
  cases r with
  | failure c l n => exact .fails (List.forall_mem_nil _) rfl
  | gaveUp => exact .givesUp (List.forall_mem_singleton.2 rfl) List.mem_cons_self
  | success e l =>
    have hholds : Conjoins ([(e, l)].map fun h => success h.1 h.2) (success e ([(e, l)].flatMap (·.2))) :=
      .holds (by rw [List.all_cons, List.all_nil, Bool.and_true])
    rwa [List.flatMap_singleton] at hholds

/-- If no part of the first conjunction fails, neither does it. -/
theorem isFailure_eq_false {rs : List Outcome} {r : Outcome} (h : Conjoins rs r)
    (hpass : ∀ x ∈ rs, x.isFailure = false) : r.isFailure = false := by
  cases h with
  | fails _ hr => exact hpass r (List.mem_append_right _ List.mem_cons_self)
  | givesUp | holds => rfl

/-- The outcomes of two conjunctions make up that of the conjunction of both. -/
protected theorem and {rs ss : List Outcome} {r s : Outcome} (h : Conjoins rs r) (h' : Conjoins ss s) :
    Conjoins (rs ++ ss) (r.and s) := by
  -- A failure among the first outcomes decides; otherwise the outcome rests on the second conjunction as well.
  by_cases hpass : ∀ x ∈ rs, x.isFailure = false
  · have hr := h.isFailure_eq_false hpass
    cases h' with
    | @fails before after s hbefore hs =>
      rw [and_of_isFailure_right hr hs, ← List.append_assoc]
      exact .fails (List.forall_mem_append.2 ⟨hpass, hbefore⟩) hs
    | givesUp hss hmem =>
      rw [and_gaveUp hr]
      exact .givesUp (List.forall_mem_append.2 ⟨hpass, hss⟩) (List.mem_append_right _ hmem)
    | @holds held' e' he' =>
      cases h with
      | fails _ hr' => exact absurd hr' (by rw [hr]; exact Bool.false_ne_true)
      | givesUp _ hmem =>
        exact .givesUp (List.forall_mem_append.2 ⟨hpass, forall_isFailure_held held'⟩)
          (List.mem_append_left _ hmem)
      | @holds held e he =>
        rw [← List.map_append]
        have hevidence : (combine (e.map Certificate.conjoin) e').isSome = (held ++ held').all (·.1.isSome) := by
          rw [isSome_combine, Option.isSome_map, he, he', List.all_append]
        have hholds := Conjoins.holds hevidence
        rwa [List.flatMap_append] at hholds
  · cases h with
    | @fails before after r hbefore hr =>
      rw [and_of_isFailure hr, List.append_assoc, List.cons_append]
      exact .fails hbefore hr
    | givesUp h => exact absurd h hpass
    | @holds held => exact absurd (forall_isFailure_held held) hpass

end Conjoins

namespace Disjoins

theorem singleton (r : Outcome) : Disjoins [r] r := by
  cases r with
  | success e l => exact .holds (List.forall_mem_nil _) rfl
  | gaveUp => exact .givesUp (List.forall_mem_singleton.2 rfl) List.mem_cons_self
  | failure c l n =>
    have hfails := @Disjoins.fails [(c, l, n)]
    -- A failure alone is a list of failures of which nothing is joined.
    have htotal : totalShrinks [failure c l n] = n := UInt64.add_zero n
    rw [List.flatMap_singleton, List.flatMap_singleton] at hfails
    rwa [List.map_singleton, htotal] at hfails

/-- A disjunction that does not hold has no part that does. -/
theorem forall_isSuccess_eq_false {rs : List Outcome} {r : Outcome} (h : Disjoins rs r)
    (hr : r.isSuccess = false) : ∀ x ∈ rs, x.isSuccess = false := by
  cases h with
  | holds _ hr' => exact absurd hr' (by rw [hr]; exact Bool.false_ne_true)
  | givesUp h => exact h
  | @fails failed => exact forall_isSuccess_failed failed

/-- A part holds just if the disjunction does. -/
theorem any_isSuccess {rs : List Outcome} {r : Outcome} (h : Disjoins rs r) :
    rs.any (·.isSuccess) = r.isSuccess := by
  cases hr : r.isSuccess with
  | false => simpa using h.forall_isSuccess_eq_false hr
  | true =>
    cases h with
    | holds => simp [hr]
    | givesUp | fails => cases hr

/-- The outcomes of two disjunctions, the first of which does not hold, make up that of the disjunction of
    both. -/
protected theorem or {rs ss : List Outcome} {r s : Outcome} (h : Disjoins rs r) (hr : r.isSuccess = false)
    (h' : Disjoins ss s) : Disjoins (rs ++ ss) (r.or s) := by
  have hrs := h.forall_isSuccess_eq_false hr
  -- None of the first outcomes holds, so the last part that is tested is one of the second disjunction.
  cases h' with
  | holds hbefore hs =>
    rw [or_of_isSuccess_right hr hs, ← List.append_assoc]
    exact .holds (List.forall_mem_append.2 ⟨hrs, hbefore⟩) hs
  | givesUp hss hmem =>
    rw [or_gaveUp hr]
    exact .givesUp (List.forall_mem_append.2 ⟨hrs, hss⟩) (List.mem_append_right _ hmem)
  | @fails failed' =>
    cases h with
    | holds _ hr' => exact absurd hr' (by rw [hr]; exact Bool.false_ne_true)
    | givesUp _ hmem =>
      exact .givesUp (List.forall_mem_append.2 ⟨hrs, forall_isSuccess_failed failed'⟩)
        (List.mem_append_left _ hmem)
    | @fails failed =>
      rw [← List.map_append]
      have hfails := @Disjoins.fails (failed ++ failed')
      simp only [List.flatMap_append, List.map_append, totalShrinks_append] at hfails ⊢
      exact hfails

end Disjoins

end Outcome

/-! ## Tests -/

namespace Tester

variable {σ : Type}

/-- The test of a conjunction, by those of its parts. -/
def both (f g : Tester σ Outcome) : Tester σ Outcome := do
  let l ← f
  let r ← g
  return l.and r

/-- The test of a disjunction, by those of its parts. -/
def either (f g : Tester σ Outcome) : Tester σ Outcome := do
  let l ← f
  if l.isSuccess then return l
  let r ← g
  return l.or r

/-- The second of two steps is left out if the first one ends in a success. -/
theorem either_apply (f g : Tester σ Outcome) (s : Session σ) :
    either f g s = if (f s).1.isSuccess then f s else ((f s).1.or (g (f s).2).1, (g (f s).2).2) := by
  have hrun : either f g s =
      (if (f s).1.isSuccess = true then pure (f s).1 else (f s).1.or <$> g) (f s).2 := rfl
  rw [hrun]
  cases (f s).1.isSuccess <;> rfl

instance : Std.Associative (both (σ := σ)) where
  assoc _ _ _ := funext fun _ => congrArg (·, _) (Outcome.and_assoc _ _ _)

instance : Std.Associative (either (σ := σ)) where
  assoc f g h := by
    funext s
    rw [either_apply, either_apply f g, either_apply f, either_apply g]
    -- Brackets do not matter for which of the three tests is the last one to be made.
    cases hf : (f s).1.isSuccess with
    | true => simp [hf]
    | false =>
      cases hg : (g (f s).2).1.isSuccess with
      | true => simp [hf, hg, Outcome.isSuccess_or]
      | false => simp [hf, hg, Outcome.isSuccess_or, Outcome.or_assoc]

end Tester

namespace Statement

variable {σ : Type}

/-- The conjunction of the leaves, in brackets. -/
def conjunction (t : Bracketing (Statement σ)) : Statement σ := t.fold and

/-- The disjunction of the leaves, in brackets. -/
def disjunction (t : Bracketing (Statement σ)) : Statement σ := t.fold or

section

variable (trace : TraceToggles) (minimize : Bool)

/-- Tests the statements of a list in order. -/
def testAll (ps : List (Statement σ)) : Tester σ (List Outcome) := ps.mapM (·.run trace minimize)

/-- Tests the statements of a list in order, up to the first that holds. -/
def testUntilSuccess : List (Statement σ) → Tester σ (List Outcome)
  | [] => pure []
  | p :: ps => do
    let r ← p.run trace minimize
    if r.isSuccess then return [r]
    let rs ← testUntilSuccess ps
    return r :: rs

/-- The tests of two lists, all of which are made, one list after the other. -/
theorem testAll_append (ps qs : List (Statement σ)) (s : Session σ) :
    testAll trace minimize (ps ++ qs) s =
      let l := testAll trace minimize ps s
      let r := testAll trace minimize qs l.2
      (l.1 ++ r.1, r.2) := by
  unfold testAll
  rw [List.mapM_append]
  rfl

/-- The tests of a list up to the first success: the first one, and the others unless it is a success. -/
theorem testUntilSuccess_cons (p : Statement σ) (ps : List (Statement σ)) (s : Session σ) :
    testUntilSuccess trace minimize (p :: ps) s =
      let r := p.run trace minimize s
      let rs := testUntilSuccess trace minimize ps r.2
      if r.1.isSuccess then ([r.1], r.2) else (r.1 :: rs.1, rs.2) := by
  have hrun : testUntilSuccess trace minimize (p :: ps) s =
      (if (p.run trace minimize s).1.isSuccess = true then pure [(p.run trace minimize s).1]
        else ((p.run trace minimize s).1 :: ·) <$> testUntilSuccess trace minimize ps)
        (p.run trace minimize s).2 := rfl
  rw [hrun]
  dsimp only
  cases (p.run trace minimize s).1.isSuccess <;> rfl

/-- The second list is left out if a statement of the first one holds. -/
theorem testUntilSuccess_append (ps qs : List (Statement σ)) (s : Session σ) :
    testUntilSuccess trace minimize (ps ++ qs) s =
      let l := testUntilSuccess trace minimize ps s
      let r := testUntilSuccess trace minimize qs l.2
      if l.1.any (·.isSuccess) then l else (l.1 ++ r.1, r.2) := by
  -- If the first statement holds nothing else is tested on either side.
  induction ps generalizing s with
  | nil => rfl
  | cons p ps ih =>
    rw [List.cons_append, testUntilSuccess_cons, testUntilSuccess_cons]
    dsimp only
    cases hp : (p.run trace minimize s).1.isSuccess with
    | true => simp [hp]
    | false =>
      rw [if_neg Bool.false_ne_true, if_neg Bool.false_ne_true, ih, List.any_cons, hp, Bool.false_or]
      dsimp only
      split <;> rfl

variable (t u : Bracketing (Statement σ))

/-- A bracketed conjunction is tested by folding the tests of its leaves. -/
theorem run_conjunction :
    (conjunction t).run trace minimize = (t.map (·.run trace minimize)).fold both :=
  t.fold_map (f := (·.run trace minimize)) fun _ _ => rfl

/-- A bracketed disjunction is tested by folding the tests of its leaves. -/
theorem run_disjunction :
    (disjunction t).run trace minimize = (t.map (·.run trace minimize)).fold either :=
  t.fold_map (f := (·.run trace minimize)) fun _ _ => rfl

theorem recorded_conjunction : (conjunction t).recorded = conjunction (t.map recorded) :=
  t.fold_map fun _ _ => rfl

theorem recorded_disjunction : (disjunction t).recorded = disjunction (t.map recorded) :=
  t.fold_map fun _ _ => rfl

variable {t u} in
/-- Conjunctions of the same leaves are tested alike. -/
theorem run_conjunction_congr (h : t.leaves = u.leaves) :
    (conjunction t).run trace minimize = (conjunction u).run trace minimize := by
  rw [run_conjunction, run_conjunction]
  exact Bracketing.fold_eq_of_leaves_eq both (by rw [Bracketing.leaves_map, Bracketing.leaves_map, h])

variable {t u} in
/-- Disjunctions of the same leaves are tested alike. -/
theorem run_disjunction_congr (h : t.leaves = u.leaves) :
    (disjunction t).run trace minimize = (disjunction u).run trace minimize := by
  rw [run_disjunction, run_disjunction]
  exact Bracketing.fold_eq_of_leaves_eq either (by rw [Bracketing.leaves_map, Bracketing.leaves_map, h])

/-- A conjunction tests its leaves in order, and their outcomes make up its own. -/
theorem conjoins_run (s : Session σ) :
    let tested := testAll trace minimize t.leaves s
    let run := (conjunction t).run trace minimize s
    Outcome.Conjoins tested.1 run.1 ∧ run.2 = tested.2 := by
  induction t generalizing s with
  | leaf p => exact ⟨.singleton _, rfl⟩
  | node l r ihl ihr =>
    obtain ⟨hl, hls⟩ := ihl s
    obtain ⟨hr, hrs⟩ := ihr (testAll trace minimize l.leaves s).2
    -- The right branch starts in the session that the leaves of the left one lead to.
    rw [conjunction, Bracketing.fold, ← conjunction, ← conjunction, run_and_apply, Bracketing.leaves,
      testAll_append]
    dsimp only
    rw [hls]
    exact ⟨hl.and hr, hrs⟩

/-- A disjunction tests its leaves in order up to the first that holds, and their outcomes make up its own. -/
theorem disjoins_run (s : Session σ) :
    let tested := testUntilSuccess trace minimize t.leaves s
    let run := (disjunction t).run trace minimize s
    Outcome.Disjoins tested.1 run.1 ∧ run.2 = tested.2 := by
  induction t generalizing s with
  | leaf p =>
    show Outcome.Disjoins (testUntilSuccess trace minimize [p] s).1 _ ∧ _ = (testUntilSuccess trace minimize [p] s).2
    rw [testUntilSuccess_cons]
    dsimp only
    split <;> exact ⟨.singleton _, rfl⟩
  | node l r ihl ihr =>
    obtain ⟨hl, hls⟩ := ihl s
    obtain ⟨hr, hrs⟩ := ihr (testUntilSuccess trace minimize l.leaves s).2
    rw [disjunction, Bracketing.fold, ← disjunction, ← disjunction, run_or_apply, Bracketing.leaves,
      testUntilSuccess_append]
    dsimp only
    -- The right branch is reached only if none of the leaves on the left has succeeded.
    rw [hl.any_isSuccess, hls]
    split
    · exact ⟨hl, hls⟩
    · rename_i hpass
      exact ⟨hl.or (Bool.eq_false_iff.2 hpass) hr, hrs⟩

end

end Statement

open Statement in
/-- **Brackets do not matter.**  Two conjunctions of the same leaves in the same order are the same test: they end
    in the same way, in the same session and after the same decisions; so are two disjunctions.

    A conjunction tests all of its leaves.  It ends as the first one that fails does; if none fails it gives up
    just if one does, and otherwise it holds, with evidence if they all have it.  A disjunction tests its leaves
    up to the first one that holds, and ends as that one does; if none holds it gives up just if one does, and
    otherwise it fails. -/
theorem rebracketing_irrelevant {σ : Type} {t u : Bracketing (Statement σ)} (h : t.leaves = u.leaves)
    (trace : TraceToggles) (minimize : Bool) (s : Session σ) :
    ((conjunction t).run trace minimize s = (conjunction u).run trace minimize s ∧
      (conjunction t).decisions trace minimize s = (conjunction u).decisions trace minimize s) ∧
    ((disjunction t).run trace minimize s = (disjunction u).run trace minimize s ∧
      (disjunction t).decisions trace minimize s = (disjunction u).decisions trace minimize s) ∧
    (let tested := testAll trace minimize t.leaves s
      let run := (conjunction t).run trace minimize s
      Outcome.Conjoins tested.1 run.1 ∧ run.2 = tested.2) ∧
    (let tested := testUntilSuccess trace minimize t.leaves s
      let run := (disjunction t).run trace minimize s
      Outcome.Disjoins tested.1 run.1 ∧ run.2 = tested.2) := by
  -- The decisions are those of the statements that keep a record, which are bracketed alike.
  have hrecorded : (t.map recorded).leaves = (u.map recorded).leaves := by
    rw [Bracketing.leaves_map, Bracketing.leaves_map, h]
  refine ⟨⟨?_, ?_⟩, ⟨?_, ?_⟩, conjoins_run trace minimize t s, disjoins_run trace minimize t s⟩
  · rw [run_conjunction_congr trace minimize h]
  · rw [decisions, decisions, recorded_conjunction, recorded_conjunction,
      run_conjunction_congr trace minimize hrecorded]
  · rw [run_disjunction_congr trace minimize h]
  · rw [decisions, decisions, recorded_disjunction, recorded_disjunction,
      run_disjunction_congr trace minimize hrecorded]

open Statement in
/-- `((∀ x, x < 3) ∨ q) ∨ r` and `(∀ x, x < 3) ∨ (q ∨ r)`, where `q` is about a guard that does not hold and `r`
    about a switch that is turned by each look at it. -/
theorem rebracketing_irrelevant_three :
    let p : Statement Bool := .forAll "x" .natural fun x => .decided "x < 3" (x < 3)
    let q : Statement Bool := .guarded "1 < 0" false (.decided "2 < 1" false)
    let r : Statement Bool := .atom ⟨"on", fun switch => (switch, !switch)⟩
    let left : Bracketing (Statement Bool) := .node (.node (.leaf p) (.leaf q)) (.leaf r)
    let right : Bracketing (Statement Bool) := .node (.leaf p) (.node (.leaf q) (.leaf r))
    left.leaves = right.leaves ∧ disjunction left = (p.or q).or r ∧ disjunction right = p.or (q.or r) ∧
      ∀ trace minimize s, ((p.or q).or r).run trace minimize s = (p.or (q.or r)).run trace minimize s ∧
        ((p.or q).or r).decisions trace minimize s = (p.or (q.or r)).decisions trace minimize s := by
  intro p q r left right
  have hleaves : left.leaves = right.leaves := rfl
  refine ⟨hleaves, rfl, rfl, fun trace minimize s => ?_⟩
  exact (rebracketing_irrelevant hleaves trace minimize s).2.1

end Falsify
