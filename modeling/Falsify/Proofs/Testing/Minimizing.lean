import Falsify.Proofs.Testing.Frame
import Falsify.Proofs.Testing.Soundness

/-!
# Searching changes no verdict

A test that searches for smaller samples and one that does not are kept in step.  Their outcomes differ in
labels, steps and refutations, and the atoms that only the search decides may change the world, so of the two
runs no more is said than that their outcomes are of one kind, with or without evidence, and that their
generators are the same.  This much is enough for every connective, as none of them looks further.

The bodies of quantifiers must not draw themselves: then a search, however many tests it makes, leaves the
generator where the one test of the sample has left it.

## Key results

- `Outcome.Alike`: outcomes of one kind, both or neither with evidence; kept by all that outcomes go through.
- `agrees_testBound`: a bound variable, with and without a search.
- `Statement.agrees_run`: a statement whose bodies draw nothing, whichever way it is tested.
- `minimization_keeps_verdict`: the two tests side by side.
-/

namespace Falsify

open Tester

variable {σ π α : Type}

/-! ## Outcomes -/

namespace Outcome

/-- The two outcomes are of one kind, and both or neither carry evidence. -/
inductive Alike : Outcome → Outcome → Prop
  | success {e e' : Option Certificate} (l l' : List String) (h : e.isSome = e'.isSome) :
      Alike (success e l) (success e' l')
  | gaveUp : Alike gaveUp gaveUp
  | failure (c c' : Certificate) (l l' : List String) (n n' : UInt64) :
      Alike (failure c l n) (failure c' l' n')

namespace Alike

variable {r r' s s' : Outcome}

theorem refl (r : Outcome) : r.Alike r := by
  cases r with
  | success e l => exact .success l l rfl
  | gaveUp => exact .gaveUp
  | failure c l n => exact .failure c c l l n n

theorem status_eq (h : r.Alike r') : r.status = r'.status := by
  cases h <;> rfl

theorem isSome_evidence_eq (h : r.Alike r') : r.evidence?.isSome = r'.evidence?.isSome := by
  cases h with
  | success l l' h => exact h
  | gaveUp | failure => rfl

theorem isSuccess_eq (h : r.Alike r') : r.isSuccess = r'.isSuccess := by
  cases h <;> rfl

theorem isFailure_eq (h : r.Alike r') : r.isFailure = r'.isFailure := by
  cases h <;> rfl

/-- Failures are alike, whatever they report. -/
theorem of_isFailure (h : r.isFailure = true) (h' : r'.isFailure = true) : r.Alike r' := by
  cases r with
  | success | gaveUp => cases h
  | failure c l n =>
    cases r' with
    | success | gaveUp => cases h'
    | failure c' l' n' => exact .failure c c' l l' n n'

/-- The two certificates are conjoined wherever both are there. -/
theorem and (h : r.Alike r') (k : s.Alike s') : (r.and s).Alike (r'.and s') := by
  cases h with
  | failure c c' l l' n n' => exact .failure c c' l l' n n'
  | gaveUp =>
    cases k with
    | success | gaveUp => exact .gaveUp
    | failure c c' l l' n n' => exact .failure c c' l l' n n'
  | success l l' h =>
    cases k with
    | success m m' k =>
      refine .success _ _ ?_
      -- The evidence may differ, but it is there for both conjuncts in both runs or missing in both.
      rw [isSome_combine, isSome_combine, Option.isSome_map, Option.isSome_map, h, k]
    | gaveUp => exact .gaveUp
    | failure c c' l l' n n' => exact .failure c c' l l' n n'

/-- Disjunctions of outcomes that are alike are alike. -/
theorem or (h : r.Alike r') (k : s.Alike s') : (r.or s).Alike (r'.or s') := by
  cases h with
  | success l l' h => exact .success l l' h
  | gaveUp =>
    cases k with
    | success m m' k => exact .success m m' k
    | gaveUp | failure => exact .gaveUp
  | failure c c' l l' n n' =>
    cases k with
    | success m m' k => exact .success m m' k
    | gaveUp => exact .gaveUp
    | failure d d' m m' i i' => exact .failure _ _ _ _ _ _

/-- A negation looks at the kind of the outcome and at whether there is evidence, and no further. -/
theorem negate (h : r.Alike r') (text : String) : (r.negate text).Alike (r'.negate text) := by
  cases h with
  | failure c c' l l' n n' => exact .success l l' rfl
  | gaveUp => exact .gaveUp
  | @success e e' l l' h =>
    cases e with
    | none =>
      cases e' with
      | none => exact .gaveUp
      | some c' => cases h
    | some c =>
      cases e' with
      | none => cases h
      | some c' => exact .failure _ _ _ _ 0 0

theorem across (h : r.Alike r') (t : Transport) : (r.across t).Alike (r'.across t) := by
  cases h with
  | gaveUp => exact .gaveUp
  | failure => exact .failure _ _ _ _ _ _
  | success l l' h =>
    refine .success l l' ?_
    rw [isSome_combine, isSome_combine, h]

theorem labelled (h : r.Alike r') (label : String) : (r.labelled label).Alike (r'.labelled label) := by
  cases h with
  | gaveUp => exact .gaveUp
  | failure => exact .failure _ _ _ _ _ _
  | success l l' h => exact .success _ _ h

theorem annotate (h : r.Alike r') (label : String) (t : Transport) :
    (r.annotate label t).Alike (r'.annotate label t) :=
  (h.across t).labelled label

end Alike

end Outcome

/-! ## Steps -/

namespace Tester

theorem gen_emit (on : Bool) (line : Unit → TraceLine) (s : Session σ) : (emit on line s).2.gen = s.gen :=
  congrArg Source.gen (toSource_emit on line s)

/-- From sessions with the same generator, the two steps have outcomes that are alike and lead to the same
    generator. -/
def Agrees (f g : Tester σ Outcome) : Prop :=
  ∀ s t, s.gen = t.gen → (f s).1.Alike (g t).1 ∧ (f s).2.gen = (g t).2.gen

variable {f g : Tester σ Outcome}

/-- What keeps outcomes alike keeps tests in agreement. -/
theorem Agrees.map {e : Outcome → Outcome} (he : ∀ {r r'}, r.Alike r' → (e r).Alike (e r'))
    (h : Agrees f g) : Agrees (e <$> f) (e <$> g) :=
  fun s t hst => ⟨he (h s t hst).1, (h s t hst).2⟩

end Tester

/-! ## Samplers -/

namespace Source

/-- The step looks at the generator alone: what it answers and where it leaves the generator do not depend on
    the world. -/
def IsStateless (d : StateM (Source σ) α) : Prop :=
  ∀ s t : Source σ, s.gen = t.gen → (d s).1 = (d t).1 ∧ (d s).2.gen = (d t).2.gen

namespace IsStateless

variable {β : Type} {d : StateM (Source σ) α} {k : α → StateM (Source σ) β}

theorem pure (a : α) : IsStateless (σ := σ) (Pure.pure a) := fun _ _ h => ⟨rfl, h⟩

theorem size : IsStateless (σ := σ) Source.size := fun _ _ h => ⟨congrArg Gen.size h, h⟩

theorem random (f : Gen → α × Gen) : IsStateless (σ := σ) (Source.random f) := fun _ _ h =>
  ⟨congrArg (fun g => (f g).1) h, congrArg (fun g => (f g).2) h⟩

/-- If neither of two draws looks at the world, both of them together do not. -/
theorem bind (hd : IsStateless d) (hk : ∀ a, IsStateless (k a)) : IsStateless (d >>= k) := by
  intro s t hst
  obtain ⟨hanswer, hgen⟩ := hd s t hst
  -- The answers agree, so the same draw follows, from equal generators.
  have hnext := hk (d s).1 (d s).2 (d t).2 hgen
  show (k (d s).1 (d s).2).1 = (k (d t).1 (d t).2).1 ∧
    (k (d s).1 (d s).2).2.gen = (k (d t).1 (d t).2).2.gen
  rw [← hanswer]
  exact hnext

/-- Drawing over and over does not look at the world if drawing once does not. -/
theorem repeated (hd : IsStateless d) (n : Nat) : IsStateless (Sampler.repeated d n) := by
  induction n with
  | zero => exact .pure []
  | succ n ih => exact .bind hd fun _ => .bind ih fun _ => .pure _

/-- Lists do not look at the world if their elements do not. -/
theorem list {s : Sampler σ π α} (hs : IsStateless s.draw) : IsStateless s.list.draw :=
  .bind .size fun _ => .bind (.random _) fun _ => .repeated hs _

theorem option {s : Sampler σ π α} (hs : IsStateless s.draw) : IsStateless s.option.draw := by
  refine .bind (.random _) fun quarter => ?_
  -- One time in four nothing is drawn.
  split
  · exact .pure none
  · exact .bind hs fun _ => .pure _

theorem pair {ρ : Type} {s : Sampler σ π α} {t : Sampler σ ρ β} (hs : IsStateless s.draw)
    (ht : IsStateless t.draw) : IsStateless (s.pair t).draw :=
  .bind hs fun _ => .bind ht fun _ => .pure _

end IsStateless

end Source

/-- The default samplers draw by the generator alone. -/
theorem Ty.isStateless_sampler : (t : Ty) → Source.IsStateless (t.sampler (σ := σ)).draw
  | natural => .bind .size fun _ => .random _
  | integer => .bind .size fun _ => .random _
  | bool => .random _
  | char => .bind .size fun _ => .random _
  | string => .list (.bind .size fun _ => .random _)
  | list t => t.isStateless_sampler.list
  | option t => t.isStateless_sampler.option
  | pair s t => s.isStateless_sampler.pair t.isStateless_sampler

/-! ## Bound variables -/

section Binding

variable [Literal π] [Literal α] {trace : TraceToggles} {var : String} {sampler : Sampler σ π α}
  {body : Search.Body σ α}

/-- The test of a bound variable leaves the generator where the draw of the sample has left it, if the tests
    of its body leave the generator alone. -/
theorem gen_testBound (hbody : ∀ p m, Keeps (fun s => s.gen) (body (sampler.interpret p) m)) (minimize : Bool)
    (s : Session σ) :
    (testBound trace var sampler body minimize s).2.gen = (drawn trace var sampler s).2.gen := by
  have hsampled : (sampled trace var sampler body minimize s).2.gen = (drawn trace var sampler s).2.gen :=
    hbody _ minimize _
  rw [testBound_apply]
  split
  · -- The sample fails, and the line that says so comes before the search.
    have hsearch (p : π) (r : Outcome) : Keeps (fun s => s.gen) (Search.minimize trace var sampler body p r) :=
      Search.keeps_minimize (showsDrawsOnly_gen id trace) hbody p r
    have hfailing : (emit trace.successes (fun _ => .failing var (literal (drawn trace var sampler s).1))
        (sampled trace var sampler body minimize s).2).2.gen = (drawn trace var sampler s).2.gen :=
      (gen_emit _ _ _).trans hsampled
    cases minimize with
    | false => exact hfailing
    | true => exact (hsearch _ _ _).trans hfailing
  · exact hsampled

/-- A bound variable is tested alike with a search and without one: both tests draw the same sample, and if it
    fails, so does what a search comes to. -/
theorem agrees_testBound (hdraw : Source.IsStateless sampler.draw)
    (hbody : ∀ p m, Keeps (fun s => s.gen) (body (sampler.interpret p) m))
    (hagrees : ∀ p m k, Agrees (body (sampler.interpret p) m) (body (sampler.interpret p) k))
    (minimize minimize' : Bool) :
    Agrees (testBound trace var sampler body minimize) (testBound trace var sampler body minimize') := by
  intro s t hst
  obtain ⟨hp, hgen⟩ := hdraw s.toSource t.toSource hst
  have hproxy : (drawn trace var sampler s).1 = (drawn trace var sampler t).1 := hp
  have hdrawn : (drawn trace var sampler s).2.gen = (drawn trace var sampler t).2.gen := by
    rw [drawn, drawn, gen_emit, gen_emit]
    exact hgen
  have hsampled : (sampled trace var sampler body minimize s).1.Alike
      (sampled trace var sampler body minimize' t).1 := by
    rw [sampled, sampled, hproxy]
    exact (hagrees _ minimize minimize' _ _ hdrawn).1
  refine ⟨?_, by rw [gen_testBound hbody, gen_testBound hbody, hdrawn]⟩
  cases hfail : (sampled trace var sampler body minimize s).1.isFailure with
  | true =>
    refine .of_isFailure ?_ ?_
    · rw [isFailure_testBound, hfail]
    · rw [isFailure_testBound, ← hsampled.isFailure_eq, hfail]
  | false =>
    -- Without a failure there is nothing to search for, and both report the sample.
    have hfail' : (sampled trace var sampler body minimize' t).1.isFailure = false :=
      hsampled.isFailure_eq ▸ hfail
    rw [testBound_apply, testBound_apply, if_neg (by rw [hfail]; exact Bool.false_ne_true),
      if_neg (by rw [hfail']; exact Bool.false_ne_true), ← hproxy]
    exact hsampled.annotate _ _

end Binding

/-! ## Statements -/

namespace Statement

/-- The statement has no quantifier over values, as far as testing can come to one.  It may have quantifiers
    over types. -/
def DrawsNothing (p : Statement σ) : Prop := p.Draws fun _ _ => False

/-- What a quantifier over values says of a value has no such quantifier itself. -/
def BodiesDrawNothing : Statement σ → Prop
  | atom _ => True
  | not p => p.BodiesDrawNothing
  | and p q => p.BodiesDrawNothing ∧ q.BodiesDrawNothing
  | or p q => p.BodiesDrawNothing ∧ q.BodiesDrawNothing
  | iff p q => p.BodiesDrawNothing ∧ q.BodiesDrawNothing
  | forAll _ sampler body => ∀ p, (body (sampler.interpret p)).DrawsNothing
  | guarded _ holds body => holds = true → body.BodiesDrawNothing
  | unused _ _ body => body.BodiesDrawNothing
  | suchThat _ sampler _ body => ∀ p, (body (sampler.interpret p)).DrawsNothing
  | forAllTypes _ family => (family .integer).BodiesDrawNothing ∧ (family .string).BodiesDrawNothing
  | preparing _ body => body.BodiesDrawNothing

/-- The samplers of the statement draw by the generator alone. -/
def IsStateless (p : Statement σ) : Prop := p.Draws fun _ d => Source.IsStateless d

/-- A statement that draws nothing has no bodies that draw. -/
theorem DrawsNothing.bodiesDrawNothing {p : Statement σ} (h : p.DrawsNothing) : p.BodiesDrawNothing := by
  induction p with
  | atom => trivial
  | not p ih | unused _ _ p ih | preparing _ p ih => exact ih h
  | and p q ihp ihq | or p q ihp ihq | iff p q ihp ihq => exact ⟨ihp h.1, ihq h.2⟩
  | guarded _ _ body ih => exact fun holds => ih (h holds)
  | forAllTypes _ family ih => exact ⟨ih .integer h.1, ih .string h.2⟩
  -- There are no quantifiers over values.
  | forAll | suchThat => exact h.1.elim

/-- A test of a statement that draws nothing leaves the generator alone. -/
theorem DrawsNothing.keeps_run {p : Statement σ} (h : p.DrawsNothing) (trace : TraceToggles) (m : Bool) :
    Keeps (fun s => s.gen) (p.run trace m) :=
  p.keeps_run (showsDrawsOnly_gen id trace) (h.mono fun _ _ hd => hd.elim) m

end Statement

namespace Tester.Agrees

variable {trace : TraceToggles} {p q : Statement σ} {m k : Bool}

theorem not (hp : Agrees (p.run trace m) (p.run trace k)) :
    Agrees (p.not.run trace m) (p.not.run trace k) := by
  intro s t hst
  rw [Statement.run_not_apply, Statement.run_not_apply]
  exact ⟨(hp s t hst).1.negate p.text, (hp s t hst).2⟩

/-- Conjunctions agree if their parts do, as the second one starts from the same generator. -/
theorem and (hp : Agrees (p.run trace m) (p.run trace k)) (hq : Agrees (q.run trace m) (q.run trace k)) :
    Agrees ((p.and q).run trace m) ((p.and q).run trace k) := by
  intro s t hst
  obtain ⟨hl, hgen⟩ := hp s t hst
  obtain ⟨hr, hgen⟩ := hq _ _ hgen
  rw [Statement.run_and_apply, Statement.run_and_apply]
  exact ⟨hl.and hr, hgen⟩

/-- The second part is tested in both runs or in neither. -/
theorem or (hp : Agrees (p.run trace m) (p.run trace k)) (hq : Agrees (q.run trace m) (q.run trace k)) :
    Agrees ((p.or q).run trace m) ((p.or q).run trace k) := by
  intro s t hst
  obtain ⟨hl, hgen⟩ := hp s t hst
  -- Both runs skip the second part or neither does, so the generators stay together.
  rw [Statement.run_or_apply, Statement.run_or_apply]
  dsimp only
  rw [← hl.isSuccess_eq]
  split
  · exact ⟨hl, hgen⟩
  · obtain ⟨hr, hgen⟩ := hq _ _ hgen
    exact ⟨hl.or hr, hgen⟩

/-- Equivalences agree if their parts do. -/
theorem iff (hp : Agrees (p.run trace m) (p.run trace k)) (hq : Agrees (q.run trace m) (q.run trace k)) :
    Agrees ((p.iff q).run trace m) ((p.iff q).run trace k) := by
  rw [Statement.run_iff, Statement.run_iff]
  exact .map (fun h => h.across _) (.or (.and hp hq) (.and hp.not hq.not))

/-- Statements about all types agree if their instances do. -/
theorem forAllTypes {var : String} {family : Ty → Statement σ}
    (hi : Agrees ((family .integer).run trace m) ((family .integer).run trace k))
    (hs : Agrees ((family .string).run trace m) ((family .string).run trace k)) :
    Agrees ((Statement.forAllTypes var family).run trace m)
      ((Statement.forAllTypes var family).run trace k) := by
  intro s t hst
  obtain ⟨hl, hgen⟩ := hi s t hst
  -- The second type is tested in both runs or in neither.
  rw [Statement.run_forAllTypes_apply, Statement.run_forAllTypes_apply]
  dsimp only
  rw [← hl.isSuccess_eq]
  split
  · obtain ⟨hr, hgen⟩ := hs _ _ hgen
    exact ⟨(hl.annotate _ _).and (hr.annotate _ _), hgen⟩
  · exact ⟨hl.annotate _ _, hgen⟩

end Tester.Agrees

namespace Statement

/-- Whether failing samples are searched for smaller ones makes no difference to the kind of the outcome, to
    whether it has evidence and to the generator, if bodies draw nothing. -/
theorem agrees_run {p : Statement σ} (hpure : p.IsPure) (hbodies : p.BodiesDrawNothing)
    (hdraws : p.IsStateless) (trace : TraceToggles) (m k : Bool) :
    Agrees (p.run trace m) (p.run trace k) := by
  -- The flag changes on the way down: only the outermost quantifiers search.
  induction p generalizing m k with
  | atom a =>
    -- The worlds of the two runs may differ by now, but a pure atom does not care.
    intro s t hst
    obtain ⟨b, hb⟩ := hpure
    rw [run_atom_apply, run_atom_apply, hb s.world, hb t.world]
    exact ⟨.refl _, hst⟩
  | not p ih => exact (ih hpure hbodies hdraws m k).not
  | and p q ihp ihq => exact (ihp hpure.1 hbodies.1 hdraws.1 m k).and (ihq hpure.2 hbodies.2 hdraws.2 m k)
  | or p q ihp ihq => exact (ihp hpure.1 hbodies.1 hdraws.1 m k).or (ihq hpure.2 hbodies.2 hdraws.2 m k)
  | iff p q ihp ihq => exact (ihp hpure.1 hbodies.1 hdraws.1 m k).iff (ihq hpure.2 hbodies.2 hdraws.2 m k)
  | forAll var sampler body ih =>
    exact agrees_testBound hdraws.1 (fun p m => (hbodies p).keeps_run trace m)
      (fun p m k => ih _ (hpure p) (hbodies p).bodiesDrawNothing (hdraws.2 p) m k) m k
  | guarded guard holds body ih =>
    intro s t hst
    rw [run_guarded_apply, run_guarded_apply]
    cases holds with
    | false =>
      refine ⟨.gaveUp, ?_⟩
      dsimp only
      rw [if_neg Bool.false_ne_true, if_neg Bool.false_ne_true, gen_emit, gen_emit, hst]
    | true =>
      obtain ⟨hr, hgen⟩ := ih (hpure rfl) (hbodies rfl) (hdraws rfl) m k s t hst
      exact ⟨hr.annotate _ _, hgen⟩
  | unused var witness body ih =>
    intro s t hst
    rw [run_unused_apply, run_unused_apply]
    have hline (on : Bool) (line : Unit → TraceLine) : (emit on line s).2.gen = (emit on line t).2.gen := by
      rw [gen_emit, gen_emit, hst]
    obtain ⟨hr, hgen⟩ := ih hpure hbodies hdraws m k _ _ (hline _ _)
    exact ⟨(hr.annotate _ _).across _, hgen⟩
  | suchThat var sampler guard body ih =>
    refine .map (fun h => h.across _) (agrees_testBound hdraws.1
      (fun p m => (hbodies p).keeps_run trace m) (fun p m k => ?_) m k)
    exact .map (fun h => h.annotate _ _)
      (ih _ (hpure p) (hbodies p).bodiesDrawNothing (hdraws.2 p) m k)
  | forAllTypes var family ih =>
    exact .forAllTypes (ih _ hpure.1 hbodies.1 hdraws.1 m k) (ih _ hpure.2 hbodies.2 hdraws.2 m k)
  | preparing change body ih =>
    intro s t hst
    rw [run_preparing_apply, run_preparing_apply]
    exact ih hpure hbodies hdraws m k _ _ hst

end Statement

/-- **Searching changes no verdict.**  If atoms are pure, samplers draw by the generator alone and no body of a
    quantifier draws, then a test that searches for a smaller counterexample and one that does not end with
    outcomes of the same kind, both or neither with evidence, and with the same generator. -/
theorem minimization_keeps_verdict {p : Statement σ} (hpure : p.IsPure) (hbodies : p.BodiesDrawNothing)
    (hdraws : p.IsStateless) (trace : TraceToggles) (s : Session σ) :
    let searched := p.run trace true s
    let unsearched := p.run trace false s
    searched.1.status = unsearched.1.status ∧
      searched.1.evidence?.isSome = unsearched.1.evidence?.isSome ∧
      searched.2.gen = unsearched.2.gen := by
  obtain ⟨halike, hgen⟩ := p.agrees_run hpure hbodies hdraws trace true false s s rfl
  exact ⟨halike.status_eq, halike.isSome_evidence_eq, hgen⟩

/-- `(∀ xs, xs = []) ↔ ¬∀ α, 1 < 2 → 2 < 1`, where the first part is tested twice, and the second one is about
    all types and a guard: one test of it draws a list and searches, the other one does not. -/
theorem minimization_keeps_verdict_iff_not :
    let p : Statement Unit := .iff
      (.forAllOf (.list .integer) "xs" fun xs => .decided "xs = []" xs.isEmpty)
      (.not (.forAllTypes "α" fun _ => .guarded "1 < 2" true (.decided "2 < 1" false)))
    p.IsPure ∧ p.BodiesDrawNothing ∧ p.IsStateless ∧ ∀ trace s,
      (p.run trace true s).1.status = (p.run trace false s).1.status ∧
        (p.run trace true s).2.gen = (p.run trace false s).2.gen := by
  intro p
  have hpure : p.IsPure :=
    ⟨fun _ => ⟨_, fun _ => rfl⟩, fun _ => ⟨_, fun _ => rfl⟩, fun _ => ⟨_, fun _ => rfl⟩⟩
  have hbodies : p.BodiesDrawNothing := ⟨fun _ => trivial, fun _ => trivial, fun _ => trivial⟩
  have hdraws : p.IsStateless :=
    ⟨⟨Ty.isStateless_sampler _, fun _ => trivial⟩, fun _ => trivial, fun _ => trivial⟩
  refine ⟨hpure, hbodies, hdraws, fun trace s => ?_⟩
  obtain ⟨hstatus, -, hgen⟩ := minimization_keeps_verdict hpure hbodies hdraws trace s
  exact ⟨hstatus, hgen⟩

end Falsify
