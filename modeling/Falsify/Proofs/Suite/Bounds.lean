import Falsify.Proofs.Sampler.Bounded
import Falsify.Proofs.Suite.Invariant
import Falsify.Proofs.Testing.Visits

/-!
# Bounds on what a suite tests

The size of a trial bounds everything that is bound in it: wherever a quantifier over a type stands in the
statement and however often it is tested, in any attempt and in any search, its body is tested at bounded
values only, and such a value is what its outcome is labelled with.

## Key results

- `Visits.within`: the body of a quantifier is tested within the bound of its sampler.
- `Statement.run_forAllOf_congr`: what a quantifier over a type says about greater values makes no difference.
- `Statement.Tests.size_eq`: every part of a statement is tested under the size that the whole is.
- `Suite.samples_bounded`: the bounds on everything that a trial binds.
- `Suite.exists_unbounded_sample`: what becomes of them when a sampler sets the size.
-/

namespace Falsify

open Tester

variable {σ τ : Type}

/-- The body of a quantifier is tested within the bound of its sampler at the size of the test. -/
theorem Visits.within {π α : Type} [Literal π] [Literal α] {trace : TraceToggles} {var : String}
    {sampler : Sampler σ π α} {body : Search.Body σ α} {bound : Nat → π → Prop}
    (hsampler : sampler.Within bound) {minimize m : Bool} {s t : Session σ} {p : π}
    (h : Visits trace var sampler body minimize s p m t) : bound s.gen.size.toNat p := by
  obtain ⟨n, hsteps⟩ := h.exists_steps
  exact hsampler.of_steps hsteps (hsampler.draw s.toSource)

namespace Statement

/-- What the body of a quantifier over a type says about values that exceed the size makes no difference. -/
theorem run_forAllOf_congr {ty : Ty} (var : String) {body body' : ty.Value → Statement σ}
    (trace : TraceToggles) (minimize : Bool) {s : Session σ}
    (h : ∀ p, ty.Bounded s.gen.size.toNat p → ∀ m t,
      let a := (ty.sampler : Sampler σ _ _).interpret p
      (body a).run trace m t = (body' a).run trace m t) :
    (forAllOf ty var body).run trace minimize s = (forAllOf ty var body').run trace minimize s :=
  testBound_congr fun p m t hvisit => h p (hvisit.within ty.within_sampler) m t

/-- Every part of a statement is tested under the size that the whole is, if its samplers leave it alone. -/
theorem Tests.size_eq {trace : TraceToggles} {p q : Statement σ} {m k : Bool} {s t : Session σ}
    (hp : p.KeepsSize) (h : p.Tests trace m s q k t) : t.gen.size = s.gen.size :=
  h.view_eq (showsDrawsOnly_gen Gen.size trace) hp

end Statement

/-- **Everything that a trial binds is bounded by its size.**  Samples of a type are drawn bounded by the
    size, without overflow, and leave the size alone; their candidates stay bounded.  A test whose samplers do
    not set the size leaves it alone as well.  So every quantifier over a type that is tested in a trial, at
    whatever depth and in whatever attempt, tests its body at bounded values only, its test is the same with any
    other body that agrees there, and its outcome is labelled with a bounded value.

    A custom sampler may set the size; no formula is made of one that does. -/
theorem Suite.samples_bounded (now : StateM τ Timestamp) (cfg : Config) {p : Statement σ} (hp : p.KeepsSize)
    (start : Session σ) (h : τ) :
    (∀ (ty : Ty) (src : Source σ),
      ty.Bounded src.gen.size.toNat (ty.sampler.draw src).1 ∧
        (ty.sampler.draw src).2.gen.size = src.gen.size) ∧
    (∀ size : UInt64,
      (Sampler.integerBound size).toInt = min (size.toNat : Int) Int64.maxValue.toInt ∧
        (-Sampler.integerBound size).toInt = -(Sampler.integerBound size).toInt) ∧
    (∀ (ty : Ty) (n : Nat) (x : ty.Proxy), ty.Bounded n x →
      ∀ c ∈ (ty.sampler : Sampler σ _ _).shrinks x, ty.Bounded n c) ∧
    (∀ (f : Formula) (c : Formula.Context), (f.statement c).KeepsSize) ∧
    (∀ trace minimize s, (p.run trace minimize s).2.gen.size = s.gen.size) ∧
    (∀ i trial, (Suite.run now cfg p start h).1.1.trials[i]? = some trial →
      trial.size = sizeOfTrial (.ofNat i) cfg.trials cfg.maxSize ∧
      ∀ k < trial.attempts.toNat, ∀ ty var body minimize s,
        p.Tests cfg.trace true (attemptAt cfg p start i k) (.forAllOf ty var body) minimize s →
        (∀ x m t,
          Visits cfg.trace var ty.sampler (fun a m => (body a).run cfg.trace m) minimize s x m t →
          ty.Bounded trial.size.toNat x) ∧
        (∀ body', (∀ x, ty.Bounded trial.size.toNat x → ∀ m t,
            let a := (ty.sampler : Sampler σ _ _).interpret x
            (body a).run cfg.trace m t = (body' a).run cfg.trace m t) →
          (Statement.forAllOf ty var body).run cfg.trace minimize s =
            (Statement.forAllOf ty var body').run cfg.trace minimize s) ∧
        ∃ x m t n, ty.Bounded trial.size.toNat x ∧
          let a := (ty.sampler : Sampler σ _ _).interpret x
          ((Statement.forAllOf ty var body).run cfg.trace minimize s).1 =
            (((body a).run cfg.trace m t).1.addShrinks (.ofNat n)).annotate (var ++ " := " ++ literal a)
              (.weakening ("specialise " ++ (var ++ " := " ++ literal a)))) := by
  refine ⟨fun ty src => ⟨ty.within_sampler.draw src, ty.keepsSize_sampler src⟩,
    fun size => ⟨Sampler.toInt_integerBound size, Sampler.toInt_neg_integerBound size⟩,
    fun ty n x hx c hc => ty.within_sampler.shrinks hc hx, Formula.keepsSize_statement, p.size_run hp,
    fun i trial htrial => ?_⟩
  have hrec := records_run now cfg p start h htrial
  have hsize := hrec.size_eq
  refine ⟨hsize, fun k _ ty var body minimize s htest => ?_⟩
  -- The quantifier is tested under the size of the attempt, which is that of the trial.
  have hunder : trial.size = s.gen.size := by
    rw [hsize, ← size_attemptAt hp cfg start i k, ← htest.size_eq hp]
  have hbounded : ∀ x m t,
      Visits cfg.trace var ty.sampler (fun a m => (body a).run cfg.trace m) minimize s x m t →
      ty.Bounded trial.size.toNat x := by
    intro x m t hvisit
    rw [hunder]
    exact hvisit.within ty.within_sampler
  obtain ⟨x, m, t, n, hvisit, hrun⟩ := exists_visits_testBound cfg.trace var ty.sampler
    (fun a m => (body a).run cfg.trace m) minimize s
  refine ⟨hbounded, fun body' hagree => ?_, x, m, t, n, hbounded x m t hvisit, hrun⟩
  rw [hunder] at hagree
  exact Statement.run_forAllOf_congr var cfg.trace minimize hagree

/-- The first of two trials of `∀ xs, xs = []` runs at size 5, and tests no list with more than five
    elements, or with an integer further than five from zero. -/
theorem Suite.samples_bounded_list :
    let body (xs : List Int64) : Statement Unit := .decided "xs = []" xs.isEmpty
    let p : Statement Unit := .forAllOf (.list .integer) "xs" body
    let cfg : Config := { trials := 2, maxSize := 10 }
    let start : Session Unit := { gen := .ofSeed 0, world := () }
    p.KeepsSize ∧
      ∃ trial, (Suite.run (pure default : StateM Unit Timestamp) cfg p start ()).1.1.trials[0]? = some trial ∧
        trial.size = 5 ∧
        ∀ xs m t,
          Visits cfg.trace "xs" (Ty.list .integer).sampler (fun a m => (body a).run cfg.trace m) true
            (attemptAt cfg p start 0 0) xs m t →
          xs.length ≤ 5 ∧ ∀ x ∈ xs, x.toInt.natAbs ≤ 5 := by
  intro body p cfg start
  have hp : p.KeepsSize := Statement.keepsSize_forAllOf fun _ => trivial
  have hfive : sizeOfTrial (.ofNat 0) cfg.trials cfg.maxSize = 5 := by decide
  -- Two trials are due, so the first one is in the report, whatever came of it.
  have hfirst := (stopsAt_run (pure default : StateM Unit Timestamp) cfg p start ()).size_pos (by decide)
  obtain ⟨-, -, -, -, -, htrials⟩ := samples_bounded (pure default : StateM Unit Timestamp) cfg hp start ()
  obtain ⟨hsize, hbounded⟩ := htrials 0 _ (Array.getElem?_eq_getElem hfirst)
  have hrec := records_run _ cfg p start () (Array.getElem?_eq_getElem hfirst)
  rw [hfive] at hsize
  refine ⟨hp, _, Array.getElem?_eq_getElem hfirst, hsize, fun xs m t hvisit => ?_⟩
  have hxs := (hbounded 0 hrec.attempts_pos _ _ body _ _ .self).1 xs m t hvisit
  rw [hsize] at hxs
  exact ⟨Nat.le_trans hxs.1 (Nat.min_le_left _ _), fun x hx =>
    Nat.le_trans (hxs.2 x hx) (Nat.min_le_left _ _)⟩

/-- A sampler that sets the size to 7 has the first of two trials, which is one of size 5, test the natural number
    6 inside it and report it.  After the test the size is still 7. -/
theorem Suite.exists_unbounded_sample :
    let body (x : UInt64) : Statement Unit := .decided "x ≤ 7" (x ≤ 7)
    let p : Statement Unit := .forAll "b" (Sampler.bool.resized 7) fun _ => .forAllOf .natural "x" body
    let cfg : Config := { trials := 2, maxSize := 10 }
    let start : Session Unit := { gen := .ofSeed 0, world := () }
    let first := attemptAt cfg p start 0 0
    first.gen.size = 5 ∧ (p.run cfg.trace true first).2.gen.size = 7 ∧
    ∃ trial, (Suite.run (pure default : StateM Unit Timestamp) cfg p start ()).1.1.trials[0]? = some trial ∧
      trial.size = 5 ∧ trial.outcome.labels = ["b := false", "x := 6"] ∧
      ∃ s, p.Tests cfg.trace true first (.forAllOf .natural "x" body) true s ∧
        ∃ t, Visits cfg.trace "x" Ty.natural.sampler (fun x m => (body x).run cfg.trace m) true s (6 : UInt64)
            true t ∧
          ¬Ty.natural.Bounded trial.size.toNat (6 : UInt64) := by
  intro body p cfg start first
  -- What is computed is the part of the first trial that the statement speaks of; its time plays no role.
  have hrun : ((Suite.run (pure default : StateM Unit Timestamp) cfg p start ()).1.1.trials[0]?.map
      fun t => (t.size, t.outcome.labels)) = some (5, ["b := false", "x := 6"]) := by decide +kernel
  obtain ⟨trial, htrial, hshown⟩ := Option.map_eq_some_iff.1 hrun
  obtain ⟨hsize, hlabels⟩ : trial.size = 5 ∧ trial.outcome.labels = ["b := false", "x := 6"] :=
    Prod.ext_iff.1 hshown
  -- The inner quantifier is tested in the session that the draw for the outer one leads to.
  let s := (drawn cfg.trace "b" (Sampler.bool.resized 7) first).2
  have hsix : (drawn cfg.trace "x" Ty.natural.sampler s).1 = (6 : UInt64) := by decide +kernel
  have hvisit : Visits cfg.trace "x" Ty.natural.sampler (fun x m => (body x).run cfg.trace m) true s (6 : UInt64)
      true (drawn cfg.trace "x" Ty.natural.sampler s).2 := by
    rw [← hsix]
    exact .sample
  refine ⟨by decide +kernel, by decide +kernel, trial, htrial, hsize, hlabels, s, .forAll .sample .self, _, hvisit,
    ?_⟩
  rw [hsize]
  show ¬(6 : UInt64).toNat ≤ (5 : UInt64).toNat
  decide

end Falsify
