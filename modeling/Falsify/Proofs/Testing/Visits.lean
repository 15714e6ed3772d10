import Falsify.Proofs.Testing.Frame

/-!
# Which tests a test makes

The body of a quantifier is tested at the proxy that is drawn and, in a search for a smaller one, at the
candidates of each round up to the first that fails.  Listing these tests, and the sessions in which they
are made, names every test of every part of a statement, however deep it stands.

## Key results

- `testBound_congr`: nothing else is tested, as the test of a bound variable depends on its body through the
  listed tests alone.
- `Visits.exists_steps`: each proxy that the body is tested at is reached from the one that is drawn.
- `exists_visits_testBound`: the outcome for a bound variable is that of a listed test of its body.
- `Statement.Tests.view_eq`: what draws do not change is the same in each session in which a part of a
  statement is tested.
-/

namespace Falsify

open Tester

variable {σ π α γ : Type}

/-! ## Searches -/

namespace Search

variable [Literal π]

section

variable (trace : TraceToggles) (var : String) (interpret : π → α) (body : Body σ α)

/-- `InRound … cs s c t`: of the candidates `cs`, tested in order from the session `s` on until one fails,
    `c` is tested, and it is tested in the session `t`. -/
inductive InRound : List π → Session σ → π → Session σ → Prop
  | head {c : π} {cs : List π} {s : Session σ} : InRound (c :: cs) s c (announced trace var c s)
  | tail {c d : π} {cs : List π} {s t : Session σ}
      (h : (tested trace var interpret body c s).1.isFailure = false)
      (rest : InRound cs (tested trace var interpret body c s).2 d t) :
      InRound (c :: cs) s d t

end

section

variable (trace : TraceToggles) (var : String) (sampler : Sampler σ π α) (body : Body σ α)

/-- `Tries … p s c t`: the search that has reached the proxy `p` in the session `s` tests `c` in the
    session `t`, in the round of `p` or in a later one. -/
inductive Tries : π → Session σ → π → Session σ → Prop
  | round {p c : π} {s t : Session σ}
      (h : InRound trace var sampler.interpret body (sampler.shrinks p) (offered trace var sampler p s) c t) :
      Tries p s c t
  | next {p c d : π} {s t u : Session σ}
      (h : FailsFirst trace var sampler.interpret body (sampler.shrinks p)
        (offered trace var sampler p s) c t)
      (rest : Tries c (moved trace var p c (body (sampler.interpret c) false t).2) d u) :
      Tries p s d u

end

variable {trace : TraceToggles} {var : String} {interpret : π → α} {sampler : Sampler σ π α}
  {body body' : Body σ α}

theorem InRound.mem {cs : List π} {s t : Session σ} {c : π}
    (h : InRound trace var interpret body cs s c t) : c ∈ cs := by
  induction h with
  | head => exact List.mem_cons_self
  | tail _ _ ih => exact List.mem_cons_of_mem _ ih

/-- The candidate that a round ends at is tested in it. -/
theorem FailsFirst.inRound {cs : List π} {s t : Session σ} {c : π}
    (h : FailsFirst trace var interpret body cs s c t) : InRound trace var interpret body cs s c t := by
  induction h with
  | head => exact .head
  | tail h _ ih => exact .tail h ih

/-- What a search tests is reached from the proxy that it has come to. -/
theorem Tries.exists_steps {p c : π} {s t : Session σ} (h : Tries trace var sampler body p s c t) :
    ∃ n, sampler.Steps n p c := by
  induction h with
  | round h => exact ⟨1, .head h.mem (.refl _)⟩
  | next h _ ih =>
    obtain ⟨n, hsteps⟩ := ih
    exact ⟨n + 1, .head h.mem hsteps⟩

/-- The proxies on a path of the search are among those that it tests. -/
theorem Descent.tries {p q : π} {s t u : Session σ} {path : List (π × Session σ)}
    (h : Descent trace var sampler body p s path u) (hmem : (q, t) ∈ path) :
    Tries trace var sampler body p s q t := by
  induction h with
  | minimal => cases hmem
  | step hc _ ih =>
    -- An entry of the path fails in the round of its own place, after the moves before it.
    rcases List.mem_cons.1 hmem with heq | hmem
    · cases heq
      exact .round hc.inRound
    · exact .next hc (ih hmem)

/-! ### What a search depends on -/

/-- A round depends on the body through the tests that it makes. -/
theorem firstFailing_congr {cs : List π} {s : Session σ}
    (h : ∀ c t, InRound trace var interpret body cs s c t →
      body (interpret c) false t = body' (interpret c) false t) :
    firstFailing trace var interpret body cs s = firstFailing trace var interpret body' cs s := by
  induction cs generalizing s with
  | nil => rfl
  | cons c cs ih =>
    -- The candidate is visited, so the bodies agree on it, and the rest of the round starts alike.
    have htested : tested trace var interpret body c s = tested trace var interpret body' c s := h c _ .head
    rw [firstFailing_cons, firstFailing_cons, ← htested]
    split
    · rfl
    · rename_i hpass
      exact ih fun d t hd => h d t (.tail (Bool.eq_false_iff.2 hpass) hd)

/-- A descent depends on its body through the tests that it makes. -/
theorem descend_congr {p : π} {r : Outcome} {steps : UInt64} {s : Session σ}
    (h : ∀ c t, Tries trace var sampler body p s c t →
      body (sampler.interpret c) false t = body' (sampler.interpret c) false t) :
    descend trace var sampler body p r steps s = descend trace var sampler body' p r steps s := by
  -- The rounds of `p` test the same and end at the same candidate, from which the induction goes on.
  induction sampler.wf.apply p generalizing r steps s with
  | intro p _ ih =>
    have hround := firstFailing_congr fun c t hc => h c t (.round hc)
    rw [descend_eq, descend_eq, ← hround]
    rcases firstFailing_cases trace var sampler.interpret body (sampler.shrinks p)
      (offered trace var sampler p s) with ⟨c, t, hc, heq⟩ | ⟨t, -, heq⟩
    · rw [heq]
      exact ih c hc.mem fun d u hd => h d u (.next hc hd)
    · rw [heq]

/-- A search depends on the body through the tests that it makes. -/
theorem minimize_congr {p : π} (r : Outcome) {s : Session σ}
    (h : ∀ c t, Tries trace var sampler body p (begun trace var p s) c t →
      body (sampler.interpret c) false t = body' (sampler.interpret c) false t) :
    minimize trace var sampler body p r s = minimize trace var sampler body' p r s :=
  descend_congr h

/-! ### What a search leaves alone -/

section

variable {view : Session σ → γ} (hview : ShowsDrawsOnly view trace)

include hview

/-- What the tests of a body leave alone is the same when each candidate of a round is tested. -/
theorem InRound.view_eq (hbody : ∀ p m, Keeps view (body (interpret p) m)) {cs : List π}
    {s t : Session σ} {c : π} (h : InRound trace var interpret body cs s c t) : view t = view s := by
  induction h with
  | head => exact hview.emit (·.candidates) rfl _ _
  | tail _ _ ih => exact ih.trans ((hbody _ false _).trans (hview.emit (·.candidates) rfl _ _))

/-- It is the same when each candidate of a search is tested. -/
theorem Tries.view_eq (hbody : ∀ p m, Keeps view (body (sampler.interpret p) m)) {p c : π}
    {s t : Session σ} (h : Tries trace var sampler body p s c t) : view t = view s := by
  induction h with
  -- Between two tests the search writes lines only, and the view does not see them.
  | round h => exact (h.view_eq hview hbody).trans (hview.emit (·.candidates) rfl _ _)
  | @next p c d s t u hc _ ih =>
    calc view u
      _ = view (moved trace var p c (body (sampler.interpret c) false t).2) := ih
      _ = view (body (sampler.interpret c) false t).2 := hview.emit (·.shrinks) rfl _ _
      _ = view t := hbody c false t
      _ = view (offered trace var sampler p s) := hc.inRound.view_eq hview hbody
      _ = view s := hview.emit (·.candidates) rfl _ s

end

end Search

/-! ## Bound variables -/

section Binding

variable [Literal π] [Literal α]

section

variable (trace : TraceToggles) (var : String) (sampler : Sampler σ π α) (body : Search.Body σ α)

/-- `Visits … minimize s p m t`: testing a bound variable from the session `s` tests its body at the proxy
    `p`, with the flag `m` and in the session `t`. -/
inductive Visits : Bool → Session σ → π → Bool → Session σ → Prop
  /-- The body is tested at the proxy that is drawn. -/
  | sample {minimize : Bool} {s : Session σ} :
      Visits minimize s (drawn trace var sampler s).1 minimize (drawn trace var sampler s).2
  /-- It is tested at a candidate in the search for a smaller proxy. -/
  | candidate {s t : Session σ} {p : π}
      (hfail : (sampled trace var sampler body true s).1.isFailure = true)
      (h : Search.Tries trace var sampler body (drawn trace var sampler s).1
        (searched trace var sampler body s) p t) :
      Visits true s p false t

end

variable {trace : TraceToggles} {var : String} {sampler : Sampler σ π α} {body body' : Search.Body σ α}

omit [Literal α] in
/-- Each proxy that the body is tested at is reached from the one that is drawn. -/
theorem Visits.exists_steps {minimize m : Bool} {s t : Session σ} {p : π}
    (h : Visits trace var sampler body minimize s p m t) :
    ∃ n, sampler.Steps n (sampler.draw s.toSource).1 p := by
  cases h with
  | sample => exact ⟨0, .refl _⟩
  | candidate _ h => exact h.exists_steps

omit [Literal α] in
/-- The body is tested at the proxy that the variable settles on. -/
theorem Settles.visits {minimize m : Bool} {s t : Session σ} {p : π} {n : Nat}
    (h : Settles trace var sampler body minimize s p m t n) :
    Visits trace var sampler body minimize s p m t := by
  cases h with
  | sample => exact .sample
  | shrunk hfail h hlast => exact .candidate hfail (h.tries (List.mem_of_getLast? hlast))

/-- The outcome for a bound variable is that of a test of its body, labelled with the proxy of that test. -/
theorem exists_visits_testBound (trace : TraceToggles) (var : String) (sampler : Sampler σ π α)
    (body : Search.Body σ α) (minimize : Bool) (s : Session σ) :
    ∃ p m t n, Visits trace var sampler body minimize s p m t ∧
      (testBound trace var sampler body minimize s).1 =
        ((body (sampler.interpret p) m t).1.addShrinks (.ofNat n)).annotate (boundText var sampler p)
          (.weakening ("specialise " ++ boundText var sampler p)) := by
  obtain ⟨p, m, t, n, hsettles, hrun⟩ := exists_settles_testBound trace var sampler body minimize s
  exact ⟨p, m, t, n, hsettles.visits, hrun⟩

/-- The test of a bound variable depends on its body through the tests that it makes. -/
theorem testBound_congr {minimize : Bool} {s : Session σ}
    (h : ∀ p m t, Visits trace var sampler body minimize s p m t →
      body (sampler.interpret p) m t = body' (sampler.interpret p) m t) :
    testBound trace var sampler body minimize s = testBound trace var sampler body' minimize s := by
  have hsampled : sampled trace var sampler body minimize s = sampled trace var sampler body' minimize s :=
    h _ _ _ .sample
  rw [testBound_apply, testBound_apply, ← hsampled]
  -- Candidates are tested only after the sample has failed, and only if a smaller one is wanted.
  cases hfail : (sampled trace var sampler body minimize s).1.isFailure with
  | false => rw [if_neg Bool.false_ne_true, if_neg Bool.false_ne_true]
  | true =>
    rw [if_pos rfl, if_pos rfl]
    cases minimize with
    | false => rw [if_neg Bool.false_ne_true, if_neg Bool.false_ne_true]
    | true =>
      rw [if_pos rfl, if_pos rfl]
      have hsearch := Search.minimize_congr (sampled trace var sampler body true s).1
        fun c t hc => h c false t (.candidate hfail hc)
      exact congrArg (fun found : (π × Outcome) × Session σ => (boundReport var sampler found.1, found.2))
        hsearch

omit [Literal α] in
/-- What neither draws nor the tests of the body change is the same in each session in which the body is
    tested. -/
theorem Visits.view_eq {view : Session σ → γ} (hview : ShowsDrawsOnly view trace)
    (hdraw : Keeps view (draw sampler.draw)) (hbody : ∀ p m, Keeps view (body (sampler.interpret p) m))
    {minimize m : Bool} {s t : Session σ} {p : π} (h : Visits trace var sampler body minimize s p m t) :
    view t = view s := by
  -- A visit is reached through the draw, the test of the sample and the search, each of which keeps the view.
  have hdrawn (s : Session σ) : view (drawn trace var sampler s).2 = view s :=
    (hview.emit (fun t => t.successes || t.discarded) rfl
      (fun _ => .bound var (literal (draw sampler.draw s).1)) _).trans (hdraw s)
  cases h with
  | sample => exact hdrawn s
  | candidate _ h =>
    calc view t
      _ = view (searched trace var sampler body s) := h.view_eq hview hbody
      _ = view (emit trace.successes (fun _ => .failing var (literal (drawn trace var sampler s).1))
            (sampled trace var sampler body true s).2).2 :=
        (hview.emit (·.shrinks) rfl _ _).trans (hview.emit (·.shrinks) rfl _ _)
      _ = view (sampled trace var sampler body true s).2 := hview.emit (·.successes) rfl _ _
      _ = view (drawn trace var sampler s).2 := hbody _ true _
      _ = view s := hdrawn s

end Binding

/-! ## Statements -/

namespace Statement

/-- `p.Tests trace m s q k t`: the test of the statement `p` with the flag `m` from the session `s` tests the
    statement `q`, which is `p` or a part of it, with the flag `k` from the session `t`. -/
inductive Tests (trace : TraceToggles) :
    Statement σ → Bool → Session σ → Statement σ → Bool → Session σ → Prop
  | self {p : Statement σ} {m : Bool} {s : Session σ} : Tests trace p m s p m s
  | not {p q : Statement σ} {m k : Bool} {s t : Session σ} (h : Tests trace p m s q k t) :
      Tests trace p.not m s q k t
  | andLeft {p p' q : Statement σ} {m k : Bool} {s t : Session σ} (h : Tests trace p m s q k t) :
      Tests trace (p.and p') m s q k t
  | andRight {p p' q : Statement σ} {m k : Bool} {s t : Session σ}
      (h : Tests trace p' m (p.run trace m s).2 q k t) : Tests trace (p.and p') m s q k t
  | orLeft {p p' q : Statement σ} {m k : Bool} {s t : Session σ} (h : Tests trace p m s q k t) :
      Tests trace (p.or p') m s q k t
  | orRight {p p' q : Statement σ} {m k : Bool} {s t : Session σ}
      (hleft : (p.run trace m s).1.isSuccess = false)
      (h : Tests trace p' m (p.run trace m s).2 q k t) : Tests trace (p.or p') m s q k t
  /-- An equivalence is tested as the disjunction that it is equivalent to. -/
  | iff {p p' q : Statement σ} {m k : Bool} {s t : Session σ}
      (h : Tests trace ((p.and p').or (p.not.and p'.not)) m s q k t) : Tests trace (p.iff p') m s q k t
  | forAll {π α : Type} [Literal π] [Literal α] {var : String} {sampler : Sampler σ π α}
      {body : α → Statement σ} {x : π} {q : Statement σ} {m j k : Bool} {s u t : Session σ}
      (hvisit : Visits trace var sampler (fun a m => (body a).run trace m) m s x j u)
      (h : Tests trace (body (sampler.interpret x)) j u q k t) :
      Tests trace (.forAll var sampler body) m s q k t
  | guarded {guard : String} {body q : Statement σ} {m k : Bool} {s t : Session σ}
      (h : Tests trace body m s q k t) : Tests trace (.guarded guard true body) m s q k t
  | unused {var witness : String} {body q : Statement σ} {m k : Bool} {s t : Session σ}
      (h : Tests trace body m (emit (trace.discarded || trace.successes) (fun _ => .unused var) s).2 q k t) :
      Tests trace (.unused var witness body) m s q k t
  | suchThat {π α : Type} [Literal π] [Literal α] {var : String} {sampler : Sampler σ π α}
      {guard : α → String} {body : α → Statement σ} {x : π} {q : Statement σ} {m j k : Bool}
      {s u t : Session σ} (hvisit : Visits trace var sampler (subtypeBody trace guard body) m s x j u)
      (h : Tests trace (body (sampler.interpret x)) j u q k t) :
      Tests trace (.suchThat var sampler guard body) m s q k t
  | firstInstance {var : String} {family : Ty → Statement σ} {q : Statement σ} {m k : Bool}
      {s t : Session σ} (h : Tests trace (family .integer) m s q k t) :
      Tests trace (.forAllTypes var family) m s q k t
  | secondInstance {var : String} {family : Ty → Statement σ} {q : Statement σ} {m k : Bool}
      {s t : Session σ} (hfirst : ((family .integer).run trace m s).1.isSuccess = true)
      (h : Tests trace (family .string) m ((family .integer).run trace m s).2 q k t) :
      Tests trace (.forAllTypes var family) m s q k t
  | preparing {change : σ → σ} {body q : Statement σ} {m k : Bool} {s t : Session σ}
      (h : Tests trace body m { s with world := change s.world } q k t) :
      Tests trace (.preparing change body) m s q k t

variable {trace : TraceToggles} {p q : Statement σ} {m k : Bool} {s t : Session σ} {view : Session σ → γ}

/-- The body of a quantifier over a subtype leaves alone what the statement in it does. -/
theorem keeps_subtypeBody {α : Type} (hview : ShowsDrawsOnly view trace) (guard : α → String)
    {body : α → Statement σ} {a : α} (hbody : (body a).DrawsKeep view) (m : Bool) :
    Keeps view (subtypeBody trace guard body a m) :=
  keeps_run hview hbody m

/-- What draws do not change is the same in each session in which a part of a statement is tested. -/
theorem Tests.view_eq (hview : ShowsDrawsOnly view trace) (h : p.Tests trace m s q k t)
    (hp : p.DrawsKeep view) : view t = view s := by
  -- A part is tested in the session that the tests before it have led to, and these leave the view alone.
  induction h with
  | self => rfl
  | not _ ih => exact ih hp
  | andLeft _ ih | orLeft _ ih => exact ih hp.1
  | andRight _ ih | orRight _ _ ih => exact (ih hp.2).trans (keeps_run hview hp.1 _ _)
  | iff _ ih => exact ih ⟨⟨hp.1, hp.2⟩, hp.1, hp.2⟩
  | forAll hvisit _ ih =>
    exact (ih (hp.2 _)).trans (hvisit.view_eq hview hp.1 fun x m => keeps_run hview (hp.2 x) m)
  | guarded _ ih => exact ih (hp rfl)
  | unused _ ih => exact (ih hp).trans (hview.emit (fun t => t.discarded || t.successes) rfl _ _)
  | suchThat hvisit _ ih =>
    exact (ih (hp.2 _)).trans (hvisit.view_eq hview hp.1 fun x m => keeps_subtypeBody hview _ (hp.2 x) m)
  | firstInstance _ ih => exact ih hp.1
  | secondInstance _ _ ih => exact (ih hp.2).trans (keeps_run hview hp.1 _ _)
  | preparing _ ih => exact (ih hp).trans (hview.stateful (modify _) _)

end Statement

end Falsify
