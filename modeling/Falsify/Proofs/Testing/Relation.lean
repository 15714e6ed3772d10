import Falsify.Proofs.Testing.Run

/-!
# Two runs side by side

A test takes three kinds of steps: it draws from a sampler, it lets an atom or a preparation change the world,
and it writes to the trace.  If each of these takes related sessions to related sessions, then so do searches
and whole tests, and both runs answer the same.  The trace toggles of the two runs need not agree, and neither
need their worlds; their samplers may give different values, as long as they offer the same candidates.

What one run leaves alone is the case of a run beside itself, where the relation says that the sessions are
equal and what has been left alone so far.

## Key results

- `Tester.Relates`: two steps that answer the same and keep sessions related; closed under what tests are
  made of.
- `Search.relates_minimize`, `relates_settled`, `relates_testBound`: a search and the test of a bound variable
  keep sessions related, if the draws and the tests of the body do.
- `Statement.relates_run`: a test keeps sessions related, if the draws of its samplers do.
-/

namespace Falsify

open Tester

variable {σ τ π α β : Type}

/-! ## Steps -/

namespace Tester

/-- From related sessions, the two steps answer the same and lead to related sessions. -/
def Relates (rel : Session σ → Session τ → Prop) (f : Tester σ α) (g : Tester τ α) : Prop :=
  ∀ s t, rel s t → (f s).1 = (g t).1 ∧ rel (f s).2 (g t).2

namespace Relates

variable {rel : Session σ → Session τ → Prop} {f : Tester σ α} {g : Tester τ α}

theorem pure (a : α) : Relates rel (Pure.pure a) (Pure.pure a) := fun _ _ h => ⟨rfl, h⟩

/-- Steps that follow related steps, and are related for every answer, are related together. -/
theorem bind {k : α → Tester σ β} {l : α → Tester τ β} (h : Relates rel f g)
    (hk : ∀ a, Relates rel (k a) (l a)) : Relates rel (f >>= k) (g >>= l) := by
  intro s t hst
  obtain ⟨hanswer, hrel⟩ := h s t hst
  -- The answers agree, so both sides go on with related computations.
  have hnext := hk (f s).1 (f s).2 (g t).2 hrel
  rw [hanswer] at hnext
  show (k (f s).1 (f s).2).1 = _ ∧ rel (k (f s).1 (f s).2).2 _
  rw [hanswer]
  exact hnext

theorem map (e : α → β) (h : Relates rel f g) : Relates rel (e <$> f) (e <$> g) :=
  h.bind fun a => pure (e a)

theorem ite {c : Prop} [Decidable c] {f' : Tester σ α} {g' : Tester τ α} (h : Relates rel f g)
    (h' : Relates rel f' g') : Relates rel (if c then f else f') (if c then g else g') := by
  split
  · exact h
  · exact h'

end Relates

/-- Related sessions stay related when a line is written under the toggles of each.  A line is switched by a
    function of the toggles that is off when all of them are. -/
def RelatesLines (rel : Session σ → Session τ → Prop) (trace trace' : TraceToggles) : Prop :=
  ∀ switch : TraceToggles → Bool, switch {} = false → ∀ line,
    Relates rel (Tester.emit (switch trace) line) (Tester.emit (switch trace') line)

/-- They also stay related when the world is changed in both. -/
structure RelatesSteps (rel : Session σ → Session σ → Prop) (trace trace' : TraceToggles) : Prop where
  emit : RelatesLines rel trace trace'
  stateful : ∀ {α : Type} (f : StateM σ α), Relates rel (Tester.stateful f) (Tester.stateful f)

end Tester

/-! ## Searches and bound variables -/

section Binding

variable [Literal π] {rel : Session σ → Session τ → Prop} {trace trace' : TraceToggles} {var : String}
  {sampler : Sampler σ π α} {sampler' : Sampler τ π β} {body : Search.Body σ α} {body' : Search.Body τ β}

/-- Rounds keep sessions related if the tests of their bodies do. -/
theorem Search.relates_firstFailing {interpret : π → α} {interpret' : π → β}
    (hlines : RelatesLines rel trace trace')
    (hbody : ∀ p m, Relates rel (body (interpret p) m) (body' (interpret' p) m)) (cs : List π) :
    Relates rel (firstFailing trace var interpret body cs) (firstFailing trace' var interpret' body' cs) := by
  induction cs with
  | nil => exact .pure none
  | cons c cs ih =>
    -- A line, a test and the rest of the round: the outcome is the same on both sides, so both stop or neither
    -- does.
    refine .bind (hlines (·.candidates) rfl _) fun _ => .bind (hbody c false) fun r => ?_
    exact .ite (.pure _) ih

/-- Descents do as well, as both searches are offered the same candidates. -/
theorem Search.relates_descend (hlines : RelatesLines rel trace trace')
    (hshrinks : sampler'.shrinks = sampler.shrinks)
    (hbody : ∀ p m, Relates rel (body (sampler.interpret p) m) (body' (sampler'.interpret p) m))
    (p : π) (r : Outcome) (steps : UInt64) :
    Relates rel (descend trace var sampler body p r steps) (descend trace' var sampler' body' p r steps) := by
  intro s t hst
  induction sampler.wf.apply p generalizing r steps s t with
  | intro p _ ih =>
    have hoffered : rel (offered trace var sampler p s) (offered trace' var sampler' p t) := by
      rw [offered, offered, hshrinks]
      exact (hlines (·.candidates) rfl _ s t hst).2
    have hsame : Relates rel (firstFailing trace var sampler.interpret body (sampler.shrinks p))
        (firstFailing trace' var sampler'.interpret body' (sampler.shrinks p)) :=
      relates_firstFailing hlines hbody (sampler.shrinks p)
    obtain ⟨hfound, hafter⟩ := hsame _ _ hoffered
    rcases hround : firstFailing trace var sampler.interpret body (sampler.shrinks p)
      (offered trace var sampler p s) with ⟨found, u⟩
    rcases hround' : firstFailing trace' var sampler'.interpret body' (sampler.shrinks p)
      (offered trace' var sampler' p t) with ⟨found', v⟩
    rw [hround, hround'] at hfound hafter
    obtain rfl : found = found' := hfound
    rw [descend_eq, descend_eq, hshrinks, hround, hround']
    -- Both rounds have found the same, so both searches go on in the same way.
    cases found with
    | none => exact ⟨rfl, (hlines (·.shrinks) rfl (fun _ => .minimal var (literal p)) u v hafter).2⟩
    | some found =>
      have hc : found.1 ∈ sampler.shrinks p := (mem_of_firstFailing (congrArg Prod.fst hround)).1
      exact ih found.1 hc found.2 (steps + 1) _ _
        (hlines (·.shrinks) rfl (fun _ => .shrunk var (literal found.1) (literal p)) u v hafter).2

/-- Searches keep sessions related, if the tests of their bodies do. -/
theorem Search.relates_minimize (hlines : RelatesLines rel trace trace')
    (hshrinks : sampler'.shrinks = sampler.shrinks)
    (hbody : ∀ p m, Relates rel (body (sampler.interpret p) m) (body' (sampler'.interpret p) m))
    (p : π) (r : Outcome) :
    Relates rel (minimize trace var sampler body p r) (minimize trace' var sampler' body' p r) :=
  .bind (hlines (·.shrinks) rfl _) fun _ => .bind (hlines (·.shrinks) rfl _) fun _ =>
    relates_descend hlines hshrinks hbody p r 0

/-- Bound variables settle on the same proxy with the same outcome, if the draws of their samplers keep
    sessions related too. -/
theorem relates_settled (hlines : RelatesLines rel trace trace')
    (hdraw : Relates rel (draw sampler.draw) (draw sampler'.draw))
    (hshrinks : sampler'.shrinks = sampler.shrinks)
    (hbody : ∀ p m, Relates rel (body (sampler.interpret p) m) (body' (sampler'.interpret p) m))
    (minimize : Bool) :
    Relates rel (settled trace var sampler body minimize) (settled trace' var sampler' body' minimize) := by
  -- Both runs draw the same sample, so they test the body at it and search from it alike.
  refine .bind hdraw fun p => ?_
  refine .bind (hlines (fun t => t.successes || t.discarded) rfl _) fun _ => ?_
  refine .bind (hbody p minimize) fun r => ?_
  refine .ite (.bind (hlines (·.successes) rfl _) fun _ => ?_) (.pure _)
  exact .ite (Search.relates_minimize hlines hshrinks hbody p r) (.pure _)

/-- If their samplers also give the same values, they are reported alike. -/
theorem relates_testBound [Literal α] {sampler' : Sampler τ π α} {body' : Search.Body τ α}
    (hlines : RelatesLines rel trace trace')
    (hdraw : Relates rel (draw sampler.draw) (draw sampler'.draw))
    (hshrinks : sampler'.shrinks = sampler.shrinks) (hinterpret : sampler'.interpret = sampler.interpret)
    (hbody : ∀ p m, Relates rel (body (sampler.interpret p) m) (body' (sampler.interpret p) m))
    (minimize : Bool) :
    Relates rel (testBound trace var sampler body minimize) (testBound trace' var sampler' body' minimize) := by
  have hreport : boundReport var sampler' = boundReport var sampler := by
    funext found
    rw [boundReport, boundReport, boundText, boundText, hinterpret]
  rw [testBound_eq, testBound_eq, hreport]
  refine .map _ (relates_settled hlines hdraw hshrinks (fun p m => ?_) minimize)
  rw [hinterpret]
  exact hbody p m

end Binding

/-! ## Statements -/

namespace Statement

/-- Every draw from a sampler of the statement has the property `P`. -/
def Draws (P : (π : Type) → StateM (Source σ) π → Prop) : Statement σ → Prop
  | atom _ => True
  | not p => p.Draws P
  | and p q => p.Draws P ∧ q.Draws P
  | or p q => p.Draws P ∧ q.Draws P
  | iff p q => p.Draws P ∧ q.Draws P
  | forAll _ sampler body => P _ sampler.draw ∧ ∀ p, (body (sampler.interpret p)).Draws P
  | guarded _ holds body => holds = true → body.Draws P
  | unused _ _ body => body.Draws P
  | suchThat _ sampler _ body => P _ sampler.draw ∧ ∀ p, (body (sampler.interpret p)).Draws P
  | forAllTypes _ family => (family .integer).Draws P ∧ (family .string).Draws P
  | preparing _ body => body.Draws P

theorem Draws.mono {P Q : (π : Type) → StateM (Source σ) π → Prop} (h : ∀ π d, P π d → Q π d)
    {p : Statement σ} (hp : p.Draws P) : p.Draws Q := by
  induction p with
  | atom => trivial
  | not p ih | unused _ _ p ih | preparing _ p ih => exact ih hp
  | and p q ihp ihq | or p q ihp ihq | iff p q ihp ihq => exact ⟨ihp hp.1, ihq hp.2⟩
  | forAll _ sampler body ih | suchThat _ sampler _ body ih =>
    exact ⟨h _ _ hp.1, fun p => ih _ (hp.2 p)⟩
  | guarded _ _ body ih => exact fun holds => ih (hp holds)
  | forAllTypes _ family ih => exact ⟨ih .integer hp.1, ih .string hp.2⟩

theorem draws_of_forall {P : (π : Type) → StateM (Source σ) π → Prop} (h : ∀ π d, P π d)
    (p : Statement σ) : p.Draws P := by
  induction p with
  | atom => trivial
  | not p ih | unused _ _ p ih | preparing _ p ih => exact ih
  | and p q ihp ihq | or p q ihp ihq | iff p q ihp ihq => exact ⟨ihp, ihq⟩
  | forAll _ sampler body ih | suchThat _ sampler _ body ih => exact ⟨h _ _, fun _ => ih _⟩
  | guarded _ _ body ih => exact fun _ => ih
  | forAllTypes _ family ih => exact ⟨ih .integer, ih .string⟩

section

variable {rel : Session σ → Session σ → Prop} {trace trace' : TraceToggles}

/-- Disjunctions keep sessions related if their parts do. -/
private theorem relates_run_or {p q : Statement σ} {minimize : Bool}
    (hp : Relates rel (p.run trace minimize) (p.run trace' minimize))
    (hq : Relates rel (q.run trace minimize) (q.run trace' minimize)) :
    Relates rel ((p.or q).run trace minimize) ((p.or q).run trace' minimize) :=
  .bind hp fun _ => .ite (.pure _) (.bind hq fun _ => .pure _)

/-- A test keeps sessions related, if the draws of its samplers do. -/
theorem relates_run (hrel : RelatesSteps rel trace trace') {p : Statement σ}
    (hp : p.Draws fun _ d => Relates rel (draw d) (draw d)) (minimize : Bool) :
    Relates rel (p.run trace minimize) (p.run trace' minimize) := by
  -- The flag changes on the way down: a body is also tested by searches, without a search of its own.
  induction p generalizing minimize with
  | atom a => exact .bind (hrel.stateful _) fun _ => .pure _
  | not p ih => exact .bind (ih hp minimize) fun _ => .pure _
  | and p q ihp ihq => exact .bind (ihp hp.1 minimize) fun _ => .bind (ihq hp.2 minimize) fun _ => .pure _
  | or p q ihp ihq => exact relates_run_or (ihp hp.1 minimize) (ihq hp.2 minimize)
  | iff p q ihp ihq =>
    have hl := ihp hp.1 minimize
    have hr := ihq hp.2 minimize
    rw [run_iff, run_iff]
    refine .map _ (relates_run_or (.bind hl fun _ => .bind hr fun _ => .pure _) ?_)
    exact .bind (.bind hl fun _ => .pure _) fun _ => .bind (.bind hr fun _ => .pure _) fun _ => .pure _
  | forAll var sampler body ih =>
    exact relates_testBound hrel.emit hp.1 rfl rfl (fun p m => ih _ (hp.2 p) m) minimize
  | guarded guard holds body ih =>
    cases holds with
    | false => exact .bind (hrel.emit (fun t => t.discarded || t.successes) rfl _) fun _ => .pure _
    | true => exact .bind (ih (hp rfl) minimize) fun _ => .pure _
  | unused var witness body ih =>
    refine .bind (hrel.emit (fun t => t.discarded || t.successes) rfl _) fun _ => ?_
    exact .bind (ih hp minimize) fun _ => .pure _
  | suchThat var sampler guard body ih =>
    refine .bind (relates_testBound hrel.emit hp.1 rfl rfl (fun p m => ?_) minimize) fun _ => .pure _
    exact .bind (ih _ (hp.2 p) m) fun _ => .pure _
  | forAllTypes var family ih =>
    refine .bind (ih .integer hp.1 minimize) fun _ => .ite (.pure _) ?_
    exact .bind (ih .string hp.2 minimize) fun _ => .pure _
  | preparing change body ih => exact .bind (hrel.stateful _) fun _ => ih hp minimize

end

end Statement

end Falsify
