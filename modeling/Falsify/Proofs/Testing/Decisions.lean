import Falsify.Proofs.Testing.Relation

/-!
# The atoms that a test decides

A world can be given a record of the atoms that are decided in it.  A statement over such a world, whose atoms
write themselves down and which is otherwise as before, is tested as before, and the record at the end lists
the decisions that the test has made: which atoms, in which order, and each in which state of the world.  So
two tests make the same decisions if the same atoms come up on both lists, one after the other.

## Key results

- `Statement.decisions`: the decisions that a test makes, in order.
- `Statement.run_recorded`: keeping the record changes neither the outcome nor the session.
-/

namespace Falsify

open Tester

variable {σ π α : Type}

/-- A world with a record of the atoms that have been decided in it, each with the state that the world was in
    when it was decided. -/
structure Recorded (σ : Type) where
  world : σ
  decisions : List (Atom σ × σ) := []

/-- The session in the world alone. -/
def Session.unrecorded (s : Session (Recorded σ)) : Session σ :=
  { gen := s.gen, world := s.world.world, trace := s.trace }

/-- The session with an empty record. -/
def Session.recorded (s : Session σ) : Session (Recorded σ) :=
  { gen := s.gen, world := { world := s.world }, trace := s.trace }

/-- The atom that also puts itself on record. -/
def Atom.recorded (a : Atom σ) : Atom (Recorded σ) where
  text := a.text
  holds w :=
    let decided := a.holds w.world
    (decided.1, { world := decided.2, decisions := w.decisions ++ [(a, w.world)] })

/-- The sampler that leaves the record alone. -/
def Sampler.recorded (s : Sampler σ π α) : Sampler (Recorded σ) π α where
  draw source :=
    let drawn := s.draw { gen := source.gen, world := source.world.world }
    (drawn.1, { gen := drawn.2.gen, world := { source.world with world := drawn.2.world } })
  shrinks := s.shrinks
  interpret := s.interpret
  wf := s.wf

namespace Statement

/-- The statement whose atoms put themselves on record. -/
def recorded : Statement σ → Statement (Recorded σ)
  | atom a => atom a.recorded
  | not p => not p.recorded
  | and p q => and p.recorded q.recorded
  | or p q => or p.recorded q.recorded
  | iff p q => iff p.recorded q.recorded
  | forAll var sampler body => forAll var sampler.recorded fun a => (body a).recorded
  | guarded guard holds body => guarded guard holds body.recorded
  | unused var witness body => unused var witness body.recorded
  | suchThat var sampler guard body => suchThat var sampler.recorded guard fun a => (body a).recorded
  | forAllTypes var family => forAllTypes var fun t => (family t).recorded
  | preparing change body => preparing (fun w => { w with world := change w.world }) body.recorded

/-- The decisions that a test makes, in order: each atom with the world in which it is decided. -/
def decisions (trace : TraceToggles) (p : Statement σ) (minimize : Bool) (s : Session σ) :
    List (Atom σ × σ) :=
  (p.recorded.run trace minimize s.recorded).2.world.decisions

theorem text_recorded (p : Statement σ) : p.recorded.text = p.text := by
  induction p with
  | atom | forAll | guarded | suchThat | forAllTypes => rfl
  | not p ih => rw [recorded, text_not, text_not, ih]
  | and p q ihp ihq => rw [recorded, text_and, text_and, ihp, ihq]
  | or p q ihp ihq => rw [recorded, text_or, text_or, ihp, ihq]
  | iff p q ihp ihq => rw [recorded, text_iff, text_iff, ihp, ihq]
  | unused var witness body ih => rw [recorded, text, text, ih]
  | preparing change body ih => rw [recorded, text, text, ih]

end Statement

/-! ## Recording and testing -/

namespace Tester

/-- The two steps do the same in the world, and the first one may write to the record. -/
abbrev RelatesRecorded {γ : Type} (f : Tester (Recorded σ) γ) (g : Tester σ γ) : Prop :=
  Relates (fun s t => s.unrecorded = t) f g

/-- Writing a line does not touch the record. -/
theorem relatesLines_recorded (trace : TraceToggles) :
    RelatesLines (fun (s : Session (Recorded σ)) t => s.unrecorded = t) trace trace := by
  rintro switch - line s _ rfl
  refine ⟨rfl, ?_⟩
  cases hon : switch trace <;> rfl

/-- An atom that puts itself on record is decided as before. -/
theorem relatesRecorded_holds (a : Atom σ) :
    RelatesRecorded (stateful a.recorded.holds) (stateful a.holds) := by
  rintro s _ rfl
  exact ⟨rfl, rfl⟩

/-- A draw leaves the record alone. -/
theorem relatesRecorded_draw (sampler : Sampler σ π α) :
    RelatesRecorded (draw sampler.recorded.draw) (draw sampler.draw) := by
  rintro s _ rfl
  exact ⟨rfl, rfl⟩

end Tester

namespace Statement

/-- Keeping the record changes neither the outcome nor the rest of the session. -/
theorem relatesRecorded_run (p : Statement σ) (trace : TraceToggles) (minimize : Bool) :
    RelatesRecorded (p.recorded.run trace minimize) (p.run trace minimize) := by
  -- One case for each constructor: what is run in turn is related in turn, and the atoms alone add to the record.
  induction p generalizing minimize with
  | atom a => exact .bind (relatesRecorded_holds a) fun _ => .pure _
  | not p ih =>
    refine .bind (ih minimize) fun r => ?_
    rw [text_recorded]
    exact .pure _
  | and p q ihp ihq => exact .bind (ihp minimize) fun _ => .bind (ihq minimize) fun _ => .pure _
  | or p q ihp ihq =>
    exact .bind (ihp minimize) fun _ => .ite (.pure _) (.bind (ihq minimize) fun _ => .pure _)
  | iff p q ihp ihq =>
    refine .bind (.bind (ihp minimize) fun _ => .bind (ihq minimize) fun _ => .pure _) fun _ => .ite (.pure _) ?_
    refine .bind (.bind (ihp minimize) fun _ => .bind (ihq minimize) fun _ => ?_) fun _ => .pure _
    rw [text_recorded, text_recorded]
    exact .pure _
  | forAll var sampler body ih =>
    exact relates_testBound (relatesLines_recorded trace) (relatesRecorded_draw sampler) rfl rfl
      (fun p m => ih _ m) minimize
  | guarded guard holds body ih =>
    cases holds with
    | false =>
      exact .bind (relatesLines_recorded trace (fun t => t.discarded || t.successes) rfl _) fun _ => .pure _
    | true => exact .bind (ih minimize) fun _ => .pure _
  | unused var witness body ih =>
    refine .bind (relatesLines_recorded trace (fun t => t.discarded || t.successes) rfl _) fun _ => ?_
    exact .bind (ih minimize) fun _ => .pure _
  | suchThat var sampler guard body ih =>
    refine .bind (relates_testBound (relatesLines_recorded trace) (relatesRecorded_draw sampler) rfl rfl
      (fun p m => ?_) minimize) fun _ => .pure _
    exact .bind (ih _ m) fun _ => .pure _
  | forAllTypes var family ih =>
    exact .bind (ih .integer minimize) fun _ => .ite (.pure _) (.bind (ih .string minimize) fun _ => .pure _)
  | preparing change body ih =>
    refine .bind ?_ fun _ => ih minimize
    -- The change is made to the world behind the record.
    rintro s _ rfl
    exact ⟨rfl, rfl⟩

/-- A test that begins with an empty record has the outcome that it has without one. -/
theorem run_recorded (p : Statement σ) (trace : TraceToggles) (minimize : Bool) (s : Session σ) :
    (p.recorded.run trace minimize s.recorded).1 = (p.run trace minimize s).1 ∧
      (p.recorded.run trace minimize s.recorded).2.unrecorded = (p.run trace minimize s).2 :=
  p.relatesRecorded_run trace minimize s.recorded s rfl

end Statement

end Falsify
