import Falsify.Proofs.Suite.History
import Falsify.Proofs.Testing.Decisions

/-!
# Reporting does not matter

Two runs from sessions with the same source, under different trace toggles, stay together: they answer the
same and lead to the same source, so only their traces can differ.  The world is part of the source, and it
may be one that keeps a record of the atoms that are decided in it.  So the two runs also decide the same atoms
in the same order.

## Key results

- `Tester.SameButTrace`: two steps that differ in what they write to the trace only.
- `Search.sameButTrace_minimize`, `Statement.sameButTrace_run`: searches and tests under different toggles.
- `Suite.RelatesTrials.run`: suites whose trials keep sessions related leave the same report.
- `Suite.decisions`: the decisions that a suite makes, in order.
- `reporting_irrelevant`: the settings about reports change no run, and with all toggles off nothing is
  traced.
-/

namespace Falsify

open Tester

variable {σ τ π α : Type}

/-! ## Two runs -/

namespace Tester

/-- Two steps answer the same and lead to the same source, from sessions that differ in the trace only. -/
def SameButTrace (f g : Tester σ α) : Prop :=
  ∀ s t, s.toSource = t.toSource → (f s).1 = (g t).1 ∧ (f s).2.toSource = (g t).2.toSource

theorem SameButTrace.draw (d : StateM (Source σ) α) : SameButTrace (Tester.draw d) (Tester.draw d) := by
  intro s t hst
  show (d s.toSource).1 = (d t.toSource).1 ∧ (d s.toSource).2 = (d t.toSource).2
  rw [hst]
  exact ⟨rfl, rfl⟩

theorem SameButTrace.resize (size : UInt64) :
    SameButTrace (σ := σ) (Tester.resize size) (Tester.resize size) := by
  intro s t hst
  refine ⟨rfl, ?_⟩
  show { s.toSource with gen := s.gen.withSize size } = { t.toSource with gen := t.gen.withSize size }
  rw [hst]

/-- A line may be switched on in one run and off in the other. -/
theorem relatesSteps_toSource (trace trace' : TraceToggles) :
    RelatesSteps (fun s t : Session σ => s.toSource = t.toSource) trace trace' where
  emit switch _ line s t hst := by
    refine ⟨rfl, ?_⟩
    show (emit (switch trace) line s).2.toSource = (emit (switch trace') line t).2.toSource
    rw [toSource_emit, toSource_emit, hst]
  stateful f := SameButTrace.draw (Source.stateful f)

end Tester

/-- Searches under different toggles find the same, if the tests of their bodies do. -/
theorem Search.sameButTrace_minimize [Literal π] {trace trace' : TraceToggles} {var : String}
    {sampler : Sampler σ π α} {body body' : Search.Body σ α}
    (hbody : ∀ p m, SameButTrace (body (sampler.interpret p) m) (body' (sampler.interpret p) m))
    (p : π) (r : Outcome) :
    SameButTrace (minimize trace var sampler body p r) (minimize trace' var sampler body' p r) :=
  relates_minimize (relatesSteps_toSource trace trace').emit rfl hbody p r

namespace Statement

/-- Draws do not look at the trace. -/
theorem draws_sameButTrace (p : Statement σ) : p.Draws fun _ d => SameButTrace (draw d) (draw d) :=
  p.draws_of_forall fun _ d => .draw d

/-- Tests under different toggles have the same outcome and lead to the same source. -/
theorem sameButTrace_run (p : Statement σ) (trace trace' : TraceToggles) (minimize : Bool) :
    SameButTrace (p.run trace minimize) (p.run trace' minimize) :=
  relates_run (relatesSteps_toSource trace trace') p.draws_sameButTrace minimize

end Statement

/-- Records that are begun in sessions with the same source have the same source. -/
theorem Session.toSource_recorded {s t : Session σ} (hst : s.toSource = t.toSource) :
    s.recorded.toSource = t.recorded.toSource :=
  congrArg (fun source : Source σ => ({ gen := source.gen, world := { world := source.world } } :
    Source (Recorded σ))) hst

/-- Tests under different toggles make the same decisions. -/
theorem Statement.decisions_congr (p : Statement σ) (trace trace' : TraceToggles) (minimize : Bool)
    {s t : Session σ} (hst : s.toSource = t.toSource) :
    p.decisions trace minimize s = p.decisions trace' minimize t :=
  congrArg (·.world.decisions)
    (p.recorded.sameButTrace_run trace trace' minimize _ _ (Session.toSource_recorded hst)).2

/-! ## Suites -/

/-- Two configurations agree on which trials are run. -/
structure Config.SameTrials (cfg cfg' : Config) : Prop where
  trials : cfg.trials = cfg'.trials
  maxSize : cfg.maxSize = cfg'.maxSize
  retries : cfg.retries = cfg'.retries

namespace Suite

variable {ρ : Type} {rel : Session σ → Session ρ → Prop} {cfg cfg' : Config} {p : Statement σ} {q : Statement ρ}

/-- The trials of two suites keep sessions related: the two configurations agree on which trials are run, and all
    that a trial does keeps sessions related. -/
structure RelatesTrials (rel : Session σ → Session ρ → Prop) (cfg cfg' : Config) (p : Statement σ)
    (q : Statement ρ) : Prop where
  same : cfg.SameTrials cfg'
  lines : RelatesLines rel cfg.trace cfg'.trace
  resize : ∀ size, Relates rel (Tester.resize size) (Tester.resize size)
  test : Relates rel (p.run cfg.trace true) (q.run cfg'.trace true)

namespace RelatesTrials

/-- Attempts keep sessions related. -/
theorem attempt (h : RelatesTrials rel cfg cfg' p q) (left made : Nat) :
    Relates rel (Suite.attempt cfg.trace p left made) (Suite.attempt cfg'.trace q left made) := by
  induction left generalizing made with
  | zero => exact .bind h.test fun _ => .pure _
  | succ left ih =>
    -- Both attempts give up or neither does, as they have the same outcome.
    refine .bind h.test fun _ => .ite ?_ (.pure _)
    exact .bind (h.lines (fun t => t.discarded && made == 0) rfl _) fun _ => ih (made + 1)

/-- Trials keep sessions related: they are made at the same size and with the same budget. -/
theorem trial (h : RelatesTrials rel cfg cfg' p q) (index : UInt64) :
    Relates rel (Suite.trial cfg p index) (Suite.trial cfg' q index) := by
  have hsize : sizeOfTrial index cfg.trials cfg.maxSize = sizeOfTrial index cfg'.trials cfg'.maxSize := by
    rw [h.same.trials, h.same.maxSize]
  have hbudget : cfg.budget = cfg'.budget := by
    rw [Config.budget, h.same.retries, Config.budget]
  unfold Suite.trial attempts
  rw [hsize, hbudget]
  -- A trial sets the size, announces itself and makes its attempts; the world is related throughout.
  refine .bind (h.resize _) fun _ => .bind (h.lines (·.successes) rfl _) fun _ => ?_
  exact .bind (h.attempt _ 0) fun _ => .pure _

/-- Such suites leave the same report and the same clock, and related sessions. -/
theorem trialsFrom (h : RelatesTrials rel cfg cfg' p q) (now : StateM τ Timestamp) (left : Nat) (report : Report)
    {s : Session σ} {t : Session ρ} (hst : rel s t) (clock : τ) :
    let ran := Suite.trialsFrom now cfg p left report s clock
    let ran' := Suite.trialsFrom now cfg' q left report t clock
    ran.1.1 = ran'.1.1 ∧ rel ran.1.2 ran'.1.2 ∧ ran.2 = ran'.2 := by
  induction left generalizing report s t clock with
  | zero => exact ⟨rfl, hst, rfl⟩
  | succ left ih =>
    obtain ⟨hdone, hrel⟩ := h.trial (.ofNat report.trials.size) s t hst
    rw [trialsFrom_succ, trialsFrom_succ]
    dsimp only
    rw [hdone]
    -- The two suites stop after the same trial, since they have recorded the same of it.
    split
    · exact ⟨rfl, hrel, rfl⟩
    · exact ih _ hrel _

/-- Suites with such trials leave the same report and the same clock, and related sessions. -/
theorem run (h : RelatesTrials rel cfg cfg' p q) (now : StateM τ Timestamp) {s : Session σ} {t : Session ρ}
    (hst : rel s t) (clock : τ) :
    let ran := Suite.run now cfg p s clock
    let ran' := Suite.run now cfg' q t clock
    ran.1.1 = ran'.1.1 ∧ rel ran.1.2 ran'.1.2 ∧ ran.2 = ran'.2 := by
  have hrun := h.trialsFrom now cfg.trials.toNat {} hst clock
  unfold Suite.run
  rwa [← h.same.trials]

end RelatesTrials

/-- Trials under different toggles keep sessions alike but for the trace. -/
theorem relatesTrials_toSource (h : cfg.SameTrials cfg') (p : Statement σ) :
    RelatesTrials (fun s t => s.toSource = t.toSource) cfg cfg' p p where
  same := h
  lines := (relatesSteps_toSource cfg.trace cfg'.trace).emit
  resize := SameButTrace.resize
  test := p.sameButTrace_run _ _ true

/-- Trials write nothing to the trace when all lines are switched off. -/
theorem relatesTrials_trace (hcfg : cfg.trace = {}) (p : Statement σ) (lines : Array TraceLine) :
    RelatesTrials (fun s t => s = t ∧ s.trace = lines) cfg cfg p p where
  same := ⟨rfl, rfl, rfl⟩
  lines := by
    rw [hcfg]
    exact (showsDrawsOnly_trace.relatesSteps lines).emit
  resize := by
    rintro size s _ ⟨rfl, rfl⟩
    exact ⟨rfl, rfl, rfl⟩
  test := by
    rw [hcfg]
    exact keeps_iff_relates.1 (p.trace_run true) lines

/-! ### Decisions -/

/-- The decisions that a suite makes, in order. -/
def decisions (now : StateM τ Timestamp) (cfg : Config) (p : Statement σ) (s : Session σ) (clock : τ) :
    List (Atom σ × σ) :=
  (Suite.run now cfg p.recorded s.recorded clock).1.2.world.decisions

/-- Keeping a record of decisions changes no trial. -/
theorem relatesTrials_recorded (cfg : Config) (p : Statement σ) :
    RelatesTrials (fun s t => s.unrecorded = t) cfg cfg p.recorded p where
  same := ⟨rfl, rfl, rfl⟩
  lines := relatesLines_recorded cfg.trace
  resize := by
    rintro size s _ rfl
    exact ⟨rfl, rfl⟩
  test := p.relatesRecorded_run cfg.trace true

/-- Suites that run the same trials make the same decisions. -/
theorem decisions_congr (h : cfg.SameTrials cfg') (now : StateM τ Timestamp) (p : Statement σ) {s t : Session σ}
    (hst : s.toSource = t.toSource) (clock : τ) : decisions now cfg p s clock = decisions now cfg' p t clock := by
  obtain ⟨-, hsource, -⟩ := (relatesTrials_toSource h p.recorded).run now (Session.toSource_recorded hst) clock
  exact congrArg (·.world.decisions) hsource

end Suite

/-- **Reporting does not matter.**  Configurations that agree on the number of trials, the greatest size and
    the retries run the same suites, however they differ otherwise: the reports are the same, and so are the
    generator and the world at the end.  They decide the same atoms in the same order, each in the same state of
    the world; the record that tells this changes neither the report nor the session.  The same holds of single
    tests, and searches under any toggles find the same.  With all toggles off, nothing is written to the trace. -/
theorem reporting_irrelevant {cfg cfg' : Config} (hcfg : cfg.SameTrials cfg') (σ : Type) :
    (∀ (τ : Type) (now : StateM τ Timestamp) (p : Statement σ) (s t : Session σ) (clock : τ),
      s.toSource = t.toSource →
      let ran := Suite.run now cfg p s clock
      let ran' := Suite.run now cfg' p t clock
      ran.1.1 = ran'.1.1 ∧ ran.1.2.toSource = ran'.1.2.toSource ∧ ran.2 = ran'.2 ∧
        Suite.decisions now cfg p s clock = Suite.decisions now cfg' p t clock) ∧
    (∀ (p : Statement σ) (minimize : Bool),
      SameButTrace (p.run cfg.trace minimize) (p.run cfg'.trace minimize) ∧
        ∀ s t : Session σ, s.toSource = t.toSource →
          p.decisions cfg.trace minimize s = p.decisions cfg'.trace minimize t) ∧
    (∀ (τ : Type) (now : StateM τ Timestamp) (p : Statement σ) (s : Session σ) (clock : τ),
      let recorded := Suite.run now cfg p.recorded s.recorded clock
      let ran := Suite.run now cfg p s clock
      recorded.1.1 = ran.1.1 ∧ recorded.1.2.unrecorded = ran.1.2 ∧
        ∀ minimize, (p.recorded.run cfg.trace minimize s.recorded).1 = (p.run cfg.trace minimize s).1 ∧
          (p.recorded.run cfg.trace minimize s.recorded).2.unrecorded = (p.run cfg.trace minimize s).2) ∧
    (∀ (π α : Type) [Literal π] (var : String) (sampler : Sampler σ π α) (body body' : Search.Body σ α),
      (∀ p m, SameButTrace (body (sampler.interpret p) m) (body' (sampler.interpret p) m)) →
      ∀ p r, SameButTrace (Search.minimize cfg.trace var sampler body p r)
        (Search.minimize cfg'.trace var sampler body' p r)) ∧
    (cfg.trace = {} →
      (∀ (τ : Type) (now : StateM τ Timestamp) (p : Statement σ) (s : Session σ) (clock : τ),
        (Suite.run now cfg p s clock).1.2.trace = s.trace) ∧
      (∀ (p : Statement σ) (minimize : Bool) (s : Session σ),
        (p.run cfg.trace minimize s).2.trace = s.trace) ∧
      ∀ (π α : Type) [Literal π] (var : String) (sampler : Sampler σ π α) (body : Search.Body σ α),
        (∀ p m s, (body (sampler.interpret p) m s).2.trace = s.trace) →
        ∀ p r s, (Search.minimize cfg.trace var sampler body p r s).2.trace = s.trace) := by
  -- Each part is the same argument with another relation between the sessions of the two runs: equal but for the
  -- lines, equal after erasing the record, equal with no line written.
  refine ⟨fun τ now p s t clock hst => ?_, fun p minimize => ⟨p.sameButTrace_run _ _ minimize, fun s t hst => ?_⟩,
    fun τ now p s clock => ?_, fun π α _ var sampler body body' hbody p r => ?_,
    fun hoff => ⟨fun τ now p s clock => ?_, fun p minimize s => ?_,
      fun π α _ var sampler body hbody p r s => ?_⟩⟩
  · obtain ⟨hreport, hsource, hclock⟩ := (Suite.relatesTrials_toSource hcfg p).run now hst clock
    exact ⟨hreport, hsource, hclock, Suite.decisions_congr hcfg now p hst clock⟩
  · exact p.decisions_congr _ _ minimize hst
  · have hbegin : s.recorded.unrecorded = s := rfl
    obtain ⟨hreport, hsession, -⟩ := (Suite.relatesTrials_recorded cfg p).run now hbegin clock
    exact ⟨hreport, hsession, fun minimize => p.run_recorded cfg.trace minimize s⟩
  · exact Search.sameButTrace_minimize hbody p r
  · exact ((Suite.relatesTrials_trace hoff p s.trace).run now ⟨rfl, rfl⟩ clock).2.1.2
  · rw [hoff]
    exact p.trace_run minimize s
  · rw [hoff]
    exact Search.keeps_minimize showsDrawsOnly_trace hbody p r s

/-- The default configuration and one that traces, records and is quiet run the same trials of
    `∀ x, x < 3`. -/
theorem reporting_irrelevant_default :
    let cfg : Config := {}
    let cfg' : Config :=
      { trace := .all, seed := some 7, quiet := true, record := true, recordPath := "trials.jsonl" }
    let p : Statement Unit := .forAllOf .natural "x" fun x => .decided "x < 3" (x < 3)
    cfg.SameTrials cfg' ∧ ∀ s : Session Unit,
      (Suite.run (pure default : StateM Unit Timestamp) cfg p s ()).1.1 =
        (Suite.run (pure default : StateM Unit Timestamp) cfg' p s ()).1.1 ∧
      (Suite.run (pure default : StateM Unit Timestamp) cfg p s ()).1.2.trace = s.trace := by
  intro cfg cfg' p
  have hcfg : cfg.SameTrials cfg' := ⟨rfl, rfl, rfl⟩
  obtain ⟨hsuite, -, -, -, hsilent⟩ := reporting_irrelevant hcfg Unit
  exact ⟨hcfg, fun s => ⟨(hsuite Unit _ p s s () rfl).1, (hsilent rfl).1 Unit _ p s ()⟩⟩

end Falsify
