import Falsify.Formula.Basic
import Falsify.Proofs.Testing.Frame

/-!
# Draws and the size

Draws are made under a size and leave it alone, in all samplers that the library builds: those of simple
values and of containers, mapped and scripted ones, those without candidates and those along a graph.  What
a custom sampler does to the size is up to its author: it may as well set another one, as `Sampler.resized`
does, and then nothing sets it back before the next trial.

## Key results

- `Sampler.resized`: a sampler that sets the size.
- `Ty.keepsSize_sampler`: the default samplers leave the size alone.
- `Statement.keepsSize_forAllOf`: a quantifier over a type leaves it alone if its bodies do.
- `Formula.keepsSize_statement`: so does every statement that can be written down.
-/

namespace Falsify

/-! ## Samplers -/

namespace Sampler

variable {σ π ρ α β : Type} {s : Sampler σ π α}

/-- Drawing leaves the size alone. -/
def KeepsSize (s : Sampler σ π α) : Prop := ∀ src, (s.draw src).2.gen.size = src.gen.size

/-- The sampler that sets the size and then draws as `s` does. -/
def resized (s : Sampler σ π α) (size : UInt64) : Sampler σ π α where
  draw src := s.draw { src with gen := src.gen.withSize size }
  shrinks := s.shrinks
  interpret := s.interpret
  wf := s.wf

/-- Drawing a natural number leaves the size alone. -/
theorem keepsSize_natural : (natural (σ := σ)).KeepsSize := fun _ => Gen.size_chooseNat _ _ _

theorem keepsSize_integer : (integer (σ := σ)).KeepsSize := fun _ => Gen.size_chooseInt _ _ _

theorem keepsSize_bool : (bool (σ := σ)).KeepsSize := fun _ => Gen.size_chooseBool _

theorem keepsSize_char : (char (σ := σ)).KeepsSize := fun _ => Gen.size_chooseNat _ _ _

namespace KeepsSize

/-- Drawing over and over leaves the size alone if drawing once does. -/
theorem repeated (h : s.KeepsSize) (n : Nat) (src : Source σ) :
    (Sampler.repeated s.draw n src).2.gen.size = src.gen.size := by
  induction n generalizing src with
  | zero => rfl
  | succ n ih => exact (ih (s.draw src).2).trans (h src)

/-- Lists leave the size alone if their elements do: only their length is drawn besides. -/
theorem list (h : s.KeepsSize) : s.list.KeepsSize := fun src =>
  (h.repeated _ _).trans (Gen.size_chooseNat 0 (min src.gen.size maxLength) src.gen)

/-- Optional values leave it alone if the values do. -/
theorem option (h : s.KeepsSize) : s.option.KeepsSize := fun src => by
  -- The draw that decides whether there is a value leaves the size to the draw of the value.
  have hquarter := Gen.size_chooseNat 0 3 src.gen
  show ((if (Gen.chooseNat 0 3 src.gen).1 = 0 then pure none else some <$> s.draw : StateM (Source σ) _)
    { src with gen := (Gen.chooseNat 0 3 src.gen).2 }).2.gen.size = _
  split
  · exact hquarter
  · exact (h _).trans hquarter

/-- Pairs leave it alone if both of their parts do. -/
theorem pair {t : Sampler σ ρ β} (h : s.KeepsSize) (h' : t.KeepsSize) : (s.pair t).KeepsSize := fun src =>
  (h' (s.draw src).2).trans (h src)

theorem map (h : s.KeepsSize) (f : α → β) : (s.map f).KeepsSize := h

theorem withoutShrinks (h : s.KeepsSize) : s.withoutShrinks.KeepsSize := h

/-- A script leaves the size alone, also where it is empty and draws. -/
theorem scripted (h : s.KeepsSize) (position : StateM σ Nat) (proxies : List π) :
    (s.scripted position proxies).KeepsSize := fun src => by
  simp only [Sampler.scripted, bind, StateT.bind, Source.stateful]
  -- A script moves the world on and nothing else; only an empty one draws.
  cases proxies[(position src.world).1 % proxies.length]? with
  | some p => rfl
  | none => exact h _

end KeepsSize

/-- Strings are lists of characters. -/
theorem keepsSize_string : (string (σ := σ)).KeepsSize := keepsSize_char.list

/-- Listed numbers are not drawn at all. -/
theorem keepsSize_graph (start : UInt64) (g : ShrinkGraph) : (graph (σ := σ) start g).KeepsSize := fun _ => rfl

end Sampler

/-- The default samplers leave the size alone. -/
theorem Ty.keepsSize_sampler {σ : Type} : (t : Ty) → (t.sampler (σ := σ)).KeepsSize
  | natural => Sampler.keepsSize_natural
  | integer => Sampler.keepsSize_integer
  | bool => Sampler.keepsSize_bool
  | char => Sampler.keepsSize_char
  | string => Sampler.keepsSize_string
  | list t => t.keepsSize_sampler.list
  | option t => t.keepsSize_sampler.option
  | pair s t => s.keepsSize_sampler.pair t.keepsSize_sampler

/-! ## Statements -/

/-- A quantifier over a type leaves the size alone if its bodies do. -/
theorem Statement.keepsSize_forAllOf {σ : Type} {t : Ty} {var : String} {body : t.Value → Statement σ}
    (h : ∀ v, (body v).KeepsSize) : (forAllOf t var body).KeepsSize :=
  ⟨fun s => t.keepsSize_sampler s.toSource, fun p => h (t.sampler.interpret p)⟩

namespace Formula

/-- Every sampler that can be written down leaves the size alone. -/
theorem SamplerForm.keepsSize_sampling (form : SamplerForm) (here : Ty) (env : Env) (path : Path) :
    (form.sampling here env path).sampler.KeepsSize := by
  -- Each form is built from smaller ones by a combinator that leaves the size alone.
  induction form generalizing path with
  | ofType t => exact (t.toTy here).keepsSize_sampler.map _
  | list s ih => exact (ih _).list.map _
  | option s ih => exact (ih _).option.map _
  | pair s t ihs iht => exact ((ihs _).pair (iht _)).map fun p => Datum.pair p.1 p.2
  | map s name term ih => exact (ih _).map fun v => term.eval ((name, v) :: env)
  | script s proxies ih => exact (ih _).scripted _ _
  | withoutShrinks s ih => exact (ih _).withoutShrinks
  | graph start g => exact (Sampler.keepsSize_graph start g).map _

/-- No sampler of a statement that can be written down changes the size. -/
theorem keepsSize_statement (f : Formula) (c : Context) : (f.statement c).KeepsSize := by
  -- What stands below a binder is a statement at a context that knows the bound value.
  induction f generalizing c with
  | decided | observed | counting => trivial
  | not p ih => exact ih _
  | and p q ihp ihq | or p q ihp ihq | iff p q ihp ihq => exact ⟨ihp _, ihq _⟩
  | forAll var sampler body ih | suchThat var sampler guard body ih =>
    exact ⟨fun s => sampler.keepsSize_sampling c.ty c.env (1 :: c.path) s.toSource, fun _ => ih _⟩
  | guarded guard holds body ih => exact fun _ => ih _
  | unused var t body ih =>
    cases t with
    | none => exact ih _
    | some t => exact ih _
  | forAllTypes var body ih => exact ⟨ih _, ih _⟩

end Formula

end Falsify
