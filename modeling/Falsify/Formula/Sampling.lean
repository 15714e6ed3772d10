import Falsify.Formula.Term
import Falsify.Formula.World
import Falsify.Sampler.Graph

/-! # Samplers of written statements

The samplers that written statements name: the default samplers of types, and containers, mappings, scripts
and shrink graphs built from them.  Whatever a sampler's proxies are, its values are data; a `Sampling` is
such a sampler together with the way in which its proxies are written as data. -/

namespace Falsify.Formula

/-- A type with a default sampler, in which the type at hand may occur. -/
inductive TypeForm where
  /-- The type that the nearest quantifier over types stands at. -/
  | bound
  | ty (t : Ty)
  | list (element : TypeForm)
  | option (inner : TypeForm)
  | pair (first second : TypeForm)
  deriving DecidableEq, Inhabited

/-- The type that a type form means, where `here` is the type at hand. -/
def TypeForm.toTy (here : Ty) : TypeForm → Ty
  | bound => here
  | ty t => t
  | list t => .list (t.toTy here)
  | option t => .option (t.toTy here)
  | pair s t => .pair (s.toTy here) (t.toTy here)

/-- A sampler, as data. -/
inductive SamplerForm where
  /-- The default sampler of a type. -/
  | ofType (t : TypeForm)
  | list (element : SamplerForm)
  | option (inner : SamplerForm)
  | pair (first second : SamplerForm)
  /-- The values are those of a term in which a variable stands for the values of another sampler. -/
  | map (inner : SamplerForm) (name : String) (term : Term)
  /-- The listed proxies of a sampler in turn. -/
  | script (inner : SamplerForm) (proxies : List Datum)
  /-- A sampler without candidates. -/
  | withoutShrinks (inner : SamplerForm)
  /-- A fixed number with listed candidates. -/
  | graph (start : UInt64) (graph : ShrinkGraph)
  deriving Inhabited

/-- A sampler of data whose proxies can be written as data. -/
structure Sampling where
  {π : Type}
  [literal : Literal π]
  sampler : Sampler World π Datum
  /-- A proxy as data. -/
  showProxy : π → Datum
  /-- The proxy that a datum shows. -/
  readProxy : Datum → Option π

namespace Sampling

/-- The default sampler of a type. -/
def ofTy (t : Ty) : Sampling where
  sampler := t.sampler.map t.embed
  showProxy := t.showProxy
  readProxy := t.readProxy

/-- Lists of the values of a sampler. -/
def list (s : Sampling) : Sampling :=
  have := s.literal
  { sampler := s.sampler.list.map .list
    showProxy := fun ps => .list (ps.map s.showProxy)
    readProxy := fun
      | .list items => items.mapM s.readProxy
      | _ => none }

/-- An optional value as a datum. -/
def optional : Option Datum → Datum
  | none => .none
  | some v => .some v

/-- Optional values of a sampler. -/
def option (s : Sampling) : Sampling :=
  have := s.literal
  { sampler := s.sampler.option.map optional
    showProxy := fun p => optional (p.map s.showProxy)
    readProxy := fun
      | .none => some none
      | .some v => some <$> s.readProxy v
      | _ => none }

/-- Pairs of the values of two samplers. -/
def pair (s t : Sampling) : Sampling :=
  have := s.literal
  have := t.literal
  { sampler := (s.sampler.pair t.sampler).map fun p => .pair p.1 p.2
    showProxy := fun p => .pair (s.showProxy p.1) (t.showProxy p.2)
    readProxy := fun
      | .pair v w => do return (← s.readProxy v, ← t.readProxy w)
      | _ => none }

/-- The values of a sampler after a function. -/
def map (f : Datum → Datum) (s : Sampling) : Sampling :=
  have := s.literal
  { sampler := s.sampler.map f
    showProxy := s.showProxy
    readProxy := s.readProxy }

/-- The listed proxies of a sampler in turn; data that are no proxies are left out. -/
def script (path : Path) (proxies : List Datum) (s : Sampling) : Sampling :=
  have := s.literal
  { sampler := s.sampler.scripted (World.step path) (proxies.filterMap s.readProxy)
    showProxy := s.showProxy
    readProxy := s.readProxy }

/-- A sampler without its candidates. -/
def withoutShrinks (s : Sampling) : Sampling :=
  have := s.literal
  { sampler := s.sampler.withoutShrinks
    showProxy := s.showProxy
    readProxy := s.readProxy }

/-- A fixed number with listed candidates. -/
def graph (start : UInt64) (graph : ShrinkGraph) : Sampling where
  sampler := (Sampler.graph start graph).map .ofWord
  showProxy node := .ofWord node.number
  readProxy v := v.word?.map .start

end Sampling

/-- The sampler that a form means, at a path of a statement and where `here` is the type at hand and `env`
    the values of the variables. -/
def SamplerForm.sampling (here : Ty) (env : Env) (path : Path) : SamplerForm → Sampling
  | ofType t => .ofTy (t.toTy here)
  | list s => (s.sampling here env (0 :: path)).list
  | option s => (s.sampling here env (0 :: path)).option
  | pair s t => (s.sampling here env (0 :: path)).pair (t.sampling here env (1 :: path))
  | map s name term => (s.sampling here env (0 :: path)).map fun v => term.eval ((name, v) :: env)
  | script s proxies => (s.sampling here env (0 :: path)).script path proxies
  | withoutShrinks s => (s.sampling here env (0 :: path)).withoutShrinks
  | graph start g => .graph start g

end Falsify.Formula
