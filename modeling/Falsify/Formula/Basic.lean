import Falsify.Formula.Sampling
import Falsify.Testing

/-! # Written statements

A statement given as data.  Its atoms are terms, its texts are templates, and `Formula.statement` is the
statement that it means.

Some atoms can be observed: the world keeps the texts of those that were decided, and an atom can be made to
fail at chosen decisions. -/

namespace Falsify

open Formula

/-- A statement, as data. -/
inductive Formula where
  /-- A decided atom. -/
  | decided (text : String) (holds : Term)
  /-- An atom whose decisions are observed. -/
  | observed (text : String) (holds : Term)
  /-- An observed atom that fails at the listed decisions, counted from one over all atoms with the same
      name. -/
  | counting (name : String) (text : String) (failsAt : List Nat)
  | not (p : Formula)
  | and (p q : Formula)
  | or (p q : Formula)
  | iff (p q : Formula)
  | forAll (var : String) (sampler : SamplerForm) (body : Formula)
  | guarded (guard : String) (holds : Term) (body : Formula)
  /-- Without a type, the variable ranges over the type with one value. -/
  | unused (var : String) (t : Option TypeForm) (body : Formula)
  | suchThat (var : String) (sampler : SamplerForm) (guard : String) (body : Formula)
  | forAllTypes (var : String) (body : Formula)
  deriving Inhabited

namespace Formula

/-- Where a part of a written statement stands. -/
structure Context where
  /-- The values of the variables. -/
  env : Env := []
  /-- The type at hand, if the part stands below a quantifier over types. -/
  here : Option Ty := none
  path : Path := []
  deriving Inhabited

namespace Context

/-- The type at hand. -/
def ty (c : Context) : Ty := c.here.getD .integer

/-- The name of the type at hand. -/
def tyName : Ty → String
  | .string => "String"
  | _ => "i64"

/-- A template filled in at a context. -/
def expand (c : Context) (template : String) : String :=
  Formula.expand c.env ((c.here.map fun t => ("T", tyName t)).toList) template

/-- The context of a branch. -/
def down (c : Context) (branch : Nat) : Context := { c with path := branch :: c.path }

/-- The context with one more variable. -/
def bind (c : Context) (var : String) (v : Datum) : Context := { c with env := (var, v) :: c.env }

end Context

/-- An atom whose decisions are observed. -/
def observedAtom (text : String) (holds : Bool) : Atom World where
  text := text
  holds := do
    modify (World.evaluated text)
    return holds

/-- An observed atom that fails at the listed decisions. -/
def countingAtom (name : String) (text : String) (failsAt : List Nat) : Atom World where
  text := text
  holds := do
    modify (World.evaluated text)
    let n ← World.counted name
    return !failsAt.contains n

/-- The statement that a formula means at a context.  What is set up anew for each bound value starts with
    fresh scripts. -/
def statement : Formula → Context → Statement World
  | decided text holds, c => .decided (c.expand text) (holds.holds c.env)
  | observed text holds, c => .atom (observedAtom (c.expand text) (holds.holds c.env))
  | counting name text failsAt, c => .atom (countingAtom name (c.expand text) failsAt)
  | not p, c => .not (p.statement (c.down 0))
  | and p q, c => .and (p.statement (c.down 0)) (q.statement (c.down 1))
  | or p q, c => .or (p.statement (c.down 0)) (q.statement (c.down 1))
  | iff p q, c => .iff (p.statement (c.down 0)) (q.statement (c.down 1))
  | forAll var sampler body, c =>
    -- Branch 0 is the body, branch 1 the sampler.
    let s := sampler.sampling c.ty c.env (1 :: c.path)
    have := s.literal
    .forAll var s.sampler fun v =>
      .preparing (World.restart (0 :: c.path)) (body.statement ((c.bind var v).down 0))
  | guarded guard holds body, c =>
    .guarded (c.expand guard) (holds.holds c.env)
      (.preparing (World.restart (0 :: c.path)) (body.statement (c.down 0)))
  | unused var none body, c => .unused var "()" (body.statement (c.down 0))
  | unused var (some t) body, c => .unusedOf (t.toTy c.ty) var (body.statement (c.down 0))
  | suchThat var sampler guard body, c =>
    let s := sampler.sampling c.ty c.env (1 :: c.path)
    have := s.literal
    .suchThat var s.sampler (fun v => (c.bind var v).expand guard) fun v =>
      .preparing (World.restart (0 :: c.path)) (body.statement ((c.bind var v).down 0))
  | forAllTypes var body, c =>
    .forAllTypes var fun t =>
      .preparing (World.restart (0 :: c.path)) (body.statement { c.down 0 with here := some t })

end Formula

end Falsify
