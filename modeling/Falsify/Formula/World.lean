import Falsify.Search

/-! # The world of written statements

The atoms and samplers of a written statement may remember what happened to them: an atom can count how often
it was decided, and a scripted sampler knows which proxy comes next.  Scripted samplers are told apart by
their path in the statement; when a quantifier's body is set up for a new value, the samplers in it start
over. -/

namespace Falsify.Formula

/-- The numbers of the branches taken on the way down to a part of a statement, the last one first. -/
abbrev Path := List Nat

/-- What the atoms and samplers of written statements remember. -/
structure World where
  /-- The texts of the observed atoms, in the order in which they were decided. -/
  evaluations : Array String := #[]
  /-- How often the counting atoms with a name were decided. -/
  counts : List (String × Nat) := []
  /-- How many proxies the scripts at some paths have supplied. -/
  positions : List (Path × Nat) := []
  /-- For each test of an observed body, whether it was to search for smaller samples. -/
  visits : Array Bool := #[]
  deriving Inhabited

namespace World

/-- Notes that an atom was decided. -/
def evaluated (text : String) (w : World) : World :=
  { w with evaluations := w.evaluations.push text }

/-- How often the counting atoms with a name were decided. -/
def count (w : World) (name : String) : Nat := (w.counts.lookup name).getD 0

/-- Counts a decision of the counting atoms with a name, and answers the new count. -/
def counted (name : String) : StateM World Nat := fun w =>
  let n := w.count name + 1
  (n, { w with counts := (name, n) :: w.counts.filter (·.1 ≠ name) })

/-- How many proxies a script has supplied. -/
def position (w : World) (path : Path) : Nat := (w.positions.lookup path).getD 0

/-- Moves a script on, and answers how many proxies it had supplied before. -/
def step (path : Path) : StateM World Nat := fun w =>
  let n := w.position path
  (n, { w with positions := (path, n + 1) :: w.positions.filter (·.1 ≠ path) })

/-- Lets the scripts at and below a path start over. -/
def restart (path : Path) (w : World) : World :=
  { w with positions := w.positions.filter fun (p, _) => !path.isSuffixOf p }

end World

/-- The body that notes each of its tests in the world. -/
def observedBody {α : Type} (body : Search.Body World α) : Search.Body World α := fun a minimize => do
  Tester.stateful (modify fun w => { w with visits := w.visits.push minimize })
  body a minimize

end Falsify.Formula
