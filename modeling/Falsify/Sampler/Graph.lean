import Falsify.Sampler.Basic
import Falsify.Text.Literal

/-! # Samplers with listed candidates

A sampler that always starts at one number and whose candidates are listed, number by number.  The listing
is a directed graph, which may have cycles; shrinking ends because a proxy is a number together with how
many edges may still be followed from it. -/

namespace Falsify

/-- For each listed number, its candidates. -/
abbrev ShrinkGraph := List (UInt64 × List UInt64)

namespace ShrinkGraph

/-- The candidates listed for a number; an unlisted number has none. -/
def next (graph : ShrinkGraph) (n : UInt64) : List UInt64 := (List.lookup n graph).getD []

/-- A number of a graph, and how many edges may still be followed from it. -/
structure Node where
  number : UInt64
  reach : Nat
  deriving DecidableEq, Inhabited

/-- A number at the start of a search, which may follow more edges than any search comes to. -/
def Node.start (n : UInt64) : Node := ⟨n, UInt64.size⟩

/-- A node shows its number alone. -/
instance : Literal Node := ⟨fun node => literal node.number⟩

/-- The nodes that the edges from a node lead to. -/
def candidates (graph : ShrinkGraph) : Node → List Node
  | ⟨_, 0⟩ => []
  | ⟨n, reach + 1⟩ => (graph.next n).map (⟨·, reach⟩)

theorem reach_lt_of_mem_candidates {graph : ShrinkGraph} {c p : Node} (h : c ∈ graph.candidates p) :
    c.reach < p.reach := by
  obtain ⟨n, reach⟩ := p
  cases reach with
  | zero => cases h
  | succ reach =>
    obtain ⟨m, -, rfl⟩ := List.mem_map.1 h
    exact Nat.lt_succ_self _

end ShrinkGraph

namespace Sampler

/-- The sampler that draws `start` without randomness and shrinks along `graph`. -/
def graph {σ : Type} (start : UInt64) (graph : ShrinkGraph) : Sampler σ ShrinkGraph.Node UInt64 where
  draw := pure (.start start)
  shrinks := graph.candidates
  interpret node := node.number
  wf := Subrelation.wf ShrinkGraph.reach_lt_of_mem_candidates
    (InvImage.wf ShrinkGraph.Node.reach Nat.lt_wfRel.wf)

end Sampler

end Falsify
