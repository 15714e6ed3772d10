import Falsify.Sampler.Primitive

/-! # Samplers of containers

Lists, optional values, pairs and strings.  The proxy of a container holds the proxies of its parts, and a
container is made smaller by way of them.

* `wellFounded_option`, `wellFounded_pair`: shrinking a container ends when shrinking its parts does. -/

namespace Falsify

namespace Candidate

variable {α β : Type}

/-- The candidates for an optional value: nothing at all, then something smaller. -/
def option (candidates : α → List α) : Option α → List (Option α)
  | none => []
  | some a => none :: (candidates a).map some

/-- The candidates for a pair: first those of its first part, then those of its second. -/
def pair (left : α → List α) (right : β → List β) (p : α × β) : List (α × β) :=
  (left p.1).map (·, p.2) ++ (right p.2).map (p.1, ·)

theorem wellFounded_option {candidates : α → List α} (h : WellFounded fun c a => c ∈ candidates a) :
    WellFounded fun c o => c ∈ option candidates o := by
  have hnone : Acc (fun c o => c ∈ option candidates o) none := ⟨_, fun _ h => nomatch h⟩
  refine ⟨fun o => ?_⟩
  cases o with
  | none => exact hnone
  | some a =>
    induction h.apply a with
    | intro a _ ih =>
      refine ⟨_, fun c hc => ?_⟩
      rcases List.mem_cons.1 hc with rfl | hc
      · exact hnone
      · obtain ⟨b, hb, rfl⟩ := List.mem_map.1 hc
        exact ih b hb

theorem wellFounded_pair {left : α → List α} {right : β → List β}
    (hl : WellFounded fun c a => c ∈ left a) (hr : WellFounded fun c b => c ∈ right b) :
    WellFounded fun c p => c ∈ pair left right p := by
  refine ⟨fun ⟨a, b⟩ => ?_⟩
  induction hl.apply a generalizing b with
  | intro a _ iha =>
    induction hr.apply b with
    | intro b _ ihb =>
      refine ⟨_, fun c hc => ?_⟩
      rcases List.mem_append.1 hc with hc | hc
      · obtain ⟨x, hx, rfl⟩ := List.mem_map.1 hc
        exact iha x hx b
      · obtain ⟨y, hy, rfl⟩ := List.mem_map.1 hc
        exact ihb y hy

end Candidate

namespace Sampler

variable {σ π ρ α β : Type}

/-- The greatest length of a list that is drawn, whatever the size. -/
def maxLength : UInt64 := 4096

/-- The results of a draw repeated `n` times, in the order of the draws. -/
def repeated (draw : StateM (Source σ) π) : Nat → StateM (Source σ) (List π)
  | 0 => pure []
  | n + 1 => do
    let p ← draw
    let ps ← repeated draw n
    pure (p :: ps)

/-- Lists with at most as many elements as the size. -/
def list (s : Sampler σ π α) : Sampler σ (List π) (List α) where
  draw := do
    let size ← Source.size
    let length ← Source.random (Gen.chooseNat 0 (min size maxLength))
    repeated s.draw length.toNat
  shrinks := Candidate.list s.shrinks
  interpret := List.map s.interpret
  wf := Candidate.wellFounded_list s.wf

/-- Optional values, about a quarter of them missing. -/
def option (s : Sampler σ π α) : Sampler σ (Option π) (Option α) where
  draw := do
    let quarter ← Source.random (Gen.chooseNat 0 3)
    if quarter = 0 then pure none else some <$> s.draw
  shrinks := Candidate.option s.shrinks
  interpret := Option.map s.interpret
  wf := Candidate.wellFounded_option s.wf

/-- Pairs, the first part drawn before the second. -/
def pair (s : Sampler σ π α) (t : Sampler σ ρ β) : Sampler σ (π × ρ) (α × β) where
  draw := do
    let p ← s.draw
    let q ← t.draw
    pure (p, q)
  shrinks := Candidate.pair s.shrinks t.shrinks
  interpret p := (s.interpret p.1, t.interpret p.2)
  wf := Candidate.wellFounded_pair s.wf t.wf

/-- Strings over the alphabet of the character sampler, drawn and shrunk as lists of characters. -/
def string : Sampler σ (List UInt64) String := (list char).map String.ofList

end Sampler

end Falsify
