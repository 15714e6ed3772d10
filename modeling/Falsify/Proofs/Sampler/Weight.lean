import Falsify.Proofs.Candidate.Order

/-!
# Weights of proxies

A number for each proxy that every one of its candidates undercuts, for all samplers that can be built from
those of simple values, those of containers, and mapped ones.

## Key results

- `Lighter.option`, `Lighter.pair`, `Lighter.list`: if the candidates of the parts of a container weigh less,
  so do its own.
- `Sampler.Construction`: how a sampler is built, with the sampler and the weight of its proxies.
- `Sampler.Construction.lighter`: candidates weigh less, in whatever way the sampler is built.
-/

namespace Falsify

namespace Candidate

variable {α β : Type}

/-- Every candidate weighs less than what it stands in for. -/
def Lighter (candidates : α → List α) (weight : α → Nat) : Prop :=
  ∀ a, ∀ c ∈ candidates a, weight c < weight a

/-- Nothing weighs nothing. -/
def optionWeight (weight : α → Nat) : Option α → Nat
  | none => 0
  | some a => 1 + weight a

/-- The weight of both parts. -/
def pairWeight (weight : α → Nat) (weight' : β → Nat) (p : α × β) : Nat := weight p.1 + weight' p.2

/-- The weight of the elements, and one for each. -/
def listWeight (weight : α → Nat) : List α → Nat
  | [] => 0
  | a :: l => 1 + weight a + listWeight weight l

variable {candidates : α → List α} {weight : α → Nat}

/-- An optional value weighs more than nothing, and its candidates less than itself. -/
theorem Lighter.option (h : Lighter candidates weight) :
    Lighter (option candidates) (optionWeight weight) := by
  intro a c hc
  cases a with
  | none => cases hc
  | some a =>
    rcases List.mem_cons.1 hc with rfl | hc
    · -- The candidate is nothing, which weighs zero; every value weighs at least one.
      exact Nat.lt_of_lt_of_le Nat.zero_lt_one (Nat.le_add_right 1 _)
    · obtain ⟨b, hb, rfl⟩ := List.mem_map.1 hc
      exact Nat.add_lt_add_left (h a b hb) 1

/-- A pair weighs as much as its parts, one of which gets lighter. -/
theorem Lighter.pair {candidates' : β → List β} {weight' : β → Nat} (h : Lighter candidates weight)
    (h' : Lighter candidates' weight') :
    Lighter (pair candidates candidates') (pairWeight weight weight') := by
  intro p c hc
  rcases List.mem_append.1 hc with hc | hc
  · obtain ⟨a, ha, rfl⟩ := List.mem_map.1 hc
    exact Nat.add_lt_add_right (h p.1 a ha) _
  · obtain ⟨b, hb, rfl⟩ := List.mem_map.1 hc
    exact Nat.add_lt_add_left (h' p.2 b hb) _

/-- Each element that is left out takes at least one away from the weight. -/
theorem listWeight_add_length_le {c l : List α} (h : c.Sublist l) :
    listWeight weight c + l.length ≤ listWeight weight l + c.length := by
  induction h with
  | slnil => exact Nat.le_refl _
  -- An element that is left out weighs at least one; one that is kept counts on both sides.
  | cons a _ ih =>
    rw [listWeight, List.length_cons]
    omega
  | cons_cons a _ ih =>
    rw [listWeight, listWeight, List.length_cons, List.length_cons]
    omega

/-- A list gets lighter when one of its elements does. -/
theorem Replaced.listWeight_lt {r : α → α → Prop} (hr : ∀ {a b}, r b a → weight b < weight a)
    {c l : List α} (h : Replaced r c l) : listWeight weight c < listWeight weight l := by
  induction h with
  | head h =>
    have hlt := hr h
    rw [listWeight, listWeight]
    omega
  | tail _ ih =>
    rw [listWeight, listWeight]
    omega

/-- A list gets lighter when a block is removed, as each element weighs something, and when an element is
    replaced. -/
theorem Lighter.list (h : Lighter candidates weight) : Lighter (list candidates) (listWeight weight) := by
  intro l c hc
  rcases List.mem_append.1 hc with hc | hc
  · -- A block is never empty, so the list gets shorter, which alone makes it lighter.
    obtain ⟨b, hb, hc⟩ := List.mem_flatMap.1 hc
    have hpos := (pos_le_of_mem_halvings hb).1
    have hlength := length_of_mem_removals hc
    have hle : listWeight weight c + l.length ≤ listWeight weight l + c.length :=
      listWeight_add_length_le (sublist_of_mem_removals hc)
    omega
  · exact (mem_replacements.1 hc).listWeight_lt fun {a b} hb => h a b hb

end Candidate

namespace Sampler

open Candidate

/-- How a sampler is built: the samplers of simple values, those of containers, and any of them after a
    function. -/
inductive Construction : Type → Type → Type 1
  | natural : Construction UInt64 UInt64
  | integer : Construction Int64 Int64
  | bool : Construction Bool Bool
  | char : Construction UInt64 Char
  | string : Construction (List UInt64) String
  | list {π α : Type} (element : Construction π α) : Construction (List π) (List α)
  | option {π α : Type} (inner : Construction π α) : Construction (Option π) (Option α)
  | pair {π ρ α β : Type} (first : Construction π α) (second : Construction ρ β) :
      Construction (π × ρ) (α × β)
  | map {π α β : Type} (f : α → β) (inner : Construction π α) : Construction π β

namespace Construction

/-- The sampler that is built. -/
def sampler {σ : Type} : {π α : Type} → Construction π α → Sampler σ π α
  | _, _, natural => .natural
  | _, _, integer => .integer
  | _, _, bool => .bool
  | _, _, char => .char
  | _, _, string => .string
  | _, _, list c => .list c.sampler
  | _, _, option c => .option c.sampler
  | _, _, pair c d => .pair c.sampler d.sampler
  | _, _, map f c => .map f c.sampler

/-- The weight of the proxies: a number or the place of a character weighs as much as it is, an integer twice
    its magnitude and one for the sign, `true` weighs one, and a container what is in it and one for each
    part that could be missing. -/
def weight : {π α : Type} → Construction π α → π → Nat
  | _, _, natural => UInt64.toNat
  | _, _, integer => integerRank
  | _, _, bool => Bool.toNat
  | _, _, char => UInt64.toNat
  | _, _, string => listWeight UInt64.toNat
  | _, _, list c => listWeight c.weight
  | _, _, option c => optionWeight c.weight
  | _, _, pair c d => pairWeight c.weight d.weight
  | _, _, map _ c => c.weight

/-- The candidates of every built sampler are lighter than what they stand in for. -/
theorem lighter {σ : Type} : {π α : Type} → (c : Construction π α) →
    Lighter (c.sampler (σ := σ)).shrinks c.weight
  | _, _, natural => fun _ _ => lt_of_mem_natural
  | _, _, integer => fun _ _ => integerRank_lt_of_mem_integer
  | _, _, bool => fun _ _ => lt_of_mem_boolShrinks
  | _, _, char => fun _ _ => lt_of_mem_natural
  | _, _, string => .list fun _ _ => lt_of_mem_natural
  | _, _, list c => .list c.lighter
  | _, _, option c => .option c.lighter
  | _, _, pair c d => .pair c.lighter d.lighter
  | _, _, map _ c => c.lighter

end Construction

end Sampler

end Falsify
