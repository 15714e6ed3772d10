import Falsify.Candidate.Number

/-! # Smaller lists

The candidates that stand in for a failing list: first the list without one of its blocks, from the block
that is the whole list down to single elements, then the list with one element replaced by a candidate of
its own.

* `mem_removals`: a removal candidate lacks one full block.
* `Replaced`: the replacement candidates, as a relation.
* `wellFounded_list`: if no element can be replaced for ever, no list can be shrunk for ever. -/

namespace Falsify.Candidate

variable {α : Type}

/-- The lists that lack one block of `b` elements, block after block from the front.  Elements after the
    last full block are in no block. -/
def removals (b : Nat) (l : List α) : List (List α) :=
  (List.range (l.length / b)).map fun j => l.take (j * b) ++ l.drop (j * b + b)

/-- The lists in which one element has been replaced by one of its candidates, from the front. -/
def replacements (candidates : α → List α) : List α → List (List α)
  | [] => []
  | x :: xs => (candidates x).map (· :: xs) ++ (replacements candidates xs).map (x :: ·)

/-- The candidates for a list whose elements have the given candidates. -/
def list (candidates : α → List α) (l : List α) : List (List α) :=
  (halvings l.length).flatMap (removals · l) ++ replacements candidates l

/-- What is left of a list without one of its blocks, which begin at multiples of their length. -/
theorem mem_removals {b : Nat} {l c : List α} :
    c ∈ removals b l ↔ ∃ j < l.length / b, c = l.take (j * b) ++ l.drop (j * b + b) := by
  simp [removals, eq_comm]

/-- A list without a block of `b` elements is shorter by `b`. -/
theorem length_of_mem_removals {b : Nat} {l c : List α} (h : c ∈ removals b l) :
    c.length + b = l.length := by
  obtain ⟨j, hj, rfl⟩ := mem_removals.1 h
  have : j * b + b ≤ l.length := by
    rw [← Nat.succ_mul]
    exact Nat.le_trans (Nat.mul_le_mul_right b hj) (Nat.div_mul_le_self _ _)
  simp only [List.length_append, List.length_take, List.length_drop]
  omega

/-- `Replaced r c l`: the list `c` is `l` with one element replaced by an `r`-smaller one. -/
inductive Replaced (r : α → α → Prop) : List α → List α → Prop
  | head {x y : α} {xs : List α} (h : r y x) : Replaced r (y :: xs) (x :: xs)
  | tail {x : α} {xs ys : List α} (h : Replaced r ys xs) : Replaced r (x :: ys) (x :: xs)

theorem Replaced.length_eq {r : α → α → Prop} {c l : List α} (h : Replaced r c l) :
    c.length = l.length := by
  induction h with
  | head => rfl
  | tail _ ih => simp [ih]

/-- A replacement puts a candidate in the place of one element. -/
theorem mem_replacements {candidates : α → List α} {l c : List α} :
    c ∈ replacements candidates l ↔ Replaced (fun y x => y ∈ candidates x) c l := by
  induction l generalizing c with
  | nil => exact ⟨fun h => by simp [replacements] at h, fun h => nomatch h⟩
  | cons x xs ih =>
    simp only [replacements, List.mem_append, List.mem_map]
    constructor
    · rintro (⟨y, hy, rfl⟩ | ⟨ys, hys, rfl⟩)
      · exact .head hy
      · exact .tail (ih.1 hys)
    · rintro (h | h)
      · exact .inl ⟨_, h, rfl⟩
      · exact .inr ⟨_, ih.2 h, rfl⟩

/-- Replacing elements of a list ends, if replacing a single element ends. -/
theorem wellFounded_replaced {r : α → α → Prop} (h : WellFounded r) : WellFounded (Replaced r) := by
  refine ⟨fun l => ?_⟩
  induction l with
  | nil => exact ⟨_, fun _ h => nomatch h⟩
  | cons x xs ih =>
    induction h.apply x generalizing xs with
    | intro x _ ihx =>
      induction ih with
      | intro xs hxs ihxs =>
        refine ⟨_, fun c hc => ?_⟩
        cases hc with
        | head hy => exact ihx _ hy xs ⟨_, hxs⟩
        | tail hys => exact ihxs _ hys

/-- Shrinking a list ends, if shrinking a single element ends. -/
theorem wellFounded_list {candidates : α → List α}
    (h : WellFounded fun c x => c ∈ candidates x) :
    WellFounded fun c l => c ∈ list candidates l := by
  have hlex := (Prod.lex Nat.lt_wfRel ⟨_, wellFounded_replaced h⟩).wf
  refine Subrelation.wf ?_ (InvImage.wf (fun l : List α => (l.length, l)) hlex)
  intro c l hc
  rcases List.mem_append.1 hc with hc | hc
  · obtain ⟨b, hb, hc⟩ := List.mem_flatMap.1 hc
    have := (pos_le_of_mem_halvings hb).1
    have := length_of_mem_removals hc
    exact .left _ _ (by show c.length < l.length; omega)
  · have hc := mem_replacements.1 hc
    show Prod.Lex _ _ (c.length, c) (l.length, l)
    rw [hc.length_eq]
    exact .right _ hc

end Falsify.Candidate
