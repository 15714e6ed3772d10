import Falsify.Proofs.Candidate.Number

/-!
# Candidates of lists

The candidates of a list in the order in which a search tries them: for each halving of its length the list without
one of its blocks of that size, and then the list with one element replaced.  Two nested loops find the blocks, the
outer one over their sizes and the inner one over the places where a whole block begins; what is left behind the
last whole block is in no block of that size, but each element is a block of its own in the end.

## Key results

- `listLoop?_eq`: the loops end, stay inside the list and find the candidates in order.
- `removals_eq_map_without`, `replacements_eq_flatMap`: the candidates by the positions that they leave out or
  replace.
- `pairwise_length_removals`: the lists without a block do not get shorter.
- `list_candidates_exact`: the candidates of a list in closed form, and what follows from it.
-/

namespace Falsify.Candidate

variable {α : Type}

/-! ## Loops -/

/-- The elements of a list from one position up to another, if these are positions of the list in this order. -/
def slice? (l : List α) (start stop : Nat) : Option (List α) :=
  if start ≤ stop ∧ stop ≤ l.length then some ((l.drop start).take (stop - start)) else none

/-- A list with another element at a position, if it is a position of the list. -/
def replaceAt? (l : List α) (i : Nat) (x : α) : Option (List α) :=
  if i < l.length then some (l.set i x) else none

/-- The lists that lack a block of `b` elements, as long as a whole one is left from `start` on, behind those found
    before. -/
def blockLoop? (l : List α) (b : Nat) (hb : 0 < b) (start : Nat) (found : List (List α)) :
    Option (List (List α)) :=
  if start + b ≤ l.length then do
    let front ← slice? l 0 start
    let back ← slice? l (start + b) l.length
    blockLoop? l b hb (start + b) (found ++ [front ++ back])
  else some found
termination_by l.length - start

/-- The lists that lack a block of `b` elements, or of a halving of `b`, behind those found before. -/
def halvingLoop? (l : List α) (b : Nat) (found : List (List α)) : Option (List (List α)) :=
  if hb : 0 < b then do
    let found ← blockLoop? l b hb 0 found
    halvingLoop? l (b / 2) found
  else some found
termination_by b

/-- The lists with one element replaced by one of its candidates, behind those found before. -/
def replacementLoop? (candidates : α → List α) (l : List α) (found : List (List α)) :
    Option (List (List α)) :=
  l.zipIdx.foldlM (fun found p => (candidates p.1).foldlM (fun found c => do
    let changed ← replaceAt? l p.2 c
    return found ++ [changed]) found) found

/-- The candidates for a list, as loops find them; nothing if a loop leaves the list. -/
def listLoop? (candidates : α → List α) (l : List α) : Option (List (List α)) := do
  let found ← halvingLoop? l l.length []
  replacementLoop? candidates l found

/-- Within the bounds of the list, a slice is what its two ends leave of it. -/
theorem slice?_eq {l : List α} {start stop : Nat} (hstart : start ≤ stop) (hstop : stop ≤ l.length) :
    slice? l start stop = some ((l.drop start).take (stop - start)) :=
  if_pos ⟨hstart, hstop⟩

/-- The inner loop finds the list without each of the whole blocks from the one with number `j` on. -/
theorem blockLoop?_eq (l : List α) {b : Nat} (hb : 0 < b) (j : Nat) (found : List (List α)) :
    blockLoop? l b hb (j * b) found =
      some (found ++ (List.range' j (l.length / b - j)).map fun i => l.take (i * b) ++ l.drop (i * b + b)) := by
  -- There are as many rounds as whole blocks, and the number of those that are left says whether one fits.
  have hfits (j : Nat) : j * b + b ≤ l.length ↔ j < l.length / b := by
    rw [← Nat.succ_mul, ← Nat.le_div_iff_mul_le hb, Nat.succ_le_iff]
  generalize hleft : l.length / b - j = left
  induction left generalizing j found with
  | zero =>
    rw [blockLoop?, if_neg (by rw [hfits]; omega)]
    simp
  | succ left ih =>
    have hblock : j * b + b ≤ l.length := (hfits j).2 (by omega)
    have hnext := ih (j + 1) (found ++ [l.take (j * b) ++ l.drop (j * b + b)]) (by omega)
    rw [Nat.succ_mul] at hnext
    have hfront : slice? l 0 (j * b) = some (l.take (j * b)) := slice?_eq (Nat.zero_le _) (by omega)
    have hback : slice? l (j * b + b) l.length = some (l.drop (j * b + b)) := by
      rw [slice?_eq hblock (Nat.le_refl _), List.take_of_length_le (by simp)]
    rw [blockLoop?, if_pos hblock, hfront, hback]
    simp only [Option.bind_eq_bind, Option.bind_some, hnext, List.range'_succ, List.map_cons, List.append_assoc,
      List.singleton_append]

/-- The outer loop finds the list without each of its blocks, size by size. -/
theorem halvingLoop?_eq (l : List α) (b : Nat) (found : List (List α)) :
    halvingLoop? l b found = some (found ++ (halvings b).flatMap (removals · l)) := by
  induction b using Nat.strongRecOn generalizing found with
  | ind b ih =>
    rw [halvingLoop?]
    rcases Nat.eq_zero_or_pos b with rfl | hb
    · simp
    · -- One round removes the blocks of the length b from the first on; the rounds for its halves follow.
      have hblocks := blockLoop?_eq l hb 0 found
      rw [Nat.zero_mul, Nat.sub_zero, ← List.range_eq_range'] at hblocks
      have hhalf := ih (b / 2) (Nat.div_lt_self hb (by decide))
      simp only [dif_pos hb, hblocks, Option.bind_eq_bind, Option.bind_some, hhalf, halvings_eq hb,
        List.flatMap_cons, removals, List.append_assoc]

/-- A loop that answers something for each element collects all of it. -/
theorem foldlM_eq_some_flatMap {β γ : Type} {f : List γ → β → Option (List γ)} {g : β → List γ} {l : List β}
    (h : ∀ x ∈ l, ∀ found, f found x = some (found ++ g x)) (found : List γ) :
    l.foldlM f found = some (found ++ l.flatMap g) := by
  induction l generalizing found with
  | nil => simp
  | cons x l ih =>
    rw [List.forall_mem_cons] at h
    simp [h.1, ih h.2]

/-- The lists with one element replaced, position by position. -/
theorem replacements_eq_flatMap (candidates : α → List α) (l : List α) :
    replacements candidates l = l.zipIdx.flatMap fun p => (candidates p.1).map (l.set p.2 ·) := by
  induction l with
  | nil => rfl
  | cons x xs ih =>
    simp [replacements, ih, List.zipIdx_succ, List.flatMap_map, List.map_flatMap, Function.comp_def]

/-- The loop over the elements finds the list with each of them replaced. -/
theorem replacementLoop?_eq (candidates : α → List α) (l : List α) (found : List (List α)) :
    replacementLoop? candidates l found = some (found ++ replacements candidates l) := by
  -- Two loops, one inside the other: over the positions, and at each of them over its candidates.
  rw [replacements_eq_flatMap, replacementLoop?]
  apply foldlM_eq_some_flatMap
  rintro ⟨x, i⟩ hmem found
  have hi : i < l.length := by simpa using List.snd_lt_of_mem_zipIdx hmem
  rw [List.map_eq_flatMap]
  apply foldlM_eq_some_flatMap
  intro c _ found
  simp [replaceAt?, hi]

/-- The loops end, stay inside the list and find the candidates in order. -/
theorem listLoop?_eq (candidates : α → List α) (l : List α) :
    listLoop? candidates l = some (list candidates l) := by
  simp [listLoop?, halvingLoop?_eq, replacementLoop?_eq, list]

/-! ## Positions -/

/-- The elements of a list whose positions are not from `start` up to `stop`. -/
def without (l : List α) (start stop : Nat) : List α :=
  (l.zipIdx.filter fun p => p.2 < start || stop ≤ p.2).map Prod.fst

/-- Leaving out the part in the middle leaves the two others. -/
theorem without_append (xs ys zs : List α) :
    without (xs ++ (ys ++ zs)) xs.length (xs.length + ys.length) = xs ++ zs := by
  -- The positions of each of the three parts lie on one side of the bounds, so each is kept or dropped whole.
  have hfront : (xs.zipIdx 0).filter (fun p => p.2 < xs.length || xs.length + ys.length ≤ p.2) =
      xs.zipIdx 0 := by
    rw [List.filter_eq_self]
    intro p hp
    have := List.snd_lt_of_mem_zipIdx hp
    simp
    omega
  have hblock : (ys.zipIdx xs.length).filter (fun p => p.2 < xs.length || xs.length + ys.length ≤ p.2) = [] := by
    rw [List.filter_eq_nil_iff]
    intro p hp
    have := List.le_snd_of_mem_zipIdx hp
    have := List.snd_lt_of_mem_zipIdx hp
    simp
    omega
  have hback : (zs.zipIdx (xs.length + ys.length)).filter
      (fun p => p.2 < xs.length || xs.length + ys.length ≤ p.2) = zs.zipIdx (xs.length + ys.length) := by
    rw [List.filter_eq_self]
    intro p hp
    have := List.le_snd_of_mem_zipIdx hp
    simp
    omega
  simp only [without, List.zipIdx_append, List.filter_append, Nat.zero_add, hfront, hblock, hback,
    List.nil_append, List.map_append, List.zipIdx_map_fst]

/-- A list without a block is what stands before it and what stands behind it. -/
theorem without_eq {l : List α} {start stop : Nat} (hstart : start ≤ stop) (hstop : stop ≤ l.length) :
    without l start stop = l.take start ++ l.drop stop := by
  have hblock := without_append (l.take start) ((l.drop start).take (stop - start)) (l.drop stop)
  have hsplit : (l.drop start).take (stop - start) ++ l.drop stop = l.drop start := by
    -- Only the right side is rewritten: the list itself occurs on the left too.
    conv_rhs => rw [← List.take_append_drop (stop - start) (l.drop start), List.drop_drop, Nat.add_sub_cancel' hstart]
  have hfront : (l.take start).length = start := List.length_take_of_le (by omega)
  have hlength : ((l.drop start).take (stop - start)).length = stop - start :=
    List.length_take_of_le (by rw [List.length_drop]; omega)
  rwa [hsplit, List.take_append_drop, hfront, hlength, Nat.add_sub_cancel' hstart] at hblock

/-- The lists that lack a block, by the positions that they leave out. -/
theorem removals_eq_map_without (b : Nat) (l : List α) :
    removals b l = (List.range (l.length / b)).map fun j => without l (j * b) ((j + 1) * b) := by
  unfold removals
  apply List.map_congr_left
  intro j hj
  have hend : (j + 1) * b ≤ l.length :=
    Nat.le_trans (Nat.mul_le_mul_right b (List.mem_range.1 hj)) (Nat.div_mul_le_self _ _)
  rw [without_eq (Nat.mul_le_mul_right b (Nat.le_succ j)) hend, Nat.succ_mul]

/-! ## The order of the candidates -/

/-- The smaller the blocks, the longer the lists that lack one. -/
theorem pairwise_length_removals (l : List α) :
    ((halvings l.length).flatMap (removals · l)).Pairwise fun c d => c.length ≤ d.length := by
  rw [List.pairwise_flatMap]
  constructor
  · intro b _
    apply List.pairwise_of_forall_mem_list
    intro c hc d hd
    have := length_of_mem_removals hc
    have := length_of_mem_removals hd
    omega
  · -- A greater block leaves a shorter list, and the blocks get smaller.
    refine List.Pairwise.imp (fun hgt c hc d hd => ?_) (pairwise_halvings l.length)
    have := length_of_mem_removals hc
    have := length_of_mem_removals hd
    omega

/-- The first candidate of a list with elements is the list without all of them. -/
theorem head?_list (candidates : α → List α) {l : List α} (hl : l ≠ []) :
    (list candidates l).head? = some [] := by
  have hpos : 0 < l.length := List.length_pos_of_ne_nil hl
  simp [list, halvings_eq hpos, removals, Nat.div_self hpos]

/-- **The candidates of a list.**  First come the lists without one block: for each halving of the length, down to
    1, without one of the whole blocks of that size, from the front.  Then come the lists with one element replaced,
    from the front, by one of the candidates of the element in their order.  Loops over blocks and positions find
    just these, and stay inside the list.  So what lacks a block comes first and gets no shorter, beginning with the
    empty list, and what lacks or replaces a single element is always there. -/
theorem list_candidates_exact {σ π β : Type} (s : Sampler σ π β) (l : List π) :
    let sizes := (List.range l.length.size).map (l.length / 2 ^ ·)
    let shorter := sizes.flatMap fun b =>
      (List.range (l.length / b)).map fun j => without l (j * b) ((j + 1) * b)
    let replaced := l.zipIdx.flatMap fun p => (s.shrinks p.1).map (l.set p.2 ·)
    listLoop? s.shrinks l = some (s.list.shrinks l) ∧
    s.list.shrinks l = shorter ++ replaced ∧
    (∀ c ∈ shorter, c.length < l.length) ∧
    (∀ c ∈ replaced, c.length = l.length) ∧
    shorter.Pairwise (fun c d => c.length ≤ d.length) ∧
    (l ≠ [] → sizes.getLast? = some 1 ∧ (s.list.shrinks l).head? = some []) ∧
    (∀ i < l.length, l.eraseIdx i ∈ shorter) ∧
    (∀ i x, l[i]? = some x → ∀ c ∈ s.shrinks x, l.set i c ∈ replaced) := by
  intro sizes shorter replaced
  have hsizes : sizes = halvings l.length := (halvings_eq_map_range l.length).symm
  have hshorter : shorter = (halvings l.length).flatMap (removals · l) := by
    simp only [shorter, hsizes, removals_eq_map_without]
  have hreplaced : replaced = replacements s.shrinks l := (replacements_eq_flatMap s.shrinks l).symm
  -- In the order of the statement: the whole list, the lengths, the ends, then what is certainly offered.
  refine ⟨listLoop?_eq s.shrinks l, ?_, fun c hc => ?_, fun c hc => ?_, ?_, fun hl => ⟨?_, head?_list _ hl⟩,
    fun i hi => ?_, fun i x hx c hc => ?_⟩
  · rw [hshorter, hreplaced]
    rfl
  · rw [hshorter] at hc
    obtain ⟨b, hb, hc⟩ := List.mem_flatMap.1 hc
    have hpos := (pos_le_of_mem_halvings hb).1
    have hlength := length_of_mem_removals hc
    omega
  · rw [hreplaced] at hc
    exact (mem_replacements.1 hc).length_eq
  · rw [hshorter]
    exact pairwise_length_removals l
  · rw [hsizes]
    exact getLast?_halvings (List.length_pos_of_ne_nil hl)
  · rw [hshorter, List.mem_flatMap]
    refine ⟨1, one_mem_halvings (by omega), mem_removals.2 ⟨i, by simpa using hi, ?_⟩⟩
    rw [List.eraseIdx_eq_take_drop_succ, Nat.mul_one]
  · exact List.mem_flatMap.2 ⟨(x, i), List.mk_mem_zipIdx_iff_getElem?.2 hx, List.mem_map_of_mem hc⟩

/-- Of five elements, blocks of two leave out the last one; blocks of one do not. -/
theorem list_candidates_exact_five :
    let s : Sampler Unit Bool Bool := Sampler.bool
    let l := [true, false, false, false, true]
    (s.list.shrinks l).head? = some [] ∧ (removals 2 l).length = 2 ∧
      l.eraseIdx 4 ∈ s.list.shrinks l ∧ l.set 4 false ∈ s.list.shrinks l ∧
      listLoop? s.shrinks l = some (s.list.shrinks l) := by
  intro s l
  obtain ⟨hloop, hall, -, -, -, hends, herase, hset⟩ := list_candidates_exact s l
  refine ⟨(hends (by decide)).2, by decide, ?_, ?_, hloop⟩
  · rw [hall]
    exact List.mem_append_left _ (herase 4 (by decide))
  · rw [hall]
    exact List.mem_append_right _ (hset 4 true rfl false (by decide))

/-- Strings are shrunk as lists of characters. -/
example {σ : Type} : (Sampler.string (σ := σ)).shrinks = (Sampler.list (Sampler.char (σ := σ))).shrinks := rfl

end Falsify.Candidate
