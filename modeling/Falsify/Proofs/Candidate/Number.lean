import Falsify.Proofs.Candidate.Order
import Mathlib.Algebra.Group.Int.Defs
import Mathlib.Algebra.Group.Nat.Defs
import Mathlib.Data.List.Nodup
import Mathlib.Data.Nat.Size
import Mathlib.Data.Prod.Lex

/-!
# Candidates of numbers

The halvings of a number are its quotients by the powers of two, one for each of its binary digits.  So the
candidates of a natural rise from zero to the number just below it.  An integer gives way to the candidates of its
magnitude, with its own sign, and a negative one first to its mirror image.  All of this can be done in machine
words: no difference is negative, and no magnitude that takes a sign is too large for it.

## Key results

- `halvings_eq_map_range`: the halvings in closed form.
- `distances?_eq`, `signedDistances?_eq`: step by step in machine words, nothing overflows.
- `pairwise_natural`, `head?_natural`, `getLast?_natural`: the candidates of a natural in their order.
- `nodup_integer`: no candidate of an integer comes twice.
- `number_candidates_exact`: the candidates of naturals and integers in closed form.
-/

namespace Falsify.Candidate

/-! ## Halvings -/

/-- A number has one binary digit more than its half. -/
theorem size_eq_size_half_succ {n : Nat} (hn : 0 < n) : n.size = (n / 2).size + 1 := by
  -- The size is the least exponent of a power of two that is greater.
  have hpow (k : Nat) : n < 2 ^ (k + 1) ↔ n / 2 < 2 ^ k := by
    rw [Nat.pow_succ, Nat.div_lt_iff_lt_mul (by decide)]
  apply Nat.le_antisymm
  · rw [Nat.size_le, hpow]
    exact Nat.lt_size_self _
  · have hsize : n.size = n.size - 1 + 1 := (Nat.sub_add_cancel (Nat.size_pos.2 hn)).symm
    rw [hsize, Nat.succ_le_succ_iff, Nat.size_le, ← hpow, ← hsize]
    exact Nat.lt_size_self n

/-- The halvings of a number are its quotients by powers of two, one for each binary digit. -/
theorem halvings_eq_map_range (n : Nat) : halvings n = (List.range n.size).map (n / 2 ^ ·) := by
  induction n using Nat.strongRecOn with
  | ind n ih =>
    rcases Nat.eq_zero_or_pos n with rfl | hn
    · simp
    · -- The halvings of the half are those of the number but the first, with every exponent one lower.
      rw [halvings_eq hn, ih _ (Nat.div_lt_self hn (by decide)), size_eq_size_half_succ hn,
        List.range_succ_eq_map]
      simp [Nat.div_div_eq_div_mul, Nat.pow_succ', Function.comp_def]

/-- Halvings get smaller from one to the next. -/
theorem pairwise_halvings (n : Nat) : (halvings n).Pairwise (· > ·) := by
  induction n using Nat.strongRecOn with
  | ind n ih =>
    rcases Nat.eq_zero_or_pos n with rfl | hn
    · simp
    · rw [halvings_eq hn, List.pairwise_cons]
      refine ⟨fun d hd => ?_, ih _ (Nat.div_lt_self hn (by decide))⟩
      have := pos_le_of_mem_halvings hd
      omega

/-- The halvings of a positive number end with one. -/
theorem getLast?_halvings {n : Nat} (hn : 0 < n) : (halvings n).getLast? = some 1 := by
  induction n using Nat.strongRecOn with
  | ind n ih =>
    rw [halvings_eq hn, List.getLast?_cons]
    -- The last halving of the number is that of its half, unless the half is zero and the number is one.
    rcases Nat.eq_zero_or_pos (n / 2) with hzero | hpos
    · rw [hzero, halvings_zero]
      simp
      omega
    · rw [ih _ (Nat.div_lt_self hn (by decide)) hpos]
      rfl

/-! ## Naturals -/

theorem toNat_ofNat_sub (n : UInt64) (d : Nat) : (UInt64.ofNat (n.toNat - d)).toNat = n.toNat - d :=
  UInt64.toNat_ofNat_of_lt' (Nat.lt_of_le_of_lt (Nat.sub_le _ _) n.toNat_lt)

/-- The distances of `n` from `delta` and its halvings, behind those found before, formed in words; nothing if a
    difference is negative. -/
def distances? (n delta : UInt64) (found : List UInt64) : Option (List UInt64) :=
  if _h : 0 < delta then
    if delta ≤ n then distances? n (delta / 2) (found ++ [n - delta]) else none
  else some found
termination_by delta.toNat
decreasing_by
  simp_all [UInt64.lt_iff_toNat_lt]
  omega

/-- No difference is negative, as the halvings of a number only go down. -/
theorem distances?_eq {n delta : UInt64} (hle : delta ≤ n) (found : List UInt64) :
    distances? n delta found =
      some (found ++ (halvings delta.toNat).map fun d => UInt64.ofNat (n.toNat - d)) := by
  -- By the recursion of the loop.  The distance is at most the number throughout, so no subtraction wraps.
  fun_induction distances? n delta found with
  | case1 delta found hpos _ ih =>
    rw [UInt64.lt_iff_toNat_lt, UInt64.toNat_zero] at hpos
    rw [UInt64.le_iff_toNat_le] at hle
    have hhalf : (delta / 2).toNat = delta.toNat / 2 := UInt64.toNat_div delta 2
    have hdistance : n - delta = UInt64.ofNat (n.toNat - delta.toNat) := by
      rw [← UInt64.toNat_inj, toNat_ofNat_sub, UInt64.toNat_sub_of_le n delta (UInt64.le_iff_toNat_le.2 hle)]
    rw [ih (UInt64.le_iff_toNat_le.2 (by omega)), halvings_eq hpos, hhalf, hdistance]
    simp
  -- The check of the subtraction cannot fail.
  | case2 delta found _ hgt => exact absurd hle hgt
  | case3 delta found hzero =>
    have hzero : delta.toNat = 0 := by simpa [UInt64.lt_iff_toNat_lt] using hzero
    simp [hzero]

/-- The candidates of a natural can be formed in words. -/
theorem distances?_self (n : UInt64) : distances? n n [] = some (natural n) :=
  distances?_eq (UInt64.le_refl n) []

/-- The candidates of a natural in closed form. -/
theorem toNat_natural (n : UInt64) :
    (natural n).map UInt64.toNat = (List.range n.toNat.size).map fun k => n.toNat - n.toNat / 2 ^ k := by
  simp only [natural, halvings_eq_map_range, List.map_map, Function.comp_def, toNat_ofNat_sub]

/-- The candidates of a natural rise. -/
theorem pairwise_natural (n : UInt64) : (natural n).Pairwise (· < ·) := by
  unfold natural
  rw [List.pairwise_map]
  refine List.Pairwise.imp_of_mem (fun {d e} hd he hgt => ?_) (pairwise_halvings n.toNat)
  have hd := pos_le_of_mem_halvings hd
  rw [UInt64.lt_iff_toNat_lt, toNat_ofNat_sub, toNat_ofNat_sub]
  omega

/-- The first candidate of a positive natural is zero. -/
theorem head?_natural {n : UInt64} (hn : 0 < n) : (natural n).head? = some 0 := by
  rw [UInt64.lt_iff_toNat_lt, UInt64.toNat_zero] at hn
  simp [natural, halvings_eq hn]

/-- The last candidate of a positive natural is the one before it. -/
theorem getLast?_natural {n : UInt64} (hn : 0 < n) : (natural n).getLast? = some (n - 1) := by
  have hone : (1 : UInt64) ≤ n := by
    rw [UInt64.lt_iff_toNat_lt, UInt64.toNat_zero] at hn
    rw [UInt64.le_iff_toNat_le, UInt64.toNat_one]
    omega
  rw [UInt64.lt_iff_toNat_lt, UInt64.toNat_zero] at hn
  have hlast : UInt64.ofNat (n.toNat - 1) = n - 1 := by
    rw [← UInt64.toNat_inj, toNat_ofNat_sub, UInt64.toNat_sub_of_le n 1 hone, UInt64.toNat_one]
  simp [natural, List.getLast?_map, getLast?_halvings hn, hlast]

/-! ## Integers -/

/-- A magnitude as an integer, if it is not too large. -/
def signed? (m : UInt64) : Option Int64 := if m.toNat < 2 ^ 63 then some m.toInt64 else none

/-- The negation of an integer, if there is one. -/
def negate? (x : Int64) : Option Int64 := if x = Int64.minValue then none else some (-x)

/-- A magnitude with the sign of `x`, if there is such an integer. -/
def withSign? (x : Int64) (m : UInt64) : Option Int64 := do
  let y ← signed? m
  if x < 0 then negate? y else some y

/-- The candidates for an integer, formed in words: its mirror image, if it is negative and has one, and those of
    its magnitude with its sign; nothing if one of these overflows. -/
def signedDistances? (x : Int64) : Option (List Int64) := do
  let mirror := if x < 0 then (signed? (magnitude x)).toList else []
  let smaller ← (← distances? (magnitude x) (magnitude x) []).mapM (withSign? x)
  return mirror ++ smaller

/-- A word below half of all words is the same number when it is read with a sign. -/
theorem toInt_toInt64 {m : UInt64} (h : m.toNat < 2 ^ 63) : m.toInt64.toInt = m.toNat := by
  show m.toBitVec.toInt = m.toBitVec.toNat
  exact BitVec.toInt_eq_toNat_of_lt (by rw [UInt64.toNat_toBitVec]; omega)

/-- The candidates of a magnitude are nearer to zero than the integer is. -/
theorem lt_natAbs_of_mem_natural {x : Int64} {m : UInt64} (h : m ∈ natural (magnitude x)) :
    m.toNat < x.toInt.natAbs := by
  rw [← toNat_magnitude]
  exact lt_of_mem_natural h

/-- A magnitude below that of an integer can take its sign. -/
theorem withSign?_eq {x : Int64} {m : UInt64} (h : m.toNat < x.toInt.natAbs) :
    withSign? x m = some (withSign x m) := by
  have hlo := Int64.le_toInt x
  have hhi := Int64.toInt_lt x
  have hfits : m.toNat < 2 ^ 63 := by omega
  -- Only the least integer has no negative, and no magnitude that fits is cast to it.
  have hmin : m.toInt64 ≠ Int64.minValue := by
    intro heq
    have := toInt_toInt64 hfits
    rw [heq, Int64.toInt_minValue] at this
    omega
  simp only [withSign?, signed?, if_pos hfits, negate?, if_neg hmin, withSign, Option.bind_eq_bind,
    Option.bind_some]
  split <;> rfl

/-- A negative integer is the mirror image of its magnitude, if that is not too large; it is too large for the
    least integer only. -/
theorem signed?_magnitude {x : Int64} (hneg : x < 0) :
    signed? (magnitude x) = if x = Int64.minValue then none else some (-x) := by
  have hlo := Int64.le_toInt x
  rw [Int64.lt_iff_toInt_lt, Int64.toInt_zero] at hneg
  unfold signed?
  rw [toNat_magnitude]
  by_cases hmin : x = Int64.minValue
  · subst hmin
    rfl
  · have hne : x.toInt ≠ -2 ^ 63 := fun heq => hmin (Int64.toInt_inj.1 (by simpa using heq))
    rw [if_pos (by omega), if_neg hmin, Option.some_inj, ← Int64.toInt_inj, toInt_neg_of_ne_minValue hmin,
      toInt_toInt64 (by rw [toNat_magnitude]; omega), toNat_magnitude]
    omega

/-- A function that always answers answers for every element of a list. -/
theorem mapM_eq_some_map {α β : Type} {f : α → Option β} {g : α → β} {l : List α}
    (h : ∀ a ∈ l, f a = some (g a)) : l.mapM f = some (l.map g) := by
  induction l with
  | nil => rfl
  | cons a l ih =>
    rw [List.forall_mem_cons] at h
    simp [h.1, ih h.2]

/-- The candidates of an integer can be formed in words. -/
theorem signedDistances?_eq (x : Int64) : signedDistances? x = some (integer x) := by
  have hsmaller : (natural (magnitude x)).mapM (withSign? x) =
      some ((natural (magnitude x)).map (withSign x)) := by
    apply mapM_eq_some_map
    intro m hm
    exact withSign?_eq (lt_natAbs_of_mem_natural hm)
  simp only [signedDistances?, distances?_self, Option.bind_eq_bind, Option.bind_some, hsmaller, integer]
  by_cases hneg : x < 0
  · rw [if_pos hneg, signed?_magnitude hneg]
    -- Where the mirror image does not fit it is left out, and it fits but for the least integer.
    by_cases hmin : x = Int64.minValue <;> simp [hneg, hmin]
  · simp [hneg]

/-- The candidates of an integer in closed form. -/
theorem toInt_integer (x : Int64) :
    (integer x).map Int64.toInt =
      (if -2 ^ 63 < x.toInt ∧ x.toInt < 0 then [-x.toInt] else []) ++
        (natural (magnitude x)).map fun m => if x.toInt < 0 then -(m.toNat : Int) else m.toNat := by
  have hlo := Int64.le_toInt x
  have hsmaller : ((natural (magnitude x)).map (withSign x)).map Int64.toInt =
      (natural (magnitude x)).map fun m => if x.toInt < 0 then -(m.toNat : Int) else m.toNat := by
    rw [List.map_map]
    apply List.map_congr_left
    intro m hm
    simpa [Int64.lt_iff_toInt_lt] using toInt_withSign (lt_natAbs_of_mem_natural hm)
  -- The mirror image is offered for every negative integer but the least one, which has none.
  have hmirror : (x < 0 ∧ x ≠ Int64.minValue) ↔ (-2 ^ 63 < x.toInt ∧ x.toInt < 0) := by
    rw [Int64.lt_iff_toInt_lt, Int64.toInt_zero, ne_eq, ← Int64.toInt_inj, Int64.toInt_minValue]
    omega
  unfold integer
  by_cases h : x < 0 ∧ x ≠ Int64.minValue
  · simp only [if_pos h, if_pos (hmirror.1 h), List.map_cons, hsmaller, toInt_neg_of_ne_minValue h.2]
    rfl
  · simp only [if_neg h, if_neg (hmirror.not.1 h), hsmaller]
    rfl

/-- No candidate of an integer comes twice. -/
theorem nodup_integer (x : Int64) : (integer x).Nodup := by
  have hsigned : ((natural (magnitude x)).map
      fun m => if x.toInt < 0 then -(m.toNat : Int) else m.toNat).Nodup := by
    refine List.Nodup.map (fun m m' h => ?_) (List.Pairwise.imp UInt64.ne_of_lt (pairwise_natural _))
    rw [← UInt64.toNat_inj]
    split at h <;> omega
  refine List.Nodup.of_map Int64.toInt ?_
  rw [toInt_integer]
  split
  · -- The mirror image is as far from zero as `x`, the others are nearer.
    rename_i h
    refine List.nodup_cons.2 ⟨fun hmem => ?_, hsigned⟩
    obtain ⟨m, hm, heq⟩ := List.mem_map.1 hmem
    have hlt := lt_natAbs_of_mem_natural hm
    split at heq <;> omega
  · exact hsigned

/-- Each candidate of an integer is nearer to zero than it is, or as near and not negative as it is. -/
theorem lex_lt_of_mem_integer {x y : Int64} (h : y ∈ integer x) :
    toLex (y.toInt.natAbs, decide (y.toInt < 0)) < toLex (x.toInt.natAbs, decide (x.toInt < 0)) := by
  have hrank := integerRank_lt_of_mem_integer h
  simp only [integerRank, Int64.lt_iff_toInt_lt, Int64.toInt_zero] at hrank
  rw [Prod.Lex.toLex_lt_toLex]
  by_cases hx : x.toInt < 0 <;> by_cases hy : y.toInt < 0 <;> simp [hx, hy] at hrank ⊢ <;> omega

/-- **The candidates of numbers.**  Those of a natural are its distances from its quotients by powers of two, one
    for each of its binary digits; they rise from zero to the number just below.  Those of an integer are its mirror
    image, if it is negative and has one, and then the candidates of its magnitude with its sign; none of them
    comes twice, and each is nearer to zero, or as near and positive instead of negative.  No step on the way
    overflows. -/
theorem number_candidates_exact (n : UInt64) (x : Int64) :
    distances? n n [] = some (natural n) ∧
    (natural n).map UInt64.toNat = (List.range n.toNat.size).map (fun k => n.toNat - n.toNat / 2 ^ k) ∧
    (natural n).Pairwise (· < ·) ∧ (∀ m ∈ natural n, m < n) ∧
    (0 < n → (natural n).head? = some 0 ∧ (natural n).getLast? = some (n - 1)) ∧
    signedDistances? x = some (integer x) ∧
    (magnitude x).toNat = x.toInt.natAbs ∧
    (integer x).map Int64.toInt =
      (if -2 ^ 63 < x.toInt ∧ x.toInt < 0 then [-x.toInt] else []) ++
        (natural (magnitude x)).map (fun m => if x.toInt < 0 then -(m.toNat : Int) else m.toNat) ∧
    (integer x).Nodup ∧
    ∀ y ∈ integer x,
      toLex (y.toInt.natAbs, decide (y.toInt < 0)) < toLex (x.toInt.natAbs, decide (x.toInt < 0)) :=
  ⟨distances?_self n, toNat_natural n, pairwise_natural n,
    fun _ hm => UInt64.lt_iff_toNat_lt.2 (lt_of_mem_natural hm),
    fun hn => ⟨head?_natural hn, getLast?_natural hn⟩, signedDistances?_eq x, toNat_magnitude x,
    toInt_integer x, nodup_integer x, fun _ hy => lex_lt_of_mem_integer hy⟩

/-- The least integer has no mirror image, and its magnitude is the only one that cannot take a sign; its first
    candidate is zero. -/
theorem number_candidates_exact_minValue :
    (natural 9).head? = some 0 ∧ (natural 9).getLast? = some 8 ∧ (8 : UInt64) < 9 ∧
      negate? Int64.minValue = none ∧ signed? (magnitude Int64.minValue) = none ∧
      signedDistances? Int64.minValue = some (integer Int64.minValue) ∧ 0 ∈ integer Int64.minValue ∧
      toLex ((0 : Int64).toInt.natAbs, decide ((0 : Int64).toInt < 0)) <
        toLex (Int64.minValue.toInt.natAbs, decide (Int64.minValue.toInt < 0)) := by
  obtain ⟨-, -, -, hlt, hends, hwords, -, -, -, hlex⟩ := number_candidates_exact 9 Int64.minValue
  obtain ⟨hhead, hlast⟩ := hends (by decide)
  have hzero : 0 ∈ integer Int64.minValue :=
    mem_integer.2 (.inr ⟨0, List.mem_of_head? (head?_natural (by decide)), rfl⟩)
  exact ⟨hhead, hlast, hlt 8 (List.mem_of_getLast? hlast), by decide, by decide, hwords, hzero, hlex 0 hzero⟩

end Falsify.Candidate
