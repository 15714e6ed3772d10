import Falsify.Suite.Schedule
import Mathlib.Algebra.Order.Floor.Div

/-!
# The size schedule

The sizes of a suite lead from the greatest size down to zero, in as many steps as there are trials.  Before trial
`k` there are `trials - k` steps left, and the size is that share of the greatest size, rounded down; so each step
is the even share of one trial, rounded down or up.  The shares are quotients of products that need 128 bits, and
words of 128 bits are enough for them.

## Key results

- `wideSize?_eq`: in words of 128 bits no product overflows, and every quotient fits in 64 bits.
- `sizeLevel_eq`: the size before each trial, as a share of the greatest size.
- `sizeDrop_eq_add`: each step is the even share, and one more where the remainders make up a whole.
- `size_schedule_even`: the whole schedule.
-/

namespace Falsify

/-! ## Words of 128 bits -/

/-- The difference of two words, or zero if it is negative. -/
def saturatingSub (a b : UInt64) : UInt64 := if b ≤ a then a - b else 0

/-- The product of two words of 128 bits, if it does not overflow. -/
def wideMul? (a b : BitVec 128) : Option (BitVec 128) := if a.umulOverflow b then none else some (a * b)

/-- A word of 128 bits as one of 64 bits, if it fits. -/
def narrow? (a : BitVec 128) : Option UInt64 :=
  if a.toNat < UInt64.size then some (UInt64.ofNat a.toNat) else none

/-- The size of a trial, with the product formed in a word of 128 bits and the quotient taken back to one of 64
    bits; nothing if either of them is too large. -/
def wideSize? (index trials maxSize : UInt64) : Option UInt64 := do
  let remaining := saturatingSub (saturatingSub trials index) 1
  let product ← wideMul? (remaining.toBitVec.setWidth 128) (maxSize.toBitVec.setWidth 128)
  narrow? (product / (max trials 1).toBitVec.setWidth 128)

theorem toNat_saturatingSub (a b : UInt64) : (saturatingSub a b).toNat = a.toNat - b.toNat := by
  unfold saturatingSub
  split
  · rename_i h
    exact UInt64.toNat_sub_of_le a b h
  · rename_i h
    rw [UInt64.le_iff_toNat_le] at h
    rw [UInt64.toNat_zero]
    omega

/-- A word of 64 bits is the same number among those of 128 bits. -/
theorem toNat_setWidth_toBitVec (a : UInt64) : (a.toBitVec.setWidth 128).toNat = a.toNat := by
  have := a.toNat_lt
  rw [BitVec.toNat_setWidth, UInt64.toNat_toBitVec]
  omega

/-- The product of two words of 64 bits does not overflow in 128 bits. -/
theorem exists_wideMul?_eq (a b : UInt64) :
    ∃ p, wideMul? (a.toBitVec.setWidth 128) (b.toBitVec.setWidth 128) = some p ∧
      p.toNat = a.toNat * b.toNat := by
  -- The product of two words fits into twice as many bits.
  have hlt : a.toNat * b.toNat < 2 ^ 64 * 2 ^ 64 := Nat.mul_lt_mul'' a.toNat_lt b.toNat_lt
  have hfits : (a.toBitVec.setWidth 128).umulOverflow (b.toBitVec.setWidth 128) = false := by
    simp only [BitVec.umulOverflow, toNat_setWidth_toBitVec, decide_eq_false_iff_not]
    omega
  refine ⟨a.toBitVec.setWidth 128 * b.toBitVec.setWidth 128, by simp [wideMul?, hfits], ?_⟩
  rw [BitVec.toNat_mul_of_not_umulOverflow (by simp [hfits])]
  simp only [toNat_setWidth_toBitVec]

/-- Words of 128 bits are enough to form the size of any trial. -/
theorem wideSize?_eq (index trials maxSize : UInt64) :
    wideSize? index trials maxSize = some (sizeOfTrial index trials maxSize) := by
  obtain ⟨p, hp, hproduct⟩ := exists_wideMul?_eq (saturatingSub (saturatingSub trials index) 1) maxSize
  have hquotient : (p / (max trials 1).toBitVec.setWidth 128).toNat =
      (sizeOfTrial index trials maxSize).toNat := by
    rw [toNat_sizeOfTrial, BitVec.toNat_udiv, hproduct, toNat_setWidth_toBitVec, UInt64.toNat_max]
    simp only [toNat_saturatingSub, UInt64.toNat_one]
  simp only [wideSize?, hp, Option.bind_eq_bind, Option.bind_some, narrow?, hquotient]
  -- The quotient is a size, so it fits into one word again.
  rw [if_pos (UInt64.toNat_lt _), UInt64.ofNat_toNat]

/-! ## Levels -/

/-- A number that is not above a word is a word. -/
theorem toNat_ofNat_of_le {a : UInt64} {n : Nat} (h : n ≤ a.toNat) : (UInt64.ofNat n).toNat = n :=
  UInt64.toNat_ofNat_of_lt' (Nat.lt_of_le_of_lt h a.toNat_lt)

/-- The size that has been reached before a trial: the greatest size at first, later the size of the trial
    before. -/
def sizeLevel (trials maxSize : UInt64) : Nat → Nat
  | 0 => maxSize.toNat
  | k + 1 => (sizeOfTrial (.ofNat k) trials maxSize).toNat

/-- How far the size drops with a trial. -/
def sizeDrop (trials maxSize : UInt64) (k : Nat) : Nat :=
  sizeLevel trials maxSize k - sizeLevel trials maxSize (k + 1)

section

variable {trials maxSize : UInt64} {k : Nat}

/-- The size before a trial is the share of the trials that are left. -/
theorem sizeLevel_eq (htrials : 0 < trials.toNat) (hk : k ≤ trials.toNat) :
    sizeLevel trials maxSize k = (trials.toNat - k) * maxSize.toNat / trials.toNat := by
  cases k with
  | zero => simp [sizeLevel, Nat.mul_div_cancel_left _ htrials]
  | succ k =>
    have hindex : (UInt64.ofNat k).toNat = k := toNat_ofNat_of_le (Nat.le_of_lt hk)
    rw [sizeLevel, toNat_sizeOfTrial, hindex, Nat.max_eq_left htrials, Nat.sub_sub]

/-- Each trial takes the even share off the size, and one more where the remainders make up a whole. -/
theorem sizeLevel_eq_add (hk : k < trials.toNat) :
    sizeLevel trials maxSize k = sizeLevel trials maxSize (k + 1) + maxSize.toNat / trials.toNat +
      if trials.toNat ≤ (trials.toNat - (k + 1)) * maxSize.toNat % trials.toNat + maxSize.toNat % trials.toNat
      then 1 else 0 := by
  have htrials : 0 < trials.toNat := by omega
  have hleft : trials.toNat - k = trials.toNat - (k + 1) + 1 := by omega
  rw [sizeLevel_eq htrials (Nat.le_of_lt hk), sizeLevel_eq htrials hk, hleft, Nat.succ_mul,
    Nat.add_div htrials]

/-- The size does not rise from one trial to the next. -/
theorem sizeLevel_succ_le (hk : k < trials.toNat) :
    sizeLevel trials maxSize (k + 1) ≤ sizeLevel trials maxSize k := by
  rw [sizeLevel_eq_add hk, Nat.add_assoc]
  exact Nat.le_add_right _ _

/-- Each trial takes off the even share, and one more where the remainders make up a whole. -/
theorem sizeDrop_eq_add (hk : k < trials.toNat) :
    sizeDrop trials maxSize k = maxSize.toNat / trials.toNat +
      if trials.toNat ≤ (trials.toNat - (k + 1)) * maxSize.toNat % trials.toNat + maxSize.toNat % trials.toNat
      then 1 else 0 := by
  rw [sizeDrop, sizeLevel_eq_add hk, Nat.add_assoc, Nat.add_sub_cancel_left]

/-- A trial takes off at least the even share, and at most one more. -/
theorem sizeDrop_bounds (maxSize : UInt64) (hk : k < trials.toNat) :
    maxSize.toNat / trials.toNat ≤ sizeDrop trials maxSize k ∧
      sizeDrop trials maxSize k ≤ maxSize.toNat / trials.toNat + 1 := by
  rw [sizeDrop_eq_add hk]
  split <;> simp

/-- A quotient that is not whole is rounded up to the next number. -/
theorem ceilDiv_eq_succ {m n : Nat} (hn : 0 < n) (h : m % n ≠ 0) : m ⌈/⌉ n = m / n + 1 := by
  -- The remainder is positive, and it is what the quotient rounded up covers once more.
  have hsplit := Nat.div_add_mod m n
  apply Nat.le_antisymm
  · rw [ceilDiv_le_iff_le_mul hn, Nat.mul_succ]
    have := Nat.mod_lt m hn
    omega
  · rw [Nat.succ_le_iff, ← not_le, ceilDiv_le_iff_le_mul hn]
    omega

/-- Each trial takes off the even share, rounded down or up. -/
theorem sizeDrop_eq_floor_or_ceil (hk : k < trials.toNat) :
    sizeDrop trials maxSize k = maxSize.toNat / trials.toNat ∨
      sizeDrop trials maxSize k = maxSize.toNat ⌈/⌉ trials.toNat := by
  rw [sizeDrop_eq_add hk]
  split
  · rename_i hcarry
    right
    -- A remainder by itself is no whole, so that of the even share has a part in the carry.
    have htrials : 0 < trials.toNat := by omega
    have hrest := Nat.mod_lt ((trials.toNat - (k + 1)) * maxSize.toNat) htrials
    rw [ceilDiv_eq_succ htrials (by omega)]
  · left
    rfl

end

/-! ## The schedule -/

section

variable {trials maxSize : UInt64}

/-- Later trials are not larger. -/
theorem sizeOfTrial_antitone {i j : UInt64} (hij : i ≤ j) :
    sizeOfTrial j trials maxSize ≤ sizeOfTrial i trials maxSize := by
  rw [UInt64.le_iff_toNat_le] at hij ⊢
  rw [toNat_sizeOfTrial, toNat_sizeOfTrial]
  apply Nat.div_le_div_right
  apply Nat.mul_le_mul_right
  omega

/-- No trial has the greatest size, unless that is zero. -/
theorem sizeOfTrial_lt (i : UInt64) (htrials : 0 < trials) :
    sizeOfTrial i trials maxSize < max maxSize 1 := by
  rw [UInt64.lt_iff_toNat_lt] at htrials ⊢
  rw [UInt64.toNat_max, toNat_sizeOfTrial]
  simp only [UInt64.toNat_zero, UInt64.toNat_one] at htrials ⊢
  rw [Nat.max_eq_left htrials]
  apply Nat.div_lt_of_lt_mul
  -- A greatest size of zero is counted as one here, and every size is zero then.
  rcases Nat.eq_zero_or_pos maxSize.toNat with hzero | hpos
  · rw [hzero]
    simpa using htrials
  · rw [Nat.max_eq_left hpos]
    exact Nat.mul_lt_mul_of_pos_right (by omega) hpos

/-- The trial with a number has its place in the schedule. -/
theorem getElem?_sizeSchedule {i : UInt64} (hi : i < trials) :
    (sizeSchedule trials maxSize)[i.toNat]? = some (sizeOfTrial i trials maxSize) := by
  rw [UInt64.lt_iff_toNat_lt] at hi
  simp [sizeSchedule, List.getElem?_range hi]

/-- No size in the schedule is below a later one. -/
theorem pairwise_sizeSchedule : (sizeSchedule trials maxSize).Pairwise (· ≥ ·) := by
  unfold sizeSchedule
  rw [List.pairwise_map]
  refine List.Pairwise.imp_of_mem (fun {i j} hi hj hlt => ?_) List.pairwise_lt_range
  rw [List.mem_range] at hi hj
  apply sizeOfTrial_antitone
  rw [UInt64.le_iff_toNat_le, toNat_ofNat_of_le (Nat.le_of_lt hi), toNat_ofNat_of_le (Nat.le_of_lt hj)]
  exact Nat.le_of_lt hlt

/-- The schedule ends with size zero. -/
theorem getLast?_sizeSchedule (htrials : 0 < trials) : (sizeSchedule trials maxSize).getLast? = some 0 := by
  rw [UInt64.lt_iff_toNat_lt, UInt64.toNat_zero] at htrials
  -- No trial is left after the last one, so its share of the size is none.
  obtain ⟨n, hn⟩ := Nat.exists_eq_succ_of_ne_zero (Nat.ne_of_gt htrials)
  have hindex : (UInt64.ofNat n).toNat = n := toNat_ofNat_of_le (hn ▸ Nat.le_succ n)
  have hlast : sizeOfTrial (.ofNat n) trials maxSize = 0 := by
    rw [← UInt64.toNat_inj, toNat_sizeOfTrial, hindex, hn]
    simp
  simp [sizeSchedule, hn, List.range_succ, hlast]

end

/-- **The sizes fall in even steps.**  The size of a trial is an exact quotient of naturals, which words of 128
    bits are enough to form.  The sizes do not rise, lie below the greatest size, unless that is zero, and end with
    zero.  With each trial, the first one included, the size drops by the even share of a trial, rounded down or
    up, so that the drops of neighbours differ by one at most. -/
theorem size_schedule_even {trials : UInt64} (maxSize : UInt64) (htrials : 0 < trials) :
    (∀ i < trials,
      (sizeOfTrial i trials maxSize).toNat =
        (trials.toNat - i.toNat - 1) * maxSize.toNat / trials.toNat ∧
      wideSize? i trials maxSize = some (sizeOfTrial i trials maxSize) ∧
      sizeOfTrial i trials maxSize < max maxSize 1 ∧
      (sizeSchedule trials maxSize)[i.toNat]? = some (sizeOfTrial i trials maxSize)) ∧
    (sizeSchedule trials maxSize).length = trials.toNat ∧
    (sizeSchedule trials maxSize).Pairwise (· ≥ ·) ∧
    (sizeSchedule trials maxSize).getLast? = some 0 ∧
    (∀ k < trials.toNat,
      sizeLevel trials maxSize (k + 1) ≤ sizeLevel trials maxSize k ∧
      (sizeDrop trials maxSize k = maxSize.toNat / trials.toNat ∨
        sizeDrop trials maxSize k = maxSize.toNat ⌈/⌉ trials.toNat)) ∧
    (∀ k, k + 1 < trials.toNat →
      sizeDrop trials maxSize k ≤ sizeDrop trials maxSize (k + 1) + 1 ∧
      sizeDrop trials maxSize (k + 1) ≤ sizeDrop trials maxSize k + 1) := by
  refine ⟨fun i hi => ⟨?_, wideSize?_eq i trials maxSize, sizeOfTrial_lt i htrials, getElem?_sizeSchedule hi⟩,
    by simp [sizeSchedule], pairwise_sizeSchedule, getLast?_sizeSchedule htrials,
    fun k hk => ⟨sizeLevel_succ_le hk, sizeDrop_eq_floor_or_ceil hk⟩, fun k hk => ?_⟩
  · have hpos : 0 < trials.toNat := UInt64.lt_iff_toNat_lt.1 htrials
    rw [toNat_sizeOfTrial, Nat.max_eq_left hpos]
  · have hbefore := sizeDrop_bounds maxSize (Nat.lt_of_succ_lt hk)
    have hafter := sizeDrop_bounds maxSize hk
    omega

/-- Three trials share a size that is not divisible by three and needs all 64 bits. -/
theorem size_schedule_even_three :
    let size (i : UInt64) := sizeOfTrial i 3 18446744073709551614
    size 0 = 12297829382473034409 ∧ size 1 = 6148914691236517204 ∧ size 2 = 0 ∧
      wideSize? 0 3 18446744073709551614 = some (size 0) ∧
      sizeDrop 3 18446744073709551614 1 ≤ sizeDrop 3 18446744073709551614 0 + 1 := by
  intro size
  obtain ⟨hsize, -, -, -, -, hdrops⟩ :=
    size_schedule_even 18446744073709551614 (show (0 : UInt64) < 3 by decide)
  exact ⟨by decide, by decide, by decide, (hsize 0 (by decide)).2.1, (hdrops 0 (by decide)).2⟩

end Falsify
