/-! # Size schedule

The size of each trial of a suite.  It falls in even steps from just under the greatest size to zero, so the
first trials look at large samples and the last ones at the smallest.

* `toNat_sizeOfTrial`: the size as an exact quotient of naturals. -/

namespace Falsify

/-- The size of trial `index` out of `trials`, where sizes lie below `maxSize`.  The product is formed as a
    natural, without a bound. -/
def sizeOfTrial (index trials maxSize : UInt64) : UInt64 :=
  UInt64.ofNat ((trials.toNat - index.toNat - 1) * maxSize.toNat / max trials.toNat 1)

/-- The quotient never exceeds the greatest size, so it fits in a word. -/
theorem toNat_sizeOfTrial (index trials maxSize : UInt64) :
    (sizeOfTrial index trials maxSize).toNat =
      (trials.toNat - index.toNat - 1) * maxSize.toNat / max trials.toNat 1 := by
  refine UInt64.toNat_ofNat_of_lt' (Nat.lt_of_le_of_lt ?_ maxSize.toNat_lt)
  refine Nat.div_le_of_le_mul (Nat.mul_le_mul_right _ ?_)
  omega

/-- The sizes of all trials, in order. -/
def sizeSchedule (trials maxSize : UInt64) : List UInt64 :=
  (List.range trials.toNat).map fun i => sizeOfTrial (UInt64.ofNat i) trials maxSize

end Falsify
