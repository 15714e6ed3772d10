import Falsify.Random.Gen

/-!
# Draws from a range

A draw from a range lies in the range, whatever words the stream supplies.  The range is counted upwards from
its lower end and around the end of the words, so one fact about that count serves naturals and integers.

## Key results

- `Gen.choose_sub_le`: how far a draw is from the lower end.
- `Gen.chooseNat_mem`, `Gen.chooseInt_mem`: draws of naturals and integers lie between their bounds.
-/

namespace Falsify.Gen

/-- A word that was scaled to a range is below it. -/
theorem toNat_scaled_lt {range : UInt64} (hrange : range ≠ 0) (zone : UInt64) (tries : Nat) (g : Gen) :
    (scaled range zone tries g).1.toNat < range.toNat := by
  have hpos : 0 < range.toNat := Nat.pos_of_ne_zero fun h => hrange (UInt64.toNat_inj.1 h)
  -- The high half of the product of a word and the range is below the range.
  have hhigh (w : UInt64) :
      (UInt64.ofNat (w.toNat * range.toNat / UInt64.size)).toNat < range.toNat := by
    have hdiv : w.toNat * range.toNat / UInt64.size < range.toNat :=
      Nat.div_lt_of_lt_mul (Nat.mul_lt_mul_of_pos_right w.toNat_lt_size hpos)
    have hlt := range.toNat_lt
    rwa [UInt64.toNat_ofNat_of_lt' (Nat.lt_trans hdiv hlt)]
  induction tries generalizing g with
  | zero => exact hhigh g.next.1
  | succ tries ih =>
    simp only [scaled]
    split
    · exact hhigh g.next.1
    · exact ih g.next.2

/-- A draw is at most as far from the lower end of its range as the upper end is. -/
theorem choose_sub_le (lo hi : UInt64) (g : Gen) :
    ((choose lo hi g).1 - lo).toNat ≤ (hi - lo).toNat := by
  have hlt := (hi - lo).toNat_lt
  unfold choose
  split
  · -- The range is all words, so its ends are as far apart as two words can be.
    rename_i hall
    have hcount := congrArg UInt64.toNat hall
    rw [UInt64.toNat_add, UInt64.toNat_ofNat] at hcount
    have hword := (g.next.1 - lo).toNat_lt
    simp only [UInt64.toNat_zero] at hcount
    omega
  · rename_i hsome
    have hscaled := toNat_scaled_lt hsome (acceptZone (hi - lo + 1)) maxTries g
    have hcount : (hi - lo + 1).toNat ≤ (hi - lo).toNat + 1 := by
      rw [UInt64.toNat_add]
      exact Nat.mod_le _ _
    dsimp only
    rw [UInt64.add_comm, UInt64.add_sub_cancel]
    omega

/-- A choice between two bounds in order lies between them. -/
theorem choose_mem {lo hi : UInt64} (h : lo ≤ hi) (g : Gen) :
    lo ≤ (choose lo hi g).1 ∧ (choose lo hi g).1 ≤ hi := by
  -- What is drawn lies in the range up to wrapping; between two words that are in order, nothing wraps.
  have hsub := choose_sub_le lo hi g
  have hlo := lo.toNat_lt
  have hhi := hi.toNat_lt
  have hdrawn := (choose lo hi g).1.toNat_lt
  rw [UInt64.le_iff_toNat_le] at h
  rw [UInt64.toNat_sub, UInt64.toNat_sub] at hsub
  rw [UInt64.le_iff_toNat_le, UInt64.le_iff_toNat_le]
  omega

/-- A natural is drawn between its bounds. -/
theorem chooseNat_mem {lo hi : UInt64} (h : lo ≤ hi) (g : Gen) :
    lo ≤ (chooseNat lo hi g).1 ∧ (chooseNat lo hi g).1 ≤ hi := by
  rw [chooseNat, if_pos h]
  exact choose_mem h g

/-- A natural that is drawn up to the smaller of two bounds is at most either of them. -/
theorem chooseNat_le_min (a b : UInt64) (g : Gen) :
    (chooseNat 0 (min a b) g).1.toNat ≤ min a.toNat b.toNat := by
  have hdrawn : (chooseNat 0 (min a b) g).1 ≤ min a b := (chooseNat_mem UInt64.zero_le g).2
  exact Nat.le_min.2 ⟨UInt64.le_iff_toNat_le.1 (UInt64.le_trans hdrawn Std.min_le_left),
    UInt64.le_iff_toNat_le.1 (UInt64.le_trans hdrawn Std.min_le_right)⟩

/-- An integer, from the word that it is stored as. -/
theorem toInt_eq_toNat (x : Int64) :
    x.toInt =
      if 2 * x.toUInt64.toNat < UInt64.size then (x.toUInt64.toNat : Int)
      else x.toUInt64.toNat - (UInt64.size : Int) :=
  BitVec.toInt_eq_toNat_cond x.toBitVec

/-- An integer is drawn between its bounds. -/
theorem chooseInt_mem {lo hi : Int64} (h : lo ≤ hi) (g : Gen) :
    lo ≤ (chooseInt lo hi g).1 ∧ (chooseInt lo hi g).1 ≤ hi := by
  -- The words of two integers need not be in order, but their distance is the distance of the integers.
  have hsub := choose_sub_le lo.toUInt64 hi.toUInt64 g
  rw [chooseInt, if_pos h]
  have hdrawn := toInt_eq_toNat (choose lo.toUInt64 hi.toUInt64 g).1.toInt64
  rw [show (choose lo.toUInt64 hi.toUInt64 g).1.toInt64.toUInt64 = (choose lo.toUInt64 hi.toUInt64 g).1
    from rfl] at hdrawn
  have hlo := toInt_eq_toNat lo
  have hhi := toInt_eq_toNat hi
  rw [show UInt64.size = 2 ^ 64 from rfl] at hdrawn hlo hhi
  have hltlo := lo.toUInt64.toNat_lt
  have hlthi := hi.toUInt64.toNat_lt
  have hlt := (choose lo.toUInt64 hi.toUInt64 g).1.toNat_lt
  rw [UInt64.toNat_sub, UInt64.toNat_sub] at hsub
  rw [Int64.le_iff_toInt_le] at h ⊢
  rw [Int64.le_iff_toInt_le]
  dsimp only
  generalize (choose lo.toUInt64 hi.toUInt64 g).1 = w at *
  omega

end Falsify.Gen
