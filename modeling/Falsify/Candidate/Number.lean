/-! # Smaller numbers

The candidates that stand in for a failing number, most aggressive first.  A natural `n` gives way to
`n - n`, `n - n / 2`, `n - n / 4` and so on up to `n - 1`, so a search that always takes the first failing
candidate halves its distance to the least failing number.

* `halvings_eq`, `halvings_zero`: one step of the halving sequence.
* `lt_of_mem_natural`: every candidate of a natural is smaller.
* `integerRank_lt_of_mem_integer`: every candidate of an integer comes before it in the order by magnitude, a
  positive number before the negative one of the same magnitude. -/

namespace Falsify.Candidate

/-- `n`, `n / 2`, `n / 4` and so on, down to 1. -/
def halvings (n : Nat) : List Nat :=
  if n = 0 then [] else n :: halvings (n / 2)

@[simp] theorem halvings_zero : halvings 0 = [] := by
  rw [halvings]; rfl

/-- The halvings of a positive number begin with the number. -/
theorem halvings_eq {n : Nat} (h : 0 < n) : halvings n = n :: halvings (n / 2) := by
  rw [halvings, if_neg (Nat.ne_of_gt h)]

/-- A halving of a number is positive and at most that number. -/
theorem pos_le_of_mem_halvings {n d : Nat} (h : d ∈ halvings n) : 0 < d ∧ d ≤ n := by
  induction n using Nat.strongRecOn with
  | ind n ih =>
    rcases Nat.eq_zero_or_pos n with rfl | hn
    · simp at h
    · rw [halvings_eq hn, List.mem_cons] at h
      rcases h with rfl | h
      · exact ⟨hn, Nat.le_refl _⟩
      · have := ih (n / 2) (Nat.div_lt_self hn (by decide)) h
        omega

/-- The candidates for a natural: its distances to its own halvings. -/
def natural (n : UInt64) : List UInt64 :=
  (halvings n.toNat).map fun d => UInt64.ofNat (n.toNat - d)

/-- The candidates for a number are smaller. -/
theorem lt_of_mem_natural {n m : UInt64} (h : m ∈ natural n) : m.toNat < n.toNat := by
  obtain ⟨d, hd, rfl⟩ := List.mem_map.1 h
  have := pos_le_of_mem_halvings hd
  have := n.toNat_lt
  rw [UInt64.toNat_ofNat_of_lt' (by show _ < 2 ^ 64; omega)]
  omega

/-- The distance of an integer from zero. -/
def magnitude (x : Int64) : UInt64 := UInt64.ofNat x.toInt.natAbs

/-- A magnitude with the sign of `x`. -/
def withSign (x : Int64) (m : UInt64) : Int64 := if x < 0 then -m.toInt64 else m.toInt64

/-- The candidates for an integer: a negative one first tries its negation, where there is one, and then
    the magnitude shrinks while the sign stays. -/
def integer (x : Int64) : List Int64 :=
  let smaller := (natural (magnitude x)).map (withSign x)
  if x < 0 ∧ x ≠ Int64.minValue then -x :: smaller else smaller

/-- The place of an integer in the order of the search: by magnitude, the positive sign first. -/
def integerRank (x : Int64) : Nat := 2 * x.toInt.natAbs + if x < 0 then 1 else 0

theorem toNat_magnitude (x : Int64) : (magnitude x).toNat = x.toInt.natAbs := by
  have := Int64.le_toInt x
  have := Int64.toInt_lt x
  exact UInt64.toNat_ofNat_of_lt' (by show _ < 2 ^ 64; omega)

/-- A magnitude below that of `x` keeps its value when it takes the sign of `x`. -/
theorem toInt_withSign {x : Int64} {m : UInt64} (h : m.toNat < x.toInt.natAbs) :
    (withSign x m).toInt = if x < 0 then -(m.toNat : Int) else m.toNat := by
  have := Int64.le_toInt x
  have := Int64.toInt_lt x
  have hm : m.toInt64.toInt = m.toNat := by
    rw [show m.toInt64.toInt = (m.toNat : Int).bmod (2 ^ 64) from by
      simp [← Int64.toInt_toBitVec, BitVec.toInt_eq_toNat_bmod]]
    rw [Int.bmod_eq_of_le] <;> omega
  unfold withSign
  split
  · rw [Int64.toInt_neg, hm]
    rw [Int.bmod_eq_of_le] <;> omega
  · exact hm

/-- The candidates for an integer are of smaller rank. -/
theorem integerRank_lt_of_mem_integer {x y : Int64} (h : y ∈ integer x) :
    integerRank y < integerRank x := by
  have hlo := Int64.le_toInt x
  have hhi := Int64.toInt_lt x
  have hshrunk : ∀ y ∈ (natural (magnitude x)).map (withSign x), integerRank y < integerRank x := by
    intro y hy
    obtain ⟨m, hm, rfl⟩ := List.mem_map.1 hy
    have hm := lt_of_mem_natural hm
    rw [toNat_magnitude] at hm
    have := toInt_withSign hm
    unfold integerRank
    split at this <;> split <;> omega
  unfold integer at h
  split at h
  · rename_i hx
    rcases List.mem_cons.1 h with rfl | h
    · have hneg : x.toInt < 0 := by simpa [Int64.lt_iff_toInt_lt] using hx.1
      have hmin : x.toInt ≠ -2 ^ 63 := fun e => hx.2 (Int64.toInt_inj.1 (by simpa using e))
      have : (-x).toInt = -x.toInt := by
        rw [Int64.toInt_neg, Int.bmod_eq_of_le] <;> omega
      unfold integerRank
      rw [if_pos hx.1, this, if_neg (by simp [Int64.lt_iff_toInt_lt, this]; omega)]
      omega
    · exact hshrunk y h
  · exact hshrunk y h

end Falsify.Candidate
