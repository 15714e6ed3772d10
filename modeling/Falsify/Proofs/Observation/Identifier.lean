import Falsify.Proofs.Json.RoundTrip
import Falsify.Uuid
import Mathlib.Algebra.Group.Nat.Defs

/-!
# Identifiers read back

An identifier is written in five groups of hexadecimal digits, four bits each, and read from them.

## Key results

- `digitsOf_add`: digits split into those of the high bits and those of the low ones.
- `wordOf?_digitsOf`: a word is read from its sixteen digits.
- `read?_text`: an identifier reads back as it was written.
-/

namespace Falsify.Uuid

/-! ## Digits -/

theorem toNat_shiftRight_four (w : UInt64) : (w >>> 4).toNat = w.toNat / 16 := by
  rw [UInt64.toNat_shiftRight, show (4 : UInt64).toNat % 64 = 4 from rfl, Nat.shiftRight_eq_div_pow]

theorem toNat_and_fifteen (w : UInt64) : (w &&& 0xf).toNat = w.toNat % 16 := by
  rw [UInt64.toNat_and, show (0xf : UInt64).toNat = 2 ^ 4 - 1 from rfl, Nat.and_two_pow_sub_one_eq_mod]

@[simp] theorem length_digitsOf (n : Nat) (w : UInt64) : (digitsOf n w).length = n := by
  induction n generalizing w with
  | zero => rfl
  | succ n ih => simp [digitsOf, ih]

/-- Digits are the digits of numbers below sixteen. -/
theorem exists_of_mem_digitsOf {n : Nat} {w : UInt64} {c : Char} (h : c ∈ digitsOf n w) :
    ∃ d < 16, c = Json.hexDigit d := by
  induction n generalizing w with
  | zero => cases h
  | succ n ih =>
    rw [digitsOf, List.mem_append, List.mem_singleton] at h
    obtain h | rfl := h
    · exact ih h
    · exact ⟨(w &&& 0xf).toNat, by rw [toNat_and_fifteen]; omega, rfl⟩

/-- The digits of a word are those of its high bits and those of its low bits. -/
theorem digitsOf_add (m n : Nat) (w k : UInt64) (hk : k.toNat = 4 * n) (hn : n < 16) :
    digitsOf (m + n) w = digitsOf m (w >>> k) ++ digitsOf n w := by
  induction n generalizing w k with
  | zero =>
    have hzero : k = 0 := UInt64.toNat_inj.1 hk
    simp [hzero, digitsOf]
  | succ n ih =>
    have hpred : (k - 4).toNat = 4 * n := by
      rw [UInt64.toNat_sub_of_le _ _ (UInt64.le_iff_toNat_le.2 (by rw [hk]; show 4 ≤ _; omega)), hk]
      show 4 * (n + 1) - 4 = 4 * n
      omega
    -- One digit is split off at the end of both sides, and the shift for the rest is four bits less.
    have hshift : w >>> 4 >>> (k - 4) = w >>> k := by
      rw [← UInt64.toNat_inj, UInt64.toNat_shiftRight, toNat_shiftRight_four, UInt64.toNat_shiftRight, hpred, hk,
        Nat.mod_eq_of_lt (by omega), Nat.mod_eq_of_lt (by omega), Nat.shiftRight_eq_div_pow,
        Nat.shiftRight_eq_div_pow, Nat.div_div_eq_div_mul, Nat.mul_add, Nat.pow_add, Nat.mul_comm]
    rw [← Nat.add_assoc, digitsOf, digitsOf, ih (w >>> 4) (k - 4) hpred (by omega), hshift, List.append_assoc]

/-- One more digit goes to the low end of a word. -/
theorem toNat_shiftLeft_or (w : UInt64) {d : Nat} (hd : d < 16) :
    ((w <<< 4) ||| UInt64.ofNat d).toNat = (w.toNat * 16 + d) % 2 ^ 64 := by
  have hlow : (UInt64.ofNat d).toNat = d := UInt64.toNat_ofNat_of_lt' (by unfold UInt64.size; omega)
  rw [UInt64.toNat_or, UInt64.toNat_shiftLeft, hlow, show (4 : UInt64).toNat % 64 = 4 from rfl, Nat.shiftLeft_eq]
  -- The shifted word is a multiple of sixteen, so the digit takes bits that are free.
  have hfree : w.toNat * 2 ^ 4 % 2 ^ 64 = 2 ^ 4 * (w.toNat % 2 ^ 60) := by omega
  rw [hfree, ← Nat.two_pow_add_eq_or_of_lt hd]
  omega

/-- A word with one more digit at its low end. -/
def pushDigit? (w : UInt64) (c : Char) : Option UInt64 :=
  (Json.hexValue? c).map fun d => (w <<< 4) ||| UInt64.ofNat d

/-- Digits are read one after the other, each pushed onto the word so far. -/
theorem wordOf?_eq (digits : List Char) : wordOf? digits = digits.foldlM pushDigit? 0 := rfl

/-- The word that digits stand for, behind the digits of another one. -/
theorem exists_foldlM_digitsOf (n : Nat) (acc w : UInt64) :
    ∃ r : UInt64, (digitsOf n w).foldlM pushDigit? acc = some r ∧
      r.toNat = (acc.toNat * 16 ^ n + w.toNat % 16 ^ n) % 2 ^ 64 := by
  induction n generalizing w with
  | zero => exact ⟨acc, rfl, by have := acc.toNat_lt; omega⟩
  | succ n ih =>
    -- Digits are read from the front, so the last one is read on top of the value of the others.
    obtain ⟨r, hr, hvalue⟩ := ih (w >>> 4)
    have hdigit : w.toNat % 16 < 16 := Nat.mod_lt _ (by decide)
    refine ⟨(r <<< 4) ||| UInt64.ofNat (w.toNat % 16), ?_, ?_⟩
    · rw [digitsOf, List.foldlM_append, hr, toNat_and_fifteen]
      simp [pushDigit?, Json.hexValue?_hexDigit _ hdigit]
    · have hsplit : w.toNat % 16 ^ (n + 1) = 16 * (w.toNat / 16 % 16 ^ n) + w.toNat % 16 := by
        rw [Nat.pow_succ, Nat.mul_comm (16 ^ n), Nat.mod_mul]
        omega
      have hpow : acc.toNat * 16 ^ (n + 1) = acc.toNat * 16 ^ n * 16 := by rw [Nat.pow_succ, Nat.mul_assoc]
      rw [toNat_shiftLeft_or r hdigit, hvalue, toNat_shiftRight_four, hsplit, hpow]
      omega

/-- A word is read from its sixteen digits. -/
theorem wordOf?_digitsOf (w : UInt64) : wordOf? (digitsOf 16 w) = some w := by
  obtain ⟨r, hr, hvalue⟩ := exists_foldlM_digitsOf 16 0 w
  have hw := w.toNat_lt
  -- Sixteen digits are all of a word, so nothing of it is cut off.
  have hrw : r = w := by
    rw [← UInt64.toNat_inj, hvalue, UInt64.toNat_zero]
    omega
  rw [wordOf?_eq, hr, hrw]

/-! ## Groups -/

/-- The first three groups of an identifier are the digits of its high word. -/
theorem digitsOf_high (w : UInt64) :
    digitsOf 8 (w >>> 32) ++ digitsOf 4 (w >>> 16) ++ digitsOf 4 w = digitsOf 16 w := by
  have hshift : w >>> 16 >>> 16 = w >>> 32 := by
    rw [← UInt64.toNat_inj]
    simp only [UInt64.toNat_shiftRight, UInt64.toNat_ofNat, Nat.shiftRight_eq_div_pow, Nat.reducePow,
      Nat.reduceMod]
    omega
  rw [digitsOf_add 12 4 w 16 rfl (by decide), digitsOf_add 8 4 (w >>> 16) 16 rfl (by decide), hshift]

/-- The last two groups are those of its low word. -/
theorem digitsOf_low (w : UInt64) : digitsOf 4 (w >>> 48) ++ digitsOf 12 w = digitsOf 16 w :=
  (digitsOf_add 4 12 w 48 rfl (by decide)).symm

theorem filter_digitsOf (n : Nat) (w : UInt64) : (digitsOf n w).filter (· ≠ '-') = digitsOf n w := by
  rw [List.filter_eq_self]
  intro c hc
  obtain ⟨d, hd, rfl⟩ := exists_of_mem_digitsOf hc
  have hne : ∀ d < 16, Json.hexDigit d ≠ '-' := by decide
  exact decide_eq_true (hne d hd)

/-- The groups of an identifier are read without their hyphens. -/
theorem ofGroups?_eq {a b c d e : List Char} (ha : a.length = 8) (hb : b.length = 4) (hc : c.length = 4)
    (hd : d.length = 4) (he : e.length = 12) :
    ofGroups? (a ++ '-' :: b ++ '-' :: c ++ '-' :: d ++ '-' :: e) =
      ofDigits? ((a ++ b ++ c ++ d ++ e).filter (· ≠ '-')) := by
  have hlength : (a ++ '-' :: b ++ '-' :: c ++ '-' :: d ++ '-' :: e).length = 36 := by
    simp [ha, hb, hc, hd, he]
  have hhyphens : [8, 13, 18, 23].all
      fun i => decide ((a ++ '-' :: b ++ '-' :: c ++ '-' :: d ++ '-' :: e)[i]? = some '-') := by
    simp [List.getElem?_append, ha, hb, hc, hd]
  rw [ofGroups?, Text.guard_eq_some hlength, Text.guard_eq_some hhyphens]
  simp

/-- An identifier reads back as it was written. -/
theorem read?_text (u : Uuid) : read? u.text = some u := by
  have hdigits : ofDigits? (digitsOf 16 u.high ++ digitsOf 16 u.low) = some u := by
    have hlength : (digitsOf 16 u.high ++ digitsOf 16 u.low).length = 32 := by simp
    rw [ofDigits?, Text.guard_eq_some hlength, List.take_left' (length_digitsOf 16 _),
      List.drop_left' (length_digitsOf 16 _), wordOf?_digitsOf, wordOf?_digitsOf]
    rfl
  have hgroups : ofGroups? u.text.toList = some u := by
    rw [text, String.toList_ofList, ofGroups?_eq (by simp) (by simp) (by simp) (by simp) (by simp)]
    simp only [List.filter_append, filter_digitsOf]
    rw [digitsOf_high, List.append_assoc, digitsOf_low, hdigits]
  -- The first character is a digit, so no brace and no prefix is taken away.
  obtain ⟨c, rest, hc⟩ : ∃ c rest, digitsOf 8 (u.high >>> 32) = c :: rest :=
    List.exists_cons_of_length_eq_add_one (length_digitsOf 8 _)
  obtain ⟨d, hd, rfl⟩ := exists_of_mem_digitsOf (hc ▸ List.mem_cons_self)
  have hlead : ∀ d < 16, Json.hexDigit d ≠ '\x7b' ∧ Json.hexDigit d ≠ 'u' := by decide
  obtain ⟨rest', hrest'⟩ : ∃ rest', u.text.toList = Json.hexDigit d :: rest' := by
    rw [text, String.toList_ofList, hc]
    exact ⟨_, rfl⟩
  have hlength : u.text.toList.length ≠ 32 := by
    rw [text, String.toList_ofList]
    simp
  unfold read?
  split
  · rename_i hbrace
    rw [hrest', List.cons.injEq] at hbrace
    exact absurd hbrace.1 (hlead d hd).1
  · rename_i hprefix
    rw [hrest', List.cons.injEq] at hprefix
    exact absurd hprefix.1 (hlead d hd).2
  · rw [if_neg hlength, hgroups]

end Falsify.Uuid
