/-! # Decimal numerals

Reading naturals: one or more ASCII digits, most significant first, leading zeros allowed.

* `value_concat`: the value of a numeral with one more digit.
* `word?_eq_some_iff`: what is read as a 64-bit word. -/

namespace Falsify.Text

/-- The number that a list of digits stands for. -/
def value (digits : List Char) : Nat :=
  digits.foldl (fun n c => 10 * n + (c.toNat - '0'.toNat)) 0

/-- A digit more at the end multiplies the number by ten. -/
theorem value_concat (digits : List Char) (c : Char) :
    value (digits ++ [c]) = 10 * value digits + (c.toNat - '0'.toNat) := by
  simp [value]

/-- Reads a numeral that consists of digits only. -/
def natural? (text : List Char) : Option Nat :=
  if text ≠ [] ∧ text.all Char.isDigit then some (value text) else none

/-- Reads a numeral that consists of digits only and whose number fits in 64 bits. -/
def word? (text : List Char) : Option UInt64 :=
  match natural? text with
  | some n => if n < UInt64.size then some (UInt64.ofNat n) else none
  | none => none

/-- A numeral is read as its value, and nothing else is read. -/
theorem natural?_eq_some_iff {text : List Char} {n : Nat} :
    natural? text = some n ↔ text ≠ [] ∧ text.all Char.isDigit = true ∧ value text = n := by
  unfold natural?
  split
  · rename_i h
    simp [h.1, h.2]
  · rename_i h
    simp only [reduceCtorEq, false_iff]
    exact fun ⟨hne, hdigits, _⟩ => h ⟨hne, hdigits⟩

/-- A word is read where a numeral is and its value is that of the word, so never from one that is too great. -/
theorem word?_eq_some_iff {text : List Char} {w : UInt64} :
    word? text = some w ↔
      text ≠ [] ∧ text.all Char.isDigit = true ∧ value text = w.toNat := by
  unfold word?
  split
  · rename_i n h
    obtain ⟨hne, hdigits, rfl⟩ := natural?_eq_some_iff.1 h
    split
    · rename_i hlt
      simp only [Option.some.injEq, hne, hdigits, ne_eq, not_false_eq_true, true_and]
      constructor
      · rintro rfl
        exact (UInt64.toNat_ofNat_of_lt' hlt).symm
      · intro hv
        rw [hv, UInt64.ofNat_toNat]
    · rename_i hge
      simp only [reduceCtorEq, false_iff]
      rintro ⟨-, -, hv⟩
      exact hge (hv ▸ w.toNat_lt)
  · rename_i h
    simp only [reduceCtorEq, false_iff]
    rintro ⟨hne, hdigits, hv⟩
    rw [natural?_eq_some_iff.2 ⟨hne, hdigits, hv⟩] at h
    cases h

end Falsify.Text
