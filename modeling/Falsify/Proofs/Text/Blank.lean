import Falsify.Proofs.Text.Numeral
import Falsify.Text.Blank

/-!
# Trimming

What trimming leaves of a text is a word that stands amid blanks.  If the word itself has none, it is the only word
of which that can be said.

## Key results

- `amidBlanks_trim`, `trim_of_amidBlanks`: a word without blanks is what is left of a text just if the text is that
  word amid blanks.
- `toLower_of_isBlank`: blanks have no case.
-/

namespace Falsify.Text

theorem isBlank_of_isDigit {c : Char} (h : c.isDigit = true) : isBlank c = false := by
  have hblank : ∀ n < 58, 48 ≤ n →
      (decide (n = 0x20) || (decide (0x09 ≤ n) && decide (n ≤ 0x0d)) || wideBlanks.contains n) = false := by
    decide
  have hdigit := toNat_of_isDigit h
  exact hblank c.toNat (by omega) hdigit.1

/-- No blank is an ASCII letter, so a change of case leaves it as it is. -/
theorem toLower_of_isBlank {c : Char} (h : isBlank c = true) : c.toLower = c := by
  -- No blank is a capital letter: those of ASCII come before the letters, and the others after.
  have hwide : ∀ n ∈ wideBlanks, 90 < n := by decide
  have hletter : ¬(65 ≤ c.toNat ∧ c.toNat ≤ 90) := by
    simp only [isBlank, Bool.or_eq_true, Bool.and_eq_true, decide_eq_true_eq, List.contains_iff_mem] at h
    rcases h with (h | h) | h
    · omega
    · omega
    · have := hwide _ h
      omega
  unfold Char.toLower
  split
  · rename_i hupper
    exact absurd ⟨UInt32.le_iff_toNat_le.1 hupper.1, UInt32.le_iff_toNat_le.1 hupper.2⟩ hletter
  · rfl

/-- A text is a word with nothing but blanks around it. -/
def AmidBlanks (word text : List Char) : Prop :=
  ∃ left right, (∀ c ∈ left, isBlank c = true) ∧ (∀ c ∈ right, isBlank c = true) ∧
    text = left ++ (word ++ right)

/-- What is left of a text stands amid the blanks that are gone. -/
theorem amidBlanks_trim (text : List Char) : AmidBlanks (trim text) text := by
  refine ⟨text.takeWhile isBlank, ((text.dropWhile isBlank).reverse.takeWhile isBlank).reverse, ?_, ?_, ?_⟩
  · exact List.all_eq_true.1 List.all_takeWhile
  · exact fun c hc => List.all_eq_true.1 List.all_takeWhile c (List.mem_reverse.1 hc)
  · rw [trim, ← List.reverse_append, List.takeWhile_append_dropWhile, List.reverse_reverse,
      List.takeWhile_append_dropWhile]

/-- There is nothing to drop from a word without blanks. -/
theorem dropWhile_isBlank_eq_self {word : List Char} (hword : ∀ c ∈ word, isBlank c = false) :
    word.dropWhile isBlank = word := by
  cases word with
  | nil => rfl
  | cons c word => exact List.dropWhile_cons_of_neg (by simp [hword c List.mem_cons_self])

/-- A word without blanks is what is left, whichever blanks are around it. -/
theorem trim_of_amidBlanks {word text : List Char} (hword : ∀ c ∈ word, isBlank c = false)
    (h : AmidBlanks word text) : trim text = word := by
  obtain ⟨left, right, hleft, hright, rfl⟩ := h
  have hbehind : ∀ c ∈ right.reverse, isBlank c = true := fun c hc => hright c (List.mem_reverse.1 hc)
  have hreverse : ∀ c ∈ word.reverse, isBlank c = false := fun c hc => hword c (List.mem_reverse.1 hc)
  rw [trim, List.dropWhile_append_of_pos hleft]
  cases word with
  | nil =>
    -- Then the blanks in front of the word and those behind it are one row, and gone at once.
    have hnone : (right ++ []).dropWhile isBlank = [] := List.dropWhile_append_of_pos hright
    rw [List.append_nil] at hnone
    simp [hnone]
  | cons c word =>
    have hfirst : (c :: word ++ right).dropWhile isBlank = c :: word ++ right :=
      List.dropWhile_cons_of_neg (by simp [hword c List.mem_cons_self])
    rw [hfirst, List.reverse_append, List.dropWhile_append_of_pos hbehind, dropWhile_isBlank_eq_self hreverse,
      List.reverse_reverse]

end Falsify.Text
