import Falsify.Text.Numeral

/-!
# Decimal digits read back

The digits that a number is written with are read as the number, whatever stands behind them, as long as it
is no further digit.

## Key results

- `value_toDigits`: the digits of a number stand for the number.
- `word?_toString`: a 64-bit word reads back as it was written.
- `head?_toDigits`: only zero begins with a zero.
-/

namespace Falsify.Text

/-! ## Readers -/

/-- A reader goes on where its condition holds. -/
theorem guard_eq_some {p : Prop} [Decidable p] (h : p) : (guard p : Option Unit) = some () := if_pos h

/-- A reader of two parts reads one after the other. -/
theorem bind_eq_some {α β : Type} {x : Option α} {a : α} {f : α → Option β} {b : β} (hx : x = some a)
    (hf : f a = some b) : (x >>= f) = some b := by
  rw [hx]
  exact hf

/-! ## Digits -/

/-- No digit stands at the start of a text. -/
def NoDigit (text : List Char) : Prop := ∀ c ∈ text.head?, c.isDigit = false

theorem noDigit_cons {c : Char} (h : c.isDigit = false) (text : List Char) : NoDigit (c :: text) := by
  intro d hd
  cases hd
  exact h

theorem NoDigit.take {text : List Char} (h : NoDigit text) (k : Nat) : NoDigit (text.take k) := by
  intro c hc
  cases k with
  | zero => cases hc
  | succ k =>
    -- Only the first character matters, and it is taken unless nothing is.
    cases text with
    | nil => cases hc
    | cons d text => exact h c hc

/-- Digits are ten characters in a row. -/
theorem toNat_of_isDigit {c : Char} (h : c.isDigit = true) : 48 ≤ c.toNat ∧ c.toNat ≤ 57 := by
  simp only [Char.isDigit, Bool.and_eq_true, decide_eq_true_eq] at h
  exact ⟨UInt32.le_iff_toNat_le.1 h.1, UInt32.le_iff_toNat_le.1 h.2⟩

section

variable {digits text : List Char}

/-- The digits in front of a text without digits are all that is taken. -/
theorem takeWhile_isDigit_append (hdigits : ∀ c ∈ digits, c.isDigit = true) (htext : NoDigit text) :
    (digits ++ text).takeWhile Char.isDigit = digits := by
  rw [List.takeWhile_append_of_pos hdigits]
  cases text with
  | nil => rw [List.takeWhile_nil, List.append_nil]
  | cons c text => rw [List.takeWhile_cons_of_neg (by rw [htext c rfl]; decide), List.append_nil]

/-- That text is all that is left. -/
theorem dropWhile_isDigit_append (hdigits : ∀ c ∈ digits, c.isDigit = true) (htext : NoDigit text) :
    (digits ++ text).dropWhile Char.isDigit = text := by
  rw [List.dropWhile_append_of_pos hdigits]
  cases text with
  | nil => rfl
  | cons c text => rw [List.dropWhile_cons_of_neg (by rw [htext c rfl]; decide)]

end

/-- Digits that are there begin with one. -/
theorem exists_cons_of_isDigit {digits : List Char} (hne : digits ≠ [])
    (hdigits : ∀ c ∈ digits, c.isDigit = true) : ∃ c rest, digits = c :: rest ∧ c.isDigit = true := by
  obtain ⟨c, rest, rfl⟩ := List.exists_cons_of_ne_nil hne
  exact ⟨c, rest, rfl, hdigits c List.mem_cons_self⟩

/-- The digits of a number stand for the number. -/
theorem value_toDigits (n : Nat) : value (Nat.toDigits 10 n) = n := Nat.ofDigitChars_ten_toDigits

theorem isDigit_of_mem_toDigits {n : Nat} : ∀ c ∈ Nat.toDigits 10 n, c.isDigit = true :=
  fun _ hc => Nat.isDigit_of_mem_toDigits (by decide) (by decide) hc

/-- A decimal numeral has at least one digit. -/
theorem exists_cons_toDigits (n : Nat) : ∃ c rest, Nat.toDigits 10 n = c :: rest ∧ c.isDigit = true :=
  exists_cons_of_isDigit Nat.toDigits_ne_nil isDigit_of_mem_toDigits

/-- Zeros in front of a numeral do not change its value. -/
theorem value_replicate_append (k : Nat) (digits : List Char) :
    value (List.replicate k '0' ++ digits) = value digits := by
  induction k with
  | zero => rfl
  | succ k ih => exact ih

/-- A 64-bit word reads back as it was written. -/
theorem word?_toString (w : UInt64) : word? (toString w.toNat).toList = some w := by
  rw [Nat.toString_eq_ofList_toDigits, String.toList_ofList]
  exact word?_eq_some_iff.2
    ⟨Nat.toDigits_ne_nil, List.all_eq_true.2 isDigit_of_mem_toDigits, value_toDigits w.toNat⟩

theorem digitChar_eq_zero : ∀ n < 10, Nat.digitChar n = '0' → n = 0 := by decide

/-- Only zero is written with a zero at the start. -/
theorem head?_toDigits {n : Nat} (h : (Nat.toDigits 10 n).head? = some '0') : n = 0 := by
  induction n using Nat.strongRecOn with
  | ind n ih =>
    rw [Nat.toDigits_eq_if (by decide)] at h
    split at h
    · rename_i hlt
      exact digitChar_eq_zero n hlt (Option.some.inj h)
    · -- The first digit of a longer numeral is that of the number without its last digit.
      rw [List.head?_append, Option.or_of_isSome (List.isSome_head?.2 Nat.toDigits_ne_nil)] at h
      have := ih (n / 10) (by omega) h
      omega

end Falsify.Text
