import Falsify.Proofs.Text.Blank
import Falsify.Proofs.Time.Date
import Falsify.Time.Timestamp
import Mathlib.Algebra.Group.Nat.Defs
import Mathlib.Tactic.SplitIfs

/-!
# Timestamps read back

A point in time that a clock can show is read from its text as it is, to the nanosecond.

## Key results

- `Timestamp.IsValid`: the points in time that there are.
- `year?_yearText`: a year reads back, whether it has a sign or not.
- `ofLocal?_eq`: the time of day of a timestamp is that timestamp.
- `read?_text`: a timestamp reads back as it was written.
-/

namespace Falsify.Timestamp

open Text

/-! ## Characters -/

theorem skipBlank_cons {c : Char} (h : isBlank c = false) (text : List Char) :
    skipBlank (c :: text) = c :: text :=
  List.dropWhile_cons_of_neg (by rw [h]; decide)

/-- A mark is read from the head of the text. -/
theorem mark?_cons {c : Char} (h : isBlank c = false) (text : List Char) : mark? c (c :: text) = some text := by
  rw [mark?, skipBlank_cons h]
  exact if_pos rfl

/-! ## Numbers -/

section

variable {width n : Nat}

theorem isDigit_of_mem_padded : ∀ c ∈ (padded width n).toList, c.isDigit = true := by
  intro c hc
  rw [padded, String.toList_ofList, List.mem_append, List.mem_replicate] at hc
  obtain ⟨-, rfl⟩ | hc := hc
  · rfl
  · exact isDigit_of_mem_toDigits c hc

theorem padded_ne_nil (width n : Nat) : (padded width n).toList ≠ [] := by
  rw [padded, String.toList_ofList]
  exact List.append_ne_nil_of_right_ne_nil _ Nat.toDigits_ne_nil

/-- It begins with one. -/
theorem exists_cons_padded (width n : Nat) : ∃ c rest, (padded width n).toList = c :: rest ∧ c.isDigit = true :=
  exists_cons_of_isDigit (padded_ne_nil width n) isDigit_of_mem_padded

theorem value_padded : value (padded width n).toList = n := by
  rw [padded, String.toList_ofList, value_replicate_append, value_toDigits]

/-- It is as wide as it was padded to, if it fits. -/
theorem length_padded (hwidth : 0 < width) (hn : n < 10 ^ width) : (padded width n).toList.length = width := by
  have hlength := (Nat.length_toDigits_le_iff (b := 10) (by decide) hwidth).2 hn
  rw [padded, String.toList_ofList, List.length_append, List.length_replicate]
  omega

end

/-- Digits are read as a number, if nothing goes on with it. -/
theorem number?_append {width : Nat} {digits text : List Char} (hne : digits ≠ [])
    (hdigits : ∀ c ∈ digits, c.isDigit = true) (hwidth : digits.length ≤ width) (htext : NoDigit text) :
    number? width (digits ++ text) = some (value digits, text) := by
  obtain ⟨c, rest, rfl, hdigit⟩ := exists_cons_of_isDigit hne hdigits
  have hblank := isBlank_of_isDigit hdigit
  rw [number?, List.cons_append, skipBlank_cons hblank, ← List.cons_append, List.take_append,
    List.take_of_length_le hwidth, takeWhile_isDigit_append hdigits (htext.take _)]
  -- The digits fit into the width and no digit follows them, so exactly they are taken.
  refine bind_eq_some (guard_eq_some hne) ?_
  simp

/-- A padded number is read back, up to a text that does not go on with a digit. -/
theorem number?_padded {width n : Nat} {text : List Char} (hwidth : 0 < width) (hn : n < 10 ^ width)
    (htext : NoDigit text) : number? width ((padded width n).toList ++ text) = some (n, text) := by
  rw [number?_append (padded_ne_nil _ _) isDigit_of_mem_padded (Nat.le_of_eq (length_padded hwidth hn)) htext,
    value_padded]

/-! ## Years -/

/-- Behind a sign stands a digit, and all the digits that are there are read. -/
theorem number?_unbounded (n : Nat) {text : List Char} (htext : NoDigit text) :
    let digits := (padded 4 n).toList ++ text
    (digits.head?.map Char.isDigit).getD false = true ∧ number? digits.length digits = some (n, text) := by
  intro digits
  have hhead : (digits.head?.map Char.isDigit).getD false = true := by
    obtain ⟨c, rest, hc, hdigit⟩ := exists_cons_padded 4 n
    show ((((padded 4 n).toList ++ text).head?.map Char.isDigit).getD false) = true
    rw [hc]
    exact hdigit
  -- The width to read is that of the whole text, so it is no bound on the digits.
  have hwidth : (padded 4 n).toList.length ≤ digits.length := by
    rw [List.length_append]
    omega
  exact ⟨hhead, by rw [number?_append (padded_ne_nil _ _) isDigit_of_mem_padded hwidth htext, value_padded]⟩

/-- A year before the first one is read back with its sign. -/
theorem year?_minus (n : Nat) {text : List Char} (htext : NoDigit text) :
    year? ('-' :: ((padded 4 n).toList ++ text)) = some (-(n : Int), text) := by
  obtain ⟨hhead, hread⟩ := number?_unbounded n htext
  rw [year?, skipBlank_cons (by decide)]
  exact bind_eq_some (guard_eq_some hhead) (bind_eq_some hread rfl)

/-- So is one of more than four digits. -/
theorem year?_plus (n : Nat) {text : List Char} (htext : NoDigit text) :
    year? ('+' :: ((padded 4 n).toList ++ text)) = some ((n : Int), text) := by
  obtain ⟨hhead, hread⟩ := number?_unbounded n htext
  rw [year?, skipBlank_cons (by decide)]
  exact bind_eq_some (guard_eq_some hhead) (bind_eq_some hread rfl)

/-- A year without a sign has four digits. -/
theorem year?_padded {n : Nat} (hn : n < 10000) {text : List Char} (htext : NoDigit text) :
    year? ((padded 4 n).toList ++ text) = some ((n : Int), text) := by
  have hread : number? 4 ((padded 4 n).toList ++ text) = some (n, text) :=
    number?_padded (by decide) (by omega) htext
  obtain ⟨c, rest, hc, hdigit⟩ := exists_cons_padded 4 n
  rw [hc, List.cons_append] at hread ⊢
  rw [year?, skipBlank_cons (isBlank_of_isDigit hdigit)]
  -- A digit is not a sign.
  split
  · rename_i hminus
    rw [(List.cons.inj hminus).1] at hdigit
    exact absurd hdigit (by decide)
  · rename_i hplus
    rw [(List.cons.inj hplus).1] at hdigit
    exact absurd hdigit (by decide)
  · exact bind_eq_some hread rfl

/-- A year is read from its text, whether it has a sign or not. -/
theorem year?_yearText (year : Int) {text : List Char} (htext : NoDigit text) :
    year? ((yearText year).toList ++ text) = some (year, text) := by
  -- Years of four digits stand without a sign, all others with one.
  by_cases hplain : 0 ≤ year ∧ year ≤ 9999
  · rw [yearText, if_pos hplain, year?_padded (by omega) htext, Int.toNat_of_nonneg hplain.1]
  · by_cases hneg : year < 0
    · have hyear : -(year.natAbs : Int) = year := by omega
      have hsign : (yearText year).toList ++ text = '-' :: ((padded 4 year.natAbs).toList ++ text) := by
        rw [yearText, if_neg hplain, if_pos hneg, String.toList_append]
        rfl
      rw [hsign, year?_minus _ htext, hyear]
    · have hyear : (year.natAbs : Int) = year := by omega
      have hsign : (yearText year).toList ++ text = '+' :: ((padded 4 year.natAbs).toList ++ text) := by
        rw [yearText, if_neg hplain, if_neg hneg, String.toList_append]
        rfl
      rw [hsign, year?_plus _ htext, hyear]

/-! ## Fractions -/

/-- Zeros at the end multiply by ten. -/
theorem value_append_replicate (digits : List Char) (k : Nat) :
    value (digits ++ List.replicate k '0') = value digits * 10 ^ k := by
  induction k with
  | zero => simp
  | succ k ih =>
    have hzero : '0'.toNat - '0'.toNat = 0 := rfl
    rw [List.replicate_succ', ← List.append_assoc, value_concat, ih, hzero, Nat.pow_succ]
    rw [Nat.add_zero, Nat.mul_comm 10, Nat.mul_assoc]

/-- The digits of a fraction are the first of nine, and the others are zeros. -/
theorem fraction?_padded {width n : Nat} (hwidth : 0 < width) (hnine : width ≤ 9) (hn : n < 10 ^ width)
    {text : List Char} (htext : NoDigit text) :
    fraction? ('.' :: ((padded width n).toList ++ text)) = some (n * 10 ^ (9 - width), text) := by
  have hlength := length_padded hwidth hn
  -- The digits are filled up with zeros to nine, which makes them count nanoseconds.
  have hnano : ((padded width n).toList ++ List.replicate 9 '0').take 9 =
      (padded width n).toList ++ List.replicate (9 - width) '0' := by
    rw [List.take_append, List.take_of_length_le (by omega), List.take_replicate, hlength,
      Nat.min_eq_left (by omega)]
  rw [fraction?, takeWhile_isDigit_append isDigit_of_mem_padded htext,
    dropWhile_isDigit_append isDigit_of_mem_padded htext]
  simp only [if_neg (padded_ne_nil width n), hnano, value_append_replicate, value_padded]

/-- A fraction of a second is read from its text. -/
theorem fraction?_fractionText {nano : Nat} (h : nano < 1000000000) (text : List Char) :
    fraction? ((fractionText nano).toList ++ 'Z' :: text) = some (nano, 'Z' :: text) := by
  have hend : NoDigit ('Z' :: text) := noDigit_cons (by decide) text
  unfold fractionText
  -- As many groups of three digits are written as are needed, or none at all.
  split_ifs with hzero hmilli hmicro
  · rw [hzero]
    rfl
  · rw [String.toList_append]
    refine (fraction?_padded (by decide) (by decide) (by omega) hend).trans ?_
    rw [show nano / 1000000 * 10 ^ (9 - 3) = nano by omega]
  · rw [String.toList_append]
    refine (fraction?_padded (by decide) (by decide) (by omega) hend).trans ?_
    rw [show nano / 1000 * 10 ^ (9 - 6) = nano by omega]
  · rw [String.toList_append]
    refine (fraction?_padded (by decide) (by decide) (by omega) hend).trans ?_
    rw [show nano * 10 ^ (9 - 9) = nano by omega]

/-! ## Timestamps -/

/-- A point in time that there is: the second is one of the day, the year can be read, and only the last
    second of a minute may be a leap second. -/
structure IsValid (t : Timestamp) : Prop where
  year : isYear (Date.ofDayNumber t.day).year = true
  second : t.second < 86400
  nano : t.nano < 1000000000 ∨ t.nano < 2000000000 ∧ t.second % 60 = 59

/-- A local time in UTC is the time itself. -/
theorem ofLocal?_eq {t : Timestamp} (h : t.IsValid) :
    ofLocal? (Date.ofDayNumber t.day) (t.second / 3600) (t.second / 60 % 60)
      (t.second % 60 + t.nano / 1000000000) (t.nano % 1000000000) 0 = some t := by
  obtain ⟨hyear, hsecond, hnano⟩ := h
  have hdate := Date.isValid_ofDayNumber t.day
  have hhour : t.second / 3600 < 24 := by omega
  have hminute : t.second / 60 % 60 < 60 := by omega
  have hsixty : t.second % 60 + t.nano / 1000000000 ≤ 60 := by omega
  -- The leap second is the only one that is written as the second 60.
  have hback : (if t.second % 60 + t.nano / 1000000000 = 60 then t.nano % 1000000000 + 1000000000
      else t.nano % 1000000000) = t.nano := by
    split <;> omega
  have hseconds : ((t.second / 3600 : Nat) : Int) * 3600 + ((t.second / 60 % 60 : Nat) : Int) * 60 +
      (min (t.second % 60 + t.nano / 1000000000) 59 : Nat) - 0 = t.second := by
    omega
  have hday : (t.second : Int) / 86400 = 0 := by omega
  have hrest : ((t.second : Int) % 86400).toNat = t.second := by omega
  have hfields : ((Date.ofDayNumber t.day).isValid && isYear (Date.ofDayNumber t.day).year &&
      decide (t.second / 3600 < 24) && decide (t.second / 60 % 60 < 60) &&
      decide (t.second % 60 + t.nano / 1000000000 ≤ 60)) = true := by
    simp only [hdate, hyear, hhour, hminute, hsixty, decide_true, Bool.and_self]
  unfold ofLocal?
  refine bind_eq_some (guard_eq_some hfields) ?_
  dsimp only
  rw [hback, hseconds, hday, Date.dayNumber_ofDayNumber, Int.add_zero, hrest]
  exact bind_eq_some (guard_eq_some hyear) rfl

/-- Two digits are read up to the mark behind them. -/
theorem number?_two {n : Nat} (hn : n < 100) {c : Char} (hc : c.isDigit = false) (text : List Char) :
    number? 2 ((padded 2 n).toList ++ c :: text) = some (n, c :: text) :=
  number?_padded (by decide) (by omega) (noDigit_cons hc text)

/-- A fraction begins with its point, or with the letter that ends the time where there is none. -/
theorem noDigit_fractionText (nano : Nat) (text : List Char) :
    NoDigit ((fractionText nano).toList ++ 'Z' :: text) := by
  unfold fractionText
  split_ifs
  · exact noDigit_cons (by decide) _
  all_goals
    rw [String.toList_append]
    exact noDigit_cons (by decide) _

/-- A timestamp reads back as it was written. -/
theorem read?_text {t : Timestamp} (h : t.IsValid) : read? t.text = some t := by
  have hlocal := ofLocal?_eq h
  obtain ⟨hyear, hsecond, hnano⟩ := h
  obtain ⟨hmonth, hday⟩ := Date.bounds_of_isValid (Date.isValid_ofDayNumber t.day)
  have htext : t.text.toList =
      (yearText (Date.ofDayNumber t.day).year).toList ++ '-' :: ((padded 2 (Date.ofDayNumber t.day).month).toList ++
        '-' :: ((padded 2 (Date.ofDayNumber t.day).day).toList ++ 'T' :: ((padded 2 (t.second / 3600)).toList ++
          ':' :: ((padded 2 (t.second / 60 % 60)).toList ++
            ':' :: ((padded 2 (t.second % 60 + t.nano / 1000000000)).toList ++
              ((fractionText (t.nano % 1000000000)).toList ++ ['Z'])))))) := by
    simp [text, textWith]
  have hminus : '-'.isDigit = false := rfl
  have hcolon : ':'.isDigit = false := rfl
  have hletter : 'T'.isDigit = false := rfl
  have hlast : number? 2 ((padded 2 (t.second % 60 + t.nano / 1000000000)).toList ++
      ((fractionText (t.nano % 1000000000)).toList ++ ['Z'])) =
        some (t.second % 60 + t.nano / 1000000000, (fractionText (t.nano % 1000000000)).toList ++ ['Z']) :=
    number?_padded (by decide) (by omega) (noDigit_fractionText _ _)
  have hfraction := fraction?_fractionText (show t.nano % 1000000000 < 1000000000 by omega) []
  have hzone : offset? (skipBlank ['Z']) = some (0, []) := rfl
  rw [read?, htext]
  -- The parts are read one after the other, each up to the mark behind it.
  refine bind_eq_some (year?_yearText _ (noDigit_cons hminus _)) ?_
  refine bind_eq_some (mark?_cons rfl _) ?_
  refine bind_eq_some (number?_two (by omega) hminus _) ?_
  refine bind_eq_some (mark?_cons rfl _) ?_
  refine bind_eq_some (number?_two (by omega) hletter _) ?_
  refine bind_eq_some rfl ?_
  refine bind_eq_some (if_pos (.inl rfl)) ?_
  refine bind_eq_some (number?_two (by omega) hcolon _) ?_
  refine bind_eq_some (mark?_cons rfl _) ?_
  refine bind_eq_some (number?_two (by omega) hcolon _) ?_
  refine bind_eq_some (mark?_cons rfl _) ?_
  refine bind_eq_some hlast ?_
  refine bind_eq_some hfraction ?_
  refine bind_eq_some hzone ?_
  refine bind_eq_some (if_pos rfl) ?_
  exact hlocal

end Falsify.Timestamp
