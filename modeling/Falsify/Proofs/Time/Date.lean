import Falsify.Time.Date

/-!
# Days and their numbers

The day with a number is a day of the calendar, and has that number.  An era is taken apart from the top into
centuries, spans of four years, years and months; years begin in March, so that only the last part of each
kind may be longer or shorter than the others.

## Key results

- `yearOf_spec`: the year of an era that a day is in, and when the year has a leap day at its end.
- `isValid_ofDayNumber`: a number is that of a day of the calendar.
- `bounds_of_isValid`: the numbers of a day of the calendar have two digits.
- `dayNumber_ofDayNumber`: the day with a number has that number.
-/

namespace Falsify.Date

/-! ## Years of an era -/

/-- The year of an era that a day of the era is in. -/
def yearOf (dayOfEra : Int) : Int :=
  (dayOfEra - dayOfEra / 1460 + dayOfEra / 36524 - dayOfEra / 146096) / 365

/-- The first day of a year of an era. -/
def yearStart (year : Int) : Int := 365 * year + year / 4 - year / 100

/-- A day of an era, by its century, its four years in the century, its year of the four and its day of the
    year.  The day 365 is a leap day: it comes at the end of four years, and in the last four years of a
    century only at the end of the era. -/
structure Parts (day century four year rest : Int) : Prop where
  day_eq : day = 36524 * century + 1461 * four + 365 * year + rest
  century_bounds : 0 ≤ century ∧ century ≤ 3
  four_bounds : 0 ≤ four ∧ four ≤ 24
  year_bounds : 0 ≤ year ∧ year ≤ 3
  rest_bounds : 0 ≤ rest ∧ rest ≤ 365
  leap : rest = 365 → year = 3 ∧ (four = 24 → century = 3)

/-- Each day of an era is in a century, a cycle of four years, a year and a place in it. -/
theorem exists_parts {d : Int} (h : 0 ≤ d) (hd : d < eraDays) : ∃ c f y r, Parts d c f y r := by
  unfold eraDays at hd
  -- The last century has one day more, and so has the last of four years.
  obtain ⟨c, hc, hc3, s, hs, hs', hsplit⟩ : ∃ c, 0 ≤ c ∧ c ≤ 3 ∧ ∃ s, 0 ≤ s ∧ (s < 36524 ∨ s = 36524 ∧ c = 3) ∧
      d = 36524 * c + s := by
    by_cases hlast : d = 146096
    · exact ⟨3, by omega, by omega, 36524, by omega, .inr ⟨rfl, rfl⟩, by omega⟩
    · exact ⟨d / 36524, by omega, by omega, d % 36524, by omega, .inl (by omega), by omega⟩
  have hfour : s = 1461 * (s / 1461) + s % 1461 := by omega
  by_cases hlast : s % 1461 = 1460
  · exact ⟨c, s / 1461, 3, 365, by omega, ⟨hc, hc3⟩, by omega, by omega, by omega, fun _ => ⟨rfl, by omega⟩⟩
  · exact ⟨c, s / 1461, s % 1461 / 365, s % 1461 % 365, by omega, ⟨hc, hc3⟩, by omega, by omega, by omega,
      fun hrest => by omega⟩

section

variable {d c f y r : Int}

/-- The guess at the year leaves out one day for each leap day before it. -/
theorem Parts.yearOf_eq (h : Parts d c f y r) : yearOf d = 100 * c + 4 * f + y := by
  obtain ⟨hday, hc, hf, hy, hr, hleap⟩ := h
  -- On its last day the era would begin a fifth century, which the correction takes back.
  have hcentury : d / 36524 - d / 146096 = c := by
    by_cases hend : d = 146096
    · omega
    · have hera : d / 146096 = 0 := by omega
      omega
  -- The quotient by four short years runs ahead of the count of leap days by one at most.
  obtain ⟨k, hk, hfour⟩ : ∃ k, (k = 0 ∧ 24 * c + f + 365 * y + r < 1460 ∨
      k = 1 ∧ 1460 ≤ 24 * c + f + 365 * y + r) ∧ d / 1460 = 25 * c + f + k := by
    by_cases hlong : 1460 ≤ 24 * c + f + 365 * y + r
    · exact ⟨1, .inr ⟨rfl, hlong⟩, by omega⟩
    · exact ⟨0, .inl ⟨rfl, by omega⟩, by omega⟩
  have hyears : d - d / 1460 + d / 36524 - d / 146096 = 365 * (100 * c + 4 * f + y) + (r - k) := by omega
  rw [yearOf, hyears]
  omega

/-- The year of a day begins as many days before it as its place in the year says. -/
theorem Parts.yearStart_eq (h : Parts d c f y r) : yearStart (100 * c + 4 * f + y) = d - r := by
  obtain ⟨hday, hc, hf, hy, hr, hleap⟩ := h
  unfold yearStart
  omega

end

/-- The year of an era that a day is in: the day is one of its days, and the last one of 366 only if there is
    a leap day at the end of the year. -/
theorem yearOf_spec {d : Int} (h : 0 ≤ d) (hd : d < eraDays) :
    0 ≤ yearOf d ∧ yearOf d < 400 ∧ 0 ≤ d - yearStart (yearOf d) ∧ d - yearStart (yearOf d) ≤ 365 ∧
      (d - yearStart (yearOf d) = 365 → isLeapYear (yearOf d + 1) = true) := by
  obtain ⟨c, f, y, r, hparts⟩ := exists_parts h hd
  rw [hparts.yearOf_eq, hparts.yearStart_eq]
  obtain ⟨hday, hc, hf, hy, hr, hleap⟩ := hparts
  refine ⟨by omega, by omega, by omega, by omega, fun hrest => ?_⟩
  -- The day 365 of a year is 29 February of the next year of the calendar.
  obtain ⟨hy3, hlast⟩ := hleap (by omega)
  have hfour : (100 * c + 4 * f + y + 1) % 4 = 0 := by omega
  have hhundred : (100 * c + 4 * f + y + 1) % 100 ≠ 0 ∨ (100 * c + 4 * f + y + 1) % 400 = 0 := by omega
  simp only [isLeapYear, Bool.and_eq_true, Bool.or_eq_true, decide_eq_true_eq]
  exact ⟨hfour, hhundred⟩

/-! ## Days -/

/-- The day with a number, from its year of an era and its day of the year. -/
theorem ofDayNumber_eq (n : Int) :
    ofDayNumber n =
      let dayOfEra := (n + epoch) % eraDays
      let rest := dayOfEra - yearStart (yearOf dayOfEra)
      let month := (5 * rest + 2) / 153
      let day := (rest - (153 * month + 2) / 5 + 1).toNat
      let year := (n + epoch) / eraDays * 400 + yearOf dayOfEra
      if month < 10 then ⟨year, (month + 3).toNat, day⟩ else ⟨year + 1, (month - 9).toNat, day⟩ := rfl

/-- A whole number of eras makes no difference to leap days. -/
theorem isLeapYear_add_eras (era year : Int) : isLeapYear (era * 400 + year) = isLeapYear year := by
  have hfour : (era * 400 + year) % 4 = year % 4 := by omega
  have hhundred : (era * 400 + year) % 100 = year % 100 := by omega
  have hera : (era * 400 + year) % 400 = year % 400 := by omega
  simp only [isLeapYear, hfour, hhundred, hera]

/-- The months of a year, the first of which is March, are as long as the days in between say; only the last
    one is not. -/
theorem monthDays_shifted (year month : Int) (h : 0 ≤ month) (hmonth : month < 11) :
    (monthDays year (if month < 10 then (month + 3).toNat else (month - 9).toNat) : Int) =
      (153 * (month + 1) + 2) / 5 - (153 * month + 2) / 5 := by
  have hcases : month = 0 ∨ month = 1 ∨ month = 2 ∨ month = 3 ∨ month = 4 ∨ month = 5 ∨ month = 6 ∨ month = 7 ∨
      month = 8 ∨ month = 9 ∨ month = 10 := by omega
  rcases hcases with rfl | rfl | rfl | rfl | rfl | rfl | rfl | rfl | rfl | rfl | rfl <;> rfl

/-- The last day of February, by the leap years. -/
theorem le_monthDays_february (year : Int) {day : Nat} (hday : day ≤ 29)
    (hleap : day = 29 → isLeapYear year = true) : day ≤ monthDays year 2 := by
  show day ≤ if isLeapYear year then 29 else 28
  by_cases h : isLeapYear year = true
  · rw [if_pos h]
    exact hday
  · have hne : day ≠ 29 := fun h29 => h (hleap h29)
    rw [if_neg h]
    omega

/-- The day with a number is a day of the calendar. -/
theorem isValid_ofDayNumber (n : Int) : (ofDayNumber n).isValid = true := by
  have hera : 0 ≤ (n + epoch) % eraDays ∧ (n + epoch) % eraDays < eraDays := by unfold eraDays; omega
  obtain ⟨-, -, hrest, hrest', hleap⟩ := yearOf_spec hera.1 hera.2
  rw [ofDayNumber_eq]
  dsimp only
  rw [← isLeapYear_add_eras ((n + epoch) / eraDays), ← Int.add_assoc] at hleap
  generalize (n + epoch) % eraDays - yearStart (yearOf ((n + epoch) % eraDays)) = rest at hrest hrest' hleap ⊢
  generalize (n + epoch) / eraDays * 400 + yearOf ((n + epoch) % eraDays) = year at hleap ⊢
  obtain ⟨month, hmonth⟩ : ∃ month, month = (5 * rest + 2) / 153 := ⟨_, rfl⟩
  rw [← hmonth]
  have hpos : 1 ≤ (rest - (153 * month + 2) / 5 + 1).toNat := by omega
  by_cases hlast : month < 11
  · have hdays := fun year => monthDays_shifted year month (by omega) hlast
    split
    · rename_i hten
      have := hdays year
      rw [if_pos hten] at this
      simp only [isValid, Bool.and_eq_true, decide_eq_true_eq]
      omega
    · rename_i hten
      have := hdays (year + 1)
      rw [if_neg hten] at this
      simp only [isValid, Bool.and_eq_true, decide_eq_true_eq]
      omega
  · -- February goes on to the end of the year.
    have hfebruary : month = 11 := by omega
    subst hfebruary
    have hday : (rest - (153 * 11 + 2) / 5 + 1).toNat ≤ monthDays (year + 1) 2 :=
      le_monthDays_february (year + 1) (by omega) fun h => hleap (by omega)
    rw [if_neg (by decide)]
    simp only [isValid, Bool.and_eq_true, decide_eq_true_eq]
    exact ⟨hpos, hday⟩

/-- A month has two digits at most, and so has a day. -/
theorem bounds_of_isValid {d : Date} (h : d.isValid = true) : d.month ≤ 12 ∧ d.day ≤ 31 := by
  simp only [isValid, Bool.and_eq_true, decide_eq_true_eq] at h
  have hmonth : d.month ≤ 12 := by
    -- A month past the twelfth has no days, so no day of it is valid.
    refine Nat.le_of_not_lt fun hlt => ?_
    have hnone : monthDays d.year d.month = 0 := by
      unfold monthDays
      split <;> omega
    omega
  have hday : monthDays d.year d.month ≤ 31 := by
    unfold monthDays
    split
    · split <;> omega
    all_goals omega
  exact ⟨hmonth, by omega⟩

/-- The number of a day whose year begins in March. -/
theorem dayNumber_shifted {era year month : Int} {day : Nat} (hyear : 0 ≤ year ∧ year < 400)
    (hmonth : 0 ≤ month ∧ month ≤ 11) :
    dayNumber (if month < 10 then ⟨era * 400 + year, (month + 3).toNat, day⟩
      else ⟨era * 400 + year + 1, (month - 9).toNat, day⟩) =
      era * eraDays + yearStart year + ((153 * month + 2) / 5 + day - 1) - epoch := by
  have hera : (era * 400 + year) / 400 = era ∧ (era * 400 + year) % 400 = year := by omega
  split
  · rename_i hten
    have hmarch : ¬(month + 3).toNat ≤ 2 := by omega
    have hback : ((month + 3).toNat : Int) - 3 = month := by omega
    simp only [dayNumber, if_neg hmarch, hback, hera, yearStart, eraDays]
    omega
  · -- January and February belong to the year that began in the March before.
    rename_i hten
    have hjanuary : (month - 9).toNat ≤ 2 := by omega
    have hback : ((month - 9).toNat : Int) + 9 = month := by omega
    simp only [dayNumber, if_pos hjanuary, hback, Int.add_sub_cancel, hera, yearStart, eraDays]
    omega

/-- The day with a number has that number. -/
theorem dayNumber_ofDayNumber (n : Int) : (ofDayNumber n).dayNumber = n := by
  have hera : 0 ≤ (n + epoch) % eraDays ∧ (n + epoch) % eraDays < eraDays := by unfold eraDays; omega
  have hsplit : (n + epoch) / eraDays * eraDays + (n + epoch) % eraDays = n + epoch := by unfold eraDays; omega
  -- The era is a quotient, and what is left of it a year and a day of the year.
  obtain ⟨hyear, hyear', hrest, hrest', -⟩ := yearOf_spec hera.1 hera.2
  rw [ofDayNumber_eq]
  dsimp only
  rw [dayNumber_shifted ⟨hyear, hyear'⟩ (by omega)]
  omega

end Falsify.Date
