import MarketAlerts.Calendar.Date

/-!
A day and its date say the same. The year of a day begins on that day or before it and ends after
it, and no two days have one date. The month of a day begins on a first, and its week on a Monday.
-/
namespace MarketAlerts.Calendar

/-- The first of January of a year told by whole cycles of 400, 100, 4 and 1 years. -/
theorem daysBeforeYear_of_cycles {eras centuries fours years : Nat} (hc : centuries ≤ 3)
    (hf : fours ≤ 24) (hy : years ≤ 3) :
    daysBeforeYear (eras * 400 + centuries * 100 + fours * 4 + years + 1) =
      eras * 146097 + centuries * 36524 + fours * 1461 + years * 365 := by
  unfold daysBeforeYear
  dsimp only
  omega

theorem daysBeforeYear_yearOf_le (days : Nat) : daysBeforeYear (Date.yearOf days) ≤ days := by
  unfold Date.yearOf
  dsimp only
  rw [daysBeforeYear_of_cycles (by omega) (by omega) (by omega)]
  omega

theorem yearOf_le_iff_of_two_le {days : Nat} : 2 ≤ Date.yearOf days ↔ 365 ≤ days := by
  unfold Date.yearOf
  dsimp only
  omega

/-- The last year of the calendar begins a year before its end. -/
theorem lt_lastDay_of_yearOf_le {days : Nat} (h : Date.yearOf days ≤ 9998) :
    days < lastDay - 365 := by
  have last : lastDay = 3652059 := by decide
  unfold Date.yearOf at h
  dsimp only at h
  omega

theorem daysBeforeMonth_succ (year : Nat) {month : Nat} (h : 1 ≤ month) :
    daysBeforeMonth year (month + 1) = daysBeforeMonth year month + monthLength year month := by
  obtain ⟨past, rfl⟩ : ∃ past, month = past + 1 := ⟨month - 1, by omega⟩
  simp [daysBeforeMonth, List.range_succ]

/-- The month and its day that are found are those of the day. -/
theorem toDays_inMonth (year : Nat) {month : Nat} (h : 1 ≤ month) (monthsLeft dayOfYear : Nat) :
    (Date.inMonth year month monthsLeft dayOfYear).toDays =
      daysBeforeYear year + daysBeforeMonth year month + dayOfYear := by
  induction monthsLeft generalizing month dayOfYear with
  | zero => rfl
  | succ monthsLeft ih =>
    unfold Date.inMonth
    split
    · rfl
    · rw [ih (by omega), daysBeforeMonth_succ year h]
      omega

theorem toDays_ofDays (days : Nat) : (Date.ofDays days).toDays = days := by
  have begun := daysBeforeYear_yearOf_le days
  unfold Date.ofDays
  dsimp only
  rw [toDays_inMonth _ (Nat.le_refl 1)]
  have opened : daysBeforeMonth (Date.yearOf days) 1 = 0 := rfl
  omega

theorem ofDays_inj {a b : Nat} : Date.ofDays a = Date.ofDays b ↔ a = b := by
  constructor
  · intro same
    rw [← toDays_ofDays a, same, toDays_ofDays]
  · rintro rfl
    rfl

theorem daysBeforeYear_eq {year : Nat} (eras centuries fours years : Nat) (hc : centuries ≤ 3)
    (hf : fours ≤ 24) (hy : years ≤ 3)
    (h : year = eras * 400 + centuries * 100 + fours * 4 + years + 1) :
    daysBeforeYear year = eras * 146097 + centuries * 36524 + fours * 1461 + years * 365 := by
  rw [h, daysBeforeYear_of_cycles hc hf hy]

/-- A year ends where the next one begins: a cycle that is full hands the day on to the next larger
one. -/
theorem lt_daysBeforeYear_succ_yearOf (days : Nat) :
    days < daysBeforeYear (Date.yearOf days + 1) := by
  unfold Date.yearOf
  dsimp only
  generalize era : days / 146097 = eras
  generalize century : min (days % 146097 / 36524) 3 = centuries
  generalize inCentury : days % 146097 - centuries * 36524 = rest
  generalize four : rest / 1461 = fours
  generalize one : min (rest % 1461 / 365) 3 = years
  by_cases year : years < 3
  · rw [daysBeforeYear_eq eras centuries fours (years + 1)] <;> omega
  by_cases leap : fours < 24
  · rw [daysBeforeYear_eq eras centuries (fours + 1) 0] <;> omega
  by_cases common : centuries < 3
  · rw [daysBeforeYear_eq eras (centuries + 1) 0 0] <;> omega
  · rw [daysBeforeYear_eq (eras + 1) 0 0 0] <;> omega

theorem daysBeforeYear_mono {a b : Nat} (h : a ≤ b) : daysBeforeYear a ≤ daysBeforeYear b := by
  induction h with
  | refl => exact Nat.le_refl _
  | @step year _ ih =>
    refine Nat.le_trans ih ?_
    unfold daysBeforeYear
    dsimp only
    omega

/-- A year holds the days from its first of January up to the next. -/
theorem yearOf_eq {days year : Nat} (begun : daysBeforeYear year ≤ days)
    (runs : days < daysBeforeYear (year + 1)) : Date.yearOf days = year := by
  have first := daysBeforeYear_yearOf_le days
  have next := lt_daysBeforeYear_succ_yearOf days
  rcases Nat.lt_trichotomy (Date.yearOf days) year with before | same | after
  · have ended := daysBeforeYear_mono (Nat.succ_le_of_lt before)
    rw [Nat.succ_eq_add_one] at ended
    omega
  · exact same
  · have ended := daysBeforeYear_mono (Nat.succ_le_of_lt after)
    rw [Nat.succ_eq_add_one] at ended
    omega

/-- Going back to the first of the month that is found, one finds the first of this month. -/
theorem inMonth_sub_day (year month monthsLeft dayOfYear : Nat) :
    let date := Date.inMonth year month monthsLeft dayOfYear
    1 ≤ date.day ∧ date.day ≤ dayOfYear + 1 ∧
      Date.inMonth year month monthsLeft (dayOfYear - (date.day - 1)) = { date with day := 1 } := by
  induction monthsLeft generalizing month dayOfYear with
  | zero => simp [Date.inMonth]
  | succ monthsLeft ih =>
    by_cases inside : dayOfYear < monthLength year month
    · have nonempty : 0 < monthLength year month := by omega
      simp [Date.inMonth, inside, nonempty]
    · obtain ⟨least, most, first⟩ := ih (month + 1) (dayOfYear - monthLength year month)
      have found : Date.inMonth year month (monthsLeft + 1) dayOfYear =
        Date.inMonth year (month + 1) monthsLeft (dayOfYear - monthLength year month) := by
          rw [Date.inMonth, if_neg inside]
      rw [found]
      refine ⟨least, by omega, ?_⟩
      rw [← first, Date.inMonth, if_neg (by omega)]
      congr 1
      omega

/-- The month of a day begins on the first of the month. -/
theorem ofDays_monthStart (days : Nat) :
    Date.ofDays (monthStart days) = { Date.ofDays days with day := 1 } := by
  have begun := daysBeforeYear_yearOf_le days
  have runs := lt_daysBeforeYear_succ_yearOf days
  obtain ⟨least, most, first⟩ :=
    inMonth_sub_day (Date.yearOf days) 1 11 (days - daysBeforeYear (Date.yearOf days))
  have here : Date.inMonth (Date.yearOf days) 1 11 (days - daysBeforeYear (Date.yearOf days)) =
      Date.ofDays days := rfl
  rw [here] at least most first
  have year : Date.yearOf (monthStart days) = Date.yearOf days :=
    yearOf_eq (by unfold monthStart; omega) (by unfold monthStart; omega)
  rw [← first, Date.ofDays, year]
  congr 1
  unfold monthStart
  omega

/-- The week of a day begins on the last Monday up to the day: the first of all days was a
Monday. -/
theorem monday_weekStart (days : Nat) :
    weekStart days ≤ days ∧ days < weekStart days + 7 ∧ weekStart days % 7 = 0 := by
  unfold weekStart mondayWeekday
  omega

end MarketAlerts.Calendar
