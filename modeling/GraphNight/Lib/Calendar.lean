import Mathlib.Algebra.BigOperators.Intervals
import Mathlib.Tactic.Linarith

/-!
# The Gregorian calendar

Days are counted from the first of January of the year 0. A date is a year, a month and a day, in
that order of weight; a week begins on a Monday.
-/

namespace Calendar

def isLeap (year : Nat) : Bool := year % 4 == 0 && (year % 100 != 0 || year % 400 == 0)

/-- The days of a month; months count from 1. -/
def daysInMonth (year month : Nat) : Nat :=
  if month = 2 then if isLeap year then 29 else 28
  else if month = 4 ∨ month = 6 ∨ month = 9 ∨ month = 11 then 30
  else 31

/-- The days of a year before the first of a month. -/
def daysBeforeMonth (year month : Nat) : Nat := ((List.range (month - 1)).map fun i => daysInMonth year (i + 1)).sum

/-- The days before the first of January of a year. -/
def daysBeforeYear : Nat → Nat
  | 0 => 0
  | year + 1 => daysBeforeYear year + daysBeforeMonth year 13

def dayNumber (year month day : Nat) : Nat := daysBeforeYear year + daysBeforeMonth year month + (day - 1)

/-- A date of the calendar. -/
structure IsDate (year month day : Nat) : Prop where
  month_pos : 1 ≤ month
  month_le : month ≤ 12
  day_pos : 1 ≤ day
  day_le : day ≤ daysInMonth year month

theorem daysInMonth_pos (year month : Nat) : 28 ≤ daysInMonth year month := by
  unfold daysInMonth
  split_ifs <;> omega

/-- The first of a month is a date. -/
theorem IsDate.first {year month : Nat} (hpos : 1 ≤ month) (hle : month ≤ 12) : IsDate year month 1 :=
  ⟨hpos, hle, le_refl 1, le_trans (by decide) (daysInMonth_pos year month)⟩

theorem daysBeforeMonth_succ (year : Nat) {month : Nat} (h : 1 ≤ month) :
    daysBeforeMonth year (month + 1) = daysBeforeMonth year month + daysInMonth year month := by
  obtain ⟨m, rfl⟩ := Nat.exists_eq_add_of_le' h
  simp [daysBeforeMonth, List.range_succ]

theorem daysBeforeMonth_le {year month month' : Nat} (hpos : 1 ≤ month) (h : month ≤ month') :
    daysBeforeMonth year month ≤ daysBeforeMonth year month' := by
  induction month' , h using Nat.le_induction with
  | base => exact le_refl _
  | succ n hn ih =>
    rw [daysBeforeMonth_succ year (hpos.trans hn)]
    omega

theorem daysBeforeMonth_year (year : Nat) : daysBeforeMonth year 13 = daysInMonth year 2 + 337 := by
  simp [daysBeforeMonth, List.range, List.range.loop, daysInMonth]
  omega

/-- The leap days before a year are counted. -/
theorem daysBeforeYear_eq (year : Nat) : daysBeforeYear year = 365 * year + (year + 3) / 4 + (year + 399) / 400 - (year + 99) / 100 := by
  induction year with
  | zero => rfl
  | succ year ih =>
    rw [daysBeforeYear, daysBeforeMonth_year, ih, daysInMonth, if_pos rfl]
    cases hleap : isLeap year with
    | true =>
      rw [if_pos rfl]
      simp only [isLeap, Bool.and_eq_true, Bool.or_eq_true, beq_iff_eq, bne_iff_ne, ne_eq] at hleap
      omega
    | false =>
      rw [if_neg Bool.false_ne_true]
      simp only [isLeap, Bool.and_eq_false_iff, Bool.or_eq_false_iff, beq_eq_false_iff_ne, bne_eq_false_iff_eq, ne_eq] at hleap
      omega

theorem daysBeforeYear_le {year year' : Nat} (h : year ≤ year') : daysBeforeYear year ≤ daysBeforeYear year' := by
  induction year', h using Nat.le_induction with
  | base => exact le_refl _
  | succ n _ ih =>
    rw [daysBeforeYear]
    omega

section

variable {year month day year' month' day' : Nat}

/-- The days of a month lie before the next month. -/
theorem IsDate.lt_month (h : IsDate year month day) : daysBeforeMonth year month + (day - 1) < daysBeforeMonth year (month + 1) := by
  have hle := h.day_le
  have hpos := h.day_pos
  rw [daysBeforeMonth_succ year h.month_pos]
  omega

/-- The days of a year lie before the next year. -/
theorem IsDate.lt_year (h : IsDate year month day) : dayNumber year month day < daysBeforeYear (year + 1) := by
  have hmonth := h.lt_month
  have hlast := @daysBeforeMonth_le year (month + 1) 13 (by omega) (by have := h.month_le; omega)
  rw [dayNumber, daysBeforeYear]
  omega

theorem dayNumber_lt_of_year (h : IsDate year month day) (hyear : year < year') : dayNumber year month day < dayNumber year' month' day' := by
  have hlt := h.lt_year
  have hle := daysBeforeYear_le (show year + 1 ≤ year' by omega)
  unfold dayNumber at *
  omega

theorem dayNumber_lt_of_month (h : IsDate year month day) (hmonth : month < month') : dayNumber year month day < dayNumber year month' day' := by
  have hlt := h.lt_month
  have hle := @daysBeforeMonth_le year (month + 1) month' (by omega) (by omega)
  unfold dayNumber
  omega

/-- **Dates are ordered by year, month and day.** -/
theorem dayNumber_lt_iff (h : IsDate year month day) (h' : IsDate year' month' day') :
    dayNumber year month day < dayNumber year' month' day' ↔ [year, month, day] < [year', month', day'] := by
  simp only [List.cons_lt_cons_iff, List.not_lt_nil, and_false, or_false]
  constructor
  · intro hlt
    obtain hyear | rfl | hyear := Nat.lt_trichotomy year year'
    · exact .inl hyear
    · refine .inr ⟨rfl, ?_⟩
      obtain hmonth | rfl | hmonth := Nat.lt_trichotomy month month'
      · exact .inl hmonth
      · refine .inr ⟨rfl, ?_⟩
        unfold dayNumber at hlt
        omega
      · exact absurd (@dayNumber_lt_of_month year month' day' month day h' hmonth) (by omega)
    · exact absurd (@dayNumber_lt_of_year year' month' day' year month day h' hyear) (by omega)
  · rintro (hyear | ⟨rfl, hmonth | ⟨rfl, hday⟩⟩)
    · exact dayNumber_lt_of_year h hyear
    · exact dayNumber_lt_of_month h hmonth
    · have hpos := h.day_pos
      unfold dayNumber
      omega

end

/-! ## Weeks -/

/-- The day of the week; Monday is 0. -/
def weekday (n : Nat) : Nat := (n + 5) % 7

/-- The number of a week, counted in weeks that begin on a Monday. -/
def weekNumber (n : Nat) : Nat := (n + 5) / 7

/-- The Monday of a week, counted from the Monday before the first day. -/
def monday (n : Nat) : Nat := n + 5 - weekday n

theorem monday_eq (n : Nat) : monday n = 7 * weekNumber n := by
  unfold monday weekday weekNumber
  omega

/-- The first of January 2024 was a Monday. -/
example : weekday (dayNumber 2024 1 1) = 0 := by decide +kernel

end Calendar
