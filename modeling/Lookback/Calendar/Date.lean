import Lookback.Calendar.Month

/-!
Days of the calendar from -262143-01-01 to +262142-12-31, ordered as they follow each other.
-/
namespace Lookback

open Calendar

/-- A day of the calendar, held as its number. -/
structure Date where
  dayNumber : Int
  first_le : monthStart (12 * -262143) ≤ dayNumber
  lt_end : dayNumber < monthStart (12 * 262143)
deriving DecidableEq

namespace Date

variable {d e : Date} {n k t : Int}

theorem eq_of_dayNumber_eq (h : d.dayNumber = e.dayNumber) : d = e := by
  cases d
  cases e
  simp_all

instance : LE Date := ⟨fun d e => d.dayNumber ≤ e.dayNumber⟩

instance : LT Date := ⟨fun d e => d.dayNumber < e.dayNumber⟩

instance (d e : Date) : Decidable (d ≤ e) :=
  inferInstanceAs (Decidable (d.dayNumber ≤ e.dayNumber))

instance (d e : Date) : Decidable (d < e) :=
  inferInstanceAs (Decidable (d.dayNumber < e.dayNumber))

instance : Min Date := minOfLe

instance : Max Date := maxOfLe

instance : Ord Date := ⟨compareOn dayNumber⟩

instance : Std.TransOrd Date := inferInstanceAs (Std.TransCmp (compareOn dayNumber))

theorem le_iff : d ≤ e ↔ d.dayNumber ≤ e.dayNumber := Iff.rfl

theorem lt_iff : d < e ↔ d.dayNumber < e.dayNumber := Iff.rfl

/-- The month of a day, counted from January of year 0. -/
def month (d : Date) : Int := monthOf d.dayNumber

/-- The day within its month, from 1. -/
def day (d : Date) : Int := d.dayNumber - monthStart d.month + 1

@[inline]
def ofDayNumber? (n : Int) : Option Date :=
  if h : monthStart (12 * -262143) ≤ n ∧ n < monthStart (12 * 262143) then some ⟨n, h.1, h.2⟩
  else none

/-- Day `day` of month `t`, unless the month is shorter or out of the calendar. -/
def ofMonthDay? (t day : Int) : Option Date :=
  if 1 ≤ day ∧ day ≤ daysIn t then ofDayNumber? (monthStart t + day - 1) else none

@[inline]
def addDays? (d : Date) (k : Int) : Option Date := ofDayNumber? (d.dayNumber + k)

/-- The same day `k` months on, or the last day of that month if it is too short. -/
def addMonths? (d : Date) (k : Int) : Option Date :=
  let s := d.month
  let t := s + k
  ofDayNumber? (monthStart t + min (d.dayNumber - monthStart s) (daysIn t - 1))

theorem ofDayNumber?_eq_some_iff : ofDayNumber? n = some d ↔ d.dayNumber = n := by
  unfold ofDayNumber?
  split
  · rename_i h
    refine ⟨fun e => by cases e; rfl, fun e => ?_⟩
    subst e
    rfl
  · rename_i h
    refine ⟨nofun, fun e => ?_⟩
    subst e
    exact absurd ⟨d.first_le, d.lt_end⟩ h

theorem ofDayNumber?_dayNumber (d : Date) : ofDayNumber? d.dayNumber = some d :=
  ofDayNumber?_eq_some_iff.mpr rfl

theorem ofDayNumber?_eq_none_iff :
    ofDayNumber? n = none ↔ n < monthStart (12 * -262143) ∨ monthStart (12 * 262143) ≤ n := by
  simp only [ofDayNumber?, dite_eq_right_iff, reduceCtorEq, imp_false]
  omega

theorem day_bounds (d : Date) : 1 ≤ d.day ∧ d.day ≤ daysIn d.month := by
  have h := monthStart_monthOf d.dayNumber
  have hs := monthStart_succ (monthOf d.dayNumber)
  simp only [day, month]
  omega

theorem dayNumber_eq (d : Date) : d.dayNumber = monthStart d.month + d.day - 1 := by
  simp only [day]
  omega

theorem ofMonthDay?_month_day (d : Date) : ofMonthDay? d.month d.day = some d := by
  rw [ofMonthDay?, if_pos d.day_bounds, ← dayNumber_eq, ofDayNumber?_dayNumber]

theorem month_day_of_ofMonthDay? (h : ofMonthDay? t k = some d) : d.month = t ∧ d.day = k := by
  unfold ofMonthDay? at h
  split at h
  · have hn := ofDayNumber?_eq_some_iff.mp h
    have hs := monthStart_succ t
    have hm : d.month = t := by
      rw [month, monthOf_eq_iff]
      omega
    refine ⟨hm, ?_⟩
    rw [day, hm]
    omega
  · cases h

end Date

end Lookback
