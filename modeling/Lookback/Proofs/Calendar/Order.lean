import Lookback.Calendar.Date
import Mathlib.Order.MinMax

/-! Days are linearly ordered, and a move in days or months goes up or down in that order. -/
namespace Lookback.Date

open Calendar

variable {d e f g : Date} {k m : Int}

theorem dayNumber_inj : d.dayNumber = e.dayNumber ↔ d = e :=
  ⟨eq_of_dayNumber_eq, congrArg dayNumber⟩

instance : LinearOrder Date where
  le_refl d := Int.le_refl d.dayNumber
  le_trans _ _ _ h h' := Int.le_trans h h'
  lt_iff_le_not_ge _ _ := Int.lt_iff_le_and_not_ge
  le_antisymm _ _ h h' := eq_of_dayNumber_eq (Int.le_antisymm h h')
  le_total d e := Int.le_total d.dayNumber e.dayNumber
  toDecidableLE := inferInstance
  compare_eq_compareOfLessAndEq d e := by
    simp only [compareOfLessAndEq, ← dayNumber_inj]
    rfl

theorem addDays?_eq_some_iff : d.addDays? k = some e ↔ e.dayNumber = d.dayNumber + k :=
  ofDayNumber?_eq_some_iff

theorem addDays?_lt (hk : k < 0) (h : d.addDays? k = some e) : e < d := by
  have he := addDays?_eq_some_iff.mp h
  rw [lt_iff]
  omega

theorem addDays?_le_addDays? (hde : d ≤ e) (hkm : k ≤ m) (hf : d.addDays? k = some f)
    (hg : e.addDays? m = some g) : f ≤ g := by
  have hf' := addDays?_eq_some_iff.mp hf
  have hg' := addDays?_eq_some_iff.mp hg
  rw [le_iff] at hde ⊢
  omega

theorem lt_addDays? (hk : 0 < k) (h : d.addDays? k = some e) : d < e := by
  have he := addDays?_eq_some_iff.mp h
  rw [lt_iff]
  omega

/-- The day is cut to the length of the month, so it cannot reach the month that was left. -/
theorem addMonths?_lt (hk : k < 0) (h : d.addMonths? k = some e) : e < d := by
  have he := ofDayNumber?_eq_some_iff.mp h
  have hs := monthStart_succ (d.month + k)
  have hm : monthStart (d.month + k + 1) ≤ monthStart d.month := monthStart_mono (by omega)
  have hd : monthStart d.month ≤ d.dayNumber := (monthStart_monthOf d.dayNumber).1
  rw [lt_iff]
  omega

theorem lt_addMonths? (hk : 0 < k) (h : d.addMonths? k = some e) : d < e := by
  have he := ofDayNumber?_eq_some_iff.mp h
  have hl := daysIn_bounds (d.month + k)
  have hm : monthStart (d.month + 1) ≤ monthStart (d.month + k) := monthStart_mono (by omega)
  have hd : monthStart d.month ≤ d.dayNumber ∧ d.dayNumber < monthStart (d.month + 1) :=
    monthStart_monthOf d.dayNumber
  rw [lt_iff]
  omega

end Lookback.Date
