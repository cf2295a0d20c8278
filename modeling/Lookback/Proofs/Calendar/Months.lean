import Lookback.Proofs.Calendar.Order

/-! A date as a month and a day of that month, and where a move by months leads. -/
namespace Lookback.Date

open Calendar

variable {d e f g : Date} {k m t n : Int}

theorem ofMonthDay?_eq_some_iff : ofMonthDay? t k = some d ↔ d.month = t ∧ d.day = k := by
  refine ⟨month_day_of_ofMonthDay?, ?_⟩
  rintro ⟨rfl, rfl⟩
  exact ofMonthDay?_month_day d

theorem eq_of_month_day_eq (hm : d.month = e.month) (hd : d.day = e.day) : d = e := by
  have h := ofMonthDay?_month_day d
  rw [hm, hd, ofMonthDay?_month_day] at h
  exact (Option.some.inj h).symm

theorem monthStart_lt_iff {s : Int} : monthStart s < monthStart t ↔ s < t := by
  constructor
  · intro h
    by_contra hle
    have hts := monthStart_mono (not_lt.mp hle)
    omega
  · intro h
    have hs := monthStart_lt_succ s
    have hst : monthStart (s + 1) ≤ monthStart t := monthStart_mono h
    omega

/-- The months of the calendar are those from January of its first year to December of its last. -/
theorem month_bounds (d : Date) : 12 * -262143 ≤ d.month ∧ d.month < 12 * 262143 := by
  obtain ⟨hlo, hhi⟩ := monthStart_monthOf d.dayNumber
  have hfirst := d.first_le
  have hend := d.lt_end
  constructor
  · have h : monthStart (12 * -262143) < monthStart (d.month + 1) := lt_of_le_of_lt hfirst hhi
    have := monthStart_lt_iff.mp h
    omega
  · exact monthStart_lt_iff.mp (lt_of_le_of_lt hlo hend)

theorem ofMonthDay?_eq_none_iff (hk : 1 ≤ k) (hk' : k ≤ daysIn t) :
    ofMonthDay? t k = none ↔ t < 12 * -262143 ∨ 12 * 262143 ≤ t := by
  have hs := monthStart_succ t
  rw [ofMonthDay?, if_pos ⟨hk, hk'⟩, ofDayNumber?_eq_none_iff]
  constructor
  · rintro (h | h)
    · have hlt : monthStart t < monthStart (12 * -262143) := by omega
      exact Or.inl (monthStart_lt_iff.mp hlt)
    · have hlt : monthStart (12 * 262143) < monthStart (t + 1) := by omega
      exact Or.inr (Int.lt_add_one_iff.mp (monthStart_lt_iff.mp hlt))
  · rintro (h | h)
    · have hle : monthStart (t + 1) ≤ monthStart (12 * -262143) := monthStart_mono h
      omega
    · have hle : monthStart (12 * 262143) ≤ monthStart t := monthStart_mono h
      omega

theorem addMonths?_eq_ofMonthDay? (d : Date) (k : Int) :
    d.addMonths? k = ofMonthDay? (d.month + k) (min d.day (daysIn (d.month + k))) := by
  have hd := day_bounds d
  have ht := daysIn_bounds (d.month + k)
  have hin : 1 ≤ min d.day (daysIn (d.month + k)) ∧
      min d.day (daysIn (d.month + k)) ≤ daysIn (d.month + k) := by omega
  rw [ofMonthDay?, if_pos hin, addMonths?, day]
  congr 1
  omega

theorem addMonths?_eq_some_iff : d.addMonths? k = some e ↔
    e.month = d.month + k ∧ e.day = min d.day (daysIn (d.month + k)) := by
  rw [addMonths?_eq_ofMonthDay?, ofMonthDay?_eq_some_iff]

theorem addMonths?_eq_none_iff : d.addMonths? k = none ↔
    d.month + k < 12 * -262143 ∨ 12 * 262143 ≤ d.month + k := by
  have hd := day_bounds d
  have ht := daysIn_bounds (d.month + k)
  rw [addMonths?_eq_ofMonthDay?, ofMonthDay?_eq_none_iff (by omega) (by omega)]

theorem lt_of_month_lt (h : d.month < e.month) : d < e := by
  have hd : d.dayNumber < monthStart (d.month + 1) := (monthStart_monthOf d.dayNumber).2
  have he : monthStart e.month ≤ e.dayNumber := (monthStart_monthOf e.dayNumber).1
  have hm : monthStart (d.month + 1) ≤ monthStart e.month := monthStart_mono h
  rw [lt_iff]
  omega

theorem month_le_of_le (h : d ≤ e) : d.month ≤ e.month := by
  by_contra hlt
  exact (lt_of_month_lt (not_le.mp hlt)).not_ge h

theorem le_iff_day_le (h : d.month = e.month) : d ≤ e ↔ d.day ≤ e.day := by
  have hd := d.dayNumber_eq
  have he := e.dayNumber_eq
  rw [h] at hd
  rw [le_iff]
  omega

/-- Months later or earlier, the later of two dates is still no earlier, though both may be cut to
the same day. -/
theorem addMonths?_le_addMonths? (hde : d ≤ e) (hkm : k ≤ m) (hf : d.addMonths? k = some f)
    (hg : e.addMonths? m = some g) : f ≤ g := by
  obtain ⟨hfm, hfd⟩ := addMonths?_eq_some_iff.mp hf
  obtain ⟨hgm, hgd⟩ := addMonths?_eq_some_iff.mp hg
  have hmonth := month_le_of_le hde
  by_cases hlt : f.month < g.month
  · exact (lt_of_month_lt hlt).le
  · have heq : d.month = e.month := by omega
    obtain rfl : k = m := by omega
    have hday : d.day ≤ e.day := (le_iff_day_le heq).mp hde
    have hm : f.month = g.month := by omega
    rw [le_iff_day_le hm, hfd, hgd, heq]
    exact min_le_min_right _ hday

theorem addDays?_eq_none_iff : d.addDays? k = none ↔
    d.dayNumber + k < monthStart (12 * -262143) ∨ monthStart (12 * 262143) ≤ d.dayNumber + k :=
  ofDayNumber?_eq_none_iff

theorem addDays?_zero (d : Date) : d.addDays? 0 = some d := by
  rw [addDays?, Int.add_zero, ofDayNumber?_dayNumber]

end Lookback.Date
