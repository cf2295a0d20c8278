/-!
Months counted from January of year 0 in the proleptic Gregorian calendar: month `t` is month
`t % 12 + 1` of year `t / 12`. Days are counted from 0000-01-01, which is day 0.
-/
namespace Lookback.Calendar

def LeapYear (y : Int) : Prop :=
  y % 4 = 0 ∧ (y % 100 ≠ 0 ∨ y % 400 = 0)

instance (y : Int) : Decidable (LeapYear y) :=
  inferInstanceAs (Decidable (_ ∧ _))

/-- The length of month `t` in days. -/
def daysIn (t : Int) : Int :=
  let m := t % 12
  if m = 1 then
    if LeapYear (t / 12) then 29 else 28
  else if m = 3 ∨ m = 5 ∨ m = 8 ∨ m = 10 then 30
  else 31

/-- The first day of month `t`. Years are taken from March on, so that a leap day ends its year. -/
def monthStart (t : Int) : Int :=
  let y := (t - 2) / 12
  let m := (t - 2) % 12
  365 * y + y / 4 - y / 100 + y / 400 + (153 * m + 2) / 5 + 60

/-- The month that holds day `n`: 400 years are 4800 months and 146097 days, and the month found
from that mean length is off by one at most. -/
def monthOf (n : Int) : Int :=
  let t := n / 146097 * 4800 + n % 146097 * 4800 / 146097
  if n < monthStart t then t - 1
  else if n < monthStart (t + 1) then t
  else t + 1

theorem daysIn_bounds (t : Int) : 28 ≤ daysIn t ∧ daysIn t ≤ 31 := by
  simp only [daysIn]
  split
  · split <;> omega
  · split <;> omega

/-- Within a year from March to February the months have fixed starts. -/
theorem monthStart_of_march {y m : Int} (h : 0 ≤ m ∧ m < 12) :
    monthStart (12 * y + m + 2) =
      365 * y + y / 4 - y / 100 + y / 400 + (153 * m + 2) / 5 + 60 := by
  have hy : (12 * y + m + 2 - 2) / 12 = y := by omega
  have hm : (12 * y + m + 2 - 2) % 12 = m := by omega
  simp only [monthStart, hy, hm]

/-- But for February, a month is as long as the starts lie apart. -/
theorem daysIn_of_march {y m : Int} (h : 0 ≤ m ∧ m < 11) :
    daysIn (12 * y + m + 2) = (153 * (m + 1) + 2) / 5 - (153 * m + 2) / 5 := by
  have hm : m = 0 ∨ m = 1 ∨ m = 2 ∨ m = 3 ∨ m = 4 ∨ m = 5 ∨ m = 6 ∨ m = 7 ∨ m = 8 ∨ m = 9 ∨
      m = 10 := by omega
  have hr : (12 * y + m + 2) % 12 = (m + 2) % 12 := by omega
  simp only [daysIn, hr]
  rcases hm with rfl | rfl | rfl | rfl | rfl | rfl | rfl | rfl | rfl | rfl | rfl <;> rfl

/-- February ends the year, with the leap day if there is one. -/
theorem daysIn_february (y : Int) :
    daysIn (12 * y + 11 + 2) = 28 + ((y + 1) / 4 - y / 4) - ((y + 1) / 100 - y / 100) +
      ((y + 1) / 400 - y / 400) := by
  have hr : (12 * y + 11 + 2) % 12 = 1 := by omega
  have hy : (12 * y + 11 + 2) / 12 = y + 1 := by omega
  simp only [daysIn, hr, hy, LeapYear, if_true]
  split <;> omega

theorem monthStart_succ (t : Int) : monthStart (t + 1) = monthStart t + daysIn t := by
  obtain ⟨y, m, rfl, hm⟩ : ∃ y m : Int, t = 12 * y + m + 2 ∧ 0 ≤ m ∧ m < 12 :=
    ⟨(t - 2) / 12, (t - 2) % 12, by omega, by omega, by omega⟩
  rw [monthStart_of_march hm]
  by_cases hlast : m < 11
  · have hnext : 12 * y + m + 2 + 1 = 12 * y + (m + 1) + 2 := by omega
    rw [hnext, monthStart_of_march ⟨by omega, by omega⟩, daysIn_of_march ⟨hm.1, hlast⟩]
    omega
  · obtain rfl : m = 11 := by omega
    have hnext : 12 * y + 11 + 2 + 1 = 12 * (y + 1) + 0 + 2 := by omega
    rw [hnext, monthStart_of_march ⟨by decide, by decide⟩, daysIn_february]
    omega

theorem monthStart_lt_succ (t : Int) : monthStart t < monthStart (t + 1) := by
  have h := monthStart_succ t
  have hd := daysIn_bounds t
  omega

/-- Month starts keep within some days of their mean. -/
theorem monthStart_near_mean (t : Int) :
    146097 * t - 14600 ≤ 4800 * monthStart t ∧ 4800 * monthStart t ≤ 146097 * t + 11500 := by
  simp only [monthStart]
  omega

theorem monthStart_monthOf (n : Int) :
    monthStart (monthOf n) ≤ n ∧ n < monthStart (monthOf n + 1) := by
  simp only [monthOf]
  generalize ht : n / 146097 * 4800 + n % 146097 * 4800 / 146097 = t
  have hlo := monthStart_near_mean (t - 1)
  have hhi := monthStart_near_mean (t + 1 + 1)
  have he : t - 1 + 1 = t := by omega
  split
  · rw [he]
    omega
  · split <;> omega

theorem monthStart_mono {s t : Int} (h : s ≤ t) : monthStart s ≤ monthStart t := by
  obtain ⟨k, rfl⟩ : ∃ k : Nat, t = s + k := ⟨(t - s).toNat, by omega⟩
  clear h
  induction k with
  | zero => simp
  | succ k ih =>
    have hs := monthStart_lt_succ (s + k)
    have he : s + k + 1 = s + (k + 1 : Nat) := by omega
    rw [he] at hs
    omega

theorem monthOf_eq_iff {n t : Int} :
    monthOf n = t ↔ monthStart t ≤ n ∧ n < monthStart (t + 1) := by
  have h := monthStart_monthOf n
  refine ⟨fun e => e ▸ h, fun ht => ?_⟩
  rcases Int.lt_trichotomy (monthOf n) t with hlt | he | hlt
  · have := monthStart_mono (s := monthOf n + 1) (t := t) (by omega)
    omega
  · exact he
  · have := monthStart_mono (s := t + 1) (t := monthOf n) (by omega)
    omega

end Lookback.Calendar
