import Lookback.Proofs.Billing.Moves
import Lookback.Proofs.Calendar.Months
import Mathlib.Order.Bounds.Basic
import Mathlib.Order.Interval.Set.Basic
import Mathlib.Tactic.Linarith
import Mathlib.Tactic.Ring

/-! Many steps at once: steps by days are one move by their sum, and steps by months lead to the
month that many months away, on the least of the day of the start and the lengths of the months
visited. -/
namespace Lookback

open Calendar

namespace Period

variable {α : Type} {step : α → Option α} {a b : α} {n i : Nat}

theorem steps?_succ_last : steps? step (n + 1) a = (steps? step n a).bind step := by
  rw [steps?_add]
  congr 1
  funext b
  rw [steps?_succ]
  cases step b <;> rfl

/-- Steps fail exactly if their sum does: the days between are in the calendar if both ends are. -/
theorem steps?_addDays (d : Date) (k : Int) (n : Nat) :
    steps? (·.addDays? k) n d = d.addDays? (n * k) := by
  induction n with
  | zero => simp [steps?, Date.addDays?_zero]
  | succ n ih =>
    have hsum : d.dayNumber + ((n + 1 : Nat) : Int) * k = d.dayNumber + n * k + k := by
      push_cast
      ring
    rw [steps?_succ_last, ih]
    cases hn : d.addDays? (n * k) with
    | some c =>
      have hc := Date.addDays?_eq_some_iff.mp hn
      rw [Option.bind_some, Date.addDays?, Date.addDays?, hsum, hc]
    | none =>
      have hfirst := d.first_le
      have hend := d.lt_end
      rw [Option.bind_none, eq_comm, Date.addDays?_eq_none_iff, hsum]
      rcases Date.addDays?_eq_none_iff.mp hn with hlt | hge
      · have hk : k ≤ 0 := by nlinarith
        omega
      · have hk : 0 ≤ k := by nlinarith
        omega

/-- The day of a date and the lengths of the months that `n` steps of `k` months visit. -/
def lengthsVisited (d : Date) (k : Int) (n : Nat) : Set Int :=
  insert d.day ((fun i : Nat => daysIn (d.month + i * k)) '' Set.Icc 1 n)

variable {d e : Date} {k : Int}

theorem lengthsVisited_succ : lengthsVisited d k (n + 1) =
    insert (daysIn (d.month + (n + 1 : Nat) * k)) (lengthsVisited d k n) := by
  have hIcc : Set.Icc 1 (n + 1) = insert (n + 1) (Set.Icc 1 n) := by
    ext i
    simp only [Set.mem_Icc, Set.mem_insert_iff]
    omega
  rw [lengthsVisited, lengthsVisited, hIcc, Set.image_insert_eq, Set.insert_comm]

/-- Where some steps lead, if they lead anywhere. -/
theorem month_day_of_steps? (h : steps? (·.addMonths? k) n d = some e) :
    e.month = d.month + n * k ∧ IsLeast (lengthsVisited d k n) e.day := by
  induction n generalizing e with
  | zero =>
    cases h
    simp [lengthsVisited]
  | succ n ih =>
    rw [steps?_succ_last] at h
    obtain ⟨c, hc, hce⟩ := Option.bind_eq_some_iff.mp h
    obtain ⟨hm, hd⟩ := ih hc
    obtain ⟨hem, hed⟩ := Date.addMonths?_eq_some_iff.mp hce
    have hsum : c.month + k = d.month + (n + 1 : Nat) * k := by
      rw [hm]
      push_cast
      ring
    rw [hsum] at hem hed
    refine ⟨hem, ?_⟩
    rw [hed, lengthsVisited_succ, min_comm]
    exact hd.insert _

theorem steps?_addMonths_eq_none_iff : steps? (·.addMonths? k) n d = none ↔
    d.month + n * k < 12 * -262143 ∨ 12 * 262143 ≤ d.month + n * k := by
  constructor
  · intro h
    induction n with
    | zero => cases h
    | succ n ih =>
      have hsum : d.month + (n + 1 : Nat) * k = d.month + n * k + k := by
        push_cast
        ring
      rw [steps?_succ_last] at h
      cases hn : steps? (·.addMonths? k) n d with
      | some c =>
        rw [hn] at h
        rw [hsum, ← (month_day_of_steps? hn).1]
        exact Date.addMonths?_eq_none_iff.mp h
      | none =>
        have hd := d.month_bounds
        rcases ih hn with hlt | hge
        · have hk : k ≤ 0 := by nlinarith
          omega
        · have hk : 0 ≤ k := by nlinarith
          omega
  · intro h
    refine Option.eq_none_iff_forall_ne_some.mpr fun e he => ?_
    have hm := (month_day_of_steps? he).1
    have hb := e.month_bounds
    omega

theorem steps?_addMonths_eq_some_iff : steps? (·.addMonths? k) n d = some e ↔
    e.month = d.month + n * k ∧ IsLeast (lengthsVisited d k n) e.day := by
  refine ⟨month_day_of_steps?, ?_⟩
  rintro ⟨hm, hd⟩
  cases h : steps? (·.addMonths? k) n d with
  | none =>
    have hb := e.month_bounds
    have ho := steps?_addMonths_eq_none_iff.mp h
    omega
  | some f =>
    obtain ⟨hfm, hfd⟩ := month_day_of_steps? h
    rw [Date.eq_of_month_day_eq (hfm.trans hm.symm) (hfd.unique hd)]

section Moves

variable {p : Period} {l : Length} {m : Nat}

theorem recedeBy_of_days (h : p.length = some (.days m)) :
    p.recedeBy d n = d.addDays? (-(n * m)) := by
  rw [recedeBy, h]
  dsimp only
  rw [steps?_addDays, mul_neg]

theorem advanceBy_of_days (h : p.length = some (.days m)) :
    p.advanceBy d n = d.addDays? (n * m) := by
  rw [advanceBy, h]
  exact steps?_addDays d m n

theorem recedeBy_of_months (h : p.length = some (.months m)) :
    p.recedeBy d n = steps? (·.addMonths? (-m)) n d := by
  rw [recedeBy, h]

theorem advanceBy_of_months (h : p.length = some (.months m)) :
    p.advanceBy d n = steps? (·.addMonths? m) n d := by
  rw [advanceBy, h]

theorem exists_recedeBy_of_le (hi : i ≤ n) (h : p.recedeBy d n = some e) :
    ∃ f, p.recedeBy d i = some f := by
  obtain ⟨f, hf, -⟩ := recedeBy_le hi h
  exact ⟨f, hf⟩

theorem exists_advanceBy_of_le (hi : i ≤ n) (h : p.advanceBy d n = some e) :
    ∃ f, p.advanceBy d i = some f := by
  obtain ⟨f, hf, -⟩ := advanceBy_le hi h
  exact ⟨f, hf⟩

theorem count_le (h : p.length = some l) : l.count ≤ 90 := by
  cases p <;> cases h <;> decide

theorem dayNumber_bounds (d : Date) : -95746000 < d.dayNumber ∧ d.dayNumber < 95746000 := by
  have hfirst := d.first_le
  have hend := d.lt_end
  have hf : monthStart (12 * -262143) = -95745764 := by decide
  have he : monthStart (12 * 262143) = 95745765 := by decide
  omega

/-- A period of `k` days moves a date by `n * k` days at once, and fails exactly if that leaves the
calendar. A period of `k` months moves it by `n * k` months, and fails exactly if that month is not in
the calendar; the day is the least of the day of the start and the lengths of the months visited. If
the last step succeeds, each one before it does, and no number on the way exceeds its word. -/
theorem moves_eq_closed_form (p : Period) (d : Date) (n : Nat) :
    (∀ k, p.length = some (.days k) →
      (∀ e, p.recedeBy d n = some e ↔ e.dayNumber = d.dayNumber - n * k) ∧
      (p.recedeBy d n = none ↔ d.dayNumber - n * k < monthStart (12 * -262143)) ∧
      (∀ e, p.advanceBy d n = some e ↔ e.dayNumber = d.dayNumber + n * k) ∧
      (p.advanceBy d n = none ↔ monthStart (12 * 262143) ≤ d.dayNumber + n * k)) ∧
    (∀ k, p.length = some (.months k) →
      (∀ e, p.recedeBy d n = some e ↔
        e.month = d.month - n * k ∧ IsLeast (lengthsVisited d (-k) n) e.day) ∧
      (p.recedeBy d n = none ↔ d.month - n * k < 12 * -262143) ∧
      (∀ e, p.advanceBy d n = some e ↔
        e.month = d.month + n * k ∧ IsLeast (lengthsVisited d k n) e.day) ∧
      (p.advanceBy d n = none ↔ 12 * 262143 ≤ d.month + n * k)) ∧
    (∀ i ≤ n, (∀ e, p.recedeBy d n = some e → ∃ f, p.recedeBy d i = some f) ∧
      ∀ e, p.advanceBy d n = some e → ∃ f, p.advanceBy d i = some f) ∧
    ∀ l, p.length = some l →
      (n < 2 ^ 32 → n * l.count < 2 ^ 64) ∧
      ∀ c : Date, c.dayNumber.natAbs + l.count < 2 ^ 31 ∧ c.month.natAbs + l.count < 2 ^ 31 := by
  refine ⟨fun k h => ⟨fun e => ?_, ?_, fun e => ?_, ?_⟩, fun k h => ⟨fun e => ?_, ?_, fun e => ?_, ?_⟩,
    fun i hi => ⟨fun e => exists_recedeBy_of_le hi, fun e => exists_advanceBy_of_le hi⟩,
    fun l h => ⟨fun hn => ?_, fun c => ?_⟩⟩
  · rw [recedeBy_of_days h, Date.addDays?_eq_some_iff, Int.sub_eq_add_neg]
  · have hend := d.lt_end
    have hk : (0 : Int) ≤ n * k := by positivity
    rw [recedeBy_of_days h, Date.addDays?_eq_none_iff]
    omega
  · rw [advanceBy_of_days h, Date.addDays?_eq_some_iff]
  · have hfirst := d.first_le
    have hk : (0 : Int) ≤ n * k := by positivity
    rw [advanceBy_of_days h, Date.addDays?_eq_none_iff]
    omega
  · rw [recedeBy_of_months h, steps?_addMonths_eq_some_iff, mul_neg, Int.sub_eq_add_neg]
  · have hb := d.month_bounds
    have hk : (0 : Int) ≤ n * k := by positivity
    rw [recedeBy_of_months h, steps?_addMonths_eq_none_iff, mul_neg]
    omega
  · rw [advanceBy_of_months h, steps?_addMonths_eq_some_iff]
  · have hb := d.month_bounds
    have hk : (0 : Int) ≤ n * k := by positivity
    rw [advanceBy_of_months h, steps?_addMonths_eq_none_iff]
    omega
  · have hl := count_le h
    calc n * l.count ≤ 2 ^ 32 * 90 := Nat.mul_le_mul hn.le hl
      _ < 2 ^ 64 := by decide
  · have hl := count_le h
    have hd := dayNumber_bounds c
    have hm := c.month_bounds
    omega

namespace Sample

/-- 2020-03-31 and 2020-01-29. -/
def march : Date := ⟨737880, by decide, by decide⟩
def january : Date := ⟨737818, by decide, by decide⟩

end Sample

/-- Two months before the end of March the day is still that of the end of February. Two weeks are
fourteen days, and 300000 years are too many. -/
theorem moves_eq_closed_form_march :
    Period.monthly.recedeBy Sample.march 2 = some Sample.january ∧
    IsLeast (lengthsVisited Sample.march (-1) 2) 29 ∧
    Period.weekly.recedeBy Sample.march 2 = Date.ofDayNumber? 737866 ∧
    Period.annual.recedeBy Sample.march 300000 = none := by
  have hm := ((moves_eq_closed_form .monthly Sample.march 2).2.1 1 rfl).1 Sample.january
  have hw := ((moves_eq_closed_form .weekly Sample.march 2).1 7 rfl).1 ⟨737866, by decide, by decide⟩
  have ha := ((moves_eq_closed_form .annual Sample.march 300000).2.1 12 rfl).2.1
  have hj : Period.monthly.recedeBy Sample.march 2 = some Sample.january := by decide
  exact ⟨hj, (hm.mp hj).2, hw.mpr (by decide), ha.mpr (by decide)⟩

end Moves

end Period

end Lookback
