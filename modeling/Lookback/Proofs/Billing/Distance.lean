import Lookback.Proofs.Billing.Order

/-! How many days a move by months takes: at least 28 and at most 31 for each month, though each step
may end on the last day of a shorter month. -/
namespace Lookback

open Calendar

variable {a b c d e : Date} {k m n : Nat}

/-- Each month has 28 to 31 days. -/
theorem Calendar.monthStart_add_bounds (t : Int) (k : Nat) :
    monthStart t + 28 * k ≤ monthStart (t + k) ∧ monthStart (t + k) ≤ monthStart t + 31 * k := by
  induction k with
  | zero => simp
  | succ k ih =>
    have hnext := monthStart_succ (t + k)
    have hlength := daysIn_bounds (t + k)
    have hsum : t + (k + 1 : Nat) = t + k + 1 := by omega
    rw [hsum]
    omega

namespace Date

/-- The second date lies as many days after the first as `m` months in a row may have. -/
structure Apart (m : Nat) (a b : Date) : Prop where
  least : 28 * m ≤ b.dayNumber - a.dayNumber
  most : b.dayNumber - a.dayNumber ≤ 31 * m

theorem Apart.refl (a : Date) : Apart 0 a a := by
  constructor <;> omega

theorem Apart.trans (hab : Apart m a b) (hbc : Apart n b c) : Apart (m + n) a c := by
  obtain ⟨hleast, hmost⟩ := hab
  obtain ⟨hleast', hmost'⟩ := hbc
  constructor <;> omega

/-- Where one of two dates keeps the day of the other, the starts of their months lie as far apart as
they do. Where it is cut to the last day of its month, they are nearer than the starts or the ends. -/
theorem apart_of_months (hm : b.month = a.month + k)
    (hday : a.day = min b.day (daysIn a.month) ∨ b.day = min a.day (daysIn b.month)) :
    Apart k a b := by
  have ha := a.dayNumber_eq
  have hb := b.dayNumber_eq
  have hinA := a.day_bounds
  have hinB := b.day_bounds
  have hstarts := monthStart_add_bounds a.month k
  have hends := monthStart_add_bounds (a.month + 1) k
  have hendA := monthStart_succ a.month
  have hendB := monthStart_succ b.month
  have hnext : b.month + 1 = a.month + 1 + k := by omega
  rw [hnext] at hendB
  rw [hm] at hb hinB hendB hday
  constructor <;> omega

theorem apart_addMonths? (h : d.addMonths? k = some e) : Apart k d e := by
  obtain ⟨hm, hd⟩ := addMonths?_eq_some_iff.mp h
  apply apart_of_months hm
  right
  rw [hd, hm]

theorem apart_addMonths?_neg (h : d.addMonths? (-k) = some e) : Apart k e d := by
  obtain ⟨hm, hd⟩ := addMonths?_eq_some_iff.mp h
  apply apart_of_months (by omega)
  left
  rw [hd, hm]

/-- A month back is possible wherever its most days are, and leads no further. -/
theorem exists_addMonths?_of_addDays? (hkm : 31 * k ≤ m) (hde : d ≤ e)
    (h : d.addDays? (-m) = some a) : ∃ f, e.addMonths? (-k) = some f ∧ a ≤ f := by
  have ha := addDays?_eq_some_iff.mp h
  rw [le_iff] at hde
  cases hf : e.addMonths? (-k) with
  | none =>
    -- the months in the calendar up to that of `e` are fewer than `k`
    have hout := addMonths?_eq_none_iff.mp hf
    have hin := e.month_bounds
    have hend := (monthStart_monthOf e.dayNumber).2
    have hfew : monthStart (e.month + 1) ≤ monthStart (12 * -262143 + k) := by
      apply monthStart_mono
      omega
    have hmost := (monthStart_add_bounds (12 * -262143) k).2
    have hfirst := a.first_le
    rw [← month] at hend
    omega
  | some f =>
    refine ⟨f, rfl, ?_⟩
    have hmost := (apart_addMonths?_neg hf).most
    rw [le_iff]
    omega

end Date

namespace Period

section Steps

variable {α : Type} {step : α → Option α} {x y : α}

/-- What is so far for one step is `n` times as far for `n` steps. -/
theorem far_of_steps? {R : Nat → α → α → Prop} (refl : ∀ x, R 0 x x)
    (trans : ∀ {m n x y z}, R m x y → R n y z → R (m + n) x z)
    (hstep : ∀ {x y}, step x = some y → R k x y) (h : steps? step n x = some y) :
    R (k * n) x y := by
  induction n generalizing y with
  | zero =>
    cases h
    exact refl x
  | succ n ih =>
    rw [steps?_succ_last] at h
    obtain ⟨z, hz, hzy⟩ := Option.bind_eq_some_iff.mp h
    exact trans (ih hz) (hstep hzy)

end Steps

variable {p q : Period}

theorem apart_recedeBy (hp : p.length = some (.months k)) (h : p.recedeBy d n = some e) :
    Date.Apart (k * n) e d := by
  rw [recedeBy_of_months hp] at h
  refine far_of_steps? (R := fun m a b => Date.Apart m b a) Date.Apart.refl ?_ ?_ h
  · intro m n a b c hab hbc
    rw [Nat.add_comm]
    exact hbc.trans hab
  · intro a b hab
    exact Date.apart_addMonths?_neg hab

theorem apart_advanceBy (hp : p.length = some (.months k)) (h : p.advanceBy d n = some e) :
    Date.Apart (k * n) d e := by
  rw [advanceBy_of_months hp] at h
  exact far_of_steps? Date.Apart.refl Date.Apart.trans Date.apart_addMonths? h

/-- A period of months goes back no further than one of as many days as the months have at most. -/
theorem exists_recedeBy_of_days (hp : p.length = some (.months k)) (hq : q.length = some (.days m))
    (hkm : 31 * k ≤ m) (h : q.recedeBy d n = some e) : ∃ f, p.recedeBy d n = some f ∧ e ≤ f := by
  rw [recedeBy_eq_steps? hq] at h
  rw [recedeBy_eq_steps? hp]
  apply exists_steps?_of_ge ?_ le_rfl h
  intro a b c hab hc
  exact Date.exists_addMonths?_of_addDays? hkm hab hc

/-- The fewest days that the months may have can be taken away where the move is possible. -/
theorem exists_addDays?_of_recedeBy (hp : p.length = some (.months k))
    (h : p.recedeBy d n = some e) : ∃ f, d.addDays? (-(28 * (k * n : Nat))) = some f ∧ e ≤ f := by
  have hleast := (apart_recedeBy hp h).least
  have hfirst := e.first_le
  have hend := d.lt_end
  cases hf : d.addDays? (-(28 * (k * n : Nat))) with
  | none =>
    have hout := Date.addDays?_eq_none_iff.mp hf
    omega
  | some f =>
    refine ⟨f, rfl, ?_⟩
    have hday := Date.addDays?_eq_some_iff.mp hf
    rw [Date.le_iff]
    omega

end Period

end Lookback
