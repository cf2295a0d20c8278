import Lookback.Proofs.Billing.Order

/-! A move and as many periods back: the way back ends in the month where the move began, on the day
of the month on which the move ended, and the same move leads from there to the same date. -/
namespace Lookback

open Calendar

variable {p : Period} {d e f : Date} {k : Int} {m n : Nat}

theorem Date.exists_month_day (d : Date) (hk : 1 ≤ k) (hkd : k ≤ d.day) :
    ∃ e : Date, e.month = d.month ∧ e.day = k := by
  have hd := d.day_bounds
  have hm := d.month_bounds
  cases h : ofMonthDay? d.month k with
  | none =>
    have hout := (ofMonthDay?_eq_none_iff hk (by omega)).mp h
    omega
  | some e => exact ⟨e, ofMonthDay?_eq_some_iff.mp h⟩

namespace Period

theorem day_le_of_steps? (h : steps? (·.addMonths? k) n d = some e) : e.day ≤ d.day :=
  (month_day_of_steps? h).2.2 (Set.mem_insert _ _)

/-- The months of the way back are those of the way there and the month of the start, and none of
them is shorter than the day that is left. -/
theorem exists_steps?_neg (h : steps? (·.addMonths? k) n d = some e) :
    ∃ f, steps? (·.addMonths? (-k)) n e = some f ∧ f.month = d.month ∧ f.day = e.day := by
  obtain ⟨hmonth, -, hleast⟩ := steps?_addMonths_eq_some_iff.mp h
  have hle : e.day ≤ d.day := day_le_of_steps? h
  obtain ⟨f, hfm, hfd⟩ := d.exists_month_day e.day_bounds.1 hle
  refine ⟨f, steps?_addMonths_eq_some_iff.mpr ⟨?_, ?_⟩, hfm, hfd⟩
  · rw [hfm, hmonth]
    ring
  · rw [hfd]
    refine ⟨Set.mem_insert _ _, ?_⟩
    rintro _ (rfl | ⟨i, ⟨hi, hin⟩, rfl⟩)
    · exact le_rfl
    · obtain ⟨j, rfl⟩ := Nat.exists_eq_add_of_le hin
      have hback : e.month + i * -k = d.month + j * k := by
        rw [hmonth]
        push_cast
        ring
      dsimp only
      rw [hback]
      cases j with
      | zero =>
        simpa using hle.trans d.day_bounds.2
      | succ j => exact hleast (Set.mem_insert_of_mem _ ⟨j + 1, ⟨by omega, by omega⟩, rfl⟩)

/-- Where the way back leads after a move from `d` to `e`. -/
structure Returns (p : Period) (d e f : Date) : Prop where
  le : f ≤ d
  eq_iff : f = d ↔ (∃ k, p.length = some (.days k)) ∨ e.day = d.day
  month_day : ∀ k, p.length = some (.months k) → f.month = d.month ∧ f.day = e.day

theorem returns_of_days (h : p.length = some (.days m)) : p.Returns d e d where
  le := le_rfl
  eq_iff := ⟨fun _ => Or.inl ⟨m, h⟩, fun _ => rfl⟩
  month_day k hk := by cases h.symm.trans hk

theorem returns_of_months (h : p.length = some (.months m)) (hle : e.day ≤ d.day)
    (hfm : f.month = d.month) (hfd : f.day = e.day) : p.Returns d e f where
  le := by rwa [Date.le_iff_day_le hfm, hfd]
  eq_iff := by
    constructor
    · rintro rfl
      exact Or.inr hfd.symm
    · rintro (⟨k, hk⟩ | hday)
      · cases h.symm.trans hk
      · exact Date.eq_of_month_day_eq hfm (hfd.trans hday)
  month_day _ _ := ⟨hfm, hfd⟩

theorem exists_return_of_months (hp : p.length = some (.months m))
    (h : steps? (·.addMonths? k) n d = some e) :
    ∃ f, steps? (·.addMonths? (-k)) n e = some f ∧ p.Returns d e f ∧
      steps? (·.addMonths? k) n f = some e := by
  obtain ⟨f, hf, hfm, hfd⟩ := exists_steps?_neg h
  obtain ⟨g, hg, hgm, hgd⟩ := exists_steps?_neg hf
  obtain rfl : g = e := Date.eq_of_month_day_eq hgm (hgd.trans hfd)
  rw [neg_neg] at hg
  exact ⟨f, hf, returns_of_months hp (day_le_of_steps? h) hfm hfd, hg⟩

theorem exists_return_of_days (hp : p.length = some (.days m)) (h : d.addDays? k = some e) :
    ∃ f, e.addDays? (-k) = some f ∧ p.Returns d e f ∧ f.addDays? k = some e := by
  refine ⟨d, ?_, returns_of_days hp, h⟩
  have he := Date.addDays?_eq_some_iff.mp h
  rw [Date.addDays?_eq_some_iff]
  omega

/-- The way back after a move never fails. It ends no later than the move began, and there exactly if
the period counts days or the move kept the day of the month. A period that counts months comes back
to the month of the start and to the day on which the move ended. The same move leads from there to
the same date again. -/
theorem moves_return (p : Period) (d e : Date) (n : Nat) :
    (p.recedeBy d n = some e →
      ∃ f, p.advanceBy e n = some f ∧ p.Returns d e f ∧ p.recedeBy f n = some e) ∧
    (p.advanceBy d n = some e →
      ∃ f, p.recedeBy e n = some f ∧ p.Returns d e f ∧ p.advanceBy f n = some e) := by
  cases hl : p.length with
  | none => simp [recedeBy_eq_none hl, advanceBy_eq_none hl]
  | some l =>
    cases l with
    | days m =>
      simp only [recedeBy_of_days hl, advanceBy_of_days hl]
      refine ⟨fun h => ?_, exists_return_of_days hl⟩
      simpa only [neg_neg] using exists_return_of_days hl h
    | months m =>
      simp only [recedeBy_of_months hl, advanceBy_of_months hl]
      refine ⟨fun h => ?_, exists_return_of_months hl⟩
      simpa only [neg_neg] using exists_return_of_months hl h

/-- A month back from the end of March 2020 and a month forward is two days earlier. -/
theorem moves_return_march :
    Period.monthly.recedeBy Sample.march 1 = some Sample.leapDay ∧
    ∃ f, Period.monthly.advanceBy Sample.leapDay 1 = some f ∧ f ≤ Sample.march ∧
      f ≠ Sample.march ∧ f.day = 29 ∧ Period.monthly.recedeBy f 1 = some Sample.leapDay := by
  have h : Period.monthly.recedeBy Sample.march 1 = some Sample.leapDay := by decide
  obtain ⟨f, hf, hback, hagain⟩ := (moves_return .monthly Sample.march Sample.leapDay 1).1 h
  refine ⟨h, f, hf, hback.le, fun he => ?_, (hback.month_day 1 rfl).2, hagain⟩
  rcases hback.eq_iff.mp he with ⟨k, hk⟩ | hday
  · cases hk
  · exact absurd hday (by decide)

end Period

end Lookback
