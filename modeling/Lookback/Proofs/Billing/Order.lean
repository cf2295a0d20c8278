import Lookback.Proofs.Billing.Steps

/-! Moves keep the order of dates, go strictly further with each period, and go no less far if the
period is longer. What is possible for the further of two moves is possible for the other. -/
namespace Lookback.Period

section Steps

variable {α : Type} [Preorder α] {step step' : α → Option α} {a b c : α} {n : Nat}

/-- What one step does to the order, many do. -/
theorem exists_steps?_of_ge
    (hstep : ∀ {a b c}, a ≤ b → step a = some c → ∃ d, step' b = some d ∧ c ≤ d) (hab : a ≤ b)
    (h : steps? step n a = some c) : ∃ d, steps? step' n b = some d ∧ c ≤ d := by
  induction n generalizing a b with
  | zero =>
    cases h
    exact ⟨b, rfl, hab⟩
  | succ n ih =>
    rw [steps?_succ] at h
    obtain ⟨a', ha', hc⟩ := Option.bind_eq_some_iff.mp h
    obtain ⟨b', hb', hab'⟩ := hstep hab ha'
    obtain ⟨d, hd, hcd⟩ := ih hab' hc
    refine ⟨d, ?_, hcd⟩
    rw [steps?_succ, hb']
    exact hd

end Steps

/-- A length is at most another one, if both count days or both count months. -/
inductive Length.AtMost : Length → Length → Prop
  | days {k m : Nat} (h : k ≤ m) : AtMost (.days k) (.days m)
  | months {k m : Nat} (h : k ≤ m) : AtMost (.months k) (.months m)

theorem Length.AtMost.refl (l : Length) : l.AtMost l := by
  cases l with
  | days k => exact .days le_rfl
  | months k => exact .months le_rfl

variable {p q : Period} {k l : Length} {d e f g : Date} {n m : Nat}

theorem Length.exists_back?_of_ge (hkl : k.AtMost l) (hde : d ≤ e) (h : l.back? d = some f) :
    ∃ g, k.back? e = some g ∧ f ≤ g := by
  cases hkl with
  | @days k m hkm =>
    have hf := Date.addDays?_eq_some_iff.mp h
    have hle := Date.le_iff.mp hde
    have hfirst := f.first_le
    have hend := e.lt_end
    cases hg : e.addDays? (-k) with
    | none =>
      have hout := Date.addDays?_eq_none_iff.mp hg
      omega
    | some g => exact ⟨g, hg, Date.addDays?_le_addDays? hde (by omega) h hg⟩
  | @months k m hkm =>
    have hm := (Date.addMonths?_eq_some_iff.mp h).1
    have hle := Date.month_le_of_le hde
    have hf := f.month_bounds
    have he := e.month_bounds
    cases hg : e.addMonths? (-k) with
    | none =>
      have hout := Date.addMonths?_eq_none_iff.mp hg
      omega
    | some g => exact ⟨g, hg, Date.addMonths?_le_addMonths? hde (by omega) h hg⟩

theorem Length.exists_forth?_of_le (hkl : k.AtMost l) (hde : d ≤ e) (h : l.forth? e = some g) :
    ∃ f, k.forth? d = some f ∧ f ≤ g := by
  cases hkl with
  | @days k m hkm =>
    have hg := Date.addDays?_eq_some_iff.mp h
    have hle := Date.le_iff.mp hde
    have hfirst := d.first_le
    have hend := g.lt_end
    cases hf : d.addDays? k with
    | none =>
      have hout := Date.addDays?_eq_none_iff.mp hf
      omega
    | some f => exact ⟨f, hf, Date.addDays?_le_addDays? hde (by omega) hf h⟩
  | @months k m hkm =>
    have hm := (Date.addMonths?_eq_some_iff.mp h).1
    have hle := Date.month_le_of_le hde
    have hg := g.month_bounds
    have hd := d.month_bounds
    cases hf : d.addMonths? k with
    | none =>
      have hout := Date.addMonths?_eq_none_iff.mp hf
      omega
    | some f => exact ⟨f, hf, Date.addMonths?_le_addMonths? hde (by omega) hf h⟩

theorem exists_recedeBy_of_atMost (hp : p.length = some k) (hq : q.length = some l)
    (hkl : k.AtMost l) (hde : d ≤ e) (h : q.recedeBy d n = some f) :
    ∃ g, p.recedeBy e n = some g ∧ f ≤ g := by
  rw [recedeBy_eq_steps? hq] at h
  rw [recedeBy_eq_steps? hp]
  exact exists_steps?_of_ge (fun hab hc => Length.exists_back?_of_ge hkl hab hc) hde h

theorem exists_advanceBy_of_atMost (hp : p.length = some k) (hq : q.length = some l)
    (hkl : k.AtMost l) (hde : d ≤ e) (h : q.advanceBy e n = some g) :
    ∃ f, p.advanceBy d n = some f ∧ f ≤ g := by
  rw [advanceBy_eq_steps? hq] at h
  rw [advanceBy_eq_steps? hp]
  exact exists_steps?_of_ge (α := Dateᵒᵈ)
    (fun hab hc => Length.exists_forth?_of_le hkl hab hc) hde h

theorem exists_recedeBy_of_ge (hde : d ≤ e) (h : p.recedeBy d n = some f) :
    ∃ g, p.recedeBy e n = some g ∧ f ≤ g := by
  cases hl : p.length with
  | none => simp [recedeBy_eq_none hl] at h
  | some l => exact exists_recedeBy_of_atMost hl hl (.refl l) hde h

theorem exists_advanceBy_of_ge (hde : d ≤ e) (h : p.advanceBy e n = some g) :
    ∃ f, p.advanceBy d n = some f ∧ f ≤ g := by
  cases hl : p.length with
  | none => simp [advanceBy_eq_none hl] at h
  | some l => exact exists_advanceBy_of_atMost hl hl (.refl l) hde h

theorem recedeBy_le_recedeBy (hde : d ≤ e) (hf : p.recedeBy d n = some f)
    (hg : p.recedeBy e n = some g) : f ≤ g := by
  obtain ⟨g', hg', hle⟩ := exists_recedeBy_of_ge hde hf
  cases hg.symm.trans hg'
  exact hle

/-- A move that fails fails for every greater number of periods. -/
theorem recedeBy_eq_none_of_le (hnm : n ≤ m) (h : p.recedeBy d n = none) :
    p.recedeBy d m = none := by
  refine Option.eq_none_iff_forall_ne_some.mpr fun e he => ?_
  obtain ⟨f, hf, -⟩ := recedeBy_le hnm he
  cases h.symm.trans hf

theorem advanceBy_eq_none_of_le (hnm : n ≤ m) (h : p.advanceBy d n = none) :
    p.advanceBy d m = none := by
  refine Option.eq_none_iff_forall_ne_some.mpr fun e he => ?_
  obtain ⟨f, hf, -⟩ := advanceBy_le hnm he
  cases h.symm.trans hf

/-- A later date goes back to a date that is no earlier, and an earlier one goes forward to a date
that is no later. More periods go strictly further, so that a move that fails fails for all greater
counts. Of two periods that count days, or that count months, the longer one goes no less far. In
each case the move that goes less far is possible if the other one is. -/
theorem moves_order (p : Period) (n : Nat) :
    (∀ d e f, d ≤ e → p.recedeBy d n = some f → ∃ g, p.recedeBy e n = some g ∧ f ≤ g) ∧
    (∀ d e g, d ≤ e → p.advanceBy e n = some g → ∃ f, p.advanceBy d n = some f ∧ f ≤ g) ∧
    (∀ d m e, n < m → p.recedeBy d m = some e → ∃ f, p.recedeBy d n = some f ∧ e < f) ∧
    (∀ d m e, n < m → p.advanceBy d m = some e → ∃ f, p.advanceBy d n = some f ∧ f < e) ∧
    (∀ d m, n ≤ m → (p.recedeBy d n = none → p.recedeBy d m = none) ∧
      (p.advanceBy d n = none → p.advanceBy d m = none)) ∧
    ∀ (q : Period) k l, p.length = some k → q.length = some l → k.AtMost l → ∀ d e,
      (q.recedeBy d n = some e → ∃ f, p.recedeBy d n = some f ∧ e ≤ f) ∧
      (q.advanceBy d n = some e → ∃ f, p.advanceBy d n = some f ∧ f ≤ e) := by
  refine ⟨?_, ?_, ?_, ?_, ?_, ?_⟩
  · intro d e f hde h
    exact exists_recedeBy_of_ge hde h
  · intro d e g hde h
    exact exists_advanceBy_of_ge hde h
  · intro d m e hnm h
    exact recedeBy_lt hnm h
  · intro d m e hnm h
    exact advanceBy_lt hnm h
  · intro d m hnm
    exact ⟨recedeBy_eq_none_of_le hnm, advanceBy_eq_none_of_le hnm⟩
  · intro q k l hp hq hkl d e
    exact ⟨exists_recedeBy_of_atMost hp hq hkl le_rfl,
      exists_advanceBy_of_atMost hp hq hkl le_rfl⟩

namespace Sample

/-- 2020-03-30, 2020-02-29 and the last day of the calendar. -/
def dayBeforeLast : Date := ⟨737879, by decide, by decide⟩
def leapDay : Date := ⟨737849, by decide, by decide⟩
def finalDay : Date := ⟨95745764, by decide, by decide⟩

end Sample

/-- Both last days of March 2020 go back to the leap day, two months back is earlier, a quarter goes
back further than a month, and nothing follows the last day of the calendar. -/
theorem moves_order_march :
    (∃ g, Period.monthly.recedeBy Sample.march 1 = some g ∧ Sample.leapDay ≤ g) ∧
    (∃ f, Period.monthly.recedeBy Sample.march 1 = some f ∧ Sample.january < f) ∧
    (∃ e f, Period.quarterly.recedeBy Sample.march 1 = some e ∧
      Period.monthly.recedeBy Sample.march 1 = some f ∧ e ≤ f) ∧
    Period.monthly.advanceBy Sample.finalDay 400000 = none := by
  obtain ⟨hdate, -, hcount, -, hnone, hlength⟩ := moves_order .monthly 1
  have hday : Period.monthly.recedeBy Sample.dayBeforeLast 1 = some Sample.leapDay := by decide
  have htwo : Period.monthly.recedeBy Sample.march 2 = some Sample.january := by decide
  have hquarter : Period.quarterly.recedeBy Sample.march 1 = some ⟨737789, by decide, by decide⟩ := by
    decide
  have hlast : Period.monthly.advanceBy Sample.finalDay 1 = none := by decide
  obtain ⟨f, hf, hle⟩ :=
    (hlength .quarterly _ _ rfl rfl (.months (by decide)) Sample.march _).1 hquarter
  exact ⟨hdate _ _ _ (by decide) hday, hcount _ 2 _ (by decide) htwo, ⟨_, f, hquarter, hf, hle⟩,
    (hnone Sample.finalDay 400000 (by decide)).2 hlast⟩

end Lookback.Period
