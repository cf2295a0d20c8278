import Lookback.Billing.Period
import Lookback.Proofs.Calendar.Order

/-! Moves by whole periods: steps repeat one by one, and each period goes further. -/
namespace Lookback.Period

section Steps

variable {α : Type} {step : α → Option α} {n k m : Nat} {a b : α}

theorem steps?_succ : steps? step (n + 1) a = (step a).bind (steps? step n) := by
  rw [steps?]
  cases step a <;> rfl

theorem steps?_add : steps? step (n + k) a = (steps? step n a).bind (steps? step k) := by
  induction n generalizing a with
  | zero => simp [steps?]
  | succ n ih =>
    rw [Nat.succ_add_eq_add_succ, Nat.add_succ, steps?_succ, steps?_succ]
    cases step a with
    | none => rfl
    | some b => exact ih

theorem steps?_lt [Preorder α] (hstep : ∀ {a b}, step a = some b → b < a) (hn : 0 < n)
    (h : steps? step n a = some b) : b < a := by
  induction n generalizing a with
  | zero => exact absurd hn (Nat.lt_irrefl 0)
  | succ n ih =>
    rw [steps?_succ] at h
    obtain ⟨c, hc, hcb⟩ := Option.bind_eq_some_iff.mp h
    cases n with
    | zero => exact Option.some.inj hcb ▸ hstep hc
    | succ n => exact (ih (Nat.succ_pos n) hcb).trans (hstep hc)

/-- More steps are possible only if fewer are, and end strictly further. -/
theorem exists_steps?_of_lt [Preorder α] (hstep : ∀ {a b}, step a = some b → b < a) (hnm : n < m)
    (h : steps? step m a = some b) : ∃ c, steps? step n a = some c ∧ b < c := by
  obtain ⟨k, rfl⟩ := Nat.exists_eq_add_of_le hnm.le
  rw [steps?_add] at h
  obtain ⟨c, hc, hcb⟩ := Option.bind_eq_some_iff.mp h
  exact ⟨c, hc, steps?_lt hstep (by omega) hcb⟩

end Steps

variable {p : Period} {l : Length} {d e : Date} {n m : Nat}

/-- How many days or months a length has. -/
def Length.count : Length → Nat
  | .days k | .months k => k

/-- A date one length earlier. -/
def Length.back? : Length → Date → Option Date
  | .days k, d => d.addDays? (-k)
  | .months k, d => d.addMonths? (-k)

/-- A date one length later. -/
def Length.forth? : Length → Date → Option Date
  | .days k, d => d.addDays? k
  | .months k, d => d.addMonths? k

theorem count_pos (h : p.length = some l) : 0 < l.count := by
  cases p <;> cases h <;> decide

theorem Length.back?_lt (hl : 0 < l.count) (h : l.back? d = some e) : e < d := by
  cases l with
  | days k => exact Date.addDays?_lt (by simp only [count] at hl; omega) h
  | months k => exact Date.addMonths?_lt (by simp only [count] at hl; omega) h

theorem Length.lt_forth? (hl : 0 < l.count) (h : l.forth? d = some e) : d < e := by
  cases l with
  | days k => exact Date.lt_addDays? (by simp only [count] at hl; omega) h
  | months k => exact Date.lt_addMonths? (by simp only [count] at hl; omega) h

theorem recedeBy_eq_steps? (h : p.length = some l) : p.recedeBy d n = steps? l.back? n d := by
  rw [recedeBy, h]
  cases l <;> rfl

theorem recedeBy_eq_none (h : p.length = none) : p.recedeBy d n = none := by
  rw [recedeBy, h]

theorem advanceBy_eq_steps? (h : p.length = some l) : p.advanceBy d n = steps? l.forth? n d := by
  rw [advanceBy, h]
  cases l <;> rfl

theorem advanceBy_eq_none (h : p.length = none) : p.advanceBy d n = none := by
  rw [advanceBy, h]

/-- More periods back are possible only if fewer are, and end strictly earlier. -/
theorem recedeBy_lt (hnm : n < m) (h : p.recedeBy d m = some e) :
    ∃ f, p.recedeBy d n = some f ∧ e < f := by
  cases hl : p.length with
  | none => simp [recedeBy_eq_none hl] at h
  | some l =>
    rw [recedeBy_eq_steps? hl] at h ⊢
    exact exists_steps?_of_lt (Length.back?_lt (count_pos hl)) hnm h

/-- More periods forward are possible only if fewer are, and end strictly later. -/
theorem advanceBy_lt (hnm : n < m) (h : p.advanceBy d m = some e) :
    ∃ f, p.advanceBy d n = some f ∧ f < e := by
  cases hl : p.length with
  | none => simp [advanceBy_eq_none hl] at h
  | some l =>
    rw [advanceBy_eq_steps? hl] at h ⊢
    -- steps up are steps down in the dual order
    exact exists_steps?_of_lt (α := Dateᵒᵈ) (Length.lt_forth? (count_pos hl)) hnm h

theorem recedeBy_le (hnm : n ≤ m) (h : p.recedeBy d m = some e) :
    ∃ f, p.recedeBy d n = some f ∧ e ≤ f := by
  rcases hnm.eq_or_lt with rfl | hlt
  · exact ⟨e, h, le_rfl⟩
  · obtain ⟨f, hf, hef⟩ := recedeBy_lt hlt h
    exact ⟨f, hf, hef.le⟩

theorem advanceBy_le (hnm : n ≤ m) (h : p.advanceBy d m = some e) :
    ∃ f, p.advanceBy d n = some f ∧ f ≤ e := by
  rcases hnm.eq_or_lt with rfl | hlt
  · exact ⟨e, h, le_rfl⟩
  · obtain ⟨f, hf, hfe⟩ := advanceBy_lt hlt h
    exact ⟨f, hf, hfe.le⟩

end Lookback.Period
