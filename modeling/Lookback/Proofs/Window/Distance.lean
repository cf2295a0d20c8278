import Lookback.Proofs.Billing.Distance
import Lookback.Proofs.Window.Start

/-! How far back a window is certain to reach: behind the latest end date of each period of months by
the fewest days that these months may have, unless it is stopped at the first event. -/
namespace Lookback.Window

variable {first target s b : Date} {is : List InvoiceItem} {c : Catalog} {p : Period} {n : Nat}

/-- No recurring period with a latest end date looks back further than the window does, but for the
first event. -/
theorem start_le_receded (ht : first ≤ target) (h : (start first target is c n).result = .ok s)
    (hr : p.isRecurring) (hb : IsGreatest (ends c is p) b) :
    ∃ e, p.recedeBy b n = some e ∧ s ≤ max first e := by
  rcases start_eq_ok_iff.mp h with ⟨hempty | hlate, -⟩ | ⟨-, -, -, hin, hs⟩
  · obtain ⟨i, hi, -⟩ := hb.1
    subst hempty
    cases hi
  · exact absurd ht hlate.not_ge
  · obtain ⟨e, he⟩ := hin p b (mem_billed_some.mpr ⟨hr, hb⟩)
    refine ⟨e, he, ?_⟩
    have hmem : e ∈ (billed c is).receded n := mem_receded_billed.mpr ⟨p, b, hr, hb, he⟩
    cases hmin : ((billed c is).receded n).min? with
    | none =>
      rw [List.min?_eq_none_iff] at hmin
      rw [hmin] at hmem
      cases hmem
    | some f =>
      have hfe : f ≤ e := (List.min?_eq_some_iff.mp hmin).2 e hmem
      rw [hmin] at hs
      rw [← hs, max_comm]
      exact max_le_max ((min_le_left _ _).trans hfe) le_rfl

/-- For a period of `k` months, `n` periods are at least `28 * k * n` and at most `31 * k * n` days,
back and forth. So a month goes back no further than 31 days do, and is possible where they are. A
window starts no later than `28 * k * n` days, which are all in the calendar, before the latest end
date of such a period, or with the first event. -/
theorem distance_of_months :
    (∀ (p : Period) (k : Nat), p.length = some (.months k) → ∀ (d e : Date) (n : Nat),
      (p.recedeBy d n = some e →
        28 * k * n ≤ d.dayNumber - e.dayNumber ∧ d.dayNumber - e.dayNumber ≤ 31 * k * n) ∧
      (p.advanceBy d n = some e →
        28 * k * n ≤ e.dayNumber - d.dayNumber ∧ e.dayNumber - d.dayNumber ≤ 31 * k * n)) ∧
    (∀ (d a : Date) (n : Nat), Period.thirtyOneDays.recedeBy d n = some a →
      ∃ b, Period.monthly.recedeBy d n = some b ∧ a ≤ b) ∧
    ∀ (first target : Date) (is : List InvoiceItem) (c : Catalog) (n : Nat) (s : Date),
      first ≤ target → (start first target is c n).result = .ok s →
      ∀ (p : Period) (k : Nat) (b : Date), p.length = some (.months k) →
        IsGreatest (ends c is p) b →
        ∃ f, b.addDays? (-(28 * k * n)) = some f ∧ s ≤ max first f := by
  refine ⟨?_, ?_, ?_⟩
  · intro p k hp d e n
    constructor
    · intro h
      obtain ⟨hleast, hmost⟩ := Period.apart_recedeBy hp h
      push_cast at hleast hmost
      constructor <;> linarith
    · intro h
      obtain ⟨hleast, hmost⟩ := Period.apart_advanceBy hp h
      push_cast at hleast hmost
      constructor <;> linarith
  · intro d a n h
    exact Period.exists_recedeBy_of_days rfl rfl (by decide) h
  · intro first target is c n s ht h p k b hp hb
    have hr : p.isRecurring := Period.isRecurring_iff_length.mpr (by rw [hp]; rfl)
    obtain ⟨e, he, hse⟩ := start_le_receded ht h hr hb
    obtain ⟨f, hf, hef⟩ := Period.exists_addDays?_of_recedeBy hp he
    refine ⟨f, ?_, hse.trans (max_le_max le_rfl hef)⟩
    rw [← hf]
    congr 2
    push_cast
    ring

namespace Sample

/-- 2019-01-31 and 2019-02-28. -/
def endOfJanuary : Date := ⟨737455, by decide, by decide⟩
def endOfFebruary : Date := ⟨737483, by decide, by decide⟩

/-- 2020-03-01, up to which storage is billed. -/
def storageEnd : Date := ⟨Period.Sample.march.dayNumber - 30, by decide, by decide⟩

end Sample

/-- Two months back from the end of March 2020 are the most days that two months have, a month on from
the end of January 2019 the fewest that one has. The window of the sample starts 91 days before storage
ends, of which 84 are certain. -/
theorem distance_of_months_sample :
    28 * 1 * 2 ≤ Period.Sample.march.dayNumber - Period.Sample.january.dayNumber ∧
    Period.Sample.march.dayNumber - Period.Sample.january.dayNumber = 31 * 1 * 2 ∧
    Sample.endOfFebruary.dayNumber - Sample.endOfJanuary.dayNumber = 28 * 1 * 1 ∧
    (∃ b, Period.monthly.recedeBy Period.Sample.march 2 = some b ∧ Period.Sample.january ≤ b) ∧
    ∃ f, Sample.storageEnd.addDays? (-84) = some f ∧ Sample.december ≤ max Sample.january f := by
  obtain ⟨hdays, hmonth, hstart⟩ := distance_of_months
  have hback : Period.monthly.recedeBy Period.Sample.march 2 = some Period.Sample.january := by decide
  have hforth : Period.monthly.advanceBy Sample.endOfJanuary 1 = some Sample.endOfFebruary := by decide
  have hdaysBack : Period.thirtyOneDays.recedeBy Period.Sample.march 2 = some Period.Sample.january := by
    decide
  have hrun : (start Sample.january Sample.june Sample.items Sample.catalog 1).result =
      .ok Sample.december := by decide +kernel
  have hlatest : IsGreatest (ends Sample.catalog Sample.items .quarterly) Sample.storageEnd :=
    latest?_eq_some_iff.mp (by decide)
  refine ⟨((hdays .monthly 1 rfl _ _ _).1 hback).1, ?_, ?_, hmonth _ _ _ hdaysBack,
    hstart _ _ _ _ _ _ (by decide) hrun .quarterly 3 _ rfl hlatest⟩
  · exact le_antisymm ((hdays .monthly 1 rfl _ _ _).1 hback).2 (by decide)
  · exact le_antisymm (by decide) ((hdays .monthly 1 rfl _ _ _).2 hforth).1

end Lookback.Window
