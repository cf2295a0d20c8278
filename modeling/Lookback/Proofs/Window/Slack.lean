import Lookback.Proofs.Window.Failure
import Lookback.Proofs.Window.Narrowing

/-! More periods of slack move the start of a window back, and what fails under some slack fails
under more. -/
namespace Lookback.Window

variable {n m : Nat} {bs : Boundaries} {first target a b : Date} {is : List InvoiceItem}
  {c : Catalog} {e : Error}

namespace Boundaries

theorem inRange_of_le (hnm : n ≤ m) (h : bs.InRange m) : bs.InRange n := by
  intro p d hd
  obtain ⟨e, he⟩ := h p d hd
  obtain ⟨f, hf, -⟩ := Period.recedeBy_le hnm he
  exact ⟨f, hf⟩

theorem exists_receded_le (hnm : n ≤ m) (h : bs.InRange m) (ha : a ∈ bs.receded n) :
    ∃ b ∈ bs.receded m, b ≤ a := by
  obtain ⟨p, d, hd, hr⟩ := mem_receded.mp ha
  obtain ⟨b, hb⟩ := h p d hd
  obtain ⟨f, hf, hle⟩ := Period.recedeBy_le hnm hb
  cases hr.symm.trans hf
  exact ⟨b, mem_receded.mpr ⟨p, d, hd, hb⟩, hle⟩

theorem exists_le_receded (hnm : n ≤ m) (hb : b ∈ bs.receded m) : ∃ a ∈ bs.receded n, b ≤ a := by
  obtain ⟨p, d, hd, hr⟩ := mem_receded.mp hb
  obtain ⟨a, ha, hle⟩ := Period.recedeBy_le hnm hr
  exact ⟨a, mem_receded.mpr ⟨p, d, hd, ha⟩, hle⟩

/-- The earliest date is there with more slack if it is there with less, and lies no later. -/
theorem min?_receded_of_le (hnm : n ≤ m) (h : bs.InRange m) :
    Option.Rel (· ≤ ·) (bs.receded m).min? (bs.receded n).min? := by
  refine min?_rel_min? (fun a ha => exists_receded_le hnm h ha) fun hne => ?_
  obtain ⟨b, hb⟩ := List.exists_mem_of_ne_nil _ hne
  obtain ⟨a, ha, -⟩ := exists_le_receded hnm hb
  exact List.ne_nil_of_mem ha

/-- The first boundary in order that leaves the calendar stands no later with more slack. -/
theorem earliest_error_of_le (hnm : n ≤ m)
    (hbs : bs.Pairwise fun x y => Period.all.idxOf x.1 < Period.all.idxOf y.1)
    (h : earliest n bs = .error e) :
    ∃ d p d' p', e = .dateOutOfRange d p n ∧ earliest m bs = .error (.dateOutOfRange d' p' m) ∧
      Period.all.idxOf p' ≤ Period.all.idxOf p := by
  obtain ⟨p, d, hmem, hnone, rfl, -⟩ := earliest_error_least hbs h
  have hout : p.recedeBy d m = none := by
    refine Option.eq_none_iff_forall_ne_some.mpr fun e he => ?_
    obtain ⟨f, hf, -⟩ := Period.recedeBy_le hnm he
    cases hnone.symm.trans hf
  cases hm : earliest m bs with
  | ok o =>
    obtain ⟨e, he⟩ := (earliest_eq_ok_iff.mp hm).1 p d hmem
    cases hout.symm.trans he
  | error err =>
    obtain ⟨q, f, -, -, rfl, hleast⟩ := earliest_error_least hbs hm
    exact ⟨d, p, f, q, rfl, rfl, hleast p d hmem hout⟩

end Boundaries

theorem start_of_le (hnm : n ≤ m) (h : (start first target is c m).result = .ok a) :
    ∃ b, (start first target is c n).result = .ok b ∧ a ≤ b := by
  rcases start_eq_ok_iff.mp h with ⟨he, rfl⟩ | ⟨hi, ht, hu, hin, rfl⟩
  · exact ⟨first, start_of_unscanned he, le_rfl⟩
  · refine ⟨_, start_eq_ok_iff.mpr (Or.inr ⟨hi, ht, hu, Boundaries.inRange_of_le hnm hin, rfl⟩), ?_⟩
    exact clamped_le_clamped le_rfl le_rfl (Boundaries.min?_receded_of_le hnm hin)

theorem start_error_of_le (hnm : n ≤ m) (h : (start first target is c n).result = .error e) :
    (((∃ i, e = .missingName i) ∨ ∃ u i, e = .missingDefinition u i) ∧
        (start first target is c m).result = .error e) ∨
      ∃ d p d' p', e = .dateOutOfRange d p n ∧
        (start first target is c m).result = .error (.dateOutOfRange d' p' m) ∧
        Period.all.idxOf p' ≤ Period.all.idxOf p := by
  obtain ⟨hi, ht, hu | ⟨hu, hn⟩⟩ := start_eq_error_iff.mp h
  · have hm := start_eq_error_iff (n := m) |>.mpr ⟨hi, ht, Or.inl hu⟩
    obtain ⟨_, i, _, -, -, -, hr⟩ := unresolved?_eq_some_iff.mp hu
    rcases error_of_resolve hr with ⟨-, rfl⟩ | ⟨u, -, -, rfl⟩
    · exact Or.inl ⟨Or.inl ⟨_, rfl⟩, hm⟩
    · exact Or.inl ⟨Or.inr ⟨_, _, rfl⟩, hm⟩
  · obtain ⟨d, p, d', p', rfl, hm, hp⟩ := Boundaries.earliest_error_of_le hnm billed_pairwise hn
    exact Or.inr ⟨d, p, d', p', rfl, start_eq_error_iff.mpr ⟨hi, ht, Or.inr ⟨hu, hm⟩⟩, hp⟩

/-- More slack keeps every failure: an item that does not resolve fails alike, a date out of range
fails in the same or an earlier period. Where it succeeds, less slack succeeds and starts no
earlier, so the window read with less slack is a part of the one read with more. -/
theorem start_antitone_in_bound (r : Request) (hnm : n ≤ m) :
    (∀ a, (start r.first r.target r.items r.catalog m).result = .ok a →
      ∃ b, (start r.first r.target r.items r.catalog n).result = .ok b ∧ a ≤ b) ∧
    (∀ e, (start r.first r.target r.items r.catalog n).result = .error e →
      (((∃ i, e = .missingName i) ∨ ∃ u i, e = .missingDefinition u i) ∧
          (start r.first r.target r.items r.catalog m).result = .error e) ∨
        ∃ d p d' p', e = .dateOutOfRange d p n ∧
          (start r.first r.target r.items r.catalog m).result = .error (.dateOutOfRange d' p' m) ∧
          Period.all.idxOf p' ≤ Period.all.idxOf p) ∧
    ∀ (s : Session) (less more : Settings) (w : UsageWindow),
      less.bound r.caller.tenant = n → more.bound r.caller.tenant = m →
      (read more s.sources r).result = .ok w →
      ∃ v, (read less s.sources r).result = .ok v ∧ v.usage.Sublist w.usage ∧
        ∀ t ∈ v.tracked, t ∈ w.tracked := by
  refine ⟨fun a => start_of_le hnm, fun e => start_error_of_le hnm, ?_⟩
  intro s less more w hless hmore h
  obtain ⟨hu, ht, hs, hw⟩ := read_eq_ok_iff.mp h
  rw [hmore, startUnder_of_nonneg (Int.natCast_nonneg m), Int.toNat_natCast] at hs
  obtain ⟨b, hb, hle⟩ := start_of_le hnm hs
  refine ⟨s.windowFrom r b, read_eq_ok_iff.mpr ⟨hu, ht, ?_, rfl⟩, ?_, ?_⟩
  · rw [hless, startUnder_of_nonneg (Int.natCast_nonneg n), Int.toNat_natCast]
    exact hb
  · rw [usage_windowFrom_of_le hle, hw]
    exact List.filter_sublist
  · intro t hm
    rw [← hw]
    exact ((mem_tracked_windowFrom_of_le hle).mp hm).1

namespace Sample

/-- 2019-09-01. -/
def september : Date := ⟨737668, by decide, by decide⟩

/-- A day of the second month of the calendar. -/
def early : Date := ⟨Calendar.monthStart (12 * -262143) + 45, by decide, by decide⟩

/-- A month before `early` is in the calendar, a quarter and two months are not. -/
def earlyRequest : Request := ⟨early, june, [item "storage" early, item "calls" early], catalog, ⟨8, 1⟩⟩

end Sample

/-- One period of slack against two, on a history that succeeds with both and on one that fails
with both, and against none on a read. -/
theorem start_antitone_in_bound_sample :
    (∃ b, (start Sample.january Sample.june Sample.items Sample.catalog 1).result = .ok b ∧
      Sample.september ≤ b) ∧
    (∃ d p, (start Sample.early Sample.june Sample.earlyRequest.items Sample.catalog 2).result =
      .error (.dateOutOfRange d p 2) ∧ Period.all.idxOf p ≤ Period.all.idxOf .quarterly) ∧
    ∃ v, (read (.ofBase 0) ((Session.new (.ofBase 1)).after Sample.operations).sources
        Sample.request).result = .ok v ∧ v.usage.Sublist Sample.window.usage := by
  have hok : (start Sample.january Sample.june Sample.items Sample.catalog 2).result =
      .ok Sample.september := by decide +kernel
  have herr : (start Sample.early Sample.june Sample.earlyRequest.items Sample.catalog 1).result =
      .error (.dateOutOfRange Sample.early .quarterly 1) := by decide +kernel
  have h12 : 1 ≤ 2 := by decide
  refine ⟨(start_antitone_in_bound Sample.request h12).1 _ hok, ?_, ?_⟩
  · rcases (start_antitone_in_bound Sample.earlyRequest h12).2.1 _ herr with
      ⟨⟨i, hi⟩ | ⟨u, i, hi⟩, -⟩ | ⟨d, p, d', p', he, hm, hp⟩
    · cases hi
    · cases hi
    · cases he
      exact ⟨d', p', hm, hp⟩
  · obtain ⟨v, hv, hsub, -⟩ := (start_antitone_in_bound Sample.request (Nat.zero_le 1)).2.2
      _ (.ofBase 0) (.ofBase 1) _ rfl rfl Sample.read_december
    exact ⟨v, hv, hsub⟩

end Lookback.Window
