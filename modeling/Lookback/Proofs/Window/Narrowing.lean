import Lookback.Proofs.Window.History

/-! A later start leaves out what is dated before it and nothing else, so a look-back only narrows
the full read. -/
namespace Lookback.Window

variable {s : Session} {r : Request} {w : UsageWindow} {a b : Date} {t : TrackingId}

theorem usage_windowFrom_of_le (h : a ≤ b) :
    (s.windowFrom r b).usage = (s.windowFrom r a).usage.filter fun u => b ≤ u.recordDate.date := by
  rw [usage_windowFrom, usage_windowFrom, List.filter_filter]
  refine List.filter_congr fun u _ => ?_
  rw [← Bool.decide_and, decide_eq_decide]
  constructor
  · rintro ⟨hb, ht⟩
    exact ⟨hb, h.trans hb, ht⟩
  · rintro ⟨hb, -, ht⟩
    exact ⟨hb, ht⟩

theorem mem_tracked_windowFrom_of_le (h : a ≤ b) : t ∈ (s.windowFrom r b).tracked ↔
    t ∈ (s.windowFrom r a).tracked ∧ b ≤ t.recordDate := by
  rw [mem_tracked_windowFrom, mem_tracked_windowFrom]
  constructor
  · rintro ⟨row, hrow, ⟨hb, ht⟩, rfl⟩
    exact ⟨⟨row, hrow, ⟨h.trans hb, ht⟩, rfl⟩, hb⟩
  · rintro ⟨⟨row, hrow, ⟨-, ht⟩, rfl⟩, hb⟩
    exact ⟨row, hrow, ⟨hb, ht⟩, rfl⟩

/-- The days that a start leaves out of the window from the first event. -/
theorem leaves_out_iff {start d : Date}
    (h : (r.first ≤ start ∧ start ≤ r.target) ∨ (r.target < r.first ∧ start = r.first)) :
    (r.first ≤ d ∧ d ≤ r.target) ∧ d < start ↔ r.first ≤ d ∧ d < start := by
  refine ⟨fun hd => ⟨hd.1.1, hd.2⟩, fun hd => ⟨⟨hd.1, ?_⟩, hd.2⟩⟩
  rcases h with ⟨-, ht⟩ | ⟨-, rfl⟩
  · exact hd.2.le.trans ht
  · exact absurd hd.1 hd.2.not_ge

/-- Under a negative bound, whatever the items and the catalog, the same read has everything from
the first event on. A window read under another bound is the part of it from its start on, and
leaves out what is dated between the first event and that start. -/
theorem read_eq_part_of_full_read {settings full : Settings} (items : List InvoiceItem)
    (c : Catalog) (h : (read settings s.sources r).result = .ok w)
    (hneg : full.bound r.caller.tenant < 0) :
    ∃ f, (read full s.sources { r with items := items, catalog := c }).result = .ok f ∧
      f.start = r.first ∧
      w.usage = f.usage.filter (fun u => w.start ≤ u.recordDate.date) ∧
      (∀ t, t ∈ w.tracked ↔ t ∈ f.tracked ∧ w.start ≤ t.recordDate) ∧
      f.usage.filter (fun u => u.recordDate.date < w.start) =
        (s.usage.ofAccount r.caller.account).filter
          (fun u => r.first ≤ u.recordDate.date ∧ u.recordDate.date < w.start) ∧
      ∀ t, (t ∈ f.tracked ∧ t ∉ w.tracked) ↔
        ∃ row ∈ s.tracking.ofAccount r.caller.account,
          (r.first ≤ row.recordDate ∧ row.recordDate < w.start) ∧
            ⟨row.trackingId, row.invoiceId, row.subscriptionId, row.unitType, row.recordDate⟩ =
              t := by
  obtain ⟨hu, ht, hs, hw⟩ := read_eq_ok_iff.mp h
  have hb := startUnder_bounds hs
  have hle : r.first ≤ w.start := by
    rcases hb with ⟨hf, -⟩ | ⟨-, hf⟩
    · exact hf
    · exact hf.ge
  have hts : ∀ t, t ∈ w.tracked ↔ t ∈ (s.windowFrom r r.first).tracked ∧ w.start ≤ t.recordDate := by
    intro t
    rw [← mem_tracked_windowFrom_of_le hle, hw]
  refine ⟨s.windowFrom r r.first, read_eq_ok_iff.mpr ⟨hu, ht, ?_, rfl⟩, rfl, ?_, hts, ?_, ?_⟩
  · rw [startUnder_of_neg hneg]
    rfl
  · rw [← usage_windowFrom_of_le hle, hw]
  · rw [usage_windowFrom, List.filter_filter]
    refine List.filter_congr fun u _ => ?_
    rw [← Bool.decide_and, decide_eq_decide, and_comm]
    exact leaves_out_iff hb
  · intro t
    rw [hts, not_and, not_le]
    constructor
    · rintro ⟨hf, hlt⟩
      obtain ⟨row, hrow, hd, rfl⟩ := mem_tracked_windowFrom.mp hf
      exact ⟨row, hrow, (leaves_out_iff hb).mp ⟨hd, hlt hf⟩, rfl⟩
    · rintro ⟨row, hrow, hd, rfl⟩
      obtain ⟨hin, hlt⟩ := (leaves_out_iff hb).mpr hd
      exact ⟨mem_tracked_windowFrom.mpr ⟨row, hrow, hin, rfl⟩, fun _ => hlt⟩

/-- The full read of the sample is read without items and from no catalog. -/
theorem read_eq_part_of_full_read_december :
    ∃ f, (read (.ofBase (-1)) ((Session.new (.ofBase 1)).after Sample.operations).sources
        { Sample.request with items := [], catalog := .empty }).result = .ok f ∧
      f.start = Sample.january ∧
      Sample.window.usage = f.usage.filter (fun u => Sample.december ≤ u.recordDate.date) := by
  obtain ⟨f, hf, hs, hu, -⟩ := read_eq_part_of_full_read [] .empty
    Sample.read_december (show (Settings.ofBase (-1)).bound 1 < 0 by decide)
  exact ⟨f, hf, hs, hu⟩

end Lookback.Window
