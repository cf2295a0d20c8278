import Lookback.Proofs.Window.Failure

/-! What a scan holds after each prefix of the items that it gets through: one slot for each
recurring period of the catalog, with the latest end date that the prefix bills in it. -/
namespace Lookback.Window

variable {c : Catalog} {is pre : List InvoiceItem} {bs bs' : Boundaries}

/-- The slots are those of the recurring periods of the catalog, each once and in order, and they
hold the latest end dates of the items. -/
structure HoldsLatest (c : Catalog) (is : List InvoiceItem) (bs : Boundaries) : Prop where
  /-- No slot is added or removed. -/
  unchanged : bs.map Prod.fst = (Boundaries.ofCatalog c).map Prod.fst
  inOrder : bs.Pairwise fun x y => Period.all.idxOf x.1 < Period.all.idxOf y.1
  mem_iff : ∀ p, p ∈ bs.map Prod.fst ↔ p.isRecurring ∧ ∃ d ∈ c.definitions, d.period = p
  eq_none_iff : ∀ p o, (p, o) ∈ bs → (o = none ↔ ∀ i ∈ is, ¬ Bills c p i)
  eq_some_iff : ∀ p o d, (p, o) ∈ bs → (o = some d ↔ IsGreatest (ends c is p) d)

theorem billed_nil : billed c [] = .ofCatalog c := rfl

theorem map_fst_billed : (billed c is).map Prod.fst = c.periods.filter Period.isRecurring := by
  rw [billed, List.map_map]
  exact List.map_id _

theorem holdsLatest_billed : HoldsLatest c is (billed c is) where
  unchanged := by rw [← billed_nil, map_fst_billed, map_fst_billed]
  inOrder := billed_pairwise
  mem_iff p := by rw [map_fst_billed, List.mem_filter, Catalog.mem_periods, and_comm]
  eq_none_iff p o hm := by
    obtain ⟨-, -, rfl⟩ := mem_billed.mp hm
    exact latest?_eq_none_iff
  eq_some_iff p o d hm := by
    obtain ⟨-, -, rfl⟩ := mem_billed.mp hm
    exact latest?_eq_some_iff

theorem scan_ofCatalog_eq_ok_iff : (scan c (.ofCatalog c) is).result = .ok bs ↔
    (∀ i ∈ is, ¬ Unresolved c i) ∧ billed c is = bs := by
  rw [scan_ofCatalog, ← unresolved?_eq_none_iff]
  cases unresolved? c is <;> simp

/-- A scan that gets through a prefix goes on from the slots that it has there. -/
theorem scan_append (h : (scan c bs pre).result = .ok bs') :
    scan c bs (pre ++ is) =
      ⟨(scan c bs pre).anomalies ++ (scan c bs' is).anomalies, (scan c bs' is).result⟩ := by
  induction pre generalizing bs with
  | nil =>
    cases h
    rfl
  | cons i pre ih =>
    by_cases hu : i.isUsage
    · cases hr : resolve c i with
      | error e =>
        rw [scan_cons_of_error hu hr] at h
        cases h
      | ok p =>
        have hb : Bills c p i := bills_iff.mpr ⟨hu, hr⟩
        rw [scan_cons_of_bills hb] at h
        rw [List.cons_append, scan_cons_of_bills hb, scan_cons_of_bills hb, ih h]
    · rw [scan_cons_of_other hu] at h
      rw [List.cons_append, scan_cons_of_other hu, scan_cons_of_other hu, ih h, List.cons_append]

/-- A scan gets through a prefix exactly if each of its usage items resolves. It then has the slots
of the recurring periods of the catalog, still empty where nothing of the prefix bills the period
and otherwise with the latest end date billed through any name, and goes on from them. -/
theorem slots_hold_latest (c : Catalog) (pre : List InvoiceItem) :
    ((∃ bs, (scan c (.ofCatalog c) pre).result = .ok bs) ↔ ∀ i ∈ pre, ¬ Unresolved c i) ∧
    ∀ bs, (scan c (.ofCatalog c) pre).result = .ok bs →
      HoldsLatest c pre bs ∧
      ∀ post, scan c (.ofCatalog c) (pre ++ post) =
        ⟨(scan c (.ofCatalog c) pre).anomalies ++ (scan c bs post).anomalies,
          (scan c bs post).result⟩ := by
  constructor
  · simp only [scan_ofCatalog_eq_ok_iff, exists_and_left, exists_eq', and_true]
  · intro bs h
    refine ⟨?_, fun post => scan_append h⟩
    obtain ⟨-, rfl⟩ := scan_ofCatalog_eq_ok_iff.mp h
    exact holdsLatest_billed

namespace Sample

/-- Calls and texts share a period, and a setup has none. -/
def tariff : Catalog :=
  ⟨[⟨"calls", .monthly⟩, ⟨"setup", .noBillingPeriod⟩, ⟨"texts", .monthly⟩, ⟨"storage", .quarterly⟩],
    by decide⟩

/-- The texts end last, and the storage is not usage. -/
def passed : List InvoiceItem :=
  [item "texts" december, item "setup" june, { item "storage" june with kind := .tax },
    item "calls" january]

end Sample

theorem slots_hold_latest_shared :
    (scan Sample.tariff (.ofCatalog Sample.tariff) Sample.passed).result =
      .ok [(.monthly, some Sample.december), (.quarterly, none)] ∧
    HoldsLatest Sample.tariff Sample.passed
      [(.monthly, some Sample.december), (.quarterly, none)] := by
  have h : (scan Sample.tariff (.ofCatalog Sample.tariff) Sample.passed).result =
      .ok [(.monthly, some Sample.december), (.quarterly, none)] := by decide +kernel
  exact ⟨h, ((slots_hold_latest Sample.tariff Sample.passed).2 _ h).1⟩

end Lookback.Window
