import Lookback.Proofs.Window.Anomalies

/-! What a start does not depend on: items that other items make superfluous, and definitions that
no usage item names. -/
namespace Lookback.Window

variable {c c' : Catalog} {is is' stay : List InvoiceItem} {i : InvoiceItem} {p : Period}
  {marks : List (InvoiceItem × Bool)}

/-- An item that is no usage or has no billing period, or that ends no later than a kept item of its
period. -/
def Superfluous (c : Catalog) (stay : List InvoiceItem) (i : InvoiceItem) : Prop :=
  ¬ i.isUsage ∨ Bills c .noBillingPeriod i ∨
    ∃ p, p.isRecurring ∧ Bills c p i ∧ ∃ j ∈ stay, Bills c p j ∧ i.endDate ≤ j.endDate

theorem not_unresolved_of_superfluous (h : Superfluous c stay i) : ¬ Unresolved c i := by
  rcases h with hu | hb | ⟨p, -, hb, -⟩
  · intro hi
    exact hu hi.1
  · exact not_unresolved_of_bills hb
  · exact not_unresolved_of_bills hb

/-- A superfluous item of a recurring period is one that a kept item of the period outlasts. -/
theorem outlasted_of_superfluous (h : Superfluous c stay i) (hr : p.isRecurring)
    (hb : Bills c p i) : ∃ j ∈ stay, Bills c p j ∧ i.endDate ≤ j.endDate := by
  rcases h with hu | hn | ⟨q, -, hq, hj⟩
  · exact absurd hb.1 hu
  · rw [bills_unique hb hn] at hr
    cases hr
  · rw [bills_unique hb hq]
    exact hj

/-- The items that are marked to be kept. -/
def kept (marks : List (InvoiceItem × Bool)) : List InvoiceItem :=
  (marks.filter Prod.snd).map Prod.fst

theorem mem_kept : i ∈ kept marks ↔ (i, true) ∈ marks := by
  simp [kept]

theorem unresolved?_cons : unresolved? c (i :: is) = (unresolved? c [i]).or (unresolved? c is) := by
  rw [unresolved?, ← List.singleton_append, List.findSome?_append]
  rfl

theorem unresolved?_kept (h : ∀ m ∈ marks, m.2 = false → ¬ Unresolved c m.1) :
    unresolved? c (kept marks) = unresolved? c (marks.map Prod.fst) := by
  induction marks with
  | nil => rfl
  | cons m marks ih =>
    have htail := ih fun m hm => h m (List.mem_cons_of_mem _ hm)
    obtain ⟨i, stays⟩ := m
    rw [List.map_cons, unresolved?_cons, ← htail]
    cases stays with
    | true => exact unresolved?_cons
    | false =>
      have hi : ¬ Unresolved c i := h (i, false) List.mem_cons_self rfl
      have hnone : unresolved? c [i] = none := unresolved?_eq_none_iff.mpr (by simpa using hi)
      rw [hnone]
      rfl

/-- The latest end date of a period stays if every item of the period is outlasted by one that
stays. -/
theorem latest?_of_outlasted (hsub : ∀ j ∈ is', j ∈ is)
    (h : ∀ i ∈ is, Bills c p i → ∃ j ∈ is', Bills c p j ∧ i.endDate ≤ j.endDate) :
    latest? c is' p = latest? c is p := by
  refine Option.ext fun d => ?_
  rw [latest?_eq_some_iff, latest?_eq_some_iff]
  constructor
  · rintro ⟨⟨j, hj, hb, rfl⟩, hle⟩
    refine ⟨⟨j, hsub j hj, hb, rfl⟩, ?_⟩
    rintro _ ⟨i, hi, hbi, rfl⟩
    obtain ⟨k, hk, hbk, hik⟩ := h i hi hbi
    exact hik.trans (hle ⟨k, hk, hbk, rfl⟩)
  · rintro ⟨⟨i, hi, hb, rfl⟩, hle⟩
    obtain ⟨j, hj, hbj, hij⟩ := h i hi hb
    have hji : j.endDate ≤ i.endDate := hle ⟨j, hsub j hj, hbj, rfl⟩
    refine ⟨⟨j, hj, hbj, hji.antisymm hij⟩, ?_⟩
    rintro _ ⟨k, hk, hbk, rfl⟩
    exact hle ⟨k, hsub k hk, hbk, rfl⟩

/-- Any marking of items may drop those that the kept ones make superfluous. The start or the error
is that of all items, and if nothing is kept, it is the first event's date. -/
theorem start_of_kept (h : ∀ m ∈ marks, m.2 = false → Superfluous c (kept marks) m.1)
    (first target : Date) (n : Nat) :
    (start first target (kept marks) c n).result =
        (start first target (marks.map Prod.fst) c n).result ∧
      (kept marks = [] → (start first target (marks.map Prod.fst) c n).result = .ok first) := by
  have hsub : ∀ j ∈ kept marks, j ∈ marks.map Prod.fst := by
    intro j hj
    exact List.mem_map_of_mem (mem_kept.mp hj)
  have hres : (start first target (kept marks) c n).result =
      (start first target (marks.map Prod.fst) c n).result := by
    refine start_result_congr (unresolved?_kept fun m hm hd => ?_) fun p hr => ?_
    · exact not_unresolved_of_superfluous (h m hm hd)
    · refine latest?_of_outlasted hsub fun i hi hb => ?_
      obtain ⟨⟨j, stays⟩, hm, rfl⟩ := List.mem_map.mp hi
      cases stays with
      | true => exact ⟨j, mem_kept.mpr hm, hb, le_rfl⟩
      | false => exact outlasted_of_superfluous (h (j, false) hm rfl) hr hb
  refine ⟨hres, fun hnil => ?_⟩
  rw [← hres, hnil]
  exact start_of_unscanned (Or.inl rfl)

namespace Sample

/-- Setup has no billing period. -/
def withSetup : Catalog :=
  ⟨[⟨"calls", .monthly⟩, ⟨"setup", .noBillingPeriod⟩, ⟨"storage", .quarterly⟩], by decide⟩

/-- A tax, a setup and the earlier calls are dropped. -/
def marked : List (InvoiceItem × Bool) :=
  [({ item "taxes" june with kind := .tax }, false), (item "calls" june, true),
    (item "setup" june, false), (item "calls" january, false), (item "storage" december, true)]

end Sample

theorem start_of_kept_sample :
    (∀ m ∈ Sample.marked, m.2 = false →
      Superfluous Sample.withSetup (kept Sample.marked) m.1) ∧
    (start Sample.january Sample.june (Sample.marked.map Prod.fst) Sample.withSetup 0).result =
      .ok Sample.december := by
  have hs : ∀ m ∈ Sample.marked, m.2 = false →
      Superfluous Sample.withSetup (kept Sample.marked) m.1 := by
    simp only [Sample.marked, List.forall_mem_cons]
    refine ⟨fun _ => ?_, Bool.noConfusion, fun _ => ?_, fun _ => ?_, Bool.noConfusion,
      List.forall_mem_nil _⟩
    · exact Or.inl (by decide)
    · exact Or.inr (Or.inl (by decide))
    · have hkept : Sample.item "calls" Sample.june ∈ kept Sample.marked :=
        mem_kept.mpr (List.mem_cons_of_mem _ List.mem_cons_self)
      exact Or.inr (Or.inr ⟨.monthly, rfl, by decide, _, hkept, by decide, by decide⟩)
  have hk : (start Sample.january Sample.june (kept Sample.marked) Sample.withSetup 0).result =
      .ok Sample.december := by decide +kernel
  exact ⟨hs, (start_of_kept hs _ _ _).1.symm.trans hk⟩

/-! Catalogs that agree on the names in use. -/

theorem resolve_congr (h : ∀ u, i.usageName = some u →
    (c.get? u).map UsageDefinition.period = (c'.get? u).map UsageDefinition.period) :
    resolve c i = resolve c' i := by
  unfold resolve
  cases hn : i.usageName with
  | none => rfl
  | some u =>
    have hu := h u hn
    cases hc : c.get? u <;> cases hc' : c'.get? u <;> simp_all

section Agreeing

variable (h : ∀ i ∈ is, i.isUsage → resolve c i = resolve c' i)
include h

/-- A scan looks at the catalog only to resolve usage items. -/
theorem scan_congr (bs : Boundaries) : scan c bs is = scan c' bs is := by
  induction is generalizing bs with
  | nil => rfl
  | cons i is ih =>
    have htail : ∀ bs, scan c bs is = scan c' bs is :=
      ih fun j hj => h j (List.mem_cons_of_mem _ hj)
    by_cases hu : i.isUsage
    · simp only [scan, hu, h i List.mem_cons_self hu, htail]
    · simp [scan, hu, htail]

theorem unexpected_congr : unexpected c is = unexpected c' is := by
  -- what is reported does not depend on the slots, so a scan from none shows it
  have hs := congrArg Reported.anomalies (scan_congr h [])
  rwa [scan_anomalies, scan_anomalies] at hs

theorem unresolved?_congr : unresolved? c is = unresolved? c' is := by
  have hs := congrArg Reported.result (scan_congr h [])
  rw [scan_result, scan_result] at hs
  cases hc : unresolved? c is <;> cases hc' : unresolved? c' is <;> simp_all

theorem latest?_congr : latest? c is p = latest? c' is p := by
  have hb : ∀ i ∈ is, Bills c p i ↔ Bills c' p i := by
    intro i hi
    rw [bills_iff, bills_iff]
    exact and_congr_right fun hu => by rw [h i hi hu]
  unfold latest?
  rw [List.filter_congr fun i hi => decide_eq_decide.mpr (hb i hi)]

end Agreeing

/-- Two catalogs that give each name in use the same period, or both none, give the same start or
error and the same anomalies in the same order, whatever else they define. -/
theorem start_of_agreeing_catalogs (h : ∀ i ∈ is, i.isUsage → ∀ u, i.usageName = some u →
      (c.get? u).map UsageDefinition.period = (c'.get? u).map UsageDefinition.period)
    (first target : Date) (n : Nat) :
    start first target is c n = start first target is c' n := by
  have hr : ∀ i ∈ is, i.isUsage → resolve c i = resolve c' i := by
    intro i hi hu
    exact resolve_congr (h i hi hu)
  have hanomalies :
      (start first target is c n).anomalies = (start first target is c' n).anomalies := by
    rw [start_anomalies, start_anomalies, unexpected_congr hr]
  have hresult : (start first target is c n).result = (start first target is c' n).result :=
    start_result_congr (unresolved?_congr hr) fun p _ => latest?_congr hr
  exact Reported.ext hanomalies hresult

namespace Sample

/-- The sample's catalog in another order and with a period of three years that nothing bills. -/
def withFaxes : Catalog :=
  ⟨[⟨"storage", .quarterly⟩, ⟨"faxes", .triennial⟩, ⟨"calls", .monthly⟩], by decide⟩

end Sample

theorem start_of_agreeing_catalogs_faxes :
    (∀ i ∈ Sample.items, i.isUsage → ∀ u, i.usageName = some u →
      (Sample.catalog.get? u).map UsageDefinition.period =
        (Sample.withFaxes.get? u).map UsageDefinition.period) ∧
    (start Sample.january Sample.june Sample.items Sample.withFaxes 1).result =
      .ok Sample.december := by
  have hs : ∀ i ∈ Sample.items, i.isUsage → ∀ u, i.usageName = some u →
      (Sample.catalog.get? u).map UsageDefinition.period =
        (Sample.withFaxes.get? u).map UsageDefinition.period := by
    simp only [Sample.items, List.forall_mem_cons]
    refine ⟨?_, ?_, ?_, List.forall_mem_nil _⟩ <;> rintro - u ⟨⟩ <;> decide
  have hk : (start Sample.january Sample.june Sample.items Sample.catalog 1).result =
      .ok Sample.december := by decide +kernel
  rw [start_of_agreeing_catalogs hs] at hk
  exact ⟨hs, hk⟩

end Lookback.Window
