import Lookback.Proofs.Billing.Catalog
import Lookback.Proofs.Billing.Moves
import Lookback.Window.Start
import Mathlib.Order.Bounds.Basic

/-! The scan leaves with each recurring period of the catalog the latest end date of its usage
items, wherever they stand and through whatever names they resolve. -/
namespace Lookback.Window

variable {c : Catalog} {i : InvoiceItem} {is : List InvoiceItem} {p q : Period} {bs : Boundaries}
  {d f : Date} {e : Error} {o : Option Date} {n : Nat}

/-- A usage item that the catalog places in a period. -/
def Bills (c : Catalog) (p : Period) (i : InvoiceItem) : Prop :=
  i.isUsage ∧ ∃ d ∈ c.definitions, i.usageName = some d.name ∧ d.period = p

instance : Decidable (Bills c p i) := inferInstanceAs (Decidable (_ ∧ _))

theorem resolve_eq_ok_iff :
    resolve c i = .ok p ↔ ∃ d ∈ c.definitions, i.usageName = some d.name ∧ d.period = p := by
  constructor
  · intro h
    unfold resolve at h
    split at h
    · cases h
    · rename_i n hn
      split at h
      · cases h
      · rename_i d hd
        obtain ⟨hm, rfl⟩ := Catalog.get?_eq_some_iff.mp hd
        exact ⟨d, hm, hn, Except.ok.inj h⟩
  · rintro ⟨d, hd, hn, rfl⟩
    simp only [resolve, hn, Catalog.get?_eq_some_iff.mpr ⟨hd, rfl⟩]

theorem error_of_resolve (h : resolve c i = .error e) :
    (i.usageName = none ∧ e = .missingName i.id) ∨
      ∃ n, i.usageName = some n ∧ c.get? n = none ∧ e = .missingDefinition n i.id := by
  unfold resolve at h
  split at h
  · rename_i hn
    exact Or.inl ⟨hn, (Except.error.inj h).symm⟩
  · rename_i n hn
    split at h
    · rename_i hd
      exact Or.inr ⟨n, hn, hd, (Except.error.inj h).symm⟩
    · cases h

theorem bills_iff : Bills c p i ↔ i.isUsage ∧ resolve c i = .ok p :=
  and_congr_right fun _ => resolve_eq_ok_iff.symm

theorem bills_unique (hp : Bills c p i) (hq : Bills c q i) : p = q :=
  Except.ok.inj ((bills_iff.mp hp).2.symm.trans (bills_iff.mp hq).2)

theorem mem_periods_of_bills (h : Bills c p i) : p ∈ c.periods := by
  obtain ⟨_, d, hd, _, hp⟩ := h
  exact Catalog.mem_periods.mpr ⟨d, hd, hp⟩

/-- The end dates of the usage items of a period. -/
def ends (c : Catalog) (is : List InvoiceItem) (p : Period) : Set Date :=
  { d | ∃ i ∈ is, Bills c p i ∧ i.endDate = d }

def latest? (c : Catalog) (is : List InvoiceItem) (p : Period) : Option Date :=
  ((is.filter fun i => Bills c p i).map InvoiceItem.endDate).max?

theorem latest?_cons_of_bills (h : Bills c p i) :
    latest? c (i :: is) p = some ((latest? c is p).elim i.endDate (max i.endDate)) := by
  simp [latest?, h]

theorem latest?_cons_of_not_bills (h : ¬ Bills c p i) :
    latest? c (i :: is) p = latest? c is p := by
  simp [latest?, h]

theorem latest?_eq_some_iff : latest? c is p = some d ↔ IsGreatest (ends c is p) d := by
  rw [latest?, List.max?_eq_some_iff]
  simp only [List.mem_map, List.mem_filter, decide_eq_true_eq, IsGreatest, upperBounds, ends,
    Set.mem_ofPred_eq, and_assoc]

theorem latest?_eq_none_iff : latest? c is p = none ↔ ∀ i ∈ is, ¬ Bills c p i := by
  simp [latest?]

/-- What the items bill in the recurring periods of the catalog. -/
def billed (c : Catalog) (is : List InvoiceItem) : Boundaries :=
  (c.periods.filter Period.isRecurring).map fun p => (p, latest? c is p)

theorem mem_billed : (p, o) ∈ billed c is ↔ p ∈ c.periods ∧ p.isRecurring ∧ latest? c is p = o := by
  simp only [billed, List.mem_map, List.mem_filter, Prod.mk.injEq]
  constructor
  · rintro ⟨q, ⟨hq, hr⟩, rfl, ho⟩
    exact ⟨hq, hr, ho⟩
  · rintro ⟨hp, hr, ho⟩
    exact ⟨p, ⟨hp, hr⟩, rfl, ho⟩

theorem mem_billed_some : (p, some d) ∈ billed c is ↔ p.isRecurring ∧ IsGreatest (ends c is p) d := by
  rw [mem_billed, latest?_eq_some_iff]
  constructor
  · rintro ⟨-, hr, hd⟩
    exact ⟨hr, hd⟩
  · rintro ⟨hr, hd⟩
    obtain ⟨i, -, hi, -⟩ := hd.1
    exact ⟨mem_periods_of_bills hi, hr, hd⟩

/-- The slots that hold a date do not depend on what else is in the catalog. -/
theorem billed_filter_isSome : (billed c is).filter (fun b => b.2.isSome) =
    Period.recurring.filterMap fun p => (latest? c is p).map fun d => (p, some d) := by
  rw [billed, Catalog.periods, Period.distinct, Period.recurring, List.filter_comm, List.filter_map,
    List.filter_filter, ← List.filterMap_eq_map, List.filterMap_filter]
  refine List.filterMap_congr fun p _ => ?_
  cases hl : latest? c is p with
  | none => simp [hl]
  | some d =>
    -- only a definition of the catalog can have placed an item in the period
    obtain ⟨i, -, hi, -⟩ := (latest?_eq_some_iff.mp hl).1
    have hp : (c.definitions.map UsageDefinition.period).contains p := by
      simpa using Catalog.mem_periods.mp (mem_periods_of_bills hi)
    simp only [Function.comp, hl, hp]
    rfl

theorem all_pairwise : Period.all.Pairwise fun p q => Period.all.idxOf p < Period.all.idxOf q := by
  decide

/-- The slots stand in the order in which periods are compared. -/
theorem billed_pairwise :
    (billed c is).Pairwise fun x y => Period.all.idxOf x.1 < Period.all.idxOf y.1 := by
  rw [billed, List.pairwise_map]
  exact (all_pairwise.filter _).filter _

/-- The error of the first usage item in order that does not resolve. -/
def unresolved? (c : Catalog) (is : List InvoiceItem) : Option Error :=
  is.findSome? fun i => if i.isUsage then
    match resolve c i with
    | .error e => some e
    | .ok _ => none
  else none

theorem bill_join (h : Bills c p i) :
    ((bs.bill p i.endDate).map fun (q, held) => (q, held.merge max (latest? c is q))) =
      bs.map fun (q, held) => (q, held.merge max (latest? c (i :: is) q)) := by
  rw [Boundaries.bill, List.map_map]
  refine List.map_congr_left fun (q, held) _ => ?_
  dsimp only [Function.comp]
  by_cases hq : q = p
  · subst hq
    rw [if_pos rfl, latest?_cons_of_bills h]
    cases held <;> cases latest? c is q <;> simp [Boundaries.later, max_assoc]
  · have hn : ¬ Bills c q i := fun hb => hq (bills_unique hb h)
    rw [if_neg hq, latest?_cons_of_not_bills hn]

theorem scan_cons_of_other (hu : ¬ i.isUsage) : scan c bs (i :: is) =
    ⟨i :: (scan c bs is).anomalies, (scan c bs is).result⟩ := by
  simp [scan, hu]

theorem scan_cons_of_error (hu : i.isUsage) (hr : resolve c i = .error e) :
    scan c bs (i :: is) = ⟨[], .error e⟩ := by
  simp only [scan, hu, hr, if_true]

theorem scan_cons_of_bills (h : Bills c p i) :
    scan c bs (i :: is) = scan c (bs.bill p i.endDate) is := by
  obtain ⟨hu, hr⟩ := bills_iff.mp h
  simp only [scan, hu, hr, if_true]

/-- A scan joins what a slot holds with what the items bill, and the first fault ends it. -/
theorem scan_result : (scan c bs is).result =
    match unresolved? c is with
    | some e => .error e
    | none => .ok (bs.map fun (p, held) => (p, held.merge max (latest? c is p))) := by
  induction is generalizing bs with
  | nil => simp [scan, unresolved?, latest?]
  | cons i is ih =>
    by_cases hu : i.isUsage
    · cases hr : resolve c i with
      | error e =>
        have hn : unresolved? c (i :: is) = some e := by simp [unresolved?, hu, hr]
        rw [scan_cons_of_error hu hr, hn]
      | ok p =>
        have hb : Bills c p i := bills_iff.mpr ⟨hu, hr⟩
        have hn : unresolved? c (i :: is) = unresolved? c is := by simp [unresolved?, hu, hr]
        rw [scan_cons_of_bills hb, ih, bill_join hb, hn]
    · have hb : ∀ q, ¬ Bills c q i := fun q hq => hu hq.1
      have hn : unresolved? c (i :: is) = unresolved? c is := by simp [unresolved?, hu]
      simp only [scan_cons_of_other hu, ih, latest?_cons_of_not_bills (hb _), hn]

theorem scan_ofCatalog : (scan c (.ofCatalog c) is).result =
    match unresolved? c is with
    | some e => .error e
    | none => .ok (billed c is) := by
  rw [scan_result, Boundaries.ofCatalog, List.map_map]
  simp [billed, Function.comp_def]

end Lookback.Window
