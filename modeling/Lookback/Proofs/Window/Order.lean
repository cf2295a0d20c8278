import Lookback.Proofs.Window.Anomalies

/-! The order of items and of definitions decides neither the start nor a date out of range, nor
which items are reported. It only decides which of several items that do not resolve is named. -/
namespace Lookback.Window

variable {ds ds' : List UsageDefinition} {c c' : Catalog} {is is' : List InvoiceItem}
  {i : InvoiceItem} {p : Period} {first target : Date} {n : Nat}

/-- An error that names an item. -/
def Error.NamesItem : Error → Prop
  | .missingName _ | .missingDefinition _ _ => True
  | _ => False

theorem namesItem_of_resolve {e : Error} (h : resolve c i = .error e) : e.NamesItem := by
  rcases error_of_resolve h with ⟨-, rfl⟩ | ⟨u, -, -, rfl⟩ <;> trivial

section Permuted

variable (hc : c.definitions.Perm c'.definitions) (hi : is.Perm is')
include hc

theorem bills_of_perm : Bills c p i ↔ Bills c' p i := by
  simp only [Bills, hc.mem_iff]

theorem unresolved_of_perm : Unresolved c i ↔ Unresolved c' i := by
  simp only [Unresolved, hc.mem_iff]

include hi

theorem ends_of_perm : ends c is p = ends c' is' p := by
  simp only [ends, bills_of_perm hc, hi.mem_iff]

theorem latest?_of_perm : latest? c is p = latest? c' is' p := by
  refine Option.ext fun d => ?_
  rw [latest?_eq_some_iff, latest?_eq_some_iff, ends_of_perm hc hi]

theorem all_resolved_of_perm : (∀ i ∈ is, ¬ Unresolved c i) ↔ ∀ i ∈ is', ¬ Unresolved c' i := by
  simp only [unresolved_of_perm hc, hi.mem_iff]

theorem start_result_of_perm (h : first ≤ target → ∀ i ∈ is, ¬ Unresolved c i) :
    (start first target is c n).result = (start first target is' c' n).result := by
  rcases lt_or_ge target first with ht | ht
  · rw [start_of_unscanned (Or.inr ht), start_of_unscanned (Or.inr ht)]
  · have hu : unresolved? c is = none := unresolved?_eq_none_iff.mpr (h ht)
    have hu' : unresolved? c' is' = none :=
      unresolved?_eq_none_iff.mpr ((all_resolved_of_perm hc hi).mp (h ht))
    exact start_result_congr (hu.trans hu'.symm) fun p _ => latest?_of_perm hc hi

theorem start_anomalies_of_perm (h : first ≤ target → ∀ i ∈ is, ¬ Unresolved c i) :
    (start first target is c n).anomalies.Perm (start first target is' c' n).anomalies := by
  rcases lt_or_ge target first with ht | ht
  · rw [start_anomalies, start_anomalies, if_pos ht, if_pos ht]
  · have hr' := (all_resolved_of_perm hc hi).mp (h ht)
    rw [start_anomalies_of_le ht, start_anomalies_of_le ht, unexpected_of_resolved (h ht),
      unexpected_of_resolved hr']
    exact hi.filter _

end Permuted

theorem start_namesItem_iff : (∃ e, (start first target is c n).result = .error e ∧ e.NamesItem) ↔
    first ≤ target ∧ ∃ i ∈ is, Unresolved c i := by
  constructor
  · rintro ⟨e, he, hm⟩
    obtain ⟨-, ht, hu | ⟨-, ho⟩⟩ := start_eq_error_iff.mp he
    · refine ⟨ht, ?_⟩
      by_contra hn
      cases hu.symm.trans (unresolved?_eq_none_iff.mpr (by simpa using hn))
    · obtain ⟨p, b, -, -, rfl⟩ := earliest_billed_eq_error_iff.mp ho
      exact hm.elim
  · rintro ⟨ht, i, hi, hu⟩
    cases ho : unresolved? c is with
    | none => exact absurd hu (unresolved?_eq_none_iff.mp ho i hi)
    | some e =>
      obtain ⟨_, _, _, -, -, -, hr⟩ := unresolved?_eq_some_iff.mp ho
      have hne : is ≠ [] := List.ne_nil_of_mem hi
      exact ⟨e, start_eq_error_iff.mpr ⟨hne, ht, Or.inl ho⟩, namesItem_of_resolve hr⟩

/-- Two lists of the same items and two of the same definitions, in any orders, give the same start
or the same date out of range. If an item is named on one side, then one is on the other, and if
none is, the same items are reported as often. -/
theorem start_of_perm (hd : ds.Perm ds') (hn : (ds.map UsageDefinition.name).Nodup)
    (hi : is.Perm is') (first target : Date) (n : Nat) :
    ∃ c c', Catalog.ofDefinitions ds = .ok c ∧ Catalog.ofDefinitions ds' = .ok c' ∧
      let a := start first target is c n
      let a' := start first target is' c' n
      (∀ s, a.result = .ok s ↔ a'.result = .ok s) ∧
      (∀ d p k, a.result = .error (.dateOutOfRange d p k) ↔
        a'.result = .error (.dateOutOfRange d p k)) ∧
      ((∃ e, a.result = .error e ∧ e.NamesItem) ↔ ∃ e, a'.result = .error e ∧ e.NamesItem) ∧
      ((¬ ∃ e, a.result = .error e ∧ e.NamesItem) → a.anomalies.Perm a'.anomalies) := by
  have hn' : (ds'.map UsageDefinition.name).Nodup := (hd.map _).nodup_iff.mp hn
  refine ⟨⟨ds, hn⟩, ⟨ds', hn'⟩, Catalog.ofDefinitions_eq_ok hn, Catalog.ofDefinitions_eq_ok hn', ?_⟩
  intro a a'
  have hc : (Catalog.mk ds hn).definitions.Perm (Catalog.mk ds' hn').definitions := hd
  have hm : (∃ e, a.result = .error e ∧ e.NamesItem) ↔ ∃ e, a'.result = .error e ∧ e.NamesItem := by
    rw [start_namesItem_iff, start_namesItem_iff]
    simp only [unresolved_of_perm hc, hi.mem_iff]
  by_cases h : ∃ e, a.result = .error e ∧ e.NamesItem
  · obtain ⟨e, he, hne⟩ := h
    obtain ⟨e', he', hne'⟩ := hm.mp ⟨e, he, hne⟩
    refine ⟨fun s => by rw [he, he']; simp, fun d p k => ?_, hm, fun hno => absurd ⟨e, he, hne⟩ hno⟩
    rw [he, he']
    constructor
    · rintro ⟨⟩
      exact hne.elim
    · rintro ⟨⟩
      exact hne'.elim
  · have hr : first ≤ target → ∀ i ∈ is, ¬ Unresolved ⟨ds, hn⟩ i :=
      fun ht i him hu => h (start_namesItem_iff.mpr ⟨ht, i, him, hu⟩)
    have he : a.result = a'.result := start_result_of_perm hc hi hr
    exact ⟨fun s => by rw [he], fun d p k => by rw [he], hm,
      fun _ => start_anomalies_of_perm hc hi hr⟩

/-- The items of the sample and its definitions from the last to the first. -/
theorem start_of_perm_reversed :
    ∃ c, Catalog.ofDefinitions Sample.catalog.definitions.reverse = .ok c ∧
      (start Sample.january Sample.june Sample.items.reverse c 1).result = .ok Sample.december := by
  have h : (start Sample.january Sample.june Sample.items Sample.catalog 1).result =
      .ok Sample.december := by decide +kernel
  obtain ⟨c, c', hc, hc', hok, -⟩ := start_of_perm (List.reverse_perm _).symm Sample.catalog.nodup
    (List.reverse_perm Sample.items).symm Sample.january Sample.june 1
  cases (Catalog.ofDefinitions_eq_ok Sample.catalog.nodup).symm.trans hc
  exact ⟨c', hc', (hok _).mp h⟩

end Lookback.Window
