import Lookback.Billing.Catalog
import Mathlib.Data.List.Nodup

/-! A catalog as a map from names to definitions. -/
namespace Lookback.Catalog

variable {c : Catalog} {d : UsageDefinition} {ds : List UsageDefinition} {n : String} {p : Period}

theorem ofDefinitions_eq_ok (h : (ds.map UsageDefinition.name).Nodup) :
    ofDefinitions ds = .ok ⟨ds, h⟩ := by
  unfold ofDefinitions
  split
  · rename_i n hn
    cases hn.symm.trans (repeated?_eq_none_iff.mpr ⟨h, by simp⟩)
  · rfl

theorem get?_eq_some_iff : c.get? n = some d ↔ d ∈ c.definitions ∧ d.name = n := by
  refine ⟨fun h => ⟨List.mem_of_find?_eq_some h, by simpa using List.find?_some h⟩, ?_⟩
  rintro ⟨hd, rfl⟩
  cases h : c.get? d.name with
  | none =>
    have hn := List.find?_eq_none.mp h d hd
    simp at hn
  | some e =>
    have he : e.name = d.name := by simpa using List.find?_some h
    exact congrArg some (List.inj_on_of_nodup_map c.nodup (List.mem_of_find?_eq_some h) hd he)

theorem mem_periods : p ∈ c.periods ↔ ∃ d ∈ c.definitions, d.period = p := by
  rw [periods, Period.mem_distinct, List.mem_map]

end Lookback.Catalog
