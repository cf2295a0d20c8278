import Lookback.Proofs.Window.Failure
import Lookback.Window.Read
import Mathlib.Data.List.TakeWhile

/-! The anomalies of a scan are the items of other kinds that it passes before it ends. -/
namespace Lookback.Window

variable {c : Catalog} {is : List InvoiceItem} {i : InvoiceItem} {bs : Boundaries}
  {first target : Date} {n : Nat} {bound : Int} {r : Request}

/-- The items of other kinds that stand before the first usage item that does not resolve. -/
def unexpected (c : Catalog) (is : List InvoiceItem) : List InvoiceItem :=
  (is.takeWhile fun i => ¬ Unresolved c i).filter fun i => ¬ i.isUsage

theorem unexpected_cons_of_unresolved (h : Unresolved c i) : unexpected c (i :: is) = [] := by
  simp [unexpected, h]

theorem unexpected_cons_of_resolved (hu : i.isUsage) (h : ¬ Unresolved c i) :
    unexpected c (i :: is) = unexpected c is := by
  simp [unexpected, hu, h]

theorem unexpected_cons_of_other (hu : ¬ i.isUsage) :
    unexpected c (i :: is) = i :: unexpected c is := by
  have h : ¬ Unresolved c i := fun h => hu h.1
  simp [unexpected, hu, h]

theorem unexpected_of_resolved (h : ∀ i ∈ is, ¬ Unresolved c i) :
    unexpected c is = is.filter fun i => ¬ i.isUsage := by
  rw [unexpected, List.takeWhile_eq_self_iff.mpr fun i hi => decide_eq_true (h i hi)]

theorem unexpected_append {pre : List InvoiceItem} (h : ∀ j ∈ pre, ¬ Unresolved c j) :
    unexpected c (pre ++ is) = (pre.filter fun j => ¬ j.isUsage) ++ unexpected c is := by
  rw [unexpected, List.takeWhile_append_of_pos fun j hj => decide_eq_true (h j hj),
    List.filter_append, unexpected]

theorem scan_anomalies : (scan c bs is).anomalies = unexpected c is := by
  induction is generalizing bs with
  | nil => rfl
  | cons i is ih =>
    by_cases hu : i.isUsage
    · cases hr : resolve c i with
      | error e =>
        rw [unexpected_cons_of_unresolved (unresolved_iff.mpr ⟨hu, e, hr⟩),
          scan_cons_of_error hu hr]
      | ok p =>
        have hb : Bills c p i := bills_iff.mpr ⟨hu, hr⟩
        rw [unexpected_cons_of_resolved hu (not_unresolved_of_bills hb), scan_cons_of_bills hb]
        exact ih
    · rw [unexpected_cons_of_other hu, scan_cons_of_other hu]
      exact congrArg (i :: ·) ih

theorem start_anomalies : (start first target is c n).anomalies =
    if target < first then [] else unexpected c is := by
  by_cases ht : target < first
  · rw [start, if_pos (Or.inr ht), if_pos ht]
  · rw [if_neg ht]
    by_cases hi : is = []
    · rw [start, if_pos (Or.inl hi), hi]
      rfl
    · rw [start, if_neg (not_or.mpr ⟨hi, ht⟩)]
      exact scan_anomalies

theorem start_anomalies_of_le (ht : first ≤ target) :
    (start first target is c n).anomalies = unexpected c is := by
  rw [start_anomalies, if_neg ht.not_gt]

/-- What a call reports: nothing under a negative bound or if the first event comes after the target
date, since its items are not scanned then. -/
def Request.unexpected (r : Request) (bound : Int) : List InvoiceItem :=
  if bound < 0 ∨ r.target < r.first then [] else Window.unexpected r.catalog r.items

theorem startUnder_anomalies : (startUnder bound r).anomalies = r.unexpected bound := by
  by_cases hb : bound < 0
  · rw [startUnder, if_pos hb, Request.unexpected, if_pos (Or.inl hb)]
  · rw [startUnder, if_neg hb, start_anomalies, Request.unexpected]
    simp only [hb, false_or]

end Lookback.Window
