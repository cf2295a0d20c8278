import Lookback.Billing.Usage

/-! The members of an ordered set are those of the list it was made from, each once. -/
namespace Lookback

namespace SortedSet

variable {α : Type} [Ord α] [Std.LawfulEqOrd α] {a b : α} {bs : List α}

theorem mem_insertInto_iff : a ∈ insertInto b bs ↔ a = b ∨ a ∈ bs := by
  refine ⟨mem_insertInto, ?_⟩
  induction bs with
  | nil => simp [insertInto]
  | cons c cs ih =>
    rw [insertInto]
    split
    · exact List.mem_cons.mpr
    · rename_i hc
      rw [Std.LawfulEqOrd.eq_of_compare hc]
      rintro (rfl | h)
      · exact List.mem_cons_self
      · exact h
    · rintro (rfl | h)
      · exact List.mem_cons_of_mem _ (ih (Or.inl rfl))
      · rcases List.mem_cons.mp h with rfl | h
        · exact List.mem_cons_self
        · exact List.mem_cons_of_mem _ (ih (Or.inr h))

theorem mem_ofList [Std.TransOrd α] : a ∈ ofList bs ↔ a ∈ bs := by
  induction bs with
  | nil => exact Iff.rfl
  | cons b bs ih =>
    rw [List.mem_cons, ← ih]
    exact mem_insertInto_iff

theorem nodup_toList (s : SortedSet α) : s.toList.Nodup := by
  refine s.sorted.imp fun {a b} h he => ?_
  subst he
  cases h.symm.trans Std.ReflOrd.compare_self

/-- Sets with the same members are held as the same list. -/
theorem eq_of_mem_iff [Std.OrientedOrd α] {s t : SortedSet α} (h : ∀ a, a ∈ s ↔ a ∈ t) : s = t := by
  have hperm : s.toList.Perm t.toList :=
    (List.perm_ext_iff_of_nodup s.nodup_toList t.nodup_toList).mpr h
  have hlist : s.toList = t.toList := by
    refine hperm.eq_of_pairwise (fun a b _ _ hab hba => ?_) s.sorted t.sorted
    rw [Std.OrientedCmp.gt_of_lt hab] at hba
    cases hba
  cases s
  cases t
  cases hlist
  rfl

theorem ofList_eq_of_mem_iff [Std.TransOrd α] {s : SortedSet α} (h : ∀ a, a ∈ bs ↔ a ∈ s) :
    ofList bs = s :=
  eq_of_mem_iff fun a => mem_ofList.trans (h a)

end SortedSet

/-! Identities that compare as equal are equal, so a set of them holds each once. -/

section Identity

variable {α β : Type} [Ord β] [Std.LawfulEqOrd β] {f : α → β}

theorem lawfulEqCmp_compareOn (hf : ∀ {a b}, f a = f b → a = b) : Std.LawfulEqCmp (compareOn f) where
  eq_of_compare h := hf (Std.LawfulEqOrd.eq_of_compare h)

instance : Std.LawfulEqOrd Date := lawfulEqCmp_compareOn Date.eq_of_dayNumber_eq

instance : Std.LawfulEqOrd Uuid := lawfulEqCmp_compareOn fun {u v} h => by
  cases u
  cases v
  exact congrArg Uuid.mk h

instance : Std.LawfulEqOrd InvoiceId := lawfulEqCmp_compareOn fun {i j} h => by
  cases i
  cases j
  exact congrArg InvoiceId.mk h

instance : Std.LawfulEqOrd SubscriptionId := lawfulEqCmp_compareOn fun {s t} h => by
  cases s
  cases t
  exact congrArg SubscriptionId.mk h

instance : Std.LawfulEqOrd TrackingId where
  compare_self := Std.ReflOrd.compare_self
  eq_of_compare {s t} h := by
    simp only [compare, compareLex_eq_eq] at h
    obtain ⟨ht, hi, hs, hu, hd⟩ := h
    cases s
    cases t
    congr
    · exact Std.LawfulEqOrd.eq_of_compare ht
    · exact Std.LawfulEqOrd.eq_of_compare hi
    · exact Std.LawfulEqOrd.eq_of_compare hs
    · exact Std.LawfulEqOrd.eq_of_compare hu
    · exact Std.LawfulEqOrd.eq_of_compare hd

end Identity

end Lookback
