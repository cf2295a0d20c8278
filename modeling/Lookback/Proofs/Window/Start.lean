import Lookback.Proofs.Window.Earliest

/-! The start of a window as a minimum over the periods in use, kept between the first event and
the target date. -/
namespace Lookback.Window

variable {first target s : Date} {is : List InvoiceItem} {c : Catalog} {p : Period} {n : Nat}

/-- The dates that lie `n` periods before the latest end date of a recurring period. -/
def candidates (c : Catalog) (is : List InvoiceItem) (n : Nat) : Set Date :=
  { e | ∃ p b, p.isRecurring ∧ IsGreatest (ends c is p) b ∧ p.recedeBy b n = some e }

theorem mem_receded_billed {e : Date} :
    e ∈ (billed c is).receded n ↔ e ∈ candidates c is n := by
  simp only [Boundaries.mem_receded, mem_billed_some, candidates, Set.mem_ofPred_eq, and_assoc]

theorem min?_receded_billed {e : Date} :
    ((billed c is).receded n).min? = some e ↔ IsLeast (candidates c is n) e := by
  rw [List.min?_eq_some_iff]
  simp only [mem_receded_billed, IsLeast, lowerBounds, Set.mem_ofPred_eq]

theorem exists_bills_of_mem_candidates {d : Date} (h : d ∈ candidates c is n) :
    ∃ p, p.isRecurring ∧ ∃ i ∈ is, Bills c p i := by
  obtain ⟨p, _, hr, ⟨⟨i, hi, hb, -⟩, -⟩, -⟩ := h
  exact ⟨p, hr, i, hi, hb⟩

theorem receded_billed_eq_nil (h : ∀ p, p.isRecurring → ∀ i ∈ is, ¬ Bills c p i) :
    (billed c is).receded n = [] := by
  refine List.eq_nil_iff_forall_not_mem.mpr fun e he => ?_
  obtain ⟨p, hr, i, hi, hb⟩ := exists_bills_of_mem_candidates (mem_receded_billed.mp he)
  exact h p hr i hi hb

theorem exists_latest (h : ∃ i ∈ is, Bills c p i) : ∃ b, IsGreatest (ends c is p) b := by
  cases hl : latest? c is p with
  | none =>
    obtain ⟨i, hi, hb⟩ := h
    exact absurd hb (latest?_eq_none_iff.mp hl i hi)
  | some b => exact ⟨b, latest?_eq_some_iff.mp hl⟩

theorem exists_recedeBy_latest (hin : (billed c is).InRange n) (hr : p.isRecurring)
    (h : ∃ i ∈ is, Bills c p i) :
    ∃ b e, IsGreatest (ends c is p) b ∧ p.recedeBy b n = some e := by
  obtain ⟨b, hb⟩ := exists_latest h
  obtain ⟨e, he⟩ := hin p b (mem_billed_some.mpr ⟨hr, hb⟩)
  exact ⟨b, e, hb, he⟩

theorem receded_ne_nil (hin : (billed c is).InRange n) (hr : p.isRecurring)
    (h : ∃ i ∈ is, Bills c p i) : (billed c is).receded n ≠ [] := by
  obtain ⟨b, e, hb, he⟩ := exists_recedeBy_latest hin hr h
  exact List.ne_nil_of_mem (mem_receded_billed.mpr ⟨p, b, hr, hb, he⟩)

theorem exists_isLeast_candidates (hin : (billed c is).InRange n)
    (h : ∃ p, p.isRecurring ∧ ∃ i ∈ is, Bills c p i) : ∃ e, IsLeast (candidates c is n) e := by
  obtain ⟨p, hr, hp⟩ := h
  cases hmin : ((billed c is).receded n).min? with
  | none => exact absurd (List.min?_eq_none_iff.mp hmin) (receded_ne_nil hin hr hp)
  | some f => exact ⟨f, min?_receded_billed.mp hmin⟩

/-- A date kept between the first event and the target date, or the first event's without one. -/
def clamped (first target : Date) (o : Option Date) : Date :=
  o.elim first fun d => max (min d target) first

theorem first_le_clamped {o : Option Date} : first ≤ clamped first target o := by
  cases o with
  | none => exact le_rfl
  | some d => exact le_max_right _ _

theorem clamped_le_target {o : Option Date} (h : first ≤ target) :
    clamped first target o ≤ target := by
  cases o with
  | none => exact h
  | some d => exact max_le (min_le_right _ _) h

theorem clamped_le_clamped {first' target' : Date} {o o' : Option Date} (hf : first ≤ first')
    (ht : target ≤ target') (h : Option.Rel (· ≤ ·) o o') :
    clamped first target o ≤ clamped first' target' o' := by
  cases h with
  | none => exact hf
  | some hle => exact max_le_max (min_le_min hle ht) hf

/-- Nothing is scanned without items or if the first event comes after the target date. -/
theorem start_of_unscanned (h : is = [] ∨ target < first) :
    (start first target is c n).result = .ok first := by
  rw [start, if_pos h]

theorem earliest_billed_nil : (billed c []).earliest n = .ok none := by
  refine Boundaries.earliest_eq_ok_iff.mpr ⟨fun p d hm => ?_, ?_⟩
  · obtain ⟨i, hi, -⟩ := (mem_billed_some.mp hm).2.1
    cases hi
  · rw [receded_billed_eq_nil (by simp)]
    rfl

/-- An empty list, which is not scanned, starts where its scan would. -/
theorem start_of_scanned (ht : first ≤ target) :
    (start first target is c n).result =
      match unresolved? c is with
      | some e => .error e
      | none => ((billed c is).earliest n).map (clamped first target) := by
  by_cases hi : is = []
  · subst hi
    rw [start_of_unscanned (Or.inl rfl), earliest_billed_nil]
    rfl
  · rw [start, if_neg (by simp [hi, ht])]
    simp only [scan_ofCatalog]
    cases unresolved? c is with
    | some e => rfl
    | none =>
      cases he : (billed c is).earliest n with
      | error e => simp only [bind, Except.bind, he, Except.map]
      | ok o => cases o <;> simp [bind, Except.bind, he, Except.map, pure, Except.pure, clamped]

/-- A start depends on its items and its catalog only through the first item that does not resolve
and the latest end dates of the recurring periods. -/
theorem start_result_congr {c' : Catalog} {is' : List InvoiceItem}
    (hu : unresolved? c is = unresolved? c' is')
    (hl : ∀ p, p.isRecurring → latest? c is p = latest? c' is' p) :
    (start first target is c n).result = (start first target is' c' n).result := by
  rcases lt_or_ge target first with ht | ht
  · rw [start_of_unscanned (Or.inr ht), start_of_unscanned (Or.inr ht)]
  · rw [start_of_scanned ht, start_of_scanned ht, hu, earliest_billed_congr hl]

theorem start_of_scanned_eq_ok_iff (ht : first ≤ target) :
    (start first target is c n).result = .ok s ↔
      unresolved? c is = none ∧ (billed c is).InRange n ∧
        clamped first target ((billed c is).receded n).min? = s := by
  rw [start_of_scanned ht]
  cases unresolved? c is with
  | some e => simp
  | none =>
    cases he : (billed c is).earliest n with
    | ok o =>
      obtain ⟨hin, rfl⟩ := Boundaries.earliest_eq_ok_iff.mp he
      simp [Except.map, hin]
    | error e =>
      have hn : ¬ (billed c is).InRange n := by
        intro hin
        cases he.symm.trans (Boundaries.earliest_eq_ok_iff.mpr ⟨hin, rfl⟩)
      simp [Except.map, hn]

theorem start_eq_ok_iff : (start first target is c n).result = .ok s ↔
    ((is = [] ∨ target < first) ∧ first = s) ∨
      (is ≠ [] ∧ first ≤ target ∧ unresolved? c is = none ∧ (billed c is).InRange n ∧
        clamped first target ((billed c is).receded n).min? = s) := by
  by_cases h : is = [] ∨ target < first
  · rw [start_of_unscanned h, Except.ok.injEq]
    refine ⟨fun hs => Or.inl ⟨h, hs⟩, ?_⟩
    rintro (⟨-, hs⟩ | ⟨hi, ht, -⟩)
    · exact hs
    · exact absurd h (not_or.mpr ⟨hi, ht.not_gt⟩)
  · obtain ⟨hi, ht⟩ := not_or.mp h
    rw [start_of_scanned_eq_ok_iff (not_lt.mp ht)]
    refine ⟨fun hs => Or.inr ⟨hi, not_lt.mp ht, hs⟩, ?_⟩
    rintro (⟨he, -⟩ | ⟨-, -, hs⟩)
    · exact absurd he h
    · exact hs

theorem start_eq_error_iff {e : Error} : (start first target is c n).result = .error e ↔
    is ≠ [] ∧ first ≤ target ∧
      (unresolved? c is = some e ∨
        (unresolved? c is = none ∧ (billed c is).earliest n = .error e)) := by
  by_cases h : is = [] ∨ target < first
  · rw [start_of_unscanned h]
    simp only [reduceCtorEq, false_iff, not_and]
    intro hi ht
    exact absurd h (not_or.mpr ⟨hi, ht.not_gt⟩)
  · obtain ⟨hi, ht⟩ := not_or.mp h
    rw [start_of_scanned (not_lt.mp ht)]
    simp only [ne_eq, hi, not_false_eq_true, not_lt.mp ht, true_and]
    cases unresolved? c is with
    | some e' => simp
    | none => cases (billed c is).earliest n <;> simp [Except.map]

/-- A window lies between the first event and the target date, in so far as these leave room. -/
theorem start_bounds (h : (start first target is c n).result = .ok s) :
    (first ≤ s ∧ s ≤ target) ∨ (target < first ∧ s = first) := by
  rcases start_eq_ok_iff.mp h with ⟨-, rfl⟩ | ⟨-, ht, -, -, rfl⟩
  · rcases le_or_gt first target with ht | ht
    · exact Or.inl ⟨le_rfl, ht⟩
    · exact Or.inr ⟨ht, rfl⟩
  · exact Or.inl ⟨first_le_clamped, clamped_le_target ht⟩

theorem first_le_of_start (h : (start first target is c n).result = .ok s) : first ≤ s := by
  rcases start_bounds h with ⟨hs, -⟩ | ⟨-, hs⟩
  · exact hs
  · exact hs.ge

theorem start_le_target (ht : first ≤ target) (h : (start first target is c n).result = .ok s) :
    s ≤ target := by
  rcases start_bounds h with ⟨-, hs⟩ | ⟨hlt, -⟩
  · exact hs
  · exact absurd ht hlt.not_ge

/-- Without anything billed in a recurring period a window starts with the first event. Otherwise
every such period has a latest end date from which it can look back, and the least of the dates it
looks back to decides, between the first event and the target date. -/
theorem start_eq_clamped_minimum (h : (start first target is c n).result = .ok s) :
    (is = [] ∨ target < first ∨ (∀ p, p.isRecurring → ∀ i ∈ is, ¬ Bills c p i) → s = first) ∧
    (is ≠ [] → first ≤ target → (∃ p, p.isRecurring ∧ ∃ i ∈ is, Bills c p i) →
      (∀ p, p.isRecurring → (∃ i ∈ is, Bills c p i) →
        ∃ b e, IsGreatest (ends c is p) b ∧ p.recedeBy b n = some e) ∧
      ∃ e, IsLeast (candidates c is n) e ∧ s = max first (min target e)) := by
  rcases start_eq_ok_iff.mp h with ⟨he, rfl⟩ | ⟨hi, ht, -, hin, rfl⟩
  · refine ⟨fun _ => rfl, fun hi ht => ?_⟩
    exact absurd he (not_or.mpr ⟨hi, ht.not_gt⟩)
  · constructor
    · rintro (h' | h' | hnone)
      · exact absurd h' hi
      · exact absurd h' ht.not_gt
      · rw [receded_billed_eq_nil hnone]
        rfl
    · intro _ _ hex
      refine ⟨fun p hr hp => exists_recedeBy_latest hin hr hp, ?_⟩
      obtain ⟨e, he⟩ := exists_isLeast_candidates hin hex
      refine ⟨e, he, ?_⟩
      rw [min?_receded_billed.mpr he, clamped, Option.elim, max_comm, min_comm]

namespace Sample

/-- 2019-01-01, 2019-12-01 and 2020-06-01. -/
def january : Date := ⟨737425, by decide, by decide⟩
def december : Date := ⟨737759, by decide, by decide⟩
def june : Date := ⟨737942, by decide, by decide⟩

def item (usageName : String) (endDate : Date) : InvoiceItem :=
  .usage ⟨⟨0⟩⟩ ⟨⟨0⟩⟩ ⟨⟨0⟩⟩ usageName endDate endDate

/-- Calls are billed up to 2020-05-01, storage up to 2020-03-01. -/
def items : List InvoiceItem :=
  [item "calls" ⟨737911, by decide, by decide⟩, item "storage" ⟨737850, by decide, by decide⟩,
    item "calls" ⟨737881, by decide, by decide⟩]

def catalog : Catalog := ⟨[⟨"calls", .monthly⟩, ⟨"storage", .quarterly⟩], by decide⟩

end Sample

/-- The quarter before March reaches further back than the month before May. -/
theorem start_eq_clamped_minimum_quarter :
    (start Sample.january Sample.june Sample.items Sample.catalog 1).result = .ok Sample.december ∧
      ∃ e, IsLeast (candidates Sample.catalog Sample.items 1) e ∧
        Sample.december = max Sample.january (min Sample.june e) := by
  have h : (start Sample.january Sample.june Sample.items Sample.catalog 1).result =
      .ok Sample.december := by decide +kernel
  have hb : ∃ p : Period, p.isRecurring ∧ ∃ i ∈ Sample.items, Bills Sample.catalog p i :=
    ⟨.monthly, rfl, by decide⟩
  exact ⟨h, ((start_eq_clamped_minimum h).2 (by decide) (by decide) hb).2⟩

end Lookback.Window
