import Lookback.Proofs.Window.Start

/-! When no start is found and why: the first usage item that does not resolve, or else the first
period whose latest end date cannot look back far enough. -/
namespace Lookback.Window

variable {c : Catalog} {is : List InvoiceItem} {i : InvoiceItem} {p q : Period}
  {b d first target : Date} {n : Nat} {e : Error}

/-- A usage item without a name, or with one that the catalog does not have. -/
def Unresolved (c : Catalog) (i : InvoiceItem) : Prop :=
  i.isUsage ∧ ∀ d ∈ c.definitions, i.usageName ≠ some d.name

instance : Decidable (Unresolved c i) := inferInstanceAs (Decidable (_ ∧ _))

theorem resolve_eq_error_iff : (∃ e, resolve c i = .error e) ↔
    ∀ d ∈ c.definitions, i.usageName ≠ some d.name := by
  constructor
  · rintro ⟨e, he⟩ d hd hn
    have hok : resolve c i = .ok d.period := resolve_eq_ok_iff.mpr ⟨d, hd, hn, rfl⟩
    cases he.symm.trans hok
  · intro h
    cases hr : resolve c i with
    | error e => exact ⟨e, rfl⟩
    | ok p =>
      obtain ⟨d, hd, hn, -⟩ := resolve_eq_ok_iff.mp hr
      exact absurd hn (h d hd)

theorem unresolved_iff : Unresolved c i ↔ i.isUsage ∧ ∃ e, resolve c i = .error e :=
  and_congr_right fun _ => resolve_eq_error_iff.symm

theorem not_unresolved_of_bills (h : Bills c p i) : ¬ Unresolved c i := by
  rintro ⟨-, hn⟩
  obtain ⟨-, d, hd, hi, -⟩ := h
  exact hn d hd hi

theorem unresolved?_eq_none_iff : unresolved? c is = none ↔ ∀ i ∈ is, ¬ Unresolved c i := by
  rw [unresolved?, List.findSome?_eq_none_iff]
  refine forall₂_congr fun i _ => ?_
  rw [unresolved_iff]
  cases resolve c i <;> simp

theorem unresolved?_eq_some_iff : unresolved? c is = some e ↔
    ∃ pre i post, is = pre ++ i :: post ∧ (∀ j ∈ pre, ¬ Unresolved c j) ∧ i.isUsage ∧
      resolve c i = .error e := by
  constructor
  · intro h
    obtain ⟨pre, i, post, hs, he, hpre⟩ := List.findSome?_eq_some_iff.mp h
    refine ⟨pre, i, post, hs, unresolved?_eq_none_iff.mp (List.findSome?_eq_none_iff.mpr hpre), ?_⟩
    cases hr : resolve c i <;> simp_all
  · rintro ⟨pre, i, post, rfl, hpre, hu, he⟩
    have hn : unresolved? c pre = none := unresolved?_eq_none_iff.mpr hpre
    unfold unresolved? at hn ⊢
    simp [List.findSome?_append, hn, hu, he]

/-- The latest end date `b` billed in the recurring period `p` cannot move back `n` periods within
the calendar. -/
def OutOfCalendar (c : Catalog) (is : List InvoiceItem) (n : Nat) (p : Period) (b : Date) : Prop :=
  p.isRecurring ∧ IsGreatest (ends c is p) b ∧ p.recedeBy b n = none

theorem not_inRange_billed_iff :
    ¬ (billed c is).InRange n ↔ ∃ p b, OutOfCalendar c is n p b := by
  simp only [Boundaries.InRange, OutOfCalendar, not_forall, mem_billed_some, not_exists,
    ← Option.eq_none_iff_forall_ne_some, exists_prop, and_assoc]

theorem earliest_billed_error_iff : (∃ e, (billed c is).earliest n = .error e) ↔
    ∃ p b, OutOfCalendar c is n p b := by
  rw [← not_inRange_billed_iff]
  cases he : (billed c is).earliest n with
  | ok o => simp [(Boundaries.earliest_eq_ok_iff.mp he).1]
  | error e =>
    refine iff_of_true ⟨e, rfl⟩ fun hin => ?_
    cases he.symm.trans (Boundaries.earliest_eq_ok_iff.mpr ⟨hin, rfl⟩)

theorem first_outOfCalendar (h : (billed c is).earliest n = .error e) :
    ∃ p b, OutOfCalendar c is n p b ∧
      (∀ q d, OutOfCalendar c is n q d → Period.all.idxOf p ≤ Period.all.idxOf q) ∧
      e = .dateOutOfRange b p n := by
  obtain ⟨p, b, hm, hnone, rfl, hleast⟩ := Boundaries.earliest_error_least billed_pairwise h
  obtain ⟨hr, hb⟩ := mem_billed_some.mp hm
  refine ⟨p, b, ⟨hr, hb, hnone⟩, ?_, rfl⟩
  rintro q d ⟨hqr, hd, hq⟩
  exact hleast q d (mem_billed_some.mpr ⟨hqr, hd⟩) hq

theorem idxOf_all_inj (h : Period.all.idxOf p = Period.all.idxOf q) : p = q :=
  (List.idxOf_inj (Period.mem_all p)).mp h

theorem earliest_billed_eq_error_iff : (billed c is).earliest n = .error e ↔
    ∃ p b, OutOfCalendar c is n p b ∧
      (∀ q d, OutOfCalendar c is n q d → Period.all.idxOf p ≤ Period.all.idxOf q) ∧
      e = .dateOutOfRange b p n := by
  refine ⟨first_outOfCalendar, ?_⟩
  rintro ⟨p, b, hp, hle, rfl⟩
  obtain ⟨e, he⟩ := earliest_billed_error_iff.mpr ⟨p, b, hp⟩
  obtain ⟨q, d, hq, hle', rfl⟩ := first_outOfCalendar he
  -- both periods are the least, so they are one, and it has one latest end date
  obtain rfl := idxOf_all_inj ((hle q d hq).antisymm (hle' p b hp))
  obtain rfl := hp.2.1.unique hq.2.1
  exact he

/-- Why items and a look-back of `n` periods give no start. -/
inductive Refused (c : Catalog) (is : List InvoiceItem) (n : Nat) : Error → Prop
  | unnamed {pre post : List InvoiceItem} {i : InvoiceItem} (split : is = pre ++ i :: post)
      (before : ∀ j ∈ pre, ¬ Unresolved c j) (usage : i.isUsage) (name : i.usageName = none) :
      Refused c is n (.missingName i.id)
  | undefined {pre post : List InvoiceItem} {i : InvoiceItem} {u : String}
      (split : is = pre ++ i :: post) (before : ∀ j ∈ pre, ¬ Unresolved c j) (usage : i.isUsage)
      (name : i.usageName = some u) (missing : ∀ d ∈ c.definitions, d.name ≠ u) :
      Refused c is n (.missingDefinition u i.id)
  | outOfCalendar {p : Period} {b : Date} (resolved : ∀ i ∈ is, ¬ Unresolved c i)
      (out : OutOfCalendar c is n p b)
      (least : ∀ q d, OutOfCalendar c is n q d → Period.all.idxOf p ≤ Period.all.idxOf q) :
      Refused c is n (.dateOutOfRange b p n)

theorem refused_iff : Refused c is n e ↔ unresolved? c is = some e ∨
    (unresolved? c is = none ∧ (billed c is).earliest n = .error e) := by
  rw [unresolved?_eq_some_iff, unresolved?_eq_none_iff, earliest_billed_eq_error_iff]
  constructor
  · intro h
    cases h with
    | unnamed split before usage name =>
      exact Or.inl ⟨_, _, _, split, before, usage, by simp [resolve, name]⟩
    | @undefined _ _ _ u split before usage name missing =>
      have hu : c.get? u = none := List.find?_eq_none.mpr fun d hd => by simpa using missing d hd
      exact Or.inl ⟨_, _, _, split, before, usage, by simp [resolve, name, hu]⟩
    | outOfCalendar resolved out least => exact Or.inr ⟨resolved, _, _, out, least, rfl⟩
  · rintro (⟨pre, i, post, split, before, usage, he⟩ | ⟨resolved, p, b, out, least, rfl⟩)
    · rcases error_of_resolve he with ⟨hn, rfl⟩ | ⟨u, hn, hu, rfl⟩
      · exact .unnamed split before usage hn
      · refine .undefined split before usage hn fun d hd => ?_
        simpa using List.find?_eq_none.mp hu d hd
    · exact .outOfCalendar resolved out least

theorem start_error_iff : (∃ e, (start first target is c n).result = .error e) ↔
    is ≠ [] ∧ first ≤ target ∧ ((∃ i ∈ is, Unresolved c i) ∨
      (∀ i ∈ is, ¬ Unresolved c i) ∧ ∃ p b, OutOfCalendar c is n p b) := by
  simp only [start_eq_error_iff, exists_and_left, exists_or, earliest_billed_error_iff,
    unresolved?_eq_none_iff]
  rw [← Option.isSome_iff_exists, ← Option.ne_none_iff_isSome, ne_eq, ne_eq,
    unresolved?_eq_none_iff]
  simp only [not_forall, not_not, exists_prop]

/-- Items without a billing period fill no slot. -/
theorem not_outOfCalendar (h : ∀ i ∈ is, i.isUsage → Bills c .noBillingPeriod i) :
    ¬ OutOfCalendar c is n p b := by
  rintro ⟨hr, ⟨⟨i, hi, hb, -⟩, -⟩, -⟩
  rw [bills_unique hb (h i hi hb.1)] at hr
  cases hr

/-- A start is missing exactly if items are scanned and one does not resolve or all do and a period
cannot look back. The error is that of the first such item in the list, or else of the first such
period. Items of other kinds and usage without a billing period are never the reason. -/
theorem start_eq_error_iff_refused (first target : Date) (is : List InvoiceItem) (c : Catalog)
    (n : Nat) :
    ((∃ e, (start first target is c n).result = .error e) ↔
      is ≠ [] ∧ first ≤ target ∧ ((∃ i ∈ is, Unresolved c i) ∨
        (∀ i ∈ is, ¬ Unresolved c i) ∧ ∃ p b, OutOfCalendar c is n p b)) ∧
    (∀ e, (start first target is c n).result = .error e ↔
      is ≠ [] ∧ first ≤ target ∧ Refused c is n e) ∧
    ((∀ i ∈ is, i.isUsage → Bills c .noBillingPeriod i) →
      ∃ s, (start first target is c n).result = .ok s) := by
  refine ⟨start_error_iff, fun e => ?_, fun h => ?_⟩
  · rw [start_eq_error_iff, refused_iff]
  · cases hs : (start first target is c n).result with
    | ok s => exact ⟨s, rfl⟩
    | error e =>
      obtain ⟨-, -, ⟨i, hi, hu⟩ | ⟨-, p, b, hout⟩⟩ := start_error_iff.mp ⟨e, hs⟩
      · exact absurd hu (not_unresolved_of_bills (h i hi hu.1))
      · exact absurd hout (not_outOfCalendar h)

namespace Sample

/-- The first day of the calendar. -/
def dawn : Date := ⟨Calendar.monthStart (12 * -262143), by decide, by decide⟩

end Sample

/-- Monthly comes before quarterly, wherever their items stand, and an item that does not resolve
before both. -/
theorem start_eq_error_iff_refused_dawn :
    Refused Sample.catalog [Sample.item "storage" Sample.dawn, Sample.item "calls" Sample.dawn] 2
      (.dateOutOfRange Sample.dawn .monthly 2) ∧
    Refused Sample.catalog [Sample.item "storage" Sample.dawn, Sample.item "texts" Sample.dawn,
      { Sample.item "calls" Sample.dawn with usageName := none }] 2
      (.missingDefinition "texts" ⟨⟨0⟩⟩) := by
  have hp := (start_eq_error_iff_refused Sample.january Sample.june
    [Sample.item "storage" Sample.dawn, Sample.item "calls" Sample.dawn] Sample.catalog 2).2.1
  have hi := (start_eq_error_iff_refused Sample.january Sample.june
    [Sample.item "storage" Sample.dawn, Sample.item "texts" Sample.dawn,
      { Sample.item "calls" Sample.dawn with usageName := none }] Sample.catalog 2).2.1
  exact ⟨((hp _).mp (by decide +kernel)).2.2, ((hi _).mp (by decide +kernel)).2.2⟩

end Lookback.Window
