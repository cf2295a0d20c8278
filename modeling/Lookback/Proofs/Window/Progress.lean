import Lookback.Proofs.Billing.Order
import Lookback.Proofs.Window.Slack

/-! A start follows what is billed: it moves on as the dates and the boundaries do, and a period
that bills for the first time can only hold it back. -/
namespace Lookback.Window

variable {first first' target target' s s' d : Date} {is is' pre post : List InvoiceItem}
  {i : InvoiceItem} {c : Catalog} {p q : Period} {n : Nat}

/-- Later dates start no earlier if what is scanned between them does. -/
theorem start_le_start (hf : first ≤ first') (ht : target ≤ target')
    (hrel : (billed c is).InRange n → (billed c is').InRange n →
      Option.Rel (· ≤ ·) ((billed c is).receded n).min? ((billed c is').receded n).min?)
    (h : (start first target is c n).result = .ok s)
    (h' : (start first' target' is' c n).result = .ok s') : s ≤ s' := by
  -- a run that scans nothing starts with its first event, whichever of the two it is
  rcases lt_or_ge target first with hlt | hle
  · rw [start_of_unscanned (Or.inr hlt)] at h
    cases h
    exact hf.trans (first_le_of_start h')
  · rcases lt_or_ge target' first' with hlt' | hle'
    · have hs : s ≤ target' := (start_le_target hle h).trans ht
      exact hs.trans (hlt'.le.trans (first_le_of_start h'))
    · obtain ⟨-, hin, rfl⟩ := (start_of_scanned_eq_ok_iff hle).mp h
      obtain ⟨-, hin', rfl⟩ := (start_of_scanned_eq_ok_iff hle').mp h'
      exact clamped_le_clamped hf ht (hrel hin hin')

/-- Where every period in use has billed as far or further, the earliest date looked back to is no
earlier. -/
theorem min?_receded_of_later
    (hsame : ∀ p, p.isRecurring → ((∃ i ∈ is, Bills c p i) ↔ ∃ i ∈ is', Bills c p i))
    (hlater : ∀ p b b', p.isRecurring → IsGreatest (ends c is p) b →
      IsGreatest (ends c is' p) b' → b ≤ b')
    (hin : (billed c is).InRange n) (hin' : (billed c is').InRange n) :
    Option.Rel (· ≤ ·) ((billed c is).receded n).min? ((billed c is').receded n).min? := by
  apply Boundaries.min?_rel_min?
  · intro e' he'
    obtain ⟨p, b', hr, hb', hbe'⟩ := mem_receded_billed.mp he'
    obtain ⟨i, hi, hbi, -⟩ := hb'.1
    obtain ⟨b, e, hb, hbe⟩ := exists_recedeBy_latest hin hr ((hsame p hr).mpr ⟨i, hi, hbi⟩)
    have hle : b ≤ b' := hlater p b b' hr hb hb'
    exact ⟨e, mem_receded_billed.mpr ⟨p, b, hr, hb, hbe⟩, Period.recedeBy_le_recedeBy hle hbe hbe'⟩
  · intro hne
    obtain ⟨e, he⟩ := List.exists_mem_of_ne_nil _ hne
    obtain ⟨p, hr, hp⟩ := exists_bills_of_mem_candidates (mem_receded_billed.mp he)
    exact receded_ne_nil hin' hr ((hsame p hr).mp hp)

theorem ends_insert (h : ¬ Bills c q i) : ends c (pre ++ i :: post) q = ends c (pre ++ post) q := by
  have hm : ∀ j, Bills c q j → (j ∈ pre ++ i :: post ↔ j ∈ pre ++ post) := by
    intro j hj
    have hne : j ≠ i := fun he => h (he ▸ hj)
    simp [hne]
  ext d
  constructor
  · rintro ⟨j, hj, hb, hd⟩
    exact ⟨j, (hm j hb).mp hj, hb, hd⟩
  · rintro ⟨j, hj, hb, hd⟩
    exact ⟨j, (hm j hb).mpr hj, hb, hd⟩

/-- An item of a period that has billed nothing leaves what the other periods look back to. -/
theorem candidates_subset_insert (hp : Bills c p i) (hnone : ∀ j ∈ pre ++ post, ¬ Bills c p j) :
    candidates c (pre ++ post) n ⊆ candidates c (pre ++ i :: post) n := by
  rintro e ⟨q, b, hr, hb, he⟩
  obtain ⟨j, hj, hbj, -⟩ := hb.1
  have hi : ¬ Bills c q i := by
    intro hq
    exact hnone j hj (bills_unique hq hp ▸ hbj)
  exact ⟨q, b, hr, (ends_insert hi).symm ▸ hb, he⟩

theorem min?_receded_insert (hp : Bills c p i) (hnone : ∀ j ∈ pre ++ post, ¬ Bills c p j)
    (hr : q.isRecurring) (hq : ∃ j ∈ pre ++ post, Bills c q j)
    (hin : (billed c (pre ++ post)).InRange n) :
    Option.Rel (· ≤ ·) ((billed c (pre ++ i :: post)).receded n).min?
      ((billed c (pre ++ post)).receded n).min? := by
  apply Boundaries.min?_rel_min?
  · intro e he
    have hmem := candidates_subset_insert hp hnone (mem_receded_billed.mp he)
    exact ⟨e, mem_receded_billed.mpr hmem, le_rfl⟩
  · intro _
    exact receded_ne_nil hin hr hq

/-- Of two histories that bill in the same recurring periods, the one that has billed as far or
further in each, with dates no earlier, starts no earlier. An item of a period that has billed
nothing, wherever it is added, never makes the start later if a recurring period has billed. -/
theorem start_follows_billing (c : Catalog) (n : Nat) :
    (∀ {first first' target target' s s' : Date} {is is' : List InvoiceItem},
      first ≤ first' → target ≤ target' →
      (∀ p, p.isRecurring → ((∃ i ∈ is, Bills c p i) ↔ ∃ i ∈ is', Bills c p i)) →
      (∀ p b b', p.isRecurring → IsGreatest (ends c is p) b → IsGreatest (ends c is' p) b' →
        b ≤ b') →
      (start first target is c n).result = .ok s →
      (start first' target' is' c n).result = .ok s' → s ≤ s') ∧
    ∀ (first target s s' : Date) (pre post : List InvoiceItem) (i : InvoiceItem) (p q : Period),
      Bills c p i → (∀ j ∈ pre ++ post, ¬ Bills c p j) →
      q.isRecurring → (∃ j ∈ pre ++ post, Bills c q j) →
      (start first target (pre ++ post) c n).result = .ok s →
      (start first target (pre ++ i :: post) c n).result = .ok s' → s' ≤ s := by
  constructor
  · intro first first' target target' s s' is is' hf ht hsame hlater h h'
    exact start_le_start hf ht (min?_receded_of_later hsame hlater) h h'
  · intro first target s s' pre post i p q hp hnone hr hq h h'
    exact start_le_start le_rfl le_rfl (fun _ hin => min?_receded_insert hp hnone hr hq hin) h' h

namespace Sample

/-- 2019-11-01. -/
def november : Date := ⟨737729, by decide, by decide⟩

/-- Storage and calls are billed up to 2019-12-01. -/
def earlier : List InvoiceItem := [item "storage" december, item "calls" december]

end Sample

/-- An earlier history against the sample, and against what it is without storage. -/
theorem start_follows_billing_sample :
    (start Sample.january Sample.june Sample.earlier Sample.catalog 1).result =
      .ok Sample.september ∧
    (start Sample.january Sample.june Sample.items Sample.catalog 1).result = .ok Sample.december ∧
    Sample.september ≤ Sample.december ∧
    (start Sample.january Sample.june [Sample.item "calls" Sample.december]
      Sample.catalog 1).result = .ok Sample.november ∧
    Sample.september ≤ Sample.november := by
  have hearlier : (start Sample.january Sample.june Sample.earlier Sample.catalog 1).result =
      .ok Sample.september := by decide +kernel
  have hitems : (start Sample.january Sample.june Sample.items Sample.catalog 1).result =
      .ok Sample.december := by decide +kernel
  have hcalls : (start Sample.january Sample.june [Sample.item "calls" Sample.december]
      Sample.catalog 1).result = .ok Sample.november := by decide +kernel
  have hsame : ∀ p ∈ Period.all, (∃ i ∈ Sample.earlier, Bills Sample.catalog p i) ↔
      ∃ i ∈ Sample.items, Bills Sample.catalog p i := by decide +kernel
  have hends : ∀ p ∈ Period.all, ∀ b ∈ latest? Sample.catalog Sample.earlier p,
      ∀ b' ∈ latest? Sample.catalog Sample.items p, b ≤ b' := by decide +kernel
  obtain ⟨hmono, hadd⟩ := start_follows_billing Sample.catalog 1
  refine ⟨hearlier, hitems, ?_, hcalls, ?_⟩
  · refine hmono le_rfl le_rfl (fun p _ => hsame p (Period.mem_all p)) ?_ hearlier hitems
    intro p b b' _ hb hb'
    exact hends p (Period.mem_all p) b (latest?_eq_some_iff.mpr hb) b'
      (latest?_eq_some_iff.mpr hb')
  · exact hadd _ _ _ _ [] [Sample.item "calls" Sample.december]
      (Sample.item "storage" Sample.december) .quarterly .monthly (by decide) (by decide) rfl
      (by decide) hcalls hearlier

end Lookback.Window
