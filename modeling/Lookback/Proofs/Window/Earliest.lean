import Lookback.Proofs.Window.Boundaries

/-! The earliest date that lies some periods before a boundary, and the first boundary in order
that leaves the calendar. -/
namespace Lookback.Window

variable {n m : Nat} {bs : Boundaries} {p : Period} {d e f : Date} {err : Error} {o : Option Date}

namespace Boundaries

/-- No boundary leaves the calendar when it moves back `n` periods. -/
def InRange (n : Nat) (bs : Boundaries) : Prop :=
  ∀ p d, (p, some d) ∈ bs → ∃ e, p.recedeBy d n = some e

/-- The dates that lie `n` periods before a boundary. -/
def receded (n : Nat) (bs : Boundaries) : List Date :=
  bs.filterMap fun (p, held) => held.bind fun d => p.recedeBy d n

theorem mem_receded : e ∈ receded n bs ↔ ∃ p d, (p, some d) ∈ bs ∧ p.recedeBy d n = some e := by
  simp [receded, Option.bind_eq_some_iff]

/-- A list has no later minimum than another if it undercuts each date of it. -/
theorem min?_rel_min? {as bs : List Date} (h : ∀ b ∈ bs, ∃ a ∈ as, a ≤ b)
    (hne : as ≠ [] → bs ≠ []) : Option.Rel (· ≤ ·) as.min? bs.min? := by
  cases ha : as.min? with
  | none =>
    cases hb : bs.min? with
    | none => exact .none
    | some b =>
      obtain ⟨a, hm, -⟩ := h b (List.min?_eq_some_iff.mp hb).1
      simp [List.min?_eq_none_iff.mp ha] at hm
  | some a =>
    obtain ⟨hm, hleast⟩ := List.min?_eq_some_iff.mp ha
    cases hb : bs.min? with
    | none => exact absurd (List.min?_eq_none_iff.mp hb) (hne (List.ne_nil_of_mem hm))
    | some b =>
      obtain ⟨x, hx, hxb⟩ := h b (List.min?_eq_some_iff.mp hb).1
      exact .some ((hleast x hx).trans hxb)

theorem inRange_cons_none : InRange n ((p, none) :: bs) ↔ InRange n bs := by
  simp [InRange]

theorem inRange_cons_some (h : p.recedeBy d n = some e) :
    InRange n ((p, some d) :: bs) ↔ InRange n bs := by
  constructor
  · intro hr q f hm
    exact hr q f (List.mem_cons_of_mem _ hm)
  · intro hr q f hm
    rcases List.mem_cons.mp hm with hq | hm
    · cases hq
      exact ⟨e, h⟩
    · exact hr q f hm

theorem earliest_cons_some (h : p.recedeBy d n = some e) :
    earliest n ((p, some d) :: bs) = (earliest n bs).map fun o => some (o.elim e (min e)) := by
  rw [earliest, h]
  cases earliest n bs with
  | error _ => rfl
  | ok o => cases o <;> rfl

/-- A slot that holds nothing decides nothing. -/
theorem earliest_filter_isSome : earliest n (bs.filter fun b => b.2.isSome) = earliest n bs := by
  induction bs with
  | nil => rfl
  | cons b bs ih =>
    obtain ⟨p, held⟩ := b
    cases held with
    | none => exact ih
    | some d => simp only [List.filter_cons, Option.isSome_some, if_true, earliest, ih]

theorem earliest_eq_ok_iff : earliest n bs = .ok o ↔ InRange n bs ∧ (receded n bs).min? = o := by
  induction bs generalizing o with
  | nil => simp [earliest, InRange, receded]
  | cons b bs ih =>
    obtain ⟨p, held⟩ := b
    cases held with
    | none => rw [earliest, ih, inRange_cons_none]; rfl
    | some d =>
      cases hr : p.recedeBy d n with
      | none =>
        have hn : ¬ InRange n ((p, some d) :: bs) := by
          intro h
          obtain ⟨e, he⟩ := h p d List.mem_cons_self
          simp [hr] at he
        simp [earliest, hr, hn]
      | some e =>
        have hc : receded n ((p, some d) :: bs) = e :: receded n bs := by simp [receded, hr]
        rw [earliest_cons_some hr, inRange_cons_some hr, hc, List.min?_cons]
        cases ho : earliest n bs with
        | error err =>
          have hn : ¬ InRange n bs := by
            intro h
            cases ho.symm.trans (ih.mpr ⟨h, rfl⟩)
          simp [Except.map, hn]
        | ok o' =>
          obtain ⟨hin, hmin⟩ := ih.mp ho
          simp [Except.map, hin, hmin]

/-- An error names the first boundary in order that leaves the calendar. -/
theorem earliest_error (h : earliest n bs = .error err) :
    ∃ pre p d post, bs = pre ++ (p, some d) :: post ∧ InRange n pre ∧ p.recedeBy d n = none ∧
      err = .dateOutOfRange d p n := by
  induction bs with
  | nil => cases h
  | cons b bs ih =>
    obtain ⟨p, held⟩ := b
    cases held with
    | none =>
      obtain ⟨pre, q, f, post, rfl, hin, hq, he⟩ := ih h
      exact ⟨(p, none) :: pre, q, f, post, rfl, inRange_cons_none.mpr hin, hq, he⟩
    | some d =>
      cases hr : p.recedeBy d n with
      | none =>
        rw [earliest, hr] at h
        exact ⟨[], p, d, bs, rfl, by simp [InRange], hr, (Except.error.inj h).symm⟩
      | some e =>
        rw [earliest_cons_some hr] at h
        cases ho : earliest n bs with
        | ok o => simp [ho, Except.map] at h
        | error err' =>
          rw [ho] at h
          cases h
          obtain ⟨pre, q, f, post, rfl, hin, hq, he⟩ := ih ho
          exact ⟨(p, some d) :: pre, q, f, post, rfl, (inRange_cons_some hr).mpr hin, hq, he⟩

/-- Where the boundaries stand in the order of their periods, an error names the least period whose
boundary leaves the calendar. -/
theorem earliest_error_least
    (hbs : bs.Pairwise fun x y => Period.all.idxOf x.1 < Period.all.idxOf y.1)
    (h : earliest n bs = .error err) :
    ∃ p d, (p, some d) ∈ bs ∧ p.recedeBy d n = none ∧ err = .dateOutOfRange d p n ∧
      ∀ q f, (q, some f) ∈ bs → q.recedeBy f n = none →
        Period.all.idxOf p ≤ Period.all.idxOf q := by
  obtain ⟨pre, p, d, post, rfl, hin, hnone, rfl⟩ := earliest_error h
  refine ⟨p, d, by simp, hnone, rfl, ?_⟩
  intro q f hm hq
  rcases List.mem_append.mp hm with hpre | hpost
  · obtain ⟨e, he⟩ := hin q f hpre
    cases hq.symm.trans he
  · rcases List.mem_cons.mp hpost with heq | hpost
    · cases heq
      exact le_rfl
    · have hp := (List.pairwise_cons.mp (List.pairwise_append.mp hbs).2.1).1
      exact (hp _ hpost).le

end Boundaries

variable {c c' : Catalog} {is is' : List InvoiceItem}

/-- Periods in use that have billed nothing do not tell two histories apart. -/
theorem earliest_billed_congr (h : ∀ p, p.isRecurring → latest? c is p = latest? c' is' p) :
    (billed c is).earliest n = (billed c' is').earliest n := by
  have hb : (billed c is).filter (fun b => b.2.isSome) =
      (billed c' is').filter fun b => b.2.isSome := by
    rw [billed_filter_isSome, billed_filter_isSome]
    refine List.filterMap_congr fun p hp => ?_
    rw [h p (List.mem_filter.mp hp).2]
  rw [← Boundaries.earliest_filter_isSome, hb, Boundaries.earliest_filter_isSome]

end Lookback.Window
