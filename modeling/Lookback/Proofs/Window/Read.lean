import Lookback.Proofs.SortedSet
import Lookback.Proofs.Window.Fetch
import Lookback.Proofs.Window.Start
import Lookback.Window.Session

/-! A window read from the stores in memory holds what they have from its start to the target
date. -/
namespace Lookback.Window

variable {settings : Settings} {sources : Sources} {r : Request} {w : UsageWindow} {s : Session}
  {bound : Int} {start : Date}

theorem startUnder_of_neg (h : bound < 0) : startUnder bound r = ⟨[], .ok r.first⟩ :=
  if_pos h

theorem startUnder_of_nonneg (h : 0 ≤ bound) :
    startUnder bound r = Window.start r.first r.target r.items r.catalog bound.toNat :=
  if_neg (by omega)

theorem startUnder_bounds (h : (startUnder bound r).result = .ok start) :
    (r.first ≤ start ∧ start ≤ r.target) ∨ (r.target < r.first ∧ start = r.first) := by
  by_cases hb : bound < 0
  · rw [startUnder_of_neg hb] at h
    cases h
    rcases le_or_gt r.first r.target with ht | ht
    · exact Or.inl ⟨le_rfl, ht⟩
    · exact Or.inr ⟨ht, rfl⟩
  · rw [startUnder_of_nonneg (by omega)] at h
    exact start_bounds h

theorem read_result : (read settings sources r).result =
    (startUnder (settings.bound r.caller.tenant) r).result.bind (fetch sources r) := by
  cases h : (startUnder (settings.bound r.caller.tenant) r).result <;>
    simp only [read, h] <;> rfl

/-- What the stores of a session hold from a date on. -/
def Session.windowFrom (s : Session) (r : Request) (start : Date) : UsageWindow :=
  ⟨start, s.usageBetween start r.target r.caller,
    .ofList ((s.trackingBetween start r.target r.caller).map TrackingRow.identity)⟩

theorem faulty_outcome_eq_ok_iff {α : Type} {fault : Option Fault} {error : String → Error}
    {a b : α} : (faulty fault error a).outcome = .ok b ↔ fault = none ∧ a = b := by
  cases fault <;> simp [faulty]

theorem fetch_eq_ok_iff : fetch s.sources r start = .ok w ↔
    s.usageFault = none ∧ s.trackingFault = none ∧ s.windowFrom r start = w := by
  constructor
  · intro h
    unfold fetch at h
    cases hj : Fetch.join (s.sources.usage start r.target r.caller)
        (s.sources.tracking start r.target r.caller) with
    | error e => simp [hj, Except.map] at h
    | ok found =>
      obtain ⟨us, rows⟩ := found
      obtain ⟨hus, hrows⟩ := Fetch.join_eq_ok_iff.mp hj
      obtain ⟨hu, rfl⟩ := faulty_outcome_eq_ok_iff.mp hus
      obtain ⟨ht, rfl⟩ := faulty_outcome_eq_ok_iff.mp hrows
      rw [hj] at h
      exact ⟨hu, ht, Except.ok.inj h⟩
  · rintro ⟨hu, ht, rfl⟩
    have hj : Fetch.join (s.sources.usage start r.target r.caller)
        (s.sources.tracking start r.target r.caller) =
          .ok (s.usageBetween start r.target r.caller, s.trackingBetween start r.target r.caller) :=
      Fetch.join_eq_ok_iff.mpr
        ⟨faulty_outcome_eq_ok_iff.mpr ⟨hu, rfl⟩, faulty_outcome_eq_ok_iff.mpr ⟨ht, rfl⟩⟩
    rw [fetch, hj]
    rfl

theorem read_eq_ok_iff : (read settings s.sources r).result = .ok w ↔
    s.usageFault = none ∧ s.trackingFault = none ∧
      (startUnder (settings.bound r.caller.tenant) r).result = .ok w.start ∧
      s.windowFrom r w.start = w := by
  rw [read_result]
  cases (startUnder (settings.bound r.caller.tenant) r).result with
  | error e => simp [Except.bind]
  | ok start =>
    simp only [Except.bind, fetch_eq_ok_iff, Except.ok.injEq]
    constructor
    · rintro ⟨hu, ht, rfl⟩
      exact ⟨hu, ht, rfl, rfl⟩
    · rintro ⟨hu, ht, rfl, hw⟩
      exact ⟨hu, ht, hw⟩

theorem Session.usageBetween_eq (s : Session) (start stop : Date) (caller : Caller) :
    s.usageBetween start stop caller = (s.usage.ofAccount caller.account).filter
      fun u => start ≤ u.recordDate.date ∧ u.recordDate.date ≤ stop := by
  simp only [Bool.decide_and]
  rfl

theorem Session.trackingBetween_eq (s : Session) (start stop : Date) (caller : Caller) :
    s.trackingBetween start stop caller = (s.tracking.ofAccount caller.account).filter
      fun row => start ≤ row.recordDate ∧ row.recordDate ≤ stop := by
  simp [trackingBetween, Store.read]

theorem usage_windowFrom : (s.windowFrom r start).usage =
    (s.usage.ofAccount r.caller.account).filter
      fun u => start ≤ u.recordDate.date ∧ u.recordDate.date ≤ r.target := by
  rw [Session.windowFrom, Session.usageBetween_eq]

theorem mem_tracked_windowFrom {t : TrackingId} : t ∈ (s.windowFrom r start).tracked ↔
    ∃ row ∈ s.tracking.ofAccount r.caller.account,
      (start ≤ row.recordDate ∧ row.recordDate ≤ r.target) ∧
        ⟨row.trackingId, row.invoiceId, row.subscriptionId, row.unitType, row.recordDate⟩ = t := by
  rw [Session.windowFrom, SortedSet.mem_ofList, Session.trackingBetween_eq]
  simp [TrackingRow.identity, and_assoc]

theorem windowFrom_of_late (h : r.target < start) :
    (s.windowFrom r start).usage = [] ∧ (s.windowFrom r start).tracked.toList = [] := by
  have hout : ∀ {d : Date}, ¬ (start ≤ d ∧ d ≤ r.target) := fun hd => (hd.1.trans hd.2).not_gt h
  constructor
  · rw [usage_windowFrom, List.filter_eq_nil_iff]
    intro u _ hd
    exact hout (of_decide_eq_true hd)
  · refine List.eq_nil_iff_forall_not_mem.mpr fun t hm => ?_
    obtain ⟨row, -, hd, -⟩ := mem_tracked_windowFrom.mp hm
    exact hout hd

end Lookback.Window
