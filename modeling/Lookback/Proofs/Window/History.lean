import Lookback.Proofs.Window.Read

/-! A window against the history of operations: it holds what was recorded for its account and is
dated in it, nothing else and nothing less. -/
namespace Lookback.Window

variable {α : Type} {settings : Settings} {s : Session} {o : Operation} {os : List Operation}
  {r : Request} {w : UsageWindow} {account : UInt64}

theorem Store.ofAccount_record (s : Store α) (a : UInt64) (x : α) :
    (s.record a x).ofAccount account = s.ofAccount account ++ if a = account then [x] else [] := by
  by_cases h : a = account <;> simp [record, ofAccount, h]

/-- The usage that an operation records for an account. -/
def Operation.usageFor? (account : UInt64) : Operation → Option UsageRecord
  | .recordUsage a u => if a = account then some u else none
  | _ => none

/-- The tracking row that an operation records for an account. -/
def Operation.trackingFor? (account : UInt64) : Operation → Option TrackingRow
  | .recordTracking a row => if a = account then some row else none
  | _ => none

namespace Session

/-- The session after some operations. -/
def after (s : Session) (os : List Operation) : Session :=
  os.foldl (fun s o => (s.step o).1) s

theorem usage_step : (s.step o).1.usage.ofAccount account =
    s.usage.ofAccount account ++ (o.usageFor? account).toList := by
  cases o with
  | recordUsage a u =>
    rw [step, Store.ofAccount_record, Operation.usageFor?]
    split <;> rfl
  | _ => simp [step, Operation.usageFor?]

theorem tracking_step : (s.step o).1.tracking.ofAccount account =
    s.tracking.ofAccount account ++ (o.trackingFor? account).toList := by
  cases o with
  | recordTracking a row =>
    rw [step, Store.ofAccount_record, Operation.trackingFor?]
    split <;> rfl
  | _ => simp [step, Operation.trackingFor?]

/-- What grows by single operations grows by all of them in order. -/
theorem view_after (view : Session → List α) (added : Operation → Option α)
    (h : ∀ s o, view (s.step o).1 = view s ++ (added o).toList) (s : Session)
    (os : List Operation) : view (s.after os) = view s ++ os.filterMap added := by
  induction os generalizing s with
  | nil => simp [after]
  | cons o os ih =>
    have hs := ih (s.step o).1
    rw [h, List.append_assoc] at hs
    rw [after, List.foldl_cons, ← after, hs]
    cases ho : added o <;> simp [ho]

theorem usage_after (settings : Settings) (os : List Operation) :
    ((new settings).after os).usage.ofAccount account = os.filterMap (·.usageFor? account) :=
  view_after (fun s => s.usage.ofAccount account) _ (fun _ _ => usage_step) _ os

theorem tracking_after (settings : Settings) (os : List Operation) :
    ((new settings).after os).tracking.ofAccount account = os.filterMap (·.trackingFor? account) :=
  view_after (fun s => s.tracking.ofAccount account) _ (fun _ _ => tracking_step) _ os

end Session

/-- A window read after any operations lies between the first event and the target date, holds the
usage recorded for its account on its days, in order and as often as it was recorded, and the
identity of every tracking row recorded for the account on its days, once: the row without its own
id and its date of creation. -/
theorem window_exact
    (h : (read settings ((Session.new settings).after os).sources r).result = .ok w) :
    ((r.first ≤ w.start ∧ w.start ≤ r.target) ∨ (r.target < r.first ∧ w.start = r.first)) ∧
    w.usage = (os.filterMap (·.usageFor? r.caller.account)).filter
      (fun u => w.start ≤ u.recordDate.date ∧ u.recordDate.date ≤ r.target) ∧
    (∀ t, t ∈ w.tracked ↔ ∃ row ∈ os.filterMap (·.trackingFor? r.caller.account),
      (w.start ≤ row.recordDate ∧ row.recordDate ≤ r.target) ∧
        ⟨row.trackingId, row.invoiceId, row.subscriptionId, row.unitType, row.recordDate⟩ = t) ∧
    w.tracked.toList.Nodup ∧
    (∀ u ∈ w.usage, ∀ row ∈ os.filterMap (·.trackingFor? r.caller.account),
      row.recordDate = u.recordDate.date →
        ⟨row.trackingId, row.invoiceId, row.subscriptionId, row.unitType, row.recordDate⟩ ∈
          w.tracked) ∧
    (r.target < r.first → w.usage = [] ∧ w.tracked.toList = []) := by
  obtain ⟨-, -, hs, hw⟩ := read_eq_ok_iff.mp h
  have hu := congrArg UsageWindow.usage hw.symm
  rw [usage_windowFrom, Session.usage_after] at hu
  have ht : ∀ t, t ∈ w.tracked ↔ ∃ row ∈ os.filterMap (·.trackingFor? r.caller.account),
      (w.start ≤ row.recordDate ∧ row.recordDate ≤ r.target) ∧
        ⟨row.trackingId, row.invoiceId, row.subscriptionId, row.unitType, row.recordDate⟩ = t := by
    intro t
    rw [← Session.tracking_after settings os, ← mem_tracked_windowFrom, hw]
  refine ⟨startUnder_bounds hs, hu, ht, w.tracked.nodup_toList, ?_, ?_⟩
  · intro u hm row hrow hd
    rw [hu, List.mem_filter] at hm
    have hdays := of_decide_eq_true hm.2
    exact (ht _).mpr ⟨row, hrow, hd ▸ hdays, rfl⟩
  · intro hlate
    have hout : r.target < w.start := by
      rcases startUnder_bounds hs with ⟨hf, -⟩ | ⟨-, hf⟩
      · exact hlate.trans_le hf
      · exact hlate.trans_eq hf.symm
    rw [← hw]
    exact windowFrom_of_late hout

namespace Sample

def used (date : Date) : UsageRecord :=
  ⟨⟨⟨0⟩⟩, ⟨date, 0, 0, by decide, by decide, by decide⟩, "calls", 1, "t-1"⟩

def row (id : BitVec 128) (date : Date) : TrackingRow :=
  ⟨⟨id⟩, "t-1", ⟨⟨0⟩⟩, ⟨⟨0⟩⟩, "calls", date, ⟨date, 0, 0, by decide, by decide, by decide⟩⟩

/-- Records for account 8, and one for account 9. -/
def operations : List Operation :=
  [.recordUsage 8 (used january), .recordUsage 8 (used june), .recordUsage 9 (used june),
    .recordTracking 8 (row 1 june), .recordTracking 8 (row 2 june),
    .recordTracking 8 (row 3 january), .recordUsage 8 (used december)]

def request : Request := ⟨january, june, items, catalog, ⟨8, 1⟩⟩

/-- What the two rows of June have in common. -/
def tracked : TrackingId := ⟨"t-1", ⟨⟨0⟩⟩, ⟨⟨0⟩⟩, "calls", june⟩

def window : UsageWindow := ⟨december, [used june, used december], .ofList [tracked]⟩

theorem read_december :
    (read (.ofBase 1) ((Session.new (.ofBase 1)).after operations).sources request).result =
      .ok window :=
  read_eq_ok_iff.mpr ⟨rfl, rfl, by decide +kernel, by rfl⟩

end Sample

/-- Two rows of one identity are in the window, what lies before December and account 9 are not. -/
theorem window_exact_december :
    (read (.ofBase 1) ((Session.new (.ofBase 1)).after Sample.operations).sources
      Sample.request).result = .ok Sample.window ∧
    [Sample.used Sample.june, Sample.used Sample.december] =
      (Sample.operations.filterMap (·.usageFor? 8)).filter
        (fun u => Sample.december ≤ u.recordDate.date ∧ u.recordDate.date ≤ Sample.june) ∧
    (∀ t, t ∈ Sample.window.tracked ↔ t = Sample.tracked) ∧
    Sample.window.tracked.toList.Nodup := by
  obtain ⟨-, hu, ht, hn, -⟩ := window_exact Sample.read_december
  have hrows : Sample.operations.filterMap (·.trackingFor? 8) =
      [Sample.row 1 Sample.june, Sample.row 2 Sample.june, Sample.row 3 Sample.january] := rfl
  refine ⟨Sample.read_december, hu, fun t => (ht t).trans ⟨?_, ?_⟩, hn⟩
  · rintro ⟨row, hrow, hdays, rfl⟩
    have hcases : row ∈ _ := hrows ▸ hrow
    simp only [List.mem_cons, List.not_mem_nil, or_false] at hcases
    rcases hcases with rfl | rfl | rfl
    · rfl
    · rfl
    · exact absurd hdays (by decide)
  · rintro rfl
    have hrow : Sample.row 1 Sample.june ∈ Sample.operations.filterMap (·.trackingFor? 8) :=
      hrows ▸ List.mem_cons_self
    exact ⟨_, hrow, by decide, rfl⟩

end Lookback.Window
