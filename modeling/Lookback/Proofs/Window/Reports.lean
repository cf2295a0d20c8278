import Lookback.Proofs.Window.Acts
import Lookback.Proofs.Window.Deletion
import Mathlib.Algebra.GroupWithZero.Nat

/-! Anomalies are reported once each: by a start, by a call whatever its reads come to, and by all
calls of a session together, which counts them. -/
namespace Lookback.Window

variable {settings : Settings} {sources : Sources} {r : Request} {s : Session} {o : Operation}
  {os : List Operation} {c : Catalog} {is pre post : List InvoiceItem} {i : InvoiceItem}
  {first target : Date} {n : Nat} {e : Error}

/-- A scan that ends at an item has reported what stands before it. -/
theorem start_of_unresolved (ht : first ≤ target) (h : ∀ j ∈ pre, ¬ Unresolved c j)
    (hi : i.isUsage) (he : resolve c i = .error e) :
    (start first target (pre ++ i :: post) c n).result = .error e ∧
      (start first target (pre ++ i :: post) c n).anomalies = pre.filter fun j => ¬ j.isUsage := by
  constructor
  · have hu : unresolved? c (pre ++ i :: post) = some e :=
      unresolved?_eq_some_iff.mpr ⟨pre, i, post, rfl, h, hi, he⟩
    exact start_eq_error_iff.mpr ⟨by simp, ht, Or.inl hu⟩
  · have hu : Unresolved c i := unresolved_iff.mpr ⟨hi, e, he⟩
    rw [start_anomalies_of_le ht, unexpected_append h, unexpected_cons_of_unresolved hu,
      List.append_nil]

/-- A scan of items that all resolve reports all items of other kinds, also if a date is out of
range. -/
theorem start_of_resolved (ht : first ≤ target) (h : ∀ j ∈ is, ¬ Unresolved c j) :
    ((∃ s, (start first target is c n).result = .ok s) ∨
        ∃ d p, (start first target is c n).result = .error (.dateOutOfRange d p n)) ∧
      (start first target is c n).anomalies = is.filter fun j => ¬ j.isUsage := by
  constructor
  · cases hr : (start first target is c n).result with
    | ok s => exact Or.inl ⟨s, rfl⟩
    | error e =>
      obtain ⟨-, -, hu | ⟨-, he⟩⟩ := start_eq_error_iff.mp hr
      · cases hu.symm.trans (unresolved?_eq_none_iff.mpr h)
      · obtain ⟨p, b, -, -, rfl⟩ := earliest_billed_eq_error_iff.mp he
        exact Or.inr ⟨b, p, rfl⟩
  · rw [start_anomalies_of_le ht, unexpected_of_resolved h]

theorem filterMap_anomaly (is : List InvoiceItem) :
    (is.map Event.anomaly).filterMap Event.anomaly? = is := by
  simp [List.filterMap_map, Function.comp_def, Event.anomaly?]

theorem filterMap_decision {bound : Int} {d : Date} :
    (r.decision bound d).filterMap Event.anomaly? = [] := by
  by_cases h : r.target < r.first <;> simp [Request.decision, h, Event.anomaly?]

theorem filterMap_failure {α : Type} (x : Except Error α) :
    (r.failure x).filterMap Event.anomaly? = [] := by
  cases x <;> rfl

/-- The reads of a call report nothing more, whatever their sources do. -/
theorem read_anomalies (settings : Settings) (sources : Sources) (r : Request) :
    (read settings sources r).anomalies =
      (startUnder (settings.bound r.caller.tenant) r).anomalies := by
  rw [startUnder_anomalies]
  cases hr : (startUnder (settings.bound r.caller.tenant) r).result with
  | error e =>
    rw [read_of_error hr, Answer.anomalies, events_actsOf, List.append_nil, filterMap_anomaly]
  | ok d =>
    rw [read_of_start hr, Answer.anomalies, events_actsOf, List.filterMap_append,
      List.filterMap_append, filterMap_anomaly, filterMap_decision, filterMap_failure,
      List.append_nil, List.append_nil]

def Operation.request? : Operation → Option Request
  | .window r => some r
  | _ => none

/-- The events on the way to an output. -/
def Output.events : Output → List Event
  | .window a _ => a.events
  | _ => []

namespace Session

/-- The log of some operations. -/
def log (now : Nat → Log.Clock) (s : Session) (os : List Operation) : List Log.Event :=
  logOf now ((s.run os).flatMap Output.events)

/-- The anomalies among the events of some operations. -/
def warned (s : Session) (os : List Operation) : List InvoiceItem :=
  ((s.run os).flatMap Output.events).filterMap Event.anomaly?

theorem warned_cons : s.warned (o :: os) =
    (s.step o).2.events.filterMap Event.anomaly? ++ (s.step o).1.warned os := by
  rw [warned, run_cons, List.flatMap_cons, List.filterMap_append, warned]

/-- The warnings of items in the log are those of the anomalies, in order. -/
theorem forall₂_warned {now : Nat → Log.Clock} :
    List.Forall₂ (fun i l => Event.ShownBy (.anomaly i) l) (s.warned os)
      ((s.log now os).filter fun l => l.WarnsOfItem) :=
  forall₂_warnings

theorem settings_step : (s.step o).1.settings = s.settings := by
  cases o <;> rfl

theorem warned_step : (s.step o).2.events.filterMap Event.anomaly? =
    o.request?.toList.flatMap fun r =>
      (startUnder (s.settings.bound r.caller.tenant) r).anomalies := by
  cases o with
  | window r =>
    rw [Operation.request?, Option.toList_some, List.flatMap_singleton]
    exact read_anomalies s.settings s.sources r
  | _ => rfl

theorem reported_step : (s.step o).1.reported =
    s.reported + ((s.step o).2.events.filterMap Event.anomaly?).length.toUInt64 := by
  cases o with
  | window r => rfl
  | _ => exact (UInt64.add_zero s.reported).symm

theorem warned_run (s : Session) (os : List Operation) : s.warned os =
    (os.filterMap Operation.request?).flatMap fun r =>
      (startUnder (s.settings.bound r.caller.tenant) r).anomalies := by
  induction os generalizing s with
  | nil => rfl
  | cons o os ih =>
    rw [warned_cons, warned_step, ih, settings_step, ← List.flatMap_append]
    cases ho : o.request? <;> simp [ho]

theorem reported_after (s : Session) (os : List Operation) :
    (s.after os).reported = s.reported + (s.warned os).length.toUInt64 := by
  induction os generalizing s with
  | nil => exact (UInt64.add_zero s.reported).symm
  | cons o os ih =>
    rw [after_cons, ih, reported_step, warned_cons, List.length_append, UInt64.add_assoc]
    congr 1
    -- both counts wrap around alike
    exact (UInt64.ofNat_add _ _).symm

end Session

/-- A start without items or with the first event after the target date reports nothing. Otherwise
it reports each item of another kind that stands before the first item that does not resolve, or
each in the list if all resolve. A call reports what its start does and nothing under a negative
bound. The calls of a session together report these items one after the other, each in one event,
which the log shows as one warning, and the session counts them in 64 bits. -/
theorem anomalies_reported_once :
    (∀ (first target : Date) (is : List InvoiceItem) (c : Catalog) (n : Nat),
      let a := start first target is c n
      (is = [] ∨ target < first → a.anomalies = []) ∧
      (first ≤ target → ∀ pre i post e, is = pre ++ i :: post → (∀ j ∈ pre, ¬ Unresolved c j) →
        i.isUsage → resolve c i = .error e →
        a.result = .error e ∧ a.anomalies = pre.filter fun j => ¬ j.isUsage) ∧
      (first ≤ target → (∀ j ∈ is, ¬ Unresolved c j) →
        ((∃ s, a.result = .ok s) ∨ ∃ d p, a.result = .error (.dateOutOfRange d p n)) ∧
        a.anomalies = is.filter fun j => ¬ j.isUsage)) ∧
    (∀ (settings : Settings) (sources : Sources) (r : Request),
      let a := read settings sources r
      let bound := settings.bound r.caller.tenant
      a.anomalies = (startUnder bound r).anomalies ∧ (bound < 0 → a.anomalies = [])) ∧
    ∀ (settings : Settings) (os : List Operation) (now : Nat → Log.Clock),
      let s := Session.new settings
      let warnings := (s.log now os).filter fun l => l.WarnsOfItem
      let reports := (os.filterMap Operation.request?).map fun r =>
        (startUnder (settings.bound r.caller.tenant) r).anomalies
      s.warned os = reports.flatten ∧
      (s.after os).reported.toNat = (reports.map List.length).sum % 2 ^ 64 ∧
      (s.after os).reported.toNat = (s.warned os).length % 2 ^ 64 ∧
      List.Forall₂ (fun i l => Event.ShownBy (.anomaly i) l) reports.flatten warnings ∧
      (s.after os).reported.toNat = warnings.length % 2 ^ 64 := by
  refine ⟨fun first target is c n => ⟨?_, ?_, start_of_resolved⟩,
    fun settings sources r => ⟨?_, ?_⟩, fun settings os now => ?_⟩
  · intro h
    rw [start, if_pos h]
  · rintro ht pre i post e rfl hpre hi he
    exact start_of_unresolved ht hpre hi he
  · exact read_anomalies settings sources r
  · intro hb
    rw [read_anomalies, startUnder_of_neg hb]
  · intro s warnings reports
    have hwarned : s.warned os = reports.flatten := s.warned_run os
    have hcount : (s.after os).reported.toNat = (s.warned os).length % 2 ^ 64 := by
      have hnew : s.reported = 0 := rfl
      rw [Session.reported_after, hnew, UInt64.zero_add]
      exact UInt64.toNat_ofNat'
    have hshown : List.Forall₂ (fun i l => Event.ShownBy (.anomaly i) l) (s.warned os) warnings :=
      Session.forall₂_warned
    refine ⟨hwarned, ?_, hcount, hwarned ▸ hshown, ?_⟩
    · rw [hcount, hwarned, List.length_flatten]
    · rw [hcount, hshown.length_eq]

namespace Sample

def tax : InvoiceItem := { item "taxes" june with kind := .tax }

def fixed : InvoiceItem := { item "fees" june with kind := .fixed }

/-- The catalog has no texts. -/
def interrupted : List InvoiceItem :=
  [tax, item "calls" june, fixed, item "texts" june, tax]

end Sample

/-- The second tax is not reached, and each of two calls warns of the other two items. -/
theorem anomalies_reported_once_interrupted :
    let calls : List Operation :=
      [.window { Sample.request with items := Sample.interrupted }, .failUsage (some ⟨"down", 1⟩),
        .window { Sample.request with items := Sample.interrupted }]
    let warnings := ((Session.new (.ofBase 1)).log (fun _ => .ofMillis 0) calls).filter
      fun l => l.WarnsOfItem
    (start Sample.january Sample.june Sample.interrupted Sample.catalog 1).anomalies =
      [Sample.tax, Sample.fixed] ∧
    ((Session.new (.ofBase 1)).after calls).reported.toNat = 4 ∧
    warnings.length % 2 ^ 64 = 4 ∧
    warnings.map Log.Event.message =
      ["Expected a usage invoice item, got TAX", "Expected a usage invoice item, got FIXED",
        "Expected a usage invoice item, got TAX", "Expected a usage invoice item, got FIXED"] := by
  intro calls warnings
  obtain ⟨hstart, -, hrun⟩ := anomalies_reported_once
  have hpre : ∀ j ∈ [Sample.tax, Sample.item "calls" Sample.june, Sample.fixed],
      ¬ Unresolved Sample.catalog j := by decide
  have hexit := (hstart Sample.january Sample.june Sample.interrupted Sample.catalog 1).2.1
    (by decide) [Sample.tax, Sample.item "calls" Sample.june, Sample.fixed] _ [Sample.tax] _ rfl hpre
    rfl rfl
  obtain ⟨-, hsum, -, -, hlength⟩ := hrun (.ofBase 1) calls fun _ => .ofMillis 0
  have hfour : ((Session.new (.ofBase 1)).after calls).reported.toNat = 4 :=
    hsum.trans (by decide +kernel)
  exact ⟨hexit.2, hfour, hlength.symm.trans hfour, by decide +kernel⟩

end Lookback.Window
