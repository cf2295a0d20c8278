import Lookback.Proofs.Window.Anomalies
import Lookback.Proofs.Window.History
import Lookback.Proofs.Window.Log

/-! What a call does and in which order: anomalies come first, no read is issued before its start
is found and logged, and the two reads of one interval end with the first round that decides. The log
shows what is logged in the same order. -/
namespace Lookback.Window

variable {settings : Settings} {sources : Sources} {r : Request} {bound : Int} {s : Date}
  {e : Error} {logged failed : List Event} {reads : List Issued}

namespace Request

/-- What is logged once a start is found. -/
def decision (r : Request) (bound : Int) (s : Date) : List Event :=
  (if r.target < r.first then [.firstAfterTarget r.caller r.first r.target] else []) ++
    [.computed r.caller bound r.first s r.target]

/-- The reads of a window that starts at a date. -/
def readsFrom (r : Request) (s : Date) : List Issued :=
  [⟨.usage, s, r.target, r.caller⟩, ⟨.tracking, s, r.target, r.caller⟩]

/-- What is logged once both reads have ended. -/
def failure {α : Type} (r : Request) : Except Error α → List Event
  | .ok _ => []
  | .error e => [.fetchFailed r.caller e]

theorem failure_map {α β : Type} (r : Request) (f : α → β) (x : Except Error α) :
    r.failure (x.map f) = r.failure x := by
  cases x <;> rfl

end Request

/-- The acts of a call that logs, then issues reads, then logs again. -/
def actsOf (logged : List Event) (reads : List Issued) (failed : List Event) : List Act :=
  logged.map .log ++ reads.map .issue ++ failed.map .log

theorem events_actsOf {x : Except Error UsageWindow} :
    Answer.events ⟨actsOf logged reads failed, x⟩ = logged ++ failed := by
  simp [Answer.events, actsOf, List.filterMap_map, Function.comp_def, Act.event?]

theorem log_actsOf {x : Except Error UsageWindow} (now : Nat → Log.Clock) :
    List.Forall₂ Event.ShownBy (logged ++ failed)
      (Answer.log now ⟨actsOf logged reads failed, x⟩) := by
  rw [Answer.log, events_actsOf]
  exact forall₂_shownBy

theorem read_of_error (h : (startUnder (settings.bound r.caller.tenant) r).result = .error e) :
    read settings sources r =
      ⟨actsOf ((r.unexpected (settings.bound r.caller.tenant)).map .anomaly) [] [], .error e⟩ := by
  simp only [read, h, startUnder_anomalies]
  simp [actsOf]

theorem read_of_start (h : (startUnder (settings.bound r.caller.tenant) r).result = .ok s) :
    read settings sources r =
      ⟨actsOf ((r.unexpected (settings.bound r.caller.tenant)).map .anomaly ++
          r.decision (settings.bound r.caller.tenant) s)
        (r.readsFrom s) (r.failure (fetch sources r s)), fetch sources r s⟩ := by
  simp only [read, h, startUnder_anomalies]
  cases fetch sources r s <;> by_cases ht : r.target < r.first <;>
    simp [actsOf, Request.decision, Request.readsFrom, Request.failure, ht]

/-- All that is logged first stands before every read. -/
theorem logged_before_issue {pre post : List Act} {i : Issued} {v : Event}
    (h : actsOf logged reads failed = pre ++ .issue i :: post) (hv : v ∈ logged) :
    .log v ∈ pre := by
  rw [actsOf, List.append_assoc] at h
  -- the read comes after all that is logged first, or is one of these acts, which are no reads
  rcases List.append_eq_append_iff.mp h with ⟨as, rfl, -⟩ | ⟨as, hl, hi⟩
  · exact List.mem_append_left _ (List.mem_map_of_mem hv)
  · cases as with
    | nil =>
      rw [List.append_nil] at hl
      exact hl ▸ List.mem_map_of_mem hv
    | cons x as =>
      cases hi
      have hm : Act.issue i ∈ logged.map Act.log := by simp [hl]
      simp at hm

theorem mem_reads_of_issue {pre post : List Act} {i : Issued}
    (h : actsOf logged reads failed = pre ++ .issue i :: post) : i ∈ reads := by
  have hm : Act.issue i ∈ actsOf logged reads failed := by simp [h]
  simpa [actsOf] using hm

/-- A call that warns of items and reads a window from a date on. Its reads end with the first
round that decides: by then both are complete, or one that failed is. The log has the warnings of the
items, then that of a first event after the target date if it is, then one record with the start and
the bound, and one of the error if the reads fail. -/
def Fetches (sources : Sources) (r : Request) (bound : Int) (warned : List InvoiceItem) (s : Date)
    (a : Answer) : Prop :=
  let usage := sources.usage s r.target r.caller
  let tracking := sources.tracking s r.target r.caller
  ∃ k found, Fetch.Decides usage tracking k found ∧
    a.acts = actsOf (warned.map .anomaly ++ r.decision bound s) (r.readsFrom s) (r.failure found) ∧
    (∀ now, List.Forall₂ Event.ShownBy
      (warned.map .anomaly ++ r.decision bound s ++ r.failure found) (a.log now)) ∧
    match found with
    | .ok (records, rows) =>
      usage.poll k = some (.ok records) ∧ tracking.poll k = some (.ok rows) ∧
        a.result = .ok ⟨s, records, .ofList (rows.map fun row =>
          ⟨row.trackingId, row.invoiceId, row.subscriptionId, row.unitType, row.recordDate⟩)⟩
    | .error e =>
      (usage.poll k = some (.error e) ∨ tracking.poll k = some (.error e)) ∧ a.result = .error e

theorem fetches_of_start (h : (startUnder (settings.bound r.caller.tenant) r).result = .ok s) :
    Fetches sources r (settings.bound r.caller.tenant)
      (r.unexpected (settings.bound r.caller.tenant)) s (read settings sources r) := by
  obtain ⟨k, hk⟩ := Fetch.exists_decides_join (sources.usage s r.target r.caller)
    (sources.tracking s r.target r.caller)
  rw [read_of_start h, fetch, Request.failure_map]
  refine ⟨k, _, hk, rfl, log_actsOf, ?_⟩
  cases hj : Fetch.join (sources.usage s r.target r.caller)
      (sources.tracking s r.target r.caller) with
  | ok found =>
    have hp := Fetch.round_eq_ok_iff.mp (hj ▸ hk.1)
    exact ⟨hp.1, hp.2, rfl⟩
  | error e => exact ⟨Fetch.poll_of_round_error (hj ▸ hk.1), rfl⟩

theorem computed_before_issue {warned : List InvoiceItem} {a : Answer} {pre post : List Act}
    {i : Issued} (h : Fetches sources r bound warned s a) (hi : a.acts = pre ++ .issue i :: post) :
    .log (.computed r.caller bound r.first i.start r.target) ∈ pre := by
  obtain ⟨k, found, -, hacts, -⟩ := h
  rw [hacts] at hi
  have hs : i.start = s := by
    rcases List.mem_cons.mp (mem_reads_of_issue hi) with rfl | hm
    · rfl
    · rw [List.mem_singleton.mp hm]
  have hc : .computed r.caller bound r.first s r.target ∈ r.decision bound s :=
    List.mem_append_right _ List.mem_cons_self
  rw [hs]
  exact logged_before_issue hi (List.mem_append_right _ hc)

/-- A call under a negative bound scans nothing and fetches from the first event on. Under another
bound it warns of the items of other kinds that its scan passes; if no start is found, that is all
it does and all that its log has, and otherwise it fetches from the start found. What a read starts
from is logged before it is issued. -/
theorem acts_of_read (settings : Settings) (sources : Sources) (r : Request) :
    let bound := settings.bound r.caller.tenant
    let a := read settings sources r
    (bound < 0 → Fetches sources r bound [] r.first a) ∧
    (0 ≤ bound → match (start r.first r.target r.items r.catalog bound.toNat).result with
      | .error e =>
        a = ⟨actsOf ((unexpected r.catalog r.items).map .anomaly) [] [], .error e⟩ ∧
          ∀ now, List.Forall₂ Event.ShownBy ((unexpected r.catalog r.items).map .anomaly) (a.log now)
      | .ok s => Fetches sources r bound
          (if r.target < r.first then [] else unexpected r.catalog r.items) s a) ∧
    ∀ pre i post, a.acts = pre ++ .issue i :: post →
      .log (.computed r.caller bound r.first i.start r.target) ∈ pre := by
  intro bound a
  refine ⟨fun hb => ?_, fun hb => ?_, fun pre i post hi => ?_⟩
  · have hw : r.unexpected bound = [] := if_pos (Or.inl hb)
    have hf : Fetches sources r bound (r.unexpected bound) r.first a :=
      fetches_of_start (by rw [startUnder_of_neg hb])
    rwa [hw] at hf
  · have hw : r.unexpected bound =
        if r.target < r.first then [] else unexpected r.catalog r.items := by
      simp only [Request.unexpected, not_lt.mpr hb, false_or]
    have hs : startUnder bound r = start r.first r.target r.items r.catalog bound.toNat :=
      startUnder_of_nonneg hb
    cases hr : (start r.first r.target r.items r.catalog bound.toNat).result with
    | ok s =>
      rw [← hw]
      exact fetches_of_start (hs ▸ hr)
    | error e =>
      have ht : ¬ r.target < r.first := not_lt.mpr (start_eq_error_iff.mp hr).2.1
      rw [if_neg ht] at hw
      rw [← hw]
      have ha : a = _ := read_of_error (hs ▸ hr)
      refine ⟨ha, fun now => ?_⟩
      have hlog : List.Forall₂ Event.ShownBy ((r.unexpected bound).map .anomaly ++ [])
          (a.log now) := by
        rw [ha]
        exact log_actsOf now
      rwa [List.append_nil] at hlog
  · cases hr : (startUnder bound r).result with
    | ok s => exact computed_before_issue (fetches_of_start hr) hi
    | error e =>
      have ha : a = _ := read_of_error hr
      rw [ha] at hi
      cases mem_reads_of_issue hi

namespace Sample

/-- Usage that fails in the second round, and tracking rows that would come in the sixth. -/
def failing : Sources where
  usage _ _ _ := ⟨1, .error (.usageSource "down")⟩
  tracking _ _ _ := ⟨5, .ok []⟩

end Sample

/-- The tracking rows are not waited for once usage has failed. The log has the bound, negative as it
is, and the first event's date as the start, and then the failure. -/
theorem acts_of_read_failing :
    ∃ k, Fetch.Decides (Sample.failing.usage Sample.january Sample.june ⟨8, 1⟩)
        (Sample.failing.tracking Sample.january Sample.june ⟨8, 1⟩) k
        (.error (.usageSource "down")) ∧
      (Sample.failing.tracking Sample.january Sample.june ⟨8, 1⟩).poll k = none ∧
      (read (.ofBase (-1)) Sample.failing Sample.request).acts =
        actsOf [.computed ⟨8, 1⟩ (-1) Sample.january Sample.january Sample.june]
          (Sample.request.readsFrom Sample.january)
          [.fetchFailed ⟨8, 1⟩ (.usageSource "down")] ∧
      ∃ l m : Log.Event,
        (read (.ofBase (-1)) Sample.failing Sample.request).log (fun _ => .ofMillis 0) = [l, m] ∧
        l.level = .debug ∧ l.fields.lookup "max_previous_periods" = some (.integer (-1)) ∧
        l.fields.lookup "optimized_start_date" = some (.text "2019-01-01") ∧
        m.level = .error ∧
        m.message = "Raw usage window fetch failed: Usage source read failed: down" := by
  obtain ⟨k, found, hk, hacts, hlog, -⟩ :=
    (acts_of_read (.ofBase (-1)) Sample.failing Sample.request).1 (by decide)
  obtain ⟨rfl, rfl⟩ := hk.unique (m := 1) ⟨rfl, by decide⟩
  have hshown : List.Forall₂ Event.ShownBy
      [.computed ⟨8, 1⟩ (-1) Sample.january Sample.january Sample.june,
        .fetchFailed ⟨8, 1⟩ (.usageSource "down")] _ := hlog fun _ => .ofMillis 0
  obtain ⟨l, _, hcomputed, hrest, hl⟩ := List.forall₂_cons_left_iff.mp hshown
  obtain ⟨m, _, hfailed, hnone, rfl⟩ := List.forall₂_cons_left_iff.mp hrest
  obtain rfl := List.forall₂_nil_left_iff.mp hnone
  have hjanuary : String.ofList Sample.january.text = "2019-01-01" := by decide +kernel
  cases hcomputed with
  | computed hdebug _ _ hbound _ hstart _ =>
    cases hfailed with
    | fetchFailed herror hmessage _ _ =>
      exact ⟨1, hk, rfl, hacts, l, m, hl, hdebug, hbound, hjanuary ▸ hstart, herror, hmessage⟩

end Lookback.Window
