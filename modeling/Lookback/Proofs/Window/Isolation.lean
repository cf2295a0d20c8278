import Lookback.Proofs.Window.Acts

/-! A window depends on its tenant only through the bound, and on its account only through what is
recorded for it. -/
namespace Lookback.Window

variable {settings settings' : Settings} {sources sources' : Sources} {r : Request} {c : Caller}
  {s s' : Session} {start stop : Date}

/-- The event on behalf of another caller. -/
def Event.onBehalf (c : Caller) : Event → Event
  | .anomaly i => .anomaly i
  | .firstAfterTarget _ first target => .firstAfterTarget c first target
  | .computed _ bound first start target => .computed c bound first start target
  | .fetchFailed _ e => .fetchFailed c e

/-- The act on behalf of another caller. -/
def Act.onBehalf (c : Caller) : Act → Act
  | .log e => .log (e.onBehalf c)
  | .issue i => .issue { i with caller := c }

/-- The answer to another caller. -/
def Answer.onBehalf (c : Caller) (a : Answer) : Answer := ⟨a.acts.map (Act.onBehalf c), a.result⟩

theorem Act.event?_onBehalf (c : Caller) (x : Act) :
    (x.onBehalf c).event?.bind Event.anomaly? = x.event?.bind Event.anomaly? := by
  rcases x with (_ | _ | _ | _) | _ <;> rfl

theorem Answer.anomalies_onBehalf (c : Caller) (a : Answer) :
    (a.onBehalf c).anomalies = a.anomalies := by
  simp only [anomalies, events, onBehalf, List.filterMap_filterMap, List.filterMap_map]
  exact List.filterMap_congr fun x _ => x.event?_onBehalf c

namespace Request

variable {bound : Int}

theorem decision_onBehalf : { r with caller := c }.decision bound start =
    (r.decision bound start).map (Event.onBehalf c) := by
  by_cases h : r.target < r.first <;> simp [decision, h, Event.onBehalf]

theorem failure_onBehalf {α : Type} (x : Except Error α) : { r with caller := c }.failure x =
    (r.failure x).map (Event.onBehalf c) := by
  cases x <;> rfl

end Request

theorem actsOf_onBehalf (logged failed : List Event) (reads : List Issued) :
    (actsOf logged reads failed).map (Act.onBehalf c) =
      actsOf (logged.map (Event.onBehalf c)) (reads.map fun i => { i with caller := c })
        (failed.map (Event.onBehalf c)) := by
  simp [actsOf, Act.onBehalf, Function.comp_def]

theorem map_anomaly_onBehalf (is : List InvoiceItem) :
    (is.map Event.anomaly).map (Event.onBehalf c) = is.map Event.anomaly := by
  rw [List.map_map]
  rfl

/-- A call for another caller is the same call if the bound is the same and the sources answer
alike. -/
theorem read_onBehalf (hb : settings'.bound c.tenant = settings.bound r.caller.tenant)
    (hu : ∀ start stop, sources'.usage start stop c = sources.usage start stop r.caller)
    (ht : ∀ start stop, sources'.tracking start stop c = sources.tracking start stop r.caller) :
    read settings' sources' { r with caller := c } = (read settings sources r).onBehalf c := by
  have hs : startUnder (settings'.bound c.tenant) { r with caller := c } =
      startUnder (settings.bound r.caller.tenant) r := hb ▸ rfl
  have hf : ∀ start, fetch sources' { r with caller := c } start = fetch sources r start := by
    intro start
    simp only [fetch, hu, ht]
  have hq : { r with caller := c }.unexpected (settings'.bound c.tenant) =
      r.unexpected (settings.bound r.caller.tenant) := hb ▸ rfl
  cases hr : (startUnder (settings.bound r.caller.tenant) r).result with
  | error e =>
    rw [read_of_error hr, read_of_error (hs ▸ hr), hq, Answer.onBehalf, actsOf_onBehalf,
      map_anomaly_onBehalf]
    rfl
  | ok start =>
    rw [read_of_start hr, read_of_start (hs ▸ hr), hq, hf, hb, Answer.onBehalf, actsOf_onBehalf,
      List.map_append, map_anomaly_onBehalf, Request.decision_onBehalf, Request.failure_onBehalf]
    rfl

theorem usage_of_session (h : s'.usage.ofAccount c.account = s.usage.ofAccount r.caller.account)
    (hf : s'.usageFault = s.usageFault) :
    s'.sources.usage start stop c = s.sources.usage start stop r.caller := by
  simp only [Session.sources, Session.usageBetween, Store.read, h, hf]

theorem tracking_of_session
    (h : s'.tracking.ofAccount c.account = s.tracking.ofAccount r.caller.account)
    (hf : s'.trackingFault = s.trackingFault) :
    s'.sources.tracking start stop c = s.sources.tracking start stop r.caller := by
  simp only [Session.sources, Session.trackingBetween, Store.read, h, hf]

/-- Two calls in any two sessions have the same result, the same anomalies and the same acts on
behalf of their callers if their tenants have the same bound, the same is recorded for their
accounts and the sources fail alike, if at all. What is recorded for others, the base bound and the
overrides of others do not matter. For one caller the two answers are the same. -/
theorem read_of_same_account (s s' : Session) (r : Request) (c : Caller)
    (hu : s'.usage.ofAccount c.account = s.usage.ofAccount r.caller.account)
    (ht : s'.tracking.ofAccount c.account = s.tracking.ofAccount r.caller.account)
    (hb : s'.settings.bound c.tenant = s.settings.bound r.caller.tenant)
    (hfu : s'.usageFault = s.usageFault) (hft : s'.trackingFault = s.trackingFault) :
    let a := read s.settings s.sources r
    let a' := read s'.settings s'.sources { r with caller := c }
    a'.result = a.result ∧ a'.anomalies = a.anomalies ∧ a'.acts = a.acts.map (Act.onBehalf c) ∧
      (c = r.caller → a' = a) := by
  intro a a'
  have ha : a' = a.onBehalf c := read_onBehalf hb (fun _ _ => usage_of_session hu hfu)
    fun _ _ => tracking_of_session ht hft
  refine ⟨by rw [ha]; rfl, by rw [ha, Answer.anomalies_onBehalf], by rw [ha]; rfl, ?_⟩
  rintro rfl
  rw [ha]
  exact (read_onBehalf rfl (fun _ _ => rfl) fun _ _ => rfl).symm

namespace Sample

/-- What is recorded for account 8 in `operations`, here for account 1 and among other records of
account 8. Tenant 8 has the bound of tenant 1 there, and tenant 1 has another. -/
def swapped : Session :=
  (Session.new (((Settings.ofBase 5).withOverride 1 (-1)).withOverride 8 1)).after
    [.recordUsage 8 (used december), .recordUsage 1 (used january), .recordUsage 1 (used june),
      .recordTracking 1 (row 1 june), .recordTracking 8 (row 4 june), .recordTracking 1 (row 2 june),
      .recordTracking 1 (row 3 january), .recordUsage 1 (used december)]

end Sample

theorem read_of_same_account_swapped :
    Sample.swapped.usage.ofAccount 1 =
      ((Session.new (.ofBase 1)).after Sample.operations).usage.ofAccount 8 ∧
    Sample.swapped.settings.bound 8 = (Settings.ofBase 1).bound 1 ∧
    (read Sample.swapped.settings Sample.swapped.sources
      { Sample.request with caller := ⟨1, 8⟩ }).result = .ok Sample.window := by
  have h := read_of_same_account ((Session.new (.ofBase 1)).after Sample.operations)
    Sample.swapped Sample.request ⟨1, 8⟩ rfl rfl (by decide) rfl rfl
  exact ⟨rfl, by decide, h.1.trans Sample.read_december⟩

end Lookback.Window
