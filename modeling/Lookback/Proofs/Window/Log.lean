import Lookback.Window.Read
import Mathlib.Data.List.Forall2

/-! The log has one record for each event, with the level, the message and the fields that the event
calls for. -/
namespace Lookback

namespace Log.Event

/-- A record made on behalf of a caller at some time. -/
structure OnBehalfOf (c : Caller) (l : Event) : Prop where
  account : l.fields.lookup "account_record_id" = some (.integer c.account.toNat)
  tenant : l.fields.lookup "tenant_record_id" = some (.integer c.tenant.toNat)
  timestamp : ∃ now : Clock, l.fields.lookup "timestamp" = some (.text (String.ofList now.text))

/-- A warning that names an invoice item. -/
def WarnsOfItem (l : Event) : Prop := l.level = .warn ∧ (l.fields.lookup "item_id").isSome

instance : DecidablePred WarnsOfItem := fun _ => inferInstanceAs (Decidable (_ ∧ _))

theorem onBehalfOf_forCaller {level : Level} {c : Caller} {now : Clock}
    {fields : List (String × Value)} {message : String} :
    (forCaller level c now fields message).OnBehalfOf c where
  account := rfl
  tenant := rfl
  timestamp := ⟨now, rfl⟩

end Log.Event

namespace Window

variable {v : Event} {vs : List Event} {t : Log.Clock} {now : Nat → Log.Clock}

/-- What a record of the log tells of an event. -/
inductive Event.ShownBy : Event → Log.Event → Prop
  | anomaly {i : InvoiceItem} {l : Log.Event} (level : l.level = .warn)
      (message : l.message = s!"Expected a usage invoice item, got {i.kind.label}")
      (item : l.fields.lookup "item_id" = some (.text (String.ofList i.id.uuid.text)))
      (invoice : l.fields.lookup "invoice_id" = some (.text (String.ofList i.invoiceId.uuid.text)))
      (subscription : l.fields.lookup "subscription_id" =
        i.subscriptionId.map fun s => .text (String.ofList s.uuid.text))
      (kind : l.fields.lookup "item_type" = some (.text i.kind.label)) : ShownBy (.anomaly i) l
  | firstAfterTarget {c : Caller} {first target : Date} {l : Log.Event} (level : l.level = .warn)
      (message : l.message = "First usage event is after the target date")
      (caller : l.OnBehalfOf c)
      (firstDate : l.fields.lookup "first_event_start_date" =
        some (.text (String.ofList first.text)))
      (targetDate : l.fields.lookup "target_date" = some (.text (String.ofList target.text))) :
      ShownBy (.firstAfterTarget c first target) l
  | computed {c : Caller} {bound : Int} {first start target : Date} {l : Log.Event}
      (level : l.level = .debug) (message : l.message = "Computed raw usage window")
      (caller : l.OnBehalfOf c)
      (signedBound : l.fields.lookup "max_previous_periods" = some (.integer bound))
      (firstDate : l.fields.lookup "first_event_start_date" =
        some (.text (String.ofList first.text)))
      (startDate : l.fields.lookup "optimized_start_date" =
        some (.text (String.ofList start.text)))
      (targetDate : l.fields.lookup "target_date" = some (.text (String.ofList target.text))) :
      ShownBy (.computed c bound first start target) l
  | fetchFailed {c : Caller} {e : Error} {l : Log.Event} (level : l.level = .error)
      (message : l.message = s!"Raw usage window fetch failed: {e.message}")
      (caller : l.OnBehalfOf c)
      (error : l.fields.lookup "error" = some (.text e.message)) : ShownBy (.fetchFailed c e) l

theorem shownBy_toLog (t : Log.Clock) (v : Event) : v.ShownBy (v.toLog t) := by
  cases v with
  | anomaly i =>
    refine .anomaly rfl rfl rfl rfl ?_ ?_ <;> cases hs : i.subscriptionId <;>
      simp [Event.toLog, hs, uuidValue, List.lookup_cons]
  | firstAfterTarget c first target =>
    exact .firstAfterTarget rfl rfl Log.Event.onBehalfOf_forCaller rfl rfl
  | computed c bound first start target =>
    exact .computed rfl rfl Log.Event.onBehalfOf_forCaller rfl rfl rfl rfl
  | fetchFailed c e => exact .fetchFailed rfl rfl Log.Event.onBehalfOf_forCaller rfl

/-- Among all records only those of anomalies are warnings that name an item. -/
theorem warnsOfItem_toLog_iff : (v.toLog t).WarnsOfItem ↔ ∃ i, v = .anomaly i := by
  cases v <;>
    simp [Event.toLog, Log.Event.WarnsOfItem, Log.forCaller, Log.failure, List.lookup_cons]

/-- The log of some events, of which event `k` happens at the time `now k`. -/
def logOf (now : Nat → Log.Clock) (vs : List Event) : List Log.Event :=
  vs.mapIdx fun k v => v.toLog (now k)

def Answer.log (now : Nat → Log.Clock) (a : Answer) : List Log.Event := logOf now a.events

theorem forall₂_toLog :
    List.Forall₂ (fun v l => ∃ t : Log.Clock, v.toLog t = l) vs (logOf now vs) := by
  refine List.forall₂_iff_get.mpr ⟨by simp [logOf], fun k hk _ => ⟨now k, ?_⟩⟩
  simp [logOf]

theorem forall₂_shownBy : List.Forall₂ Event.ShownBy vs (logOf now vs) := by
  refine forall₂_toLog.imp ?_
  rintro v _ ⟨t, rfl⟩
  exact shownBy_toLog t v

/-- The warnings of items in a log are those of the anomalies, in order. -/
theorem forall₂_warnings :
    List.Forall₂ (fun i l => Event.ShownBy (.anomaly i) l) (vs.filterMap Event.anomaly?)
      ((logOf now vs).filter fun l => l.WarnsOfItem) := by
  rw [← List.filterMap_eq_filter]
  refine List.rel_filterMap ?_ forall₂_toLog
  rintro v _ ⟨t, rfl⟩
  cases v with
  | anomaly i =>
    have hw : (Event.toLog t (.anomaly i)).WarnsOfItem := warnsOfItem_toLog_iff.mpr ⟨i, rfl⟩
    rw [Option.guard, if_pos (decide_eq_true hw)]
    exact .some (shownBy_toLog t (.anomaly i))
  | _ =>
    rw [Option.guard, if_neg (by simp [warnsOfItem_toLog_iff])]
    exact .none

end Window

end Lookback
