import Lookback.Log.Event
import Lookback.Window.Error

/-!
What happens while a usage window is read, and how the log shows it.
-/
namespace Lookback.Window

inductive Event
  | anomaly (item : InvoiceItem)
  | firstAfterTarget (caller : Caller) (first target : Date)
  | computed (caller : Caller) (bound : Int) (first start target : Date)
  | fetchFailed (caller : Caller) (e : Error)
deriving DecidableEq

def Event.anomaly? : Event → Option InvoiceItem
  | .anomaly i => some i
  | _ => none

def dateValue (d : Date) : Log.Value := .text (String.ofList d.text)

def uuidValue (u : Uuid) : Log.Value := .text (String.ofList u.text)

def Event.toLog (now : Log.Clock) : Event → Log.Event
  | .anomaly i =>
    ⟨.warn, s!"Expected a usage invoice item, got {i.kind.label}",
      [("item_id", uuidValue i.id.uuid), ("invoice_id", uuidValue i.invoiceId.uuid)] ++
      (i.subscriptionId.map fun s => ("subscription_id", uuidValue s.uuid)).toList ++
      [("item_type", .text i.kind.label)]⟩
  | .firstAfterTarget c first target =>
    Log.forCaller .warn c now
      [("first_event_start_date", dateValue first), ("target_date", dateValue target)]
      "First usage event is after the target date"
  | .computed c bound first start target =>
    Log.forCaller .debug c now
      [("max_previous_periods", .integer bound), ("first_event_start_date", dateValue first),
        ("optimized_start_date", dateValue start), ("target_date", dateValue target)]
      "Computed raw usage window"
  | .fetchFailed c e => Log.failure c now "Raw usage window fetch" e.message

end Lookback.Window
