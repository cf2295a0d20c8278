import Lookback.Settings
import Lookback.Window.Event
import Lookback.Window.Fetch
import Lookback.Window.Start
import Lookback.Billing.Usage

/-!
Reading a usage window: its start is found first, then usage and tracking rows are read together.
-/
namespace Lookback

/-- The recorded usage from a start date on, and the identities of what is tracked already. -/
structure UsageWindow where
  start : Date
  usage : List UsageRecord
  tracked : SortedSet TrackingId

instance : BEq UsageWindow :=
  ⟨fun v w => v.start == w.start && v.usage == w.usage && v.tracked == w.tracked⟩

namespace Window

/-- What a window is read for. -/
structure Request where
  first : Date
  target : Date
  items : List InvoiceItem
  catalog : Catalog
  caller : Caller

/-- Where usage and tracking rows between two dates are read from. -/
structure Sources where
  usage : Date → Date → Caller → Fetch (List UsageRecord)
  tracking : Date → Date → Caller → Fetch (List TrackingRow)

inductive Source
  | usage | tracking
deriving DecidableEq

/-- A read that was issued. -/
structure Issued where
  source : Source
  start : Date
  stop : Date
  caller : Caller
deriving DecidableEq

/-- What is done on the way to an answer: an event is logged, or a read is issued. -/
inductive Act
  | log (e : Event)
  | issue (i : Issued)
deriving DecidableEq

def Act.event? : Act → Option Event
  | .log e => some e
  | .issue _ => none

def Act.issued? : Act → Option Issued
  | .log _ => none
  | .issue i => some i

structure Answer where
  acts : List Act
  result : Except Error UsageWindow

namespace Answer

def events (a : Answer) : List Event := a.acts.filterMap Act.event?

def issued (a : Answer) : List Issued := a.acts.filterMap Act.issued?

def anomalies (a : Answer) : List InvoiceItem := a.events.filterMap Event.anomaly?

end Answer

/-- The start of the window under a bound. A negative bound passes the items over. -/
def startUnder (bound : Int) (r : Request) : Reported Date :=
  if bound < 0 then ⟨[], .ok r.first⟩
  else start r.first r.target r.items r.catalog bound.toNat

/-- Reads the window that starts at a date. -/
def fetch (sources : Sources) (r : Request) (s : Date) : Except Error UsageWindow :=
  (Fetch.join (sources.usage s r.target r.caller) (sources.tracking s r.target r.caller)).map
    fun (usage, rows) => ⟨s, usage, .ofList (rows.map TrackingRow.identity)⟩

def read (settings : Settings) (sources : Sources) (r : Request) : Answer :=
  let bound := settings.bound r.caller.tenant
  let found := startUnder bound r
  let anomalies := found.anomalies.map fun i => Act.log (.anomaly i)
  match found.result with
  | .error e => ⟨anomalies, .error e⟩
  | .ok s =>
    let late :=
      if r.target < r.first then [.log (.firstAfterTarget r.caller r.first r.target)] else []
    let result := fetch sources r s
    let failed := match result with
      | .ok _ => []
      | .error e => [.log (.fetchFailed r.caller e)]
    ⟨anomalies ++ late ++ [.log (.computed r.caller bound r.first s r.target),
      .issue ⟨.usage, s, r.target, r.caller⟩, .issue ⟨.tracking, s, r.target, r.caller⟩] ++ failed,
      result⟩

end Window

end Lookback
