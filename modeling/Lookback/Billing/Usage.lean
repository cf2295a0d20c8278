import Lookback.Billing.Invoice
import Lookback.Calendar.Timestamp
import Lookback.SortedSet

/-!
Recorded usage, the rows that track what has been invoiced, and the identities of those rows.
-/
namespace Lookback

/-- An amount used at an instant. -/
structure UsageRecord where
  subscriptionId : SubscriptionId
  recordDate : Timestamp
  unitType : String
  amount : Float
  trackingId : String
deriving BEq

/-- The UTC day of the usage. -/
def UsageRecord.day (r : UsageRecord) : Date := r.recordDate.date

/-- What tells tracked usage apart. -/
structure TrackingId where
  trackingId : String
  invoiceId : InvoiceId
  subscriptionId : SubscriptionId
  unitType : String
  recordDate : Date
deriving DecidableEq

structure TrackingRow where
  id : Uuid
  trackingId : String
  invoiceId : InvoiceId
  subscriptionId : SubscriptionId
  unitType : String
  recordDate : Date
  createdDate : Timestamp
deriving DecidableEq

/-- A row without its own id and its date of creation. -/
def TrackingRow.identity (r : TrackingRow) : TrackingId :=
  ⟨r.trackingId, r.invoiceId, r.subscriptionId, r.unitType, r.recordDate⟩

instance : Ord TrackingId :=
  ⟨compareLex (compareOn TrackingId.trackingId) <|
    compareLex (compareOn TrackingId.invoiceId) <|
    compareLex (compareOn TrackingId.subscriptionId) <|
    compareLex (compareOn TrackingId.unitType) (compareOn TrackingId.recordDate)⟩

instance : Std.TransOrd TrackingId :=
  inferInstanceAs (Std.TransCmp (compareLex (compareOn TrackingId.trackingId) _))

end Lookback
