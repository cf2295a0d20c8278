import Lookback.Billing.Catalog
import Lookback.Billing.PeriodName
import Lookback.Billing.Usage
import Lookback.Calendar.Printing
import Lookback.Calendar.Reading
import Lookback.Identifier.UuidText
import Lookback.Json.Record

/-!
The JSON forms of billing data.
-/
namespace Lookback.Wire

open Json

def uuid : Codec Uuid :=
  refined "a formatted UUID string"
    (fun cs => (Uuid.parse cs).mapError fun e => s!"UUID parsing failed: {e.message}") Uuid.text

def date : Codec Date :=
  refined "a formatted date string" (fun cs => (Date.parse cs).mapError (·.message)) Date.text

def timestamp : Codec Timestamp :=
  refined "an RFC 3339 formatted date and time string"
    (fun cs => (Timestamp.parse cs).mapError (·.message)) Timestamp.text

def invoiceId : Codec InvoiceId := uuid.map InvoiceId.mk InvoiceId.uuid

def itemId : Codec ItemId := uuid.map ItemId.mk ItemId.uuid

def subscriptionId : Codec SubscriptionId := uuid.map SubscriptionId.mk SubscriptionId.uuid

def period : Codec Period := variant Period.all Period.recordName

def itemKind : Codec ItemKind := variant ItemKind.all ItemKind.name

def usageDefinition : Codec UsageDefinition :=
  record "UsageDefinition"
    (.cons "name" text none <| .cons "billing_period" period none .nil)
    (fun (name, period, ()) => ⟨name, period⟩)
    (fun d => (d.name, d.period, ()))

def caller : Codec Caller :=
  record "CallContext"
    (.cons "account_record_id" word64 none <| .cons "tenant_record_id" word64 none .nil)
    (fun (account, tenant, ()) => ⟨account, tenant⟩)
    (fun c => (c.account, c.tenant, ()))

def invoiceItem : Codec InvoiceItem :=
  record "InvoiceItem"
    (.cons "id" itemId none <| .cons "invoice_id" invoiceId none <|
      .cons "subscription_id" (optional subscriptionId) (some none) <|
      .cons "item_type" itemKind none <| .cons "usage_name" (optional text) (some none) <|
      .cons "start_date" date none <| .cons "end_date" date none .nil)
    (fun (id, invoiceId, subscriptionId, kind, usageName, startDate, endDate, ()) =>
      ⟨id, invoiceId, subscriptionId, kind, usageName, startDate, endDate⟩)
    (fun i => (i.id, i.invoiceId, i.subscriptionId, i.kind, i.usageName, i.startDate, i.endDate, ()))

/-- Usage records, given how amounts are read and written. -/
def usageRecordWith (amount : Codec Float) : Codec UsageRecord :=
  record "RawUsageRecord"
    (.cons "subscription_id" subscriptionId none <| .cons "record_date" timestamp none <|
      .cons "unit_type" text none <| .cons "amount" amount none <|
      .cons "tracking_id" text none .nil)
    (fun (subscriptionId, recordDate, unitType, amount, trackingId, ()) =>
      ⟨subscriptionId, recordDate, unitType, amount, trackingId⟩)
    (fun r => (r.subscriptionId, r.recordDate, r.unitType, r.amount, r.trackingId, ()))

def usageRecord : Codec UsageRecord := usageRecordWith double

def trackingId : Codec TrackingId :=
  record "TrackingRecordId"
    (.cons "tracking_id" text none <| .cons "invoice_id" invoiceId none <|
      .cons "subscription_id" subscriptionId none <| .cons "unit_type" text none <|
      .cons "record_date" date none .nil)
    (fun (trackingId, invoiceId, subscriptionId, unitType, recordDate, ()) =>
      ⟨trackingId, invoiceId, subscriptionId, unitType, recordDate⟩)
    (fun t => (t.trackingId, t.invoiceId, t.subscriptionId, t.unitType, t.recordDate, ()))

def trackingRow : Codec TrackingRow :=
  record "InvoiceTrackingRecord"
    (.cons "id" uuid none <| .cons "tracking_id" text none <| .cons "invoice_id" invoiceId none <|
      .cons "subscription_id" subscriptionId none <| .cons "unit_type" text none <|
      .cons "record_date" date none <| .cons "created_date" timestamp none .nil)
    (fun (id, trackingId, invoiceId, subscriptionId, unitType, recordDate, createdDate, ()) =>
      ⟨id, trackingId, invoiceId, subscriptionId, unitType, recordDate, createdDate⟩)
    (fun r => (r.id, r.trackingId, r.invoiceId, r.subscriptionId, r.unitType, r.recordDate,
      r.createdDate, ()))

/-- A set is written as an array in any order and with any repetitions. -/
def sortedSet {α : Type} [Ord α] [Std.TransOrd α] (c : Codec α) : Codec (SortedSet α) :=
  (array c).map SortedSet.ofList SortedSet.toList

end Lookback.Wire

namespace Lookback.Catalog

/-- The catalog of a JSON array of definitions. The whole text is read before names are compared. -/
def ofJson (s : String) : Except Error Catalog :=
  match (Json.array Wire.usageDefinition).decode s with
  | .ok ds => ofDefinitions ds
  | .error e => .error (.malformed e)

end Lookback.Catalog
