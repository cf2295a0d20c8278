import Lookback.Billing.Wire
import Lookback.Proofs.Calendar.Text
import Lookback.Proofs.Identifier.Text
import Lookback.Proofs.Json.Record
import Lookback.Proofs.SortedSet

/-! Billing data is read back from the JSON that is written for it. -/
namespace Lookback.Wire

open Json

theorem uuid_roundTrips (u : Uuid) : uuid.RoundTrips u := by
  refine refined_roundTrips ?_
  rw [Uuid.parse_text]
  rfl

theorem date_roundTrips (d : Date) : date.RoundTrips d := by
  refine refined_roundTrips ?_
  rw [Date.parse_text]
  rfl

theorem timestamp_roundTrips (t : Timestamp) : timestamp.RoundTrips t := by
  refine refined_roundTrips ?_
  rw [Timestamp.parse_text]
  rfl

theorem invoiceId_roundTrips (i : InvoiceId) : invoiceId.RoundTrips i :=
  Codec.map_roundTrips rfl (uuid_roundTrips i.uuid)

theorem itemId_roundTrips (i : ItemId) : itemId.RoundTrips i :=
  Codec.map_roundTrips rfl (uuid_roundTrips i.uuid)

theorem subscriptionId_roundTrips (s : SubscriptionId) : subscriptionId.RoundTrips s :=
  Codec.map_roundTrips rfl (uuid_roundTrips s.uuid)

theorem itemKind_roundTrips (k : ItemKind) : itemKind.RoundTrips k :=
  variant_roundTrips k.find?_name

theorem period_roundTrips (p : Period) : period.RoundTrips p := by
  refine variant_roundTrips ?_
  simp only [Period.recordName_eq_name]
  exact p.find?_name

/-- An optional value that is written as a string is told from null by its quote. -/
theorem optional_roundTrips {α : Type} {c : Codec α} (hr : ∀ a, c.RoundTrips a)
    (ho : ∀ a, c.Opens a '"') (a : Option α) : (optional c).RoundTrips a := by
  cases a with
  | none => exact optional_none_roundTrips c
  | some a => exact optional_some_roundTrips (hr a) (ho a) (by decide) (by decide)

theorem invoiceItem_roundTrips (i : InvoiceItem) : invoiceItem.RoundTrips i := by
  have hsubscription := optional_roundTrips subscriptionId_roundTrips (fun _ => ⟨_, rfl⟩)
    i.subscriptionId
  have husage := optional_roundTrips text_roundTrips (fun _ => ⟨_, rfl⟩) i.usageName
  refine record_roundTrips rfl (by decide) ⟨itemId_roundTrips i.id, invoiceId_roundTrips i.invoiceId,
    hsubscription, itemKind_roundTrips i.kind, husage, date_roundTrips i.startDate,
    date_roundTrips i.endDate, trivial⟩

theorem usageDefinition_read_write (d : UsageDefinition) (rest : List Char) :
    usageDefinition.read (usageDefinition.write d ++ rest) = .ok (d, rest) := by
  rw [usageDefinition]
  apply record_read_write
  · rfl
  · decide
  · exact ⟨text_roundTrips d.name, period_roundTrips d.period, trivial⟩

theorem usageRecordWith_roundTrips {amount : Codec Float} {r : UsageRecord}
    (h : amount.RoundTrips r.amount) : (usageRecordWith amount).RoundTrips r := by
  refine record_roundTrips rfl ?_ ⟨subscriptionId_roundTrips r.subscriptionId,
    timestamp_roundTrips r.recordDate, text_roundTrips r.unitType, h, text_roundTrips r.trackingId,
    trivial⟩
  simp [Fields.keys]

theorem trackingId_roundTrips (t : TrackingId) : trackingId.RoundTrips t :=
  record_roundTrips rfl (by decide) ⟨text_roundTrips t.trackingId, invoiceId_roundTrips t.invoiceId,
    subscriptionId_roundTrips t.subscriptionId, text_roundTrips t.unitType,
    date_roundTrips t.recordDate, trivial⟩

theorem trackingRow_roundTrips (r : TrackingRow) : trackingRow.RoundTrips r :=
  record_roundTrips rfl (by decide) ⟨uuid_roundTrips r.id, text_roundTrips r.trackingId,
    invoiceId_roundTrips r.invoiceId, subscriptionId_roundTrips r.subscriptionId,
    text_roundTrips r.unitType, date_roundTrips r.recordDate, timestamp_roundTrips r.createdDate,
    trivial⟩

end Lookback.Wire
