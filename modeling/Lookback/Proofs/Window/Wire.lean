import Lookback.Proofs.Billing.Wire
import Lookback.Proofs.Json.Elements
import Lookback.Proofs.Json.Mapped
import Lookback.Proofs.Window.Failure
import Lookback.Window.Wire

/-! Usage windows are read back from their JSON, in whatever order tracked identities stand in it. -/
namespace Lookback.Wire

open Json

/-- A usage window with its tracked identities as a text lists them. -/
structure Listing where
  start : Date
  usage : List UsageRecord
  tracked : List TrackingId

/-- The window of a listing has each of the identities once. -/
def Listing.window (l : Listing) : UsageWindow := ⟨l.start, l.usage, .ofList l.tracked⟩

/-- Listings in the form of windows, with any order and any repetitions. -/
def listing (amount : Codec Float) : Codec Listing :=
  record "OptimizationResult"
    (.cons "raw_usage_start_date" date none <|
      .cons "raw_usage" (array (usageRecordWith amount)) none <|
      .cons "existing_tracking_ids" (array trackingId) none .nil)
    (fun (start, usage, tracked, ()) => ⟨start, usage, tracked⟩)
    (fun l => (l.start, l.usage, l.tracked, ()))

variable {amount : Codec Float}

theorem listing_roundTrips {l : Listing} (h : ∀ r ∈ l.usage, amount.RoundTrips r.amount) :
    (listing amount).RoundTrips l := by
  have husage : (array (usageRecordWith amount)).RoundTrips l.usage :=
    array_roundTrips (fun r hr => usageRecordWith_roundTrips (h r hr))
      (fun _ _ => record_opensElement)
  have htracked : (array trackingId).RoundTrips l.tracked :=
    array_roundTrips (fun t _ => trackingId_roundTrips t) (fun _ _ => record_opensElement)
  refine record_roundTrips rfl ?_ ⟨date_roundTrips l.start, husage, htracked, trivial⟩
  simp [Fields.keys]

/-- A window is read wherever a listing is, and is the one of that listing. -/
theorem listing_maps_window (amount : Codec Float) :
    (listing amount).Maps Listing.window (usageWindowWith amount) := by
  have htracked : (array trackingId).Maps SortedSet.ofList (sortedSet trackingId) :=
    Codec.maps_map _ _ _
  refine record_maps (f := Prod.map id (Prod.map id (Prod.map SortedSet.ofList id))) ?_ fun _ => rfl
  exact ⟨_, .cons (Codec.maps_id date) (.cons (Codec.maps_id (array _)) (.cons htracked .nil))⟩

theorem usageWindowWith_decode (amount : Codec Float) (s : String) :
    (usageWindowWith amount).decode s = ((listing amount).decode s).map Listing.window :=
  Codec.decode_of_maps (listing_maps_window amount) s

theorem decode_encode_listing {l : Listing} (h : ∀ r ∈ l.usage, amount.RoundTrips r.amount) :
    (usageWindowWith amount).decode ((listing amount).encode l) = .ok l.window := by
  have hl := Codec.decode_encode (listing_roundTrips h)
  rw [usageWindowWith_decode, hl]
  rfl

theorem window_of_perm {w : UsageWindow} {ts : List TrackingId} (h : ts.Perm w.tracked.toList) :
    Listing.window ⟨w.start, w.usage, ts⟩ = w := by
  have hset : SortedSet.ofList ts = w.tracked := SortedSet.ofList_eq_of_mem_iff fun _ => h.mem_iff
  rw [Listing.window, hset]

/-- A window is read back from its text and from one with its identities in any other order. What is
read from any text has each listed identity once, and the usage as it is listed. -/
theorem usageWindow_decode_encode (amount : Codec Float) :
    (∀ w : UsageWindow, (∀ r ∈ w.usage, amount.RoundTrips r.amount) →
      (usageWindowWith amount).decode ((usageWindowWith amount).encode w) = .ok w ∧
      ∀ ts, ts.Perm w.tracked.toList →
        (usageWindowWith amount).decode ((listing amount).encode ⟨w.start, w.usage, ts⟩) =
          .ok w) ∧
    (∀ l : Listing, (∀ r ∈ l.usage, amount.RoundTrips r.amount) →
      (listing amount).decode ((listing amount).encode l) = .ok l ∧
      (usageWindowWith amount).decode ((listing amount).encode l) = .ok l.window) ∧
    (∀ s, (usageWindowWith amount).decode s = ((listing amount).decode s).map Listing.window) ∧
    (∀ l : Listing, l.window.start = l.start ∧ l.window.usage = l.usage ∧
      l.window.tracked.toList.Nodup ∧ ∀ t, t ∈ l.window.tracked ↔ t ∈ l.tracked) ∧
    (∀ i, invoiceItem.decode (invoiceItem.encode i) = .ok i) ∧
    (∀ r, trackingRow.decode (trackingRow.encode r) = .ok r) := by
  have hperm : ∀ w : UsageWindow, (∀ r ∈ w.usage, amount.RoundTrips r.amount) →
      ∀ ts, ts.Perm w.tracked.toList →
        (usageWindowWith amount).decode ((listing amount).encode ⟨w.start, w.usage, ts⟩) =
          .ok w := by
    intro w hw ts hts
    have h := decode_encode_listing (l := ⟨w.start, w.usage, ts⟩) hw
    rwa [window_of_perm hts] at h
  refine ⟨?_, ?_, usageWindowWith_decode amount, ?_, ?_, ?_⟩
  · intro w hw
    -- A set writes itself in its own order, which is one of them.
    exact ⟨hperm w hw w.tracked.toList (List.Perm.refl _), hperm w hw⟩
  · intro l hl
    exact ⟨Codec.decode_encode (listing_roundTrips hl), decode_encode_listing hl⟩
  · intro l
    exact ⟨rfl, rfl, SortedSet.nodup_toList _, fun _ => SortedSet.mem_ofList⟩
  · intro i
    exact Codec.decode_encode (invoiceItem_roundTrips i)
  · intro r
    exact Codec.decode_encode (trackingRow_roundTrips r)

namespace Sample

/-- The first day of the calendar. -/
def dawn : Date := Window.Sample.dawn

/-- One and a half calls in the middle of a leap second. -/
def used : UsageRecord :=
  ⟨⟨⟨1⟩⟩, ⟨dawn, 86399, 1500000000, by decide, by decide, by decide⟩, "calls\n\"é\"", 1.5, ""⟩

def identity (invoice : BitVec 128) : TrackingId := ⟨"t", ⟨⟨invoice⟩⟩, ⟨⟨1⟩⟩, "calls", dawn⟩

def listed : Listing := ⟨dawn, [used, used], [identity 2, identity 1, identity 2]⟩

/-- One and a half is written as `1.5` and read as fifteen tenths. -/
theorem double_roundTrips_used : double.RoundTrips used.amount := by
  intro rest hrest
  have hwrite : double.write used.amount = ['1', '.', '5'] := by decide +kernel
  have hread : readNumeralFor "f64" ('1' :: '.' :: '5' :: rest) =
      .ok (⟨false, 15, -1, false⟩, rest) := by
    match rest, hrest with
    | [], _ => rfl
    | _ :: _, .inl rfl => rfl
    | _ :: _, .inr (.inl rfl) => rfl
    | _ :: _, .inr (.inr rfl) => rfl
  have hvalue : divideByPower (UInt64.toFloat 15) 1 = 1.5 := by decide +kernel
  rw [hwrite]
  simp [double, readNumberFor, hread, bind, Except.bind, Numeral.value, Numeral.magnitude, hvalue,
    Except.map, Number.toFloat]
  rfl

end Sample

/-- A repeated record stays twice in the window, a repeated identity does not. -/
theorem usageWindow_decode_encode_repeated :
    (usageWindowWith double).decode ((listing double).encode Sample.listed) =
      .ok Sample.listed.window ∧
    Sample.listed.window.usage = [Sample.used, Sample.used] ∧
    Sample.listed.window.tracked.toList = [Sample.identity 1, Sample.identity 2] ∧
    (usageWindowWith double).decode ((usageWindowWith double).encode Sample.listed.window) =
      .ok Sample.listed.window := by
  have hamount : ∀ r ∈ Sample.listed.usage, double.RoundTrips r.amount := by
    intro r hr
    have hr : r = Sample.used := by simpa [Sample.listed] using hr
    rw [hr]
    exact Sample.double_roundTrips_used
  obtain ⟨hw, hl, -⟩ := usageWindow_decode_encode double
  exact ⟨(hl Sample.listed hamount).2, rfl, by decide, (hw Sample.listed.window hamount).1⟩

end Lookback.Wire
