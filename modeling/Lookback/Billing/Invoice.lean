import Lookback.Calendar.Date
import Lookback.Identifier.Uuid

/-!
Invoices, their items, and the caller on whose behalf they are read.
-/
namespace Lookback

structure InvoiceId where
  uuid : Uuid
deriving DecidableEq

structure ItemId where
  uuid : Uuid
deriving DecidableEq

structure SubscriptionId where
  uuid : Uuid
deriving DecidableEq

instance : Ord InvoiceId := ⟨compareOn InvoiceId.uuid⟩

instance : Ord SubscriptionId := ⟨compareOn SubscriptionId.uuid⟩

instance : Std.TransOrd InvoiceId := inferInstanceAs (Std.TransCmp (compareOn InvoiceId.uuid))

instance : Std.TransOrd SubscriptionId :=
  inferInstanceAs (Std.TransCmp (compareOn SubscriptionId.uuid))

/-- The account whose data is read, and the tenant whose settings apply. -/
structure Caller where
  account : UInt64
  tenant : UInt64
deriving DecidableEq

def Caller.label (c : Caller) : String := s!"account_{c.account}@tenant_{c.tenant}"

inductive ItemKind
  | fixed | recurring | usage | repairAdjustment | itemAdjustment | creditAdjustment
  | cbaAdjustment | tax
deriving DecidableEq

namespace ItemKind

def all : List ItemKind :=
  [.fixed, .recurring, .usage, .repairAdjustment, .itemAdjustment, .creditAdjustment,
    .cbaAdjustment, .tax]

def name : ItemKind → String
  | .fixed => "FIXED"
  | .recurring => "RECURRING"
  | .usage => "USAGE"
  | .repairAdjustment => "REPAIR_ADJUSTMENT"
  | .itemAdjustment => "ITEM_ADJUSTMENT"
  | .creditAdjustment => "CREDIT_ADJUSTMENT"
  | .cbaAdjustment => "CBA_ADJUSTMENT"
  | .tax => "TAX"

/-- The short name that messages show. -/
def label : ItemKind → String
  | .fixed => "FIXED"
  | .recurring => "RECURRING"
  | .usage => "USAGE"
  | .repairAdjustment => "REPAIR_ADJ"
  | .itemAdjustment => "ITEM_ADJ"
  | .creditAdjustment => "CREDIT_ADJ"
  | .cbaAdjustment => "CBA_ADJ"
  | .tax => "TAX"

theorem find?_name (k : ItemKind) : all.find? (fun j => j.name = k.name) = some k := by
  cases k <;> decide

end ItemKind

structure InvoiceItem where
  id : ItemId
  invoiceId : InvoiceId
  subscriptionId : Option SubscriptionId
  kind : ItemKind
  usageName : Option String
  startDate : Date
  endDate : Date
deriving DecidableEq

namespace InvoiceItem

/-- An item that bills a subscription's usage of one type. -/
def usage (id : ItemId) (invoiceId : InvoiceId) (subscriptionId : SubscriptionId)
    (usageName : String) (startDate endDate : Date) : InvoiceItem :=
  ⟨id, invoiceId, some subscriptionId, .usage, some usageName, startDate, endDate⟩

def isUsage (i : InvoiceItem) : Bool := i.kind == .usage

end InvoiceItem

end Lookback
