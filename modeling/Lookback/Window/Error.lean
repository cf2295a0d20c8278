import Lookback.Billing.Invoice
import Lookback.Billing.PeriodName
import Lookback.Calendar.Printing
import Lookback.Identifier.Uuid

/-!
Why there is no usage window.
-/
namespace Lookback.Window

inductive Error
  | missingDefinition (usageName : String) (item : ItemId)
  | missingName (item : ItemId)
  | dateOutOfRange (date : Date) (period : Period) (periods : Nat)
  | usageSource (reason : String)
  | trackingStore (reason : String)
deriving DecidableEq

def Error.message : Error → String
  | .missingDefinition n i =>
    s!"Missing usage definition '{n}' referenced by invoice item {String.ofList i.uuid.text}"
  | .missingName i => s!"Usage invoice item {String.ofList i.uuid.text} has no usage name"
  | .dateOutOfRange d p n =>
    s!"Date out of range: {String.ofList d.text} moved by {n} x {p.name}"
  | .usageSource r => s!"Usage source read failed: {r}"
  | .trackingStore r => s!"Tracking store read failed: {r}"

end Lookback.Window
