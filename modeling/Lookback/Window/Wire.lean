import Lookback.Billing.Wire
import Lookback.Window.Read

/-!
The JSON form of usage windows.
-/
namespace Lookback.Wire

open Json

/-- Usage windows, given how amounts are read and written. -/
def usageWindowWith (amount : Codec Float) : Codec UsageWindow :=
  record "OptimizationResult"
    (.cons "raw_usage_start_date" date none <|
      .cons "raw_usage" (array (usageRecordWith amount)) none <|
      .cons "existing_tracking_ids" (sortedSet trackingId) none .nil)
    (fun (start, usage, tracked, ()) => ⟨start, usage, tracked⟩)
    (fun w => (w.start, w.usage, w.tracked, ()))

def usageWindow : Codec UsageWindow := usageWindowWith double

end Lookback.Wire
