import Lookback.Billing.Invoice
import Lookback.Text.Decimal

/-!
Log events: a level, a message, and named fields.
-/
namespace Lookback.Log

inductive Level
  | debug | warn | error
deriving DecidableEq

def Level.name : Level → String
  | .debug => "DEBUG"
  | .warn => "WARN"
  | .error => "ERROR"

inductive Value
  | integer (n : Int)
  | text (s : String)
deriving DecidableEq

structure Event where
  level : Level
  message : String
  fields : List (String × Value)
deriving DecidableEq

/-- A reading of the UTC clock, in milliseconds of the day. -/
structure Clock where
  millis : Nat
  lt_day : millis < 86400000

/-- The clock at some milliseconds of any day. -/
def Clock.ofMillis (n : Nat) : Clock := ⟨n % 86400000, Nat.mod_lt _ (by decide)⟩

/-- Hours, minutes, seconds and milliseconds, as in `12:34:56.789`. -/
def Clock.text (c : Clock) : List Char :=
  Text.padded 2 (c.millis / 3600000) ++ ':' :: Text.padded 2 (c.millis / 60000 % 60) ++
    ':' :: Text.padded 2 (c.millis / 1000 % 60) ++ '.' :: Text.padded 3 (c.millis % 1000)

/-- An event on behalf of a caller, at a time. -/
def forCaller (level : Level) (c : Caller) (now : Clock) (fields : List (String × Value))
    (message : String) : Event :=
  ⟨level, message,
    [("account_record_id", .integer c.account.toNat), ("tenant_record_id", .integer c.tenant.toNat),
      ("timestamp", .text (String.ofList now.text))] ++ fields⟩

/-- The failure of an operation. -/
def failure (c : Caller) (now : Clock) (operation reason : String) : Event :=
  forCaller .error c now [("error", .text reason)] s!"{operation} failed: {reason}"

end Lookback.Log
