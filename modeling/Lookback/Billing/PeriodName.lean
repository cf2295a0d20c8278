import Lookback.Billing.Period
import Lookback.Text.Blank
import Lookback.Text.Capital

/-!
The names of the billing periods and the ways to spell them.
-/
namespace Lookback.Period

open Text

def name : Period → String
  | .daily => "DAILY"
  | .weekly => "WEEKLY"
  | .biweekly => "BIWEEKLY"
  | .thirtyDays => "THIRTY_DAYS"
  | .thirtyOneDays => "THIRTY_ONE_DAYS"
  | .sixtyDays => "SIXTY_DAYS"
  | .ninetyDays => "NINETY_DAYS"
  | .monthly => "MONTHLY"
  | .bimestrial => "BIMESTRIAL"
  | .quarterly => "QUARTERLY"
  | .triannual => "TRIANNUAL"
  | .biannual => "BIANNUAL"
  | .annual => "ANNUAL"
  | .sesquiennial => "SESQUIENNIAL"
  | .biennial => "BIENNIAL"
  | .triennial => "TRIENNIAL"
  | .noBillingPeriod => "NO_BILLING_PERIOD"

/-- The words of a period, each with a capital in front. -/
def title : Period → String
  | .daily => "Daily"
  | .weekly => "Weekly"
  | .biweekly => "Biweekly"
  | .thirtyDays => "ThirtyDays"
  | .thirtyOneDays => "ThirtyOneDays"
  | .sixtyDays => "SixtyDays"
  | .ninetyDays => "NinetyDays"
  | .monthly => "Monthly"
  | .bimestrial => "Bimestrial"
  | .quarterly => "Quarterly"
  | .triannual => "Triannual"
  | .biannual => "Biannual"
  | .annual => "Annual"
  | .sesquiennial => "Sesquiennial"
  | .biennial => "Biennial"
  | .triennial => "Triennial"
  | .noBillingPeriod => "NoBillingPeriod"

/-- The name in records: the words of the title in capitals, with `_` between them. -/
def recordName (p : Period) : String := String.ofList (joinedCapitals p.title.toList)

/-- A text that names no period. -/
structure Unknown where
  text : String
deriving DecidableEq

def Unknown.message (e : Unknown) : String := s!"Invalid billing period: {e.text}"

/-- A spelling without the white space around it, in capitals, and with `_` for every hyphen. -/
def normalForm (cs : List Char) : List Char :=
  (capitals (trim cs)).map fun c => if c = '-' then '_' else c

/-- The period that a text spells. -/
def parse (s : String) : Except Unknown Period :=
  match all.find? fun p => p.name.toList = normalForm s.toList with
  | some p => .ok p
  | none => .error ⟨s⟩

theorem recordName_eq_name (p : Period) : p.recordName = p.name := by
  cases p <;> decide

theorem find?_name (p : Period) : all.find? (fun q => q.name = p.name) = some p := by
  cases p <;> decide

theorem name_injective {p q : Period} (h : p.name = q.name) : p = q := by
  have hp := find?_name p
  rw [h, find?_name q] at hp
  exact (Option.some.inj hp).symm

end Lookback.Period
