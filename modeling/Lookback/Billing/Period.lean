import Lookback.Calendar.Date

/-!
Billing periods, and a date moved by whole periods one step at a time.
-/
namespace Lookback

inductive Period
  | daily | weekly | biweekly | thirtyDays | thirtyOneDays | sixtyDays | ninetyDays
  | monthly | bimestrial | quarterly | triannual | biannual | annual | sesquiennial
  | biennial | triennial | noBillingPeriod
deriving DecidableEq

namespace Period

/-- The length of one period. -/
inductive Length
  | days (n : Nat)
  | months (n : Nat)
deriving DecidableEq

/-- Every period, in the order in which periods are compared. -/
def all : List Period :=
  [.daily, .weekly, .biweekly, .thirtyDays, .thirtyOneDays, .sixtyDays, .ninetyDays,
    .monthly, .bimestrial, .quarterly, .triannual, .biannual, .annual, .sesquiennial,
    .biennial, .triennial, .noBillingPeriod]

theorem mem_all (p : Period) : p ∈ all := by
  cases p <;> decide

def length : Period → Option Length
  | .daily => some (.days 1)
  | .weekly => some (.days 7)
  | .biweekly => some (.days 14)
  | .thirtyDays => some (.days 30)
  | .thirtyOneDays => some (.days 31)
  | .sixtyDays => some (.days 60)
  | .ninetyDays => some (.days 90)
  | .monthly => some (.months 1)
  | .bimestrial => some (.months 2)
  | .quarterly => some (.months 3)
  | .triannual => some (.months 4)
  | .biannual => some (.months 6)
  | .annual => some (.months 12)
  | .sesquiennial => some (.months 18)
  | .biennial => some (.months 24)
  | .triennial => some (.months 36)
  | .noBillingPeriod => none

/-- A recurring period comes back after a length of its own. -/
def isRecurring (p : Period) : Bool := p != .noBillingPeriod

theorem isRecurring_iff_length {p : Period} : p.isRecurring ↔ p.length.isSome := by
  cases p <;> decide

def recurring : List Period := all.filter isRecurring

/-- The members of `ps`, each once and in order. -/
def distinct (ps : List Period) : List Period := all.filter (ps.contains ·)

theorem mem_distinct {ps : List Period} {p : Period} : p ∈ distinct ps ↔ p ∈ ps := by
  simp [distinct, mem_all]

/-- `n` steps, unless one of them fails. -/
@[specialize]
def steps? {α : Type} (step : α → Option α) : Nat → α → Option α
  | 0, a => some a
  | n + 1, a =>
    match step a with
    | some b => steps? step n b
    | none => none

/-- `n` periods later. Each month step keeps the day that the step before it left. -/
def advanceBy (p : Period) (d : Date) (n : Nat) : Option Date :=
  match p.length with
  | some (.days k) => steps? (·.addDays? k) n d
  | some (.months k) => steps? (·.addMonths? k) n d
  | none => none

/-- `n` periods earlier. Each month step keeps the day that the step before it left. -/
def recedeBy (p : Period) (d : Date) (n : Nat) : Option Date :=
  match p.length with
  | some (.days k) => steps? (·.addDays? (-k)) n d
  | some (.months k) => steps? (·.addMonths? (-k)) n d
  | none => none

end Period

end Lookback
