import Lookback.Billing.Usage

/-!
Dated records kept in memory for each account, in the order in which they were recorded.
-/
namespace Lookback.Window

/-- What was recorded and for which account, oldest first. -/
structure Store (α : Type) where
  entries : List (UInt64 × α)

namespace Store

variable {α : Type}

def empty : Store α := ⟨[]⟩

def record (s : Store α) (account : UInt64) (a : α) : Store α := ⟨s.entries ++ [(account, a)]⟩

/-- All records of an account. -/
def ofAccount (s : Store α) (account : UInt64) : List α :=
  (s.entries.filter fun e => e.1 == account).map Prod.snd

/-- The records of an account on the days from `start` to `stop`, both included. -/
def read (s : Store α) (day : α → Date) (start stop : Date) (account : UInt64) : List α :=
  (s.ofAccount account).filter fun a => start ≤ day a && day a ≤ stop

end Store

end Lookback.Window
