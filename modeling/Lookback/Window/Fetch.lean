import Lookback.Window.Error

/-!
Two reads that run side by side in rounds until both have ended well or one has failed.
-/
namespace Lookback.Window

/-- A read that is suspended some times before its outcome is there. -/
structure Fetch (α : Type) where
  suspensions : Nat
  outcome : Except Error α

namespace Fetch

variable {α β : Type} {u : Fetch α} {t : Fetch β} {k : Nat}

/-- The outcome once the read has been resumed often enough. -/
def poll (k : Nat) (f : Fetch α) : Option (Except Error α) :=
  if f.suspensions ≤ k then some f.outcome else none

/-- Round `k` of two reads. The first read goes first in even rounds, the second in odd ones, and
the first error met ends both. -/
def round (u : Fetch α) (t : Fetch β) (k : Nat) : Option (Except Error (α × β)) :=
  match u.poll k, t.poll k with
  | some (.error e), some (.error e') => some (.error (if k % 2 = 0 then e else e'))
  | some (.error e), _ => some (.error e)
  | _, some (.error e) => some (.error e)
  | some (.ok a), some (.ok b) => some (.ok (a, b))
  | _, _ => none

theorem lt_of_round_eq_none (h : round u t k = none) : k < max u.suspensions t.suspensions := by
  apply Decidable.byContradiction
  intro hk
  have hu : u.poll k = some u.outcome := if_pos (by omega)
  have ht : t.poll k = some t.outcome := if_pos (by omega)
  cases huo : u.outcome <;> cases hto : t.outcome <;> simp [round, hu, ht, huo, hto] at h

/-- Rounds from `k` on until one decides. -/
def joinFrom (u : Fetch α) (t : Fetch β) (k : Nat) : Except Error (α × β) :=
  match h : round u t k with
  | some r => r
  | none => joinFrom u t (k + 1)
termination_by max u.suspensions t.suspensions - k
decreasing_by
  have := lt_of_round_eq_none h
  omega

/-- Both results, or the error met first. -/
def join (u : Fetch α) (t : Fetch β) : Except Error (α × β) := joinFrom u t 0

end Fetch

end Lookback.Window
