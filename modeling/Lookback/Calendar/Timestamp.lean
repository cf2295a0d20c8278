import Lookback.Calendar.Date

/-!
Instants in UTC to the nanosecond, leap seconds included.
-/
namespace Lookback

/-- An instant of a day. Nanoseconds past the first thousand million belong to a leap second, which
extends the last second of its minute. -/
structure Timestamp where
  date : Date
  second : Nat
  nano : Nat
  second_lt : second < 86400
  nano_lt : nano < 2000000000
  leap : 1000000000 ≤ nano → second % 60 = 59
deriving DecidableEq

namespace Timestamp

/-- The instant at a clock reading, where second 60 is a leap second. -/
def ofClock? (d : Date) (hour minute second nano : Nat) : Option Timestamp :=
  if h : hour < 24 ∧ minute < 60 ∧ second ≤ 60 ∧ nano < 1000000000 then
    if hs : second = 60 then
      some ⟨d, hour * 3600 + minute * 60 + 59, nano + 1000000000, by omega, by omega, by omega⟩
    else some ⟨d, hour * 3600 + minute * 60 + second, nano, by omega, by omega, by omega⟩
  else none

def hour (t : Timestamp) : Nat := t.second / 3600

def minute (t : Timestamp) : Nat := t.second / 60 % 60

/-- The second of the minute and its fraction, as a clock shows them. -/
def clockSecond (t : Timestamp) : Nat × Nat :=
  if t.nano < 1000000000 then (t.second % 60, t.nano) else (60, t.nano - 1000000000)

/-- The instant some minutes later. Whole minutes leave a leap second at the end of its minute. -/
def addMinutes? (t : Timestamp) (k : Int) : Option Timestamp :=
  let s : Int := t.second + 60 * k
  (t.date.addDays? (s / 86400)).map fun d =>
    ⟨d, (s % 86400).toNat, t.nano, by omega, t.nano_lt, fun h => by
      have hl := t.leap h
      have hs : s = (t.second : Int) + 60 * k := rfl
      omega⟩

theorem eq_of_parts_eq {t u : Timestamp} (hd : t.date = u.date) (hs : t.second = u.second)
    (hn : t.nano = u.nano) : t = u := by
  cases t
  cases u
  simp_all

theorem ofClock?_clock (t : Timestamp) :
    ofClock? t.date t.hour t.minute t.clockSecond.1 t.clockSecond.2 = some t := by
  have hs := t.second_lt
  have hn := t.nano_lt
  have hl := t.leap
  by_cases h : t.nano < 1000000000
  · have hc : t.clockSecond = (t.second % 60, t.nano) := if_pos h
    rw [hc, ofClock?, hour, minute, dif_pos (by omega), dif_neg (by omega)]
    exact congrArg some (eq_of_parts_eq rfl (by dsimp only; omega) rfl)
  · have hc : t.clockSecond = (60, t.nano - 1000000000) := if_neg h
    rw [hc, ofClock?, hour, minute, dif_pos (by omega), dif_pos rfl]
    exact congrArg some (eq_of_parts_eq rfl (by dsimp only; omega) (by dsimp only; omega))

theorem addMinutes?_zero (t : Timestamp) : t.addMinutes? 0 = some t := by
  have hs := t.second_lt
  have hd : t.date.addDays? (((t.second : Int) + 60 * 0) / 86400) = some t.date := by
    rw [Date.addDays?, show ((t.second : Int) + 60 * 0) / 86400 = 0 by omega, Int.add_zero,
      Date.ofDayNumber?_dayNumber]
  rw [addMinutes?]
  simp only [hd, Option.map_some]
  exact congrArg some (eq_of_parts_eq rfl (by dsimp only; omega) rfl)

end Timestamp

end Lookback
