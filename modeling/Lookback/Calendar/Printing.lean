import Lookback.Calendar.Timestamp
import Lookback.Text.Decimal

/-!
Dates written as `YYYY-MM-DD` and instants as `YYYY-MM-DDTHH:MM:SS` with a fraction and `Z`. The
readers of `Lookback.Calendar.Reading` give back what is written here.
-/
namespace Lookback.Calendar

open Text

/-- Years 0 to 9999 have four digits, all others a sign as well. -/
def yearText (y : Int) : List Char :=
  if 0 ≤ y ∧ y ≤ 9999 then padded 4 y.toNat
  else (if y < 0 then '-' else '+') :: padded 4 y.natAbs

/-- The fewest of no, three, six or nine digits that show a fraction of a second exactly. -/
def fractionText (nano : Nat) : List Char :=
  if nano = 0 then []
  else if nano % 1000000 = 0 then '.' :: padded 3 (nano / 1000000)
  else if nano % 1000 = 0 then '.' :: padded 6 (nano / 1000)
  else '.' :: padded 9 nano

end Lookback.Calendar

namespace Lookback

open Text Calendar

def Date.text (d : Date) : List Char :=
  yearText (d.month / 12) ++ '-' :: padded 2 (d.month % 12 + 1).toNat ++
    '-' :: padded 2 d.day.toNat

def Timestamp.text (t : Timestamp) : List Char :=
  let (s, nano) := t.clockSecond
  t.date.text ++ 'T' :: padded 2 t.hour ++ ':' :: padded 2 t.minute ++ ':' :: padded 2 s ++
    fractionText nano ++ ['Z']

end Lookback
