import Lookback.Number.Shortest
import Lookback.Text.Decimal

/-!
Doubles written out: positional notation for moderate sizes, an exponent for the others.
-/
namespace Lookback.Number

open Text

/-- Powers of ten from `least` up to `most`, exclusive, are written positionally. -/
structure Layout where
  least : Int
  most : Int

/-- From `1e-5` to below `1e+16`. -/
def plainLayout : Layout := ⟨-5, 16⟩

/-- At least one digit stands on each side of the point. -/
def Decimal.positional (d : Decimal) : List Char :=
  let ds := Nat.toDigits 10 d.digits
  if 0 ≤ d.exponent then ds ++ List.replicate d.exponent.toNat '0' ++ ['.', '0']
  else
    let places := (-d.exponent).toNat
    if places < ds.length then ds.take (ds.length - places) ++ '.' :: ds.drop (ds.length - places)
    else '0' :: '.' :: List.replicate (places - ds.length) '0' ++ ds

/-- One digit stands before the point, and none need follow it. The exponent has a sign. -/
def Decimal.scientific (d : Decimal) : List Char :=
  let ds := Nat.toDigits 10 d.digits
  let e := d.exponent + ds.length - 1
  let head := match ds with
    | c :: c' :: rest => c :: '.' :: c' :: rest
    | _ => ds
  head ++ 'e' :: (if e < 0 then '-' else '+') :: Nat.toDigits 10 e.natAbs

def Layout.write (l : Layout) (d : Decimal) : List Char :=
  let e := d.exponent + (Nat.toDigits 10 d.digits).length - 1
  if l.least ≤ e ∧ e < l.most then d.positional else d.scientific

/-- The shortest text of a finite double. -/
def text (x : Float) : List Char :=
  let b := Binary.ofFloat x
  let size := if b.mantissa = 0 then ['0', '.', '0'] else plainLayout.write b.shortest
  if x.toBits < 0x8000000000000000 then size else '-' :: size

end Lookback.Number
