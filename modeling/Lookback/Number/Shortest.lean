/-!
The shortest decimal that reads back as a given binary number.

A finite positive double is `m * 2 ^ q`. Every real between its two midpoints, and the midpoints
themselves if `m` is even, reads back as that double.
-/
namespace Lookback.Number

/-- The number `digits * 10 ^ exponent`. -/
structure Decimal where
  digits : Nat
  exponent : Int
deriving DecidableEq, Inhabited

/-- The value of a double is `mantissa * 2 ^ exponent`. -/
structure Binary where
  mantissa : Nat
  exponent : Int
deriving DecidableEq

/-- The least mantissa of a double in full precision. -/
def leastFull : Nat := 0x10000000000000

/-- The magnitude of a finite double. -/
def Binary.ofFloat (x : Float) : Binary :=
  let bits := x.toBits.toNat
  let e : Nat := bits / leastFull % 2048
  let f : Nat := bits % leastFull
  if e = 0 then ⟨f, -1074⟩ else ⟨leastFull + f, (e : Int) - 1075⟩

namespace Binary

variable (b : Binary)

/-- Quarters of `2 ^ exponent` from the lower midpoint to the number: the next smaller double is
half as far away below a power of two. -/
def below : Nat := if b.mantissa = leastFull ∧ -1074 < b.exponent then 1 else 2

/-- Whether `k * 10 ^ p` reads back as the number, where `u` and `w` stand to each other as
`10 ^ p` and a quarter of `2 ^ exponent`. -/
def Covers (u w k : Nat) : Prop :=
  let x := k * u
  let lo := (4 * b.mantissa - b.below) * w
  let hi := (4 * b.mantissa + 2) * w
  (lo < x ∧ x < hi) ∨ (b.mantissa % 2 = 0 ∧ (x = lo ∨ x = hi))

instance (u w k : Nat) : Decidable (b.Covers u w k) :=
  inferInstanceAs (Decidable ((_ ∧ _) ∨ (_ ∧ (_ ∨ _))))

/-- The multiple of `10 ^ p` that reads back, the nearer one of two, or the even one of two that are
as near as each other. -/
def onGrid? (p : Int) : Option Nat :=
  let r := b.exponent - 2
  let u := Nat.pow 10 p.toNat * Nat.pow 2 (-r).toNat
  let w := Nat.pow 2 r.toNat * Nat.pow 10 (-p).toNat
  let v := 4 * b.mantissa * w
  let k := v / u
  if b.Covers u w k then
    let up := (k + 1) * u - v
    let down := v - k * u
    if b.Covers u w (k + 1) ∧ (up < down ∨ (up = down ∧ k % 2 = 1)) then some (k + 1) else some k
  else if b.Covers u w (k + 1) then some (k + 1)
  else none

/-- The first power of ten at or below `p` with a multiple that reads back. -/
def search : Nat → Int → Decimal
  | 0, p => ⟨0, p⟩
  | n + 1, p =>
    match b.onGrid? p with
    | some k => ⟨k, p⟩
    | none => search n (p - 1)

/-- The decimal with the fewest digits that reads back as a positive number. -/
def shortest : Decimal := b.search 640 309

end Binary

end Lookback.Number
