import Lookback.Json.Text
import Lookback.Text.Decimal

/-!
JSON numbers. A number keeps as many leading digits as fit in 64 bits; those after them count only
for its size.
-/
namespace Lookback.Json

/-- A number as written: `significand * 10 ^ exponent`, and whether it has no fraction, no exponent
and all its digits. -/
structure Numeral where
  negative : Bool
  significand : Nat
  exponent : Int
  whole : Bool

def digitValue (c : Char) : Nat := c.toNat - 48

/-- Appends digits to `n` while the result fits in 64 bits, and leaves the others. -/
def absorb (n : Nat) : List Char → Nat × List Char
  | [] => (n, [])
  | c :: cs =>
    let k := n * 10 + digitValue c
    if k < UInt64.size then absorb k cs else (n, c :: cs)

/-- The leading digits of a text and what follows them. -/
def spanDigits (cs : List Char) : List Char × List Char :=
  (cs.takeWhile Char.isDigit, cs.dropWhile Char.isDigit)

def digitExpected (cs : List Char) : Error :=
  if cs = [] then .endOfText .value else .invalidNumber

/-- Digits before the point: a zero stands alone. -/
def readWhole (cs : List Char) : Except Error (List Char × List Char) :=
  match spanDigits cs with
  | ([], rest) => .error (digitExpected rest)
  | (c :: c' :: ds, rest) => if c = '0' then .error .invalidNumber else .ok (c :: c' :: ds, rest)
  | (ds, rest) => .ok (ds, rest)

/-- Digits after the point, if there is one. -/
def readFraction : Reader (Option (List Char))
  | '.' :: cs =>
    match spanDigits cs with
    | ([], rest) => .error (digitExpected rest)
    | (ds, rest) => .ok (some ds, rest)
  | cs => .ok (none, cs)

/-- The exponent, if there is one. -/
def readExponent : Reader (Option Int)
  | c :: cs =>
    if c = 'e' ∨ c = 'E' then
      let (negative, cs) := match cs with
        | '+' :: cs => (false, cs)
        | '-' :: cs => (true, cs)
        | cs => (false, cs)
      match spanDigits cs with
      | ([], rest) => .error (digitExpected rest)
      | (ds, rest) =>
        let n : Int := Text.ofDigits ds
        .ok (some (if negative then -n else n), rest)
    else .ok (none, c :: cs)
  | [] => .ok (none, [])

/-- Reads a number after its sign. -/
def readUnsigned (negative : Bool) : Reader Numeral := fun cs => do
  let (whole, cs) ← readWhole cs
  let (n, dropped) := absorb 0 whole
  let (fraction, cs) ← readFraction cs
  let (m, ignored) := absorb n (fraction.getD [])
  let (e, cs) ← readExponent cs
  let shift : Int := dropped.length - ((fraction.getD []).length - ignored.length : Nat)
  return (⟨negative, m, shift + e.getD 0, fraction.isNone && e.isNone && dropped.isEmpty⟩, cs)

def readNumeral : Reader Numeral
  | '-' :: cs => readUnsigned true cs
  | cs => readUnsigned false cs

/-- What a number stands for: an integer of 64 bits if it is written as one, else a double. -/
inductive Number
  | integer (n : Int)
  | float (x : Float)

def powerOfTen (k : Nat) : Float := Float.ofScientific 1 false k

/-- Divides by `10 ^ k`, in steps that a double can hold. -/
def divideByPower (x : Float) (k : Nat) : Float :=
  if k ≤ 308 then x / powerOfTen k
  else if x == 0 then x
  else divideByPower (x / powerOfTen 308) (k - 308)
termination_by k
decreasing_by omega

/-- `significand * 10 ^ exponent`, rounded after each step, unless it is too large. -/
def Numeral.magnitude (n : Numeral) : Except Error Float :=
  let x := n.significand.toUInt64.toFloat
  if n.exponent < 0 then .ok (divideByPower x n.exponent.natAbs)
  else if n.exponent ≤ 308 then
    let y := x * powerOfTen n.exponent.toNat
    if y.isInf then .error .numberOutOfRange else .ok y
  else if n.significand = 0 then .ok x
  else .error .numberOutOfRange

/-- The double nearest to `significand * 10 ^ exponent`, unless that is too large. Beyond the 400th
power of ten the exponent makes no difference any more. -/
def Numeral.nearest (n : Numeral) : Except Error Float :=
  let x := Float.ofScientific n.significand (n.exponent < 0) (min n.exponent.natAbs 400)
  if x.isInf then .error .numberOutOfRange else .ok (if n.negative then -x else x)

def Numeral.value (n : Numeral) : Except Error Number :=
  if n.whole ∧ ¬n.negative then .ok (.integer n.significand)
  else if n.whole ∧ 0 < n.significand ∧ n.significand ≤ 0x8000000000000000 then
    .ok (.integer (-n.significand))
  else n.magnitude.map fun x => .float (if n.negative then -x else x)

def Number.found : Number → Found
  | .integer n => .integer n
  | .float x => .float x

def readNumber : Reader Number := fun cs => do
  let (n, cs) ← readNumeral cs
  return (← n.value, cs)

end Lookback.Json
