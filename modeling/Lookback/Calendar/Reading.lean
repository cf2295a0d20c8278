import Lookback.Calendar.Timestamp
import Lookback.Text.Blank
import Lookback.Text.Decimal

/-!
Dates and instants read from text. A reader takes what it needs from the front of the text and
leaves the rest; the first problem met decides the error.
-/
namespace Lookback.Calendar

open Text

/-- Why a text is no date, or no instant. -/
inductive TextError
  | badCharacter
  | outOfRange
  | tooShort
  | trailing
  | impossible
deriving DecidableEq

def TextError.message : TextError → String
  | .badCharacter => "input contains invalid characters"
  | .outOfRange => "input is out of range"
  | .tooShort => "premature end of input"
  | .trailing => "trailing input"
  | .impossible => "no possible date and time matching input"

abbrev Reader (α : Type) := List Char → Except TextError (α × List Char)

/-- One or more digits, of which at most `width` are taken. -/
def readDigits (width : Nat) : Reader (List Char)
  | [] => .error .tooShort
  | c :: cs =>
    if c.isDigit then
      let ds := ((c :: cs).take width).takeWhile Char.isDigit
      .ok (ds, (c :: cs).drop ds.length)
    else .error .badCharacter

/-- A number between two bounds, after white space. -/
def readNumber (width lo hi : Nat) : Reader Nat := fun cs => do
  let (ds, rest) ← readDigits width (dropBlank cs)
  let n := ofDigits ds
  if lo ≤ n ∧ n ≤ hi then return (n, rest) else throw .outOfRange

/-- A year of up to four digits, or of any number of them after a sign. -/
def readYear : Reader Int := fun cs => do
  let (y, rest) ← match dropBlank cs with
    | '-' :: r => (readDigits r.length r).map fun (ds, rest) => (-(ofDigits ds : Int), rest)
    | '+' :: r => (readDigits r.length r).map fun (ds, rest) => ((ofDigits ds : Int), rest)
    | r => (readDigits 4 r).map fun (ds, rest) => ((ofDigits ds : Int), rest)
  if -2147483648 ≤ y ∧ y ≤ 2147483647 then return (y, rest) else throw .outOfRange

/-- The character `c`, at once. -/
def readChar (c : Char) : List Char → Except TextError (List Char)
  | [] => .error .tooShort
  | x :: rest => if x = c then .ok rest else .error .badCharacter

/-- A year, a month and a day of the month, which need not exist together. -/
def readYearMonthDay : Reader (Int × Nat × Nat) := fun cs => do
  let (y, cs) ← readYear cs
  let cs ← readChar '-' (dropBlank cs)
  let (m, cs) ← readNumber 2 1 12 cs
  let cs ← readChar '-' (dropBlank cs)
  let (d, cs) ← readNumber 2 1 31 cs
  return ((y, m, d), cs)

def dateOf (ymd : Int × Nat × Nat) : Except TextError Date :=
  match Date.ofMonthDay? (12 * ymd.1 + (ymd.2.1 - 1)) ymd.2.2 with
  | some d => .ok d
  | none => .error .outOfRange

/-- The fraction of a second after a point, in nanoseconds. Digits past the ninth are passed over. -/
def readFraction : Reader Nat
  | '.' :: cs => do
    let (ds, cs) ← readDigits 9 cs
    return (ofDigits (ds ++ List.replicate (9 - ds.length) '0'), cs.dropWhile Char.isDigit)
  | cs => .ok (0, cs)

/-- Two digits. A text too short for them differs from one with other characters there. -/
def readTwoDigits : Reader Nat
  | a :: b :: rest =>
    if a.isDigit ∧ b.isDigit then .ok (ofDigits [a, b], rest) else .error .badCharacter
  | [a] => .error (if a.utf8Size < 2 then .tooShort else .badCharacter)
  | [] => .error .tooShort

/-- The distance from UTC in minutes: `Z`, `UTC`, or a signed number of hours and minutes. -/
def readOffset (cs : List Char) : Except TextError (Int × List Char) :=
  match cs with
  | [] => .error .tooShort
  | c :: rest =>
    if (cs.take 3).map Char.toUpper = ['U', 'T', 'C'] then .ok (0, cs.drop 3)
    else if c = 'Z' ∨ c = 'z' then .ok (0, rest)
    else if c = '+' ∨ c = '-' ∨ c = '−' then do
      let (h, rest) ← readTwoDigits rest
      let (m, rest) ← readTwoDigits (rest.dropWhile fun x => x = ':' || isBlank x)
      if m < 60 then
        let k : Int := h * 60 + m
        return (if c = '+' then k else -k, rest)
      else throw .outOfRange
    else .error .badCharacter

/-- The end of the text, after white space. -/
def expectEnd (cs : List Char) : Except TextError Unit :=
  if dropBlank cs = [] then .ok () else .error .trailing

end Lookback.Calendar

namespace Lookback

open Text Calendar

def Date.parse (cs : List Char) : Except TextError Date := do
  let (ymd, cs) ← readYearMonthDay cs
  expectEnd cs
  dateOf ymd

/-- Reads a date, a clock reading and a distance from UTC. The date's existence and the size of the
distance are looked at last. -/
def Timestamp.parse (cs : List Char) : Except TextError Timestamp := do
  let (ymd, cs) ← readYearMonthDay cs
  let cs ← match cs with
    | [] => throw .tooShort
    | c :: rest => if c = 'T' ∨ c = 't' ∨ c = ' ' then pure rest else throw .badCharacter
  let (h, cs) ← readNumber 2 0 23 cs
  let cs ← readChar ':' (dropBlank cs)
  let (m, cs) ← readNumber 2 0 59 cs
  let cs ← readChar ':' (dropBlank cs)
  let (s, cs) ← readNumber 2 0 60 cs
  let (nano, cs) ← readFraction cs
  let (offset, cs) ← readOffset (dropBlank cs)
  expectEnd cs
  let d ← dateOf ymd
  if offset ≤ -1440 ∨ 1440 ≤ offset then throw .outOfRange
  match Timestamp.ofClock? d h m s nano with
  | none => throw .outOfRange
  | some t =>
    match t.addMinutes? (-offset) with
    | none => throw .impossible
    | some u => return u

end Lookback
