import Lookback.Json.Numeral

/-!
JSON values passed over unread, and the error for a value of another type than expected.
-/
namespace Lookback.Json

/-- The rest of a word such as `null`, letter by letter. -/
def readWord : List Char → List Char → Except Error (List Char)
  | [], cs => .ok cs
  | _ :: _, [] => .error (.endOfText .value)
  | w :: ws, c :: cs => if c = w then readWord ws cs else .error .expectedWord

def startsNumber (c : Char) : Bool := c = '-' || c.isDigit

/-- Why the value in front is no value of the expected type. -/
def refusal (expected : String) (cs : List Char) : Error :=
  let wrong (found : Found) : Except Error Error := .ok (.wrongType found expected)
  let outcome : Except Error Error := match cs with
    | [] => .error (.endOfText .value)
    | c :: rest =>
      if c = '"' then do
        let (s, _) ← readText rest
        wrong (.text (String.ofList s))
      else if c = '[' then wrong .array
      else if c = '{' then wrong .object
      else if startsNumber c then do
        let (n, _) ← readNumber cs
        wrong n.found
      else if c = 'n' then do
        let _ ← readWord ['u', 'l', 'l'] rest
        wrong .null
      else if c = 't' then do
        let _ ← readWord ['r', 'u', 'e'] rest
        wrong (.bool true)
      else if c = 'f' then do
        let _ ← readWord ['a', 'l', 's', 'e'] rest
        wrong (.bool false)
      else .error .expectedValue
  match outcome with
  | .ok e => e
  | .error e => e

/-- Passes over what follows a backslash. Surrogates need no partner here. -/
def skipEscape : List Char → Except Error (List Char)
  | 'u' :: cs => (readUnit cs).map Prod.snd
  | cs => (readEscape cs).map Prod.snd

theorem skipEscape_length {cs rest : List Char} (h : skipEscape cs = .ok rest) :
    rest.length < cs.length := by
  unfold skipEscape at h
  split at h
  · rename_i r
    cases hr : readUnit r with
    | error e => simp [hr, Except.map] at h
    | ok p =>
      have hl := readUnit_length hr
      simp only [hr, Except.map, Except.ok.injEq] at h
      rw [← h, List.length_cons]
      omega
  · cases hr : readEscape cs with
    | error e => simp [hr, Except.map] at h
    | ok p =>
      have hl := readEscape_length hr
      simp only [hr, Except.map, Except.ok.injEq] at h
      rwa [← h]

/-- Passes over a string up to its closing quote. -/
def skipText (cs : List Char) : Except Error (List Char) :=
  match cs with
  | [] => .error (.endOfText .string)
  | c :: cs =>
    if c = '"' then .ok cs
    else if c = '\\' then
      match h : skipEscape cs with
      | .error e => .error e
      | .ok rest =>
        have := skipEscape_length h
        skipText rest
    else if c.toNat < 0x20 then .error .controlCharacter
    else skipText cs
termination_by cs.length

/-- Passes over a value that is neither an array nor an object. -/
def skipScalar : List Char → Except Error (List Char)
  | [] => .error (.endOfText .value)
  | c :: cs =>
    if c = '"' then skipText cs
    else if startsNumber c then
      match readNumeral (c :: cs) with
      | .ok (_, rest) => .ok rest
      | .error _ => .error .invalidNumber
    else if c = 'n' then readWord ['u', 'l', 'l'] cs
    else if c = 't' then readWord ['r', 'u', 'e'] cs
    else if c = 'f' then readWord ['a', 'l', 's', 'e'] cs
    else .error .expectedValue

inductive Bracket
  | list | object

namespace Bracket

def closing : Bracket → Char
  | .list => ']'
  | .object => '}'

def place : Bracket → Place
  | .list => .list
  | .object => .object

def commaExpected : Bracket → Error
  | .list => .expectedCommaOrBracket
  | .object => .expectedCommaOrBrace

/-- Passes over what stands before a value: in an object, a key and a colon. -/
def skipKey (b : Bracket) (cs : List Char) : Except Error (List Char) :=
  match b with
  | .list => .ok cs
  | .object =>
    match skipSpace cs with
    | '"' :: cs => do
      match skipSpace (← skipText cs) with
      | ':' :: cs => return cs
      | [] => throw (.endOfText .object)
      | _ => throw .expectedColon
    | [] => .error (.endOfText .object)
    | _ => .error .keyNotText

end Bracket

/-- What is passed over next: a value, or what may stand inside a bracket before a value or after
one. The brackets around it come with it, the innermost first. -/
inductive Ahead
  | value (around : List Bracket)
  | inside (b : Bracket) (around : List Bracket) (afterValue : Bool)

/-- What follows a value. -/
def Ahead.afterValue? : List Bracket → Option Ahead
  | [] => none
  | b :: around => some (.inside b around true)

/-- Each step takes a character, or goes from an open bracket to the first value in it. -/
def skipAhead : Nat → Ahead → List Char → Except Error (List Char)
  | 0, _, _ => .error .expectedValue
  | n + 1, .value around, cs =>
    match skipSpace cs with
    | '[' :: cs => skipAhead n (.inside .list around false) cs
    | '{' :: cs => skipAhead n (.inside .object around false) cs
    | cs => do
      let cs ← skipScalar cs
      match Ahead.afterValue? around with
      | some next => skipAhead n next cs
      | none => return cs
  | n + 1, .inside b around afterValue, cs =>
    match skipSpace cs with
    | [] => .error (.endOfText b.place)
    | c :: cs =>
      if c = b.closing then
        match Ahead.afterValue? around with
        | some next => skipAhead n next cs
        | none => .ok cs
      else if afterValue then
        if c = ',' then do skipAhead n (.value (b :: around)) (← b.skipKey cs)
        else .error b.commaExpected
      else do skipAhead n (.value (b :: around)) (← b.skipKey (c :: cs))

/-- Passes over one value. -/
def skipValue (cs : List Char) : Except Error (List Char) :=
  skipAhead (2 * cs.length + 2) (.value []) cs

end Lookback.Json
