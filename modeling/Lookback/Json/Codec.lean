import Lookback.Json.Skip

/-!
Ways to read values from JSON and to write them. A reader reports the first problem that it meets
from left to right.
-/
namespace Lookback.Json

structure Codec (α : Type) where
  read : Reader α
  write : α → List Char

variable {α β : Type}

/-- Reads a whole text. -/
def Codec.decode (c : Codec α) (s : String) : Except Error α := do
  let (a, cs) ← c.read s.toList
  if skipSpace cs = [] then return a else throw .trailingCharacters

def Codec.encode (c : Codec α) (a : α) : String := String.ofList (c.write a)

/-- The same texts for the values of another type. -/
def Codec.map (c : Codec α) (f : α → β) (g : β → α) : Codec β where
  read cs := (c.read cs).map fun (a, rest) => (f a, rest)
  write b := c.write (g b)

/-- Strings whose content has a form of its own. -/
def refined (expected : String) (parse : List Char → Except String α) (print : α → List Char) :
    Codec α where
  read cs :=
    match skipSpace cs with
    | '"' :: cs => do
      let (s, cs) ← readText cs
      match parse s with
      | .ok a => return (a, cs)
      | .error reason => throw (.content reason)
    | cs => .error (refusal expected cs)
  write a := writeText (print a)

def text : Codec String := refined "a string" (.ok ∘ String.ofList) String.toList

/-- A number, or the refusal of what stands there instead. -/
def readNumeralFor (expected : String) : Reader Numeral := fun cs =>
  match skipSpace cs with
  | c :: cs => if startsNumber c then readNumeral (c :: cs) else .error (refusal expected (c :: cs))
  | [] => .error (refusal expected [])

def readNumberFor (expected : String) : Reader Number := fun cs => do
  let (n, cs) ← readNumeralFor expected cs
  return (← n.value, cs)

def word64 : Codec UInt64 where
  read cs := do
    let (n, cs) ← readNumberFor "u64" cs
    match n with
    | .integer (.ofNat k) => return (k.toUInt64, cs)
    | .integer k => throw (.wrongValue (.integer k) "u64")
    | .float x => throw (.wrongType (.float x) "u64")
  write n := Nat.toDigits 10 n.toNat

/-- The nearest double to an integer of 64 bits. -/
def Number.toFloat : Number → Float
  | .integer (.ofNat n) => n.toUInt64.toFloat
  | .integer (.negSucc n) => -(n + 1).toUInt64.toFloat
  | .float x => x

def writeDouble (x : Float) : List Char := if x.isFinite then Number.text x else "null".toList

/-- Doubles, read in a few rounded steps. The last digit may be off. -/
def double : Codec Float where
  read cs := do
    let (n, cs) ← readNumberFor "f64" cs
    return (n.toFloat, cs)
  write := writeDouble

/-- Doubles, read as the nearest one to what is written, so that none is changed on the way. -/
def exactDouble : Codec Float where
  read cs := do
    let (n, cs) ← readNumeralFor "f64" cs
    return (← n.nearest, cs)
  write := writeDouble

def readColon (cs : List Char) : Except Error (List Char) :=
  match skipSpace cs with
  | ':' :: cs => .ok cs
  | [] => .error (.endOfText .object)
  | _ => .error .expectedColon

/-- The value with the given name. -/
def pick (all : List α) (name : α → String) (s : String) : Except Error α :=
  match all.find? fun a => name a = s with
  | some a => .ok a
  | none => .error (.unknownVariant s (all.map name))

/-- One of several named values: its name, or an object with its name as the only key and null. -/
def variant (all : List α) (name : α → String) : Codec α where
  read cs :=
    match skipSpace cs with
    | '"' :: cs => do
      let (s, cs) ← readText cs
      return (← pick all name (String.ofList s), cs)
    | '{' :: cs =>
      match skipSpace cs with
      | '"' :: cs => do
        let (s, cs) ← readText cs
        let a ← pick all name (String.ofList s)
        match skipSpace (← readColon cs) with
        | 'n' :: cs =>
          match skipSpace (← readWord ['u', 'l', 'l'] cs) with
          | '}' :: cs => return (a, cs)
          | [] => throw (.endOfText .object)
          | _ => throw .expectedValue
        | cs => throw (refusal "unit" cs)
      | '}' :: _ => .error .expectedValue
      | [] => .error (.endOfText .object)
      | _ => .error .keyNotText
    | [] => .error (.endOfText .value)
    | _ => .error .expectedValue
  write a := writeText (name a).toList

def optional (c : Codec α) : Codec (Option α) where
  read cs :=
    match skipSpace cs with
    | 'n' :: cs => (readWord ['u', 'l', 'l'] cs).map fun cs => (none, cs)
    | cs => (c.read cs).map fun (a, cs) => (some a, cs)
  write
    | some a => c.write a
    | none => "null".toList

/-- Moves to the next element of an array, or past its closing bracket. -/
def nextElement (first : Bool) (cs : List Char) : Except Error (Bool × List Char) :=
  match skipSpace cs with
  | [] => .error (.endOfText .list)
  | ']' :: cs => .ok (false, cs)
  | c :: cs =>
    if first then .ok (true, c :: cs)
    else if c = ',' then
      match skipSpace cs with
      | [] => .error (.endOfText .value)
      | ']' :: _ => .error .trailingComma
      | cs => .ok (true, cs)
    else .error .expectedCommaOrBracket

/-- The elements of an array, of which there are at most as many as characters. -/
def readElements (c : Codec α) : Nat → Bool → Reader (List α)
  | 0, _, _ => .error .expectedValue
  | n + 1, first, cs => do
    let (more, cs) ← nextElement first cs
    if more then
      let (a, cs) ← c.read cs
      let (as, cs) ← readElements c n false cs
      return (a :: as, cs)
    else return ([], cs)

def commaSeparated (items : List (List Char)) : List Char := [','].intercalate items

def array (c : Codec α) : Codec (List α) where
  read cs :=
    match skipSpace cs with
    | '[' :: cs => readElements c (cs.length + 1) true cs
    | cs => .error (refusal "a sequence" cs)
  write as := '[' :: commaSeparated (as.map c.write) ++ [']']

end Lookback.Json
