import Lookback.Log.Pattern.Atom

/-!
Sets of characters in brackets, which may stand in each other.
-/
namespace Lookback.Log.Pattern

open Text

/-- The depth of parts put together. One part alone keeps its own. -/
def nest : List Nat → Nat
  | [] => 0
  | [d] => d
  | ds => ds.foldl max 0 + 1

/-- Brackets that are open. -/
structure Class where
  negated : Bool
  /-- Nothing but hyphens stands in them. -/
  fresh : Bool
  /-- The depth of what stands before the last set operator. -/
  left : Option Nat
  /-- The depths of the members after it, the last one first. -/
  members : List Nat

def Class.depth (c : Class) : Nat :=
  match c.left with
  | none => nest c.members
  | some d => max d (nest c.members) + 1

def Class.add (c : Class) (depth : Nat) : Class := { c with members := depth :: c.members }

/-- The class after an opening bracket. -/
def Class.start (m : Mode) (cs : List Char) : Class × List Char :=
  match m.skip cs with
  | '^' :: rest => (⟨true, true, none, []⟩, rest)
  | rest => (⟨false, true, none, []⟩, rest)

def classNames : List String :=
  ["alnum", "alpha", "ascii", "blank", "cntrl", "digit", "graph", "lower", "print", "punct", "space",
    "upper", "word", "xdigit"]

/-- A class with a name, such as `:alpha:]` or `:^alpha:]` after its bracket, and whether it is
negated. -/
def readClassName? : List Char → Option (Bool × List Char)
  | ':' :: cs =>
    let (negated, cs) := match cs with
      | '^' :: rest => (true, rest)
      | rest => (false, rest)
    match cs.dropWhile (· ≠ ':') with
    | ':' :: ']' :: rest =>
      if String.ofList (cs.takeWhile (· ≠ ':')) ∈ classNames then some (negated, rest) else none
    | _ => none
  | _ => none

def Mode.admitsClassName (m : Mode) (negated : Bool) : Bool :=
  if m.unicode then !m.anyCase else !negated

/-- The next character that counts, as far as one comment may be looked through. -/
def Mode.peek (m : Mode) (cs : List Char) : Option Char :=
  if m.spaced then
    match cs.dropWhile isBlank with
    | '#' :: rest => (rest.dropWhile isBlank).head?.or cs.head?
    | rest => rest.head?.or cs.head?
  else cs.head?

def readMember (m : Mode) : List Char → Option (Atom × List Char)
  | [] => none
  | '\\' :: cs => readEscape m cs
  | c :: cs => some (.literal c false, cs)

/-- One member of brackets: a single one, or a range from one character to another. -/
def readRange (m : Mode) (cs : List Char) : Option (List Char) := do
  let (first, cs) ← readMember m cs
  match m.skip cs with
  | '-' :: after =>
    if m.peek after = some ']' ∨ m.peek after = some '-' then
      if m.admitsMember first then some ('-' :: after) else none
    else do
      let (last, rest) ← readMember m (m.skip after)
      match first, last with
      | .literal a _, .literal b _ =>
        if m.admitsMember first ∧ m.admitsMember last ∧ a ≤ b then some rest else none
      | _, _ => none
  | rest => if m.admitsMember first then some rest else none

/-- Whether a character and the one after it are a set operator. -/
def isOperator (c : Char) (rest : List Char) : Bool :=
  (c = '&' || c = '-' || c = '~') && rest.head? = some c

/-- Reads to the end of the outermost brackets, and gives the depth of what is in them. A closing
bracket that comes first is a member. -/
def readClass (m : Mode) : Nat → Class → List Class → List Char → Option (Nat × List Char)
  | 0, _, _, _ => none
  | n + 1, c, outer, cs =>
    match m.skip cs with
    | [] => none
    | x :: rest =>
      if c.fresh then
        if x = '-' ∨ (x = ']' ∧ c.members = []) then
          if m.admitsMember (.literal x false) then
            readClass m n { c.add 0 with fresh := x = '-' } outer rest
          else none
        else readClass m n { c with fresh := false } outer (x :: rest)
      else if x = '[' then
        match readClassName? rest with
        | some (negated, rest) =>
          if m.admitsClassName negated then readClass m n (c.add 0) outer rest else none
        | none =>
          let (inner, rest) := Class.start m rest
          readClass m n inner (c :: outer) rest
      else if x = ']' then
        if c.negated ∧ !m.unicode then none
        else
          match outer with
          | [] => some (c.depth + 1, rest)
          | o :: outer => readClass m n (o.add (c.depth + 1)) outer rest
      else if isOperator x rest then
        readClass m n { c with left := some c.depth, members := [] } outer rest.tail
      else do readClass m n (c.add 0) outer (← readRange m (x :: rest))

end Lookback.Log.Pattern
