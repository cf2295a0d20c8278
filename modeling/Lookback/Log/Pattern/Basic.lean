import Lookback.Log.Pattern.Brackets
import Lookback.Text.Alphanumeric

/-!
Patterns for the values of fields: regular expressions without counted repetition, since a closing
brace ends the field. Nothing is matched here; a pattern is well-formed or it is not.
-/
namespace Lookback.Log.Pattern

open Text

/-- A group that is open, or the whole pattern. -/
structure Group where
  /-- The settings around it. -/
  outside : Mode
  /-- The depths of the alternatives before the present one. -/
  branches : List Nat
  /-- The depths of the parts of the present one, the last part first, and whether each may be
  repeated. -/
  parts : List (Nat × Bool)

def Group.start (outside : Mode) : Group := ⟨outside, [], []⟩

def Group.branch (g : Group) : Nat := nest (g.parts.map Prod.fst)

def Group.depth (g : Group) : Nat := nest (g.branch :: g.branches)

structure State where
  mode : Mode
  group : Group
  outer : List Group
  /-- The names of groups so far. -/
  names : List (List Char)
  /-- Whether a word boundary among characters was met. -/
  boundary : Bool

namespace State

def initial : State := ⟨.initial, .start .initial, [], [], false⟩

def add (s : State) (depth : Nat) (repeatable : Bool) : State :=
  { s with group := { s.group with parts := (depth, repeatable) :: s.group.parts } }

def alternate (s : State) : State :=
  { s with group := { s.group with branches := s.group.branch :: s.group.branches, parts := [] } }

/-- Repeats the last part. -/
def repeat? (s : State) : Option State :=
  match s.group.parts with
  | (depth, true) :: parts =>
    some { s with group := { s.group with parts := (depth + 1, true) :: parts } }
  | _ => none

def opened (s : State) (inside : Mode) : State :=
  { s with mode := inside, group := .start s.mode, outer := s.group :: s.outer }

def close? (s : State) : Option State :=
  match s.outer with
  | [] => none
  | o :: outer =>
    some ({ s with mode := s.group.outside, group := o, outer := outer }.add (s.group.depth + 1) true)

end State

def startsName (c : Char) : Bool := c = '_' || isLetter c

def inName (c : Char) : Bool :=
  c = '_' || c = '.' || c = '[' || c = ']' || isAlphanumeric c

/-- The name of a group up to its closing angle, which no other group has. -/
def openNamed? (s : State) (cs : List Char) : Option (State × List Char) :=
  match cs.takeWhile (· ≠ '>'), cs.dropWhile (· ≠ '>') with
  | c :: name, '>' :: rest =>
    if startsName c ∧ name.all inName ∧ c :: name ∉ s.names then
      some ({ s.opened s.mode with names := (c :: name) :: s.names }, rest)
    else none
  | _, _ => none

/-- Flags are known, each stands once, and a hyphen has flags after it. -/
def validFlags (fs : List Char) : Bool :=
  fs.all (fun c => c ∈ ['i', 'm', 's', 'U', 'u', 'R', 'x', '-']) && decide fs.Nodup &&
    fs.getLast? ≠ some '-'

/-- The settings after flags. Those behind the hyphen are switched off. -/
def Mode.set (m : Mode) (fs : List Char) : Mode :=
  let flag (c : Char) (old : Bool) : Bool :=
    if c ∈ fs.takeWhile (· ≠ '-') then true else if c ∈ fs then false else old
  ⟨flag 'x' m.spaced, flag 'i' m.anyCase, flag 'u' m.unicode⟩

/-- Flags up to a colon, which starts a group, or a closing parenthesis. -/
def openFlagged? (s : State) (cs : List Char) : Option (State × List Char) :=
  let ends (c : Char) : Bool := c = ':' || c = ')'
  let fs := cs.takeWhile (!ends ·)
  if validFlags fs then
    match cs.dropWhile (!ends ·) with
    | ':' :: rest => some (s.opened (s.mode.set fs), rest)
    | ')' :: rest =>
      if fs = [] then none else some ({ s with mode := s.mode.set fs }.add 0 false, rest)
    | _ => none
  else none

/-- What follows an opening parenthesis. -/
def openGroup? (s : State) (cs : List Char) : Option (State × List Char) :=
  match s.mode.skip cs with
  | '?' :: 'P' :: '<' :: rest | '?' :: '<' :: rest => openNamed? s rest
  | '?' :: rest => openFlagged? s rest
  | rest => some (s.opened s.mode, rest)

/-- Reads a pattern. Each step takes a character. -/
def scan : Nat → State → List Char → Option State
  | 0, _, _ => none
  | n + 1, s, cs =>
    match s.mode.skip cs with
    | [] => some s
    | c :: rest =>
      if c = '(' then do
        let (s, rest) ← openGroup? s rest
        scan n s rest
      else if c = ')' then do scan n (← s.close?) rest
      else if c = '|' then scan n s.alternate rest
      else if c = '[' then do
        let (first, rest) := Class.start s.mode rest
        let (depth, rest) ← readClass s.mode (2 * rest.length + 1) first [] rest
        scan n (s.add depth true) rest
      else if c = '?' ∨ c = '*' ∨ c = '+' then do
        scan n (← s.repeat?) (if rest.head? = some '?' then rest.tail else rest)
      else if c = '{' then none
      else do
        let (atom, rest) ← readAtom s.mode (c :: rest)
        if s.mode.admits atom then
          let s := match atom with
            | .boundary => { s with boundary := s.boundary || s.mode.unicode }
            | _ => s
          scan n (s.add 0 true) rest
        else none

/-- Why a pattern cannot be used. -/
inductive Error
  | malformed
  | wordBoundary
deriving DecidableEq

def Error.message : Error → String
  | .malformed => "error building NFA"
  | .wordBoundary =>
    "unsupported regex feature for DFAs: cannot build DFAs for regexes with Unicode word " ++
    "boundaries; switch to ASCII word boundaries, or heuristically enable Unicode word boundaries " ++
    "or use a different regex engine"

/-- How deep the parts of a pattern may stand in each other. -/
def maxDepth : Nat := 250

/-- Checks a pattern. The places of word boundaries are known for ASCII only. -/
def check (cs : List Char) : Except Error Unit :=
  match scan (cs.length + 1) .initial cs with
  | none => .error .malformed
  | some s =>
    if s.outer.length ≠ 0 ∨ maxDepth < s.group.depth then .error .malformed
    else if s.boundary then .error .wordBoundary
    else .ok ()

end Lookback.Log.Pattern
