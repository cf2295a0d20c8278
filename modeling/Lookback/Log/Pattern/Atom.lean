import Lookback.Text.Blank
import Lookback.Text.Hex

/-!
What a pattern is made of at its smallest, and the settings under which it is read.
-/
namespace Lookback.Log.Pattern

open Text

/-- The settings in force at a place of a pattern. -/
structure Mode where
  /-- White space and comments are passed over. -/
  spaced : Bool
  anyCase : Bool
  /-- Characters are matched whole and not byte by byte. -/
  unicode : Bool

def Mode.initial : Mode := ⟨false, false, true⟩

/-- Passes over white space and comments. -/
def skipSpaced (inComment : Bool) : List Char → List Char
  | [] => []
  | c :: cs =>
    if inComment then skipSpaced (c ≠ '\n') cs
    else if isBlank c then skipSpaced false cs
    else if c = '#' then skipSpaced true cs
    else c :: cs

def Mode.skip (m : Mode) (cs : List Char) : List Char :=
  if m.spaced then skipSpaced false cs else cs

/-- A part of a pattern that has no parts of its own. -/
inductive Atom
  /-- One character, and whether it is given as a byte. -/
  | literal (c : Char) (asByte : Bool)
  /-- Digits, white space or word characters, or all others. -/
  | shorthand (negated : Bool)
  | any
  /-- The start or end of a line or text. -/
  | edge
  /-- The start or end of a word. -/
  | boundary

/-- Letter case and shorthands are known for ASCII only, and no character may be matched in part. -/
def Mode.admits (m : Mode) : Atom → Bool
  | .literal c asByte => if m.unicode then !m.anyCase else !(asByte && 0x80 ≤ c.toNat)
  | .shorthand negated => !m.unicode && !negated
  | .any => m.unicode
  | .edge | .boundary => true

/-- What may stand inside brackets. -/
def Mode.admitsMember (m : Mode) : Atom → Bool
  | .literal c _ => if m.unicode then !m.anyCase else c.toNat < 0x80
  | .shorthand negated => !m.unicode && !negated
  | _ => false

def readHexDigits (m : Mode) : Nat → List Char → Option (List Char × List Char)
  | 0, cs => some ([], cs)
  | _ + 1, [] => none
  | k + 1, c :: cs =>
    if (hexValue? c).isSome then
      (readHexDigits m k (m.skip cs)).map fun (ds, rest) => (c :: ds, rest)
    else none

/-- A character given by `k` hexadecimal digits. -/
def readHex (m : Mode) (k : Nat) (cs : List Char) : Option (Char × List Char) := do
  let (ds, rest) ← readHexDigits m k (m.skip cs)
  if (ofHex ds).isValidChar then some (Char.ofNat (ofHex ds), rest) else none

/-- The control characters that have an escape of one letter. -/
def controls : List (Char × Char) :=
  [('a', '\x07'), ('f', '\x0C'), ('n', '\n'), ('r', '\r'), ('t', '\t'), ('v', '\x0B')]

/-- What follows a backslash. No other letters and no digits have a meaning there. -/
def readEscape (m : Mode) : List Char → Option (Atom × List Char)
  | [] => none
  | c :: cs =>
    if c = 'x' then (readHex m 2 cs).map fun (d, rest) => (.literal d true, rest)
    else if c = 'u' then (readHex m 4 cs).map fun (d, rest) => (.literal d false, rest)
    else if c = 'U' then (readHex m 8 cs).map fun (d, rest) => (.literal d false, rest)
    else if c ∈ ['d', 's', 'w'] then some (.shorthand false, cs)
    else if c ∈ ['D', 'S', 'W'] then some (.shorthand true, cs)
    else if c ∈ ['A', 'z'] then some (.edge, cs)
    else if c ∈ ['b', 'B', '<', '>'] then some (.boundary, cs)
    else
      match controls.lookup c with
      | some d => some (.literal d false, cs)
      | none =>
        if c.toNat < 0x80 ∧ !c.isAlphanum then some (.literal c false, cs) else none

def readAtom (m : Mode) : List Char → Option (Atom × List Char)
  | [] => none
  | c :: cs =>
    if c = '\\' then readEscape m cs
    else if c = '.' then some (.any, cs)
    else if c = '^' ∨ c = '$' then some (.edge, cs)
    else some (.literal c false, cs)

end Lookback.Log.Pattern
