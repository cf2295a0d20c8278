import Lookback.Environment.Value
import Lookback.Text.Blank

/-!
Lines of a settings file: `name = value`, with an optional `export` in front, and comments.
-/
namespace Lookback.Environment

open Text

/-- What a line cannot be read for: some text and the position in it. -/
structure LineError where
  text : String
  position : Nat
deriving DecidableEq

def LineError.message (e : LineError) : String :=
  s!"Error parsing line: '{e.text}', error at line index: {e.position}"

def startsName (c : Char) : Bool := c.isAlpha || c = '_'

def inName (c : Char) : Bool := c.isAlphanum || c = '_' || c = '.'

/-- A name at the front of a text, and what follows it. -/
def readName? : List Char → Option (List Char × List Char)
  | [] => none
  | c :: cs =>
    if startsName c then some ((c :: cs).takeWhile inName, (c :: cs).dropWhile inName) else none

def readEquals? : List Char → Option (List Char)
  | '=' :: cs => some cs
  | _ => none

/-- The name that a line sets and the text of its value, or what is left of the line where it cannot
be read. A name after `export` counts, unless `export` itself is set. -/
def readAssignment (cs : List Char) : Except (List Char) (List Char × List Char) :=
  match readName? cs with
  | none => .error cs
  | some (name, rest) =>
    let rest := dropBlank rest
    match readEquals? rest with
    | some value => .ok (name, dropBlank value)
    | none =>
      if name ≠ "export".toList then .error rest
      else
        match readName? rest with
        | none => .error rest
        | some (name, rest) =>
          let rest := dropBlank rest
          match readEquals? rest with
          | some value => .ok (name, dropBlank value)
          | none => .error rest

/-- The variable that a line sets, if it is neither blank nor a comment. -/
def readLine (lookup : String → Option String) (line : String) :
    Except LineError (Option (String × String)) :=
  let all := dropBlankEnd line.toList
  let cs := dropBlank all
  if cs = [] ∨ cs.head? = some '#' then .ok none
  else
    match readAssignment cs with
    | .error left => .error ⟨line, byteLength all - byteLength left⟩
    | .ok (name, []) => .ok (some (String.ofList name, ""))
    | .ok (name, c :: cs) =>
      if c = '#' then .ok (some (String.ofList name, ""))
      else
        match value lookup (c :: cs) with
        | .ok v => .ok (some (String.ofList name, String.ofList v))
        | .error i => .error ⟨String.ofList (c :: cs), i⟩

end Lookback.Environment
