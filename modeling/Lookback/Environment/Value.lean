import Lookback.Text.Alphanumeric
import Lookback.Text.Bytes

/-!
Values of variables in a settings file: quotes, escapes and references to other variables.
-/
namespace Lookback.Environment

/-- Where in a value a character stands. Names of referenced variables are in reverse. -/
inductive Mode
  | plain
  /-- Between single quotes. -/
  | verbatim
  /-- After a backslash. -/
  | escape
  /-- After a dollar sign. -/
  | name (soFar : List Char)
  /-- After a dollar sign and a brace. -/
  | block (soFar : List Char)
  /-- After a space that is not quoted. -/
  | after

/-- The character that an escape stands for. -/
def unescape? (c : Char) : Option Char :=
  if c = 'n' then some '\n'
  else if c = '\\' ∨ c = '\'' ∨ c = '"' ∨ c = '$' ∨ c = ' ' then some c
  else none

/-- Why a value cannot be read: the character at a position, or an end too early. -/
inductive ValueError
  | unexpected (position : Nat)
  | unclosed
deriving DecidableEq

/-- Reads a value from position `i` on. `quoted` tells whether double quotes are open. -/
def readValue (lookup : String → Option String) :
    Mode → Bool → Nat → List Char → Except ValueError (List Char)
  | .block _, _, _, [] => .error .unclosed
  | .verbatim, _, _, [] => .error .unclosed
  | mode, quoted, _, [] =>
    if quoted then .error .unclosed
    else match mode with
      | .name soFar => .ok (referenced soFar)
      | _ => .ok []
  | .after, quoted, i, c :: cs =>
    if c = ' ' ∨ c = '\t' then readValue lookup .after quoted (i + 1) cs
    else if c = '#' then .ok []
    else .error (.unexpected i)
  | .escape, quoted, i, c :: cs =>
    match unescape? c with
    | some d => (readValue lookup .plain quoted (i + 1) cs).map (d :: ·)
    | none => .error (.unexpected i)
  | .verbatim, quoted, i, c :: cs =>
    if c = '\'' then readValue lookup .plain quoted (i + 1) cs
    else (readValue lookup .verbatim quoted (i + 1) cs).map (c :: ·)
  | .name soFar, quoted, i, c :: cs =>
    if Text.isAlphanumeric c then readValue lookup (.name (c :: soFar)) quoted (i + 1) cs
    else if c = '{' ∧ soFar = [] then readValue lookup (.block []) quoted (i + 1) cs
    else if c = '$' then
      (readValue lookup (.name []) quoted (i + 1) cs).map (referenced soFar ++ ·)
    else (readValue lookup .plain quoted (i + 1) cs).map (referenced soFar ++ c :: ·)
  | .block soFar, quoted, i, c :: cs =>
    if c = '}' then (readValue lookup .plain quoted (i + 1) cs).map (referenced soFar ++ ·)
    else readValue lookup (.block (c :: soFar)) quoted (i + 1) cs
  | .plain, quoted, i, c :: cs =>
    if c = '$' then readValue lookup (.name []) quoted (i + 1) cs
    else if c = '"' then readValue lookup .plain (!quoted) (i + 1) cs
    else if c = '\\' then readValue lookup .escape quoted (i + 1) cs
    else if !quoted ∧ c = '\'' then readValue lookup .verbatim quoted (i + 1) cs
    else if !quoted ∧ (c = ' ' ∨ c = '\t') then readValue lookup .after quoted (i + 1) cs
    else (readValue lookup .plain quoted (i + 1) cs).map (c :: ·)
where
  /-- The value of the variable with the given name, or nothing. -/
  referenced (soFar : List Char) : List Char :=
    ((lookup (String.ofList soFar.reverse)).getD "").toList

/-- A whole value, or the position of the character that cannot stand there. A quote or a block left
open is told of at the last byte. -/
def value (lookup : String → Option String) (cs : List Char) : Except Nat (List Char) :=
  match readValue lookup .plain false 0 cs with
  | .ok v => .ok v
  | .error (.unexpected i) => .error i
  | .error .unclosed => .error (Text.byteLength cs - 1)

end Lookback.Environment
