import Lookback.Log.Pattern.Basic
import Lookback.Text.Alphanumeric
import Lookback.Text.Blank
import Lookback.Text.Bytes
import Lookback.Text.Decimal

/-!
Which log events are let through: a list of targets, each with a level.
-/
namespace Lookback.Log

open Text

/-- The targets whose events are logged. -/
def targets : List String := ["usage_optimizer", "shared"]

/-- The same level for every target; `info` unless another is given. -/
def directive (level : Option String) : String :=
  let level := level.getD "info"
  ",".intercalate (targets.map fun t => s!"{t}={level}")

/-- What is wrong with a directive. -/
inductive DirectiveError
  | malformed
  | badLevel
  | badField (e : Pattern.Error)
deriving DecidableEq

def DirectiveError.message : DirectiveError → String
  | .malformed => "invalid filter directive"
  | .badLevel => "error parsing level filter: expected one of \"off\", \"error\", \"warn\", " ++
    "\"info\", \"debug\", \"trace\", or a number 0-5"
  | .badField e => s!"invalid field filter: {e.message}"

/-- A level: nothing at all, a name in any case, or a number from 0 to 5. -/
def isLevel (cs : List Char) : Bool :=
  let digits := if cs.head? = some '+' then cs.tail else cs
  cs = [] || ["off", "error", "warn", "info", "debug", "trace"].any
      (fun name => name.toList = cs.map Char.toLower) ||
    (digits ≠ [] && digits.all Char.isDigit && ofDigits digits ≤ 5)

/-- Digits with a point among them or not, and an exponent or none. -/
def isDecimal (cs : List Char) : Bool :=
  let whole := cs.takeWhile Char.isDigit
  let rest := cs.dropWhile Char.isDigit
  let fraction := if rest.head? = some '.' then rest.tail.takeWhile Char.isDigit else []
  let rest := if rest.head? = some '.' then rest.tail.dropWhile Char.isDigit else rest
  (whole ≠ [] || fraction ≠ []) &&
    match rest with
    | [] => true
    | e :: ds =>
      let ds := if ds.head? = some '+' || ds.head? = some '-' then ds.tail else ds
      (e = 'e' || e = 'E') && ds ≠ [] && ds.all Char.isDigit

/-- A number after an optional sign, infinity and the absence of a number included. -/
def isNumber (cs : List Char) : Bool :=
  let size := if cs.head? = some '+' || cs.head? = some '-' then cs.tail else cs
  isDecimal size || ["inf", "infinity", "nan"].any fun name => name.toList = size.map Char.toLower

/-- Checks a field condition, which is a name alone or `name=value`. A value that is no number is a
pattern. -/
def checkField (cs : List Char) : Except DirectiveError Unit :=
  match cs.dropWhile (· ≠ '=') with
  | [] => .ok ()
  | _ :: rest =>
    let value := rest.takeWhile (· ≠ '=')
    if isNumber value then .ok () else (Pattern.check value).mapError .badField

/-- The first bytes of a text. -/
def takeBytes (n : Nat) : List Char → List Char
  | [] => []
  | c :: cs => if n = 0 then [] else c :: takeBytes (n - c.utf8Size) cs

/-- What is left of a text after some bytes. -/
def dropBytes (n : Nat) : List Char → List Char
  | [] => []
  | c :: cs => if n = 0 then c :: cs else dropBytes (n - c.utf8Size) cs

/-- What the next character of a piece belongs to. Fields and levels know where they start. -/
inductive Part
  | front
  | target
  | span
  | field (start : Nat)
  | afterFields
  | afterSpan
  | level (start : Nat)

def startsTarget (c : Char) : Bool := c = '-' || c = ':' || c = '_' || isAlphanumeric c

/-- The part of a piece after a character at a position in bytes. A level takes all the rest. -/
def Part.next (piece : List Char) (p : Part) (c : Char) (i : Nat) : Except DirectiveError Part :=
  match p with
  | .front =>
    if c = '[' then .ok .span else if startsTarget c then .ok .target else .error .malformed
  | .target =>
    .ok (if c = '=' then .level (i + 1) else if c = '[' then .span else .target)
  | .span =>
    .ok (if c = ']' then .afterSpan else if c = '{' then .field (i + 1) else .span)
  | .field j =>
    if c ≠ '}' then .ok (.field j)
    else if i = j then .error .malformed
    else (checkField (takeBytes (i - j) (dropBytes j piece))).map fun () => .afterFields
  | .afterFields => if c = ']' then .ok .afterSpan else .error .malformed
  | .afterSpan => if c = '=' then .ok (.level (i + 1)) else .error .malformed
  | .level j => .ok (.level j)

def parts (piece : List Char) (p : Part) (i : Nat) : List Char → Except DirectiveError Part
  | [] => .ok p
  | c :: cs => do parts piece (← p.next piece c i) (i + c.utf8Size) cs

/-- Checks one piece of a directive. White space around it is ignored, but counts where fields and
the level are taken out. -/
def checkPiece (cs : List Char) : Except DirectiveError Unit := do
  match ← parts cs .front 0 (trim cs) with
  | .target | .afterSpan => return ()
  | .level i => if isLevel (dropBytes i cs) then return () else throw .badLevel
  | .front | .span | .field _ | .afterFields => throw .malformed

def splitOnComma (cs : List Char) : List (List Char) :=
  cs.foldr (fun c pieces =>
    if c = ',' then [] :: pieces
    else match pieces with
      | [] => [[c]]
      | p :: ps => (c :: p) :: ps) [[]]

/-- Checks the pieces between commas in order and passes over empty ones. -/
def checkDirective (s : String) : Except DirectiveError Unit :=
  ((splitOnComma s.toList).filter (· ≠ [])).forM checkPiece

/-- Why logging cannot be set up. -/
inductive SetupError
  | badDirective (directive : String) (reason : DirectiveError)
  | alreadySet
deriving DecidableEq

def SetupError.message : SetupError → String
  | .badDirective d e => s!"Invalid configuration: log_level = {d} ({e.message})"
  | .alreadySet =>
    "Tracing initialization failed: a global default trace dispatcher has already been set"

/-- Sets up logging, once, with the same level for every target. -/
def setup (alreadySet : Bool) (level : Option String) : Except SetupError Unit :=
  match checkDirective (directive level) with
  | .error e => .error (.badDirective (directive level) e)
  | .ok () => if alreadySet then .error .alreadySet else .ok ()

end Lookback.Log
