import Lookback.Identifier.Uuid
import Lookback.Text.Bytes

/-!
Identifiers read from text: 32 hexadecimal digits, or five groups of them with hyphens, which may
stand in braces or after `urn:uuid:`.
-/
namespace Lookback.Uuid

open Text

/-- Why a text is no identifier. Positions and lengths are in bytes. -/
inductive ReadError
  | length (found : Nat)
  | character (c : Char) (position : Nat)
  | groupCount (found : Nat)
  | groupLength (group expected found : Nat)
deriving DecidableEq

def ReadError.message : ReadError → String
  | .length n => s!"invalid length: found {n}"
  | .character c i => s!"invalid character: found `{c}` at {i}"
  | .groupCount n => s!"invalid group count: expected 5, found {n}"
  | .groupLength g e n => s!"invalid group length in group {g}: expected {e}, found {n}"

/-- The part of a text that holds the digits. -/
structure Body where
  digits : List Char
  wrapped : Bool
  /-- The position from which a digit's position is counted. -/
  shift : Nat
  /-- The length by which the last group of a refused text is measured. -/
  length : Nat

/-- Looks inside braces and behind `urn:uuid:`, unless the whole text is as long as five groups.
Inside a wrapping of the right length, positions and lengths are those of the inside. -/
def body (cs : List Char) : Body :=
  let size := byteLength cs
  let wrapped (inside : List Char) (before around : Nat) : Body :=
    if size = 36 + around then ⟨inside, true, 0, 36⟩ else ⟨inside, true, before, size⟩
  if size = 36 then ⟨cs, false, 0, size⟩
  else if 2 ≤ cs.length ∧ cs.head? = some '{' ∧ cs.getLast? = some '}' then
    wrapped cs.tail.dropLast 1 2
  else if (cs.take 9).map Char.toLower = "urn:uuid:".toList then wrapped (cs.drop 9) 9 9
  else ⟨cs, false, 0, size⟩

def isHex (c : Char) : Bool := (hexValue? c).isSome

/-- The first character that is neither a digit nor a hyphen, with its position. -/
def firstStranger : Nat → List Char → Option (Char × Nat)
  | _, [] => none
  | i, c :: cs =>
    if isHex c || c = '-' then firstStranger (i + c.utf8Size) cs else some (c, i)

/-- The positions of the hyphens. -/
def hyphens (cs : List Char) : List Nat :=
  (cs.zipIdx.filter fun (c, _) => c = '-').map Prod.snd

/-- The first group that does not end where it should, given the ends of the first four. -/
def wrongGroup (ends : List Nat) : Option ReadError :=
  (List.zip ends [(0, 0, 8), (1, 9, 4), (2, 14, 4), (3, 19, 4)]).findSome?
    fun (e, group, start, expected) =>
      if e = start + expected then none else some (.groupLength group expected (e - start))

def parse (cs : List Char) : Except ReadError Uuid :=
  let size := byteLength cs
  if size = 0 ∨ 45 < size then .error (.length size)
  else
    let b := body cs
    match firstStranger b.shift b.digits with
    | some (c, i) => .error (.character c i)
    | none =>
      let hs := hyphens b.digits
      if hs = [] ∧ !b.wrapped ∧ size ≠ 36 then
        if size = 32 then .ok (ofHex cs) else .error (.length size)
      else if hs.length ≠ 4 then .error (.groupCount (hs.length + 1))
      else
        match wrongGroup hs with
        | some e => .error e
        | none =>
          if byteLength b.digits = 36 then .ok (ofHex (b.digits.filter (· ≠ '-')))
          else .error (.groupLength 4 12 (b.length - 24))

end Lookback.Uuid
