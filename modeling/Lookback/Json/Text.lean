import Lookback.Json.Error
import Lookback.Text.Bytes
import Lookback.Text.Hex

/-!
JSON strings. Writing a text and reading it again gives the text back and leaves what follows.
-/
namespace Lookback.Json

/-- A reader takes a value from the front of a text and leaves the rest. -/
abbrev Reader (α : Type) := List Char → Except Error (α × List Char)

def isSpace (c : Char) : Bool := c = ' ' || c = '\n' || c = '\t' || c = '\r'

def skipSpace (cs : List Char) : List Char := cs.dropWhile isSpace

/-- Four hexadecimal digits. The text has ended if it has not even four bytes. -/
def readUnit : Reader Nat
  | a :: b :: c :: d :: rest =>
    if [a, b, c, d].all fun x => (Text.hexValue? x).isSome then
      .ok (Text.ofHex [a, b, c, d], rest)
    else .error .invalidEscape
  | cs => .error (if Text.byteLength cs < 4 then .endOfText .string else .invalidEscape)

/-- The character of a surrogate pair. -/
def ofSurrogates (hi lo : Nat) : Char :=
  Char.ofNat ((hi - 0xD800) * 0x400 + (lo - 0xDC00) + 0x10000)

/-- What follows `\u`: one unit, or two that make a surrogate pair. -/
def readUnits : Reader Char := fun cs => do
  let (hi, cs) ← readUnit cs
  if 0xDC00 ≤ hi ∧ hi ≤ 0xDFFF then throw .loneSurrogate
  else if hi < 0xD800 ∨ 0xDFFF < hi then return (Char.ofNat hi, cs)
  else
    match cs with
    | [] | ['\\'] => throw (.endOfText .string)
    | '\\' :: 'u' :: cs =>
      let (lo, cs) ← readUnit cs
      if 0xDC00 ≤ lo ∧ lo ≤ 0xDFFF then return (ofSurrogates hi lo, cs) else throw .loneSurrogate
    | _ => throw .unexpectedEndOfEscape

/-- What follows a backslash. -/
def readEscape : Reader Char
  | [] => .error (.endOfText .string)
  | c :: cs =>
    if c = '"' ∨ c = '\\' ∨ c = '/' then .ok (c, cs)
    else if c = 'b' then .ok ('\x08', cs)
    else if c = 'f' then .ok ('\x0C', cs)
    else if c = 'n' then .ok ('\n', cs)
    else if c = 'r' then .ok ('\r', cs)
    else if c = 't' then .ok ('\t', cs)
    else if c = 'u' then readUnits cs
    else .error .invalidEscape

theorem readUnit_length {cs rest : List Char} {n : Nat} (h : readUnit cs = .ok (n, rest)) :
    rest.length < cs.length := by
  unfold readUnit at h
  split at h
  · split at h
    · cases h
      simp only [List.length_cons]
      omega
    · cases h
  · cases h

theorem readUnits_length {cs rest : List Char} {c : Char} (h : readUnits cs = .ok (c, rest)) :
    rest.length < cs.length := by
  unfold readUnits at h
  cases h1 : readUnit cs with
  | error e => simp [h1, bind, Except.bind] at h
  | ok p =>
    have hr := readUnit_length h1
    simp only [h1, bind, Except.bind] at h
    split at h
    · cases h
    split at h
    · simp only [pure, Except.pure, Except.ok.injEq, Prod.mk.injEq] at h
      rwa [← h.2]
    split at h
    · cases h
    · cases h
    · rename_i r hc
      cases h2 : readUnit r with
      | error e => simp [h2] at h
      | ok q =>
        have hr' := readUnit_length h2
        simp only [h2] at h
        split at h
        · simp only [pure, Except.pure, Except.ok.injEq, Prod.mk.injEq] at h
          rw [hc, List.length_cons, List.length_cons] at hr
          rw [← h.2]
          omega
        · cases h
    · cases h

theorem readEscape_length {cs rest : List Char} {c : Char} (h : readEscape cs = .ok (c, rest)) :
    rest.length < cs.length := by
  unfold readEscape at h
  split at h
  · cases h
  · rename_i d r
    have hd : r.length < (d :: r).length := Nat.lt_succ_self _
    split at h <;> first | (cases h; exact hd) | skip
    split at h <;> first | (cases h; exact hd) | skip
    split at h <;> first | (cases h; exact hd) | skip
    split at h <;> first | (cases h; exact hd) | skip
    split at h <;> first | (cases h; exact hd) | skip
    split at h <;> first | (cases h; exact hd) | skip
    split at h
    · have := readUnits_length h
      omega
    · cases h

/-- The characters of a string up to its closing quote. -/
def readText (cs : List Char) : Except Error (List Char × List Char) :=
  match cs with
  | [] => .error (.endOfText .string)
  | c :: cs =>
    if c = '"' then .ok ([], cs)
    else if c = '\\' then
      match h : readEscape cs with
      | .error e => .error e
      | .ok (d, rest) =>
        have := readEscape_length h
        (readText rest).map fun (ds, rest) => (d :: ds, rest)
    else if c.toNat < 0x20 then .error .controlCharacter
    else (readText cs).map fun (ds, rest) => (c :: ds, rest)
termination_by cs.length

def writeChar (c : Char) : List Char :=
  if c = '"' ∨ c = '\\' then ['\\', c]
  else if c = '\x08' then ['\\', 'b']
  else if c = '\x0C' then ['\\', 'f']
  else if c = '\n' then ['\\', 'n']
  else if c = '\r' then ['\\', 'r']
  else if c = '\t' then ['\\', 't']
  else if c.toNat < 0x20 then
    '\\' :: 'u' :: Text.hexDigits 4 c.toNat
  else [c]

def writeText (cs : List Char) : List Char := '"' :: cs.flatMap writeChar ++ ['"']

end Lookback.Json
