import Lookback.Json.Codec

/-!
Records in JSON: an object with the record's fields in any order and others to pass over, or an
array of all fields in order.
-/
namespace Lookback.Json

/-- The fields of a record in order. `absent` is the value of a field that is not given. -/
inductive Fields : Type → Type 1
  | nil : Fields Unit
  | cons {α β : Type} (key : String) (codec : Codec α) (absent : Option α) (rest : Fields β) :
      Fields (α × β)

namespace Fields

/-- The values of some of the fields. -/
def Draft : {α : Type} → Fields α → Type
  | _, .nil => Unit
  | _, @cons α _ _ _ _ rest => Option α × rest.Draft

def blank : {α : Type} → (fs : Fields α) → fs.Draft
  | _, .nil => ()
  | _, .cons _ _ _ rest => (none, rest.blank)

def size : {α : Type} → Fields α → Nat
  | _, .nil => 0
  | _, .cons _ _ _ rest => rest.size + 1

/-- Reads what follows a key into the field of that name, if there is one. A field is given once. -/
def readField? : {α : Type} → (fs : Fields α) → String → fs.Draft → List Char →
    Option (Except Error (fs.Draft × List Char))
  | _, .nil, _, _, _ => none
  | _, @cons α _ key codec _ rest, k, draft, cs =>
    let (slot, others) : Option α × rest.Draft := draft
    if k = key then
      match slot with
      | some _ => some (.error (.duplicateField key))
      | none => some do
        let (a, cs) ← codec.read (← readColon cs)
        return ((some a, others), cs)
    else (rest.readField? k others cs).map (·.map fun (others, cs) => ((slot, others), cs))

/-- The whole record, if no field without a value for absence is missing. -/
def complete : {α : Type} → (fs : Fields α) → fs.Draft → Except Error α
  | _, .nil, _ => .ok ()
  | _, @cons α _ key _ absent rest, draft =>
    let (slot, others) : Option α × rest.Draft := draft
    match slot.or absent with
    | none => .error (.missingField key)
    | some a => (rest.complete others).map (a, ·)

/-- Moves to the next key of an object, or past its closing brace. -/
def nextKey (first : Bool) (cs : List Char) : Except Error (Option String × List Char) :=
  let key (cs : List Char) := (readText cs).map fun (s, cs) => (some (String.ofList s), cs)
  match skipSpace cs with
  | [] => .error (.endOfText .object)
  | '}' :: cs => .ok (none, cs)
  | c :: cs =>
    if first then
      if c = '"' then key cs else .error .keyNotText
    else if c = ',' then
      match skipSpace cs with
      | '"' :: cs => key cs
      | '}' :: _ => .error .trailingComma
      | [] => .error (.endOfText .value)
      | _ => .error .keyNotText
    else .error .expectedCommaOrBrace

/-- The members of an object, of which there are at most as many as characters. -/
def readMembers {α : Type} (fs : Fields α) : Nat → Bool → fs.Draft → Reader α
  | 0, _, _, _ => .error .expectedValue
  | n + 1, first, draft, cs => do
    let (key, cs) ← nextKey first cs
    match key with
    | none => return (← fs.complete draft, cs)
    | some key =>
      match fs.readField? key draft cs with
      | some result =>
        let (draft, cs) ← result
        fs.readMembers n false draft cs
      | none => fs.readMembers n false draft (← skipValue (← readColon cs))

/-- The elements of an array from index `i` on, one for each field, and nothing after them. -/
def readInOrder (record : String) (total : Nat) : {α : Type} → Fields α → Nat → Reader α
  | _, .nil, _, cs =>
    match skipSpace cs with
    | [] => .error (.endOfText .list)
    | ']' :: cs => .ok ((), cs)
    | ',' :: cs =>
      match skipSpace cs with
      | ']' :: _ => .error .trailingComma
      | _ => .error .trailingCharacters
    | _ => .error .trailingCharacters
  | _, .cons _ codec _ rest, i, cs => do
    let (more, cs) ← nextElement (i == 0) cs
    if more then
      let (a, cs) ← codec.read cs
      let (others, cs) ← rest.readInOrder record total (i + 1) cs
      return ((a, others), cs)
    else throw (.wrongLength i record total)

def writeMembers : {α : Type} → Fields α → α → List (List Char)
  | _, .nil, _ => []
  | _, .cons key codec _ rest, (a, others) =>
    (writeText key.toList ++ ':' :: codec.write a) :: rest.writeMembers others

end Fields

/-- A record with the given fields, made from their values and taken apart into them. -/
def record {α β : Type} (name : String) (fs : Fields β) (make : β → α) (parts : α → β) :
    Codec α where
  read cs :=
    match skipSpace cs with
    | '[' :: cs => (fs.readInOrder name fs.size 0 cs).map fun (b, cs) => (make b, cs)
    | '{' :: cs =>
      (fs.readMembers (cs.length + 1) true fs.blank cs).map fun (b, cs) => (make b, cs)
    | cs => .error (refusal s!"struct {name}" cs)
  write a := '{' :: commaSeparated (fs.writeMembers (parts a)) ++ ['}']

end Lookback.Json
