import Lookback.Environment.File

/-! A line sets a variable, sets none, or cannot be read. Which of these it is does not depend on the
variables to which it refers, only the value does. -/
namespace Lookback.Environment

variable {e : Environment} {l : List UInt8} {line : String}

/-- Why a computation fails, if it does. -/
def failure? {ε α : Type} : Except ε α → Option ε
  | .ok _ => none
  | .error e => some e

theorem failure?_map {ε α β : Type} (f : α → β) (x : Except ε α) :
    failure? (x.map f) = failure? x := by
  cases x <;> rfl

section

variable (lookup lookup' : String → Option String)

/-- References only stand for text, which is not looked at again. -/
theorem failure?_readValue (mode : Mode) (quoted : Bool) (i : Nat) (cs : List Char) :
    failure? (readValue lookup mode quoted i cs) =
      failure? (readValue lookup' mode quoted i cs) := by
  induction cs generalizing mode quoted i with
  | nil => cases mode <;> cases quoted <;> rfl
  | cons c cs ih =>
    cases mode with
    | escape =>
      simp only [readValue]
      cases unescape? c with
      | none => rfl
      | some d => simp only [failure?_map, ih]
    | after => simp only [readValue, apply_ite failure?, ih]
    | _ => simp only [readValue, apply_ite failure?, failure?_map, ih]

theorem failure?_value (cs : List Char) :
    failure? (value lookup cs) = failure? (value lookup' cs) := by
  have hsame := failure?_readValue lookup lookup' .plain false 0 cs
  unfold value
  cases hread : readValue lookup .plain false 0 cs <;>
    cases hread' : readValue lookup' .plain false 0 cs <;>
    rw [hread, hread'] at hsame <;> cases hsame <;> rfl

theorem failure?_readLine (line : String) :
    failure? (readLine lookup line) = failure? (readLine lookup' line) := by
  simp only [readLine]
  split
  · rfl
  · split
    · rfl
    · rfl
    · split
      · rfl
      · rename_i c cs _ _
        have hsame := failure?_value lookup lookup' (c :: cs)
        cases hread : value lookup (c :: cs) <;> cases hread' : value lookup' (c :: cs) <;>
          rw [hread, hread'] at hsame <;> cases hsame <;> rfl

end

/-- A line of UTF-8 that can be read. Its references stand for nothing here, which makes no
difference. -/
def isReadable (l : List UInt8) : Bool :=
  match String.fromUTF8? ⟨l.toArray⟩ with
  | none => false
  | some line => (failure? (readLine (fun _ => none) line)).isNone

/-- The variable that a line sets in an environment, if it sets one, and the value. -/
def assignment? (e : Environment) (l : List UInt8) : Option (String × String) :=
  match String.fromUTF8? ⟨l.toArray⟩ with
  | none => none
  | some line =>
    match readLine e.reference? line with
    | .ok a => a
    | .error _ => none

theorem isReadable_eq_false (h : String.fromUTF8? ⟨l.toArray⟩ = none) : isReadable l = false := by
  rw [isReadable, h]

theorem isReadable_eq (h : String.fromUTF8? ⟨l.toArray⟩ = some line)
    (lookup : String → Option String) :
    isReadable l = (failure? (readLine lookup line)).isNone := by
  rw [isReadable, h, failure?_readLine lookup]

theorem assignment?_eq (h : String.fromUTF8? ⟨l.toArray⟩ = some line)
    {a : Option (String × String)} (ha : readLine e.reference? line = .ok a) :
    e.assignment? l = a := by
  rw [assignment?, h]
  simp only [ha]

end Lookback.Environment
