/-!
Environment variables, which keep the first value that they are given.
-/
namespace Lookback

/-- Variables in the order in which they were set. -/
structure Environment where
  bindings : List (String × String)
deriving DecidableEq

namespace Environment

def get? (e : Environment) (name : String) : Option String := e.bindings.lookup name

/-- What a name in a text refers to. A variable is found by its name and the `=` after it, so the
name `a=b` finds what follows `b=` at the start of the value of `a`. -/
def reference? (e : Environment) (name : String) : Option String :=
  let cs := name.toList
  match cs.dropWhile (· ≠ '=') with
  | [] => e.get? name
  | _ :: rest => do
    let value ← e.get? (String.ofList (cs.takeWhile (· ≠ '=')))
    let start := rest ++ ['=']
    if start.isPrefixOf value.toList then some (String.ofList (value.toList.drop start.length))
    else none

/-- Sets a variable that has no value yet. No variable can hold a NUL character, and values with one
are left out of account. -/
def setIfUnset (e : Environment) (name value : String) : Environment :=
  if (e.get? name).isSome then e else ⟨e.bindings ++ [(name, value)]⟩

theorem get?_setIfUnset (e : Environment) (name value other : String) :
    (e.setIfUnset name value).get? other =
      (e.get? other).or (if other = name then some value else none) := by
  obtain ⟨vs⟩ := e
  by_cases h : (vs.lookup name).isSome
  · simp only [setIfUnset, get?, h, if_true]
    by_cases ho : other = name
    · subst ho
      obtain ⟨v, hv⟩ := Option.isSome_iff_exists.mp h
      simp [hv]
    · simp [ho]
  · simp only [setIfUnset, get?, h]
    by_cases ho : other = name
    · subst ho
      simp [List.lookup_append]
    · have hb : (other == name) = false := beq_false_of_ne ho
      simp [List.lookup_append, List.lookup_cons, ho, hb]

end Environment

end Lookback
