import Lookback.Billing.Period
import Lookback.Json.Error

/-!
The catalog of usage types: each has a name of its own and a billing period.
-/
namespace Lookback

structure UsageDefinition where
  name : String
  period : Period
deriving DecidableEq

/-- Usage definitions of which no two have the same name. -/
structure Catalog where
  definitions : List UsageDefinition
  nodup : (definitions.map UsageDefinition.name).Nodup

namespace Catalog

variable {ds : List UsageDefinition} {seen : List String} {n : String}

/-- Why there is no catalog. -/
inductive Error
  | duplicateDefinition (name : String)
  | malformed (reason : Json.Error)

def Error.message : Error → String
  | .duplicateDefinition n => s!"Duplicate usage definition in catalog: {n}"
  | .malformed e => s!"Deserialization failed: {e.message}"

/-- The first name in order that was seen before it. -/
def repeated? (seen : List String) : List UsageDefinition → Option String
  | [] => none
  | d :: ds => if d.name ∈ seen then some d.name else repeated? (d.name :: seen) ds

theorem repeated?_eq_none_iff :
    repeated? seen ds = none ↔
      (ds.map UsageDefinition.name).Nodup ∧ ∀ d ∈ ds, d.name ∉ seen := by
  induction ds generalizing seen with
  | nil => simp [repeated?]
  | cons d ds ih =>
    simp only [repeated?, List.map_cons, List.nodup_cons, List.mem_map, List.forall_mem_cons]
    split
    · simp_all
    · rename_i h
      rw [ih]
      constructor
      · rintro ⟨hn, hs⟩
        refine ⟨⟨?_, hn⟩, h, fun e he => (List.not_mem_of_not_mem_cons (hs e he))⟩
        rintro ⟨e, he, hde⟩
        exact hs e he (hde ▸ List.mem_cons_self ..)
      · rintro ⟨⟨hd, hn⟩, -, hs⟩
        refine ⟨hn, fun e he hm => ?_⟩
        rcases List.mem_cons.mp hm with h' | h'
        · exact hd ⟨e, he, h'⟩
        · exact hs e he h'

def ofDefinitions (ds : List UsageDefinition) : Except Error Catalog :=
  match h : repeated? [] ds with
  | some n => .error (.duplicateDefinition n)
  | none => .ok ⟨ds, (repeated?_eq_none_iff.mp h).1⟩

def empty : Catalog := ⟨[], List.nodup_nil⟩

/-- The definition of a name. -/
def get? (c : Catalog) (name : String) : Option UsageDefinition :=
  c.definitions.find? fun d => d.name = name

/-- The periods in use, in order. -/
def periods (c : Catalog) : List Period := Period.distinct (c.definitions.map UsageDefinition.period)

def size (c : Catalog) : Nat := c.definitions.length

def isEmpty (c : Catalog) : Bool := c.definitions.isEmpty

/-- Catalogs are compared as maps, whatever the order of their definitions. -/
instance : BEq Catalog :=
  ⟨fun c d => c.size == d.size && c.definitions.all fun x => d.get? x.name = some x⟩

end Catalog

end Lookback
