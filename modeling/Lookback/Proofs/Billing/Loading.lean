import Lookback.Proofs.Billing.Wire
import Lookback.Proofs.Json.Elements

/-! A catalog from JSON is the one of the definitions that the text lists. A text that is wrong
somewhere gives none, whatever stands in front of the first thing that is wrong. -/
namespace Lookback

open Json

namespace Wire

/-- The JSON form of a list of definitions. -/
abbrev usageDefinitions : Codec (List UsageDefinition) := array usageDefinition

theorem usageDefinition_consumes : usageDefinition.Consumes := by
  rw [usageDefinition]
  apply record_consumes
  exact ⟨refined_consumes, variant_consumes, trivial⟩

theorem usageDefinitions_decode_encode (ds : List UsageDefinition) :
    usageDefinitions.decode (usageDefinitions.encode ds) = .ok ds := by
  apply Codec.decode_encode
  apply array_roundTrips
  · intro d _ rest _
    exact usageDefinition_read_write d rest
  · intro d _
    exact record_opensElement

/-- Any definitions can stand in front of anything, also two of the same name. -/
theorem usageDefinition_lists (ds : List UsageDefinition) (tail : List Char) :
    usageDefinition.Lists true (commaSeparated (ds.map usageDefinition.write) ++ tail) ds tail := by
  apply lists_written
  · intro d _ ts
    exact usageDefinition_read_write d _
  · intro d _
    exact record_opensElement

end Wire

namespace Catalog

variable {ds : List UsageDefinition} {s : String} {tail : List Char} {e : Json.Error}

theorem ofDefinitions_ne_malformed (ds : List UsageDefinition) (e : Json.Error) :
    ofDefinitions ds ≠ .error (.malformed e) := by
  intro h
  unfold ofDefinitions at h
  split at h <;> cases h

theorem ofJson_of_decode (h : Wire.usageDefinitions.decode s = .ok ds) :
    ofJson s = ofDefinitions ds := by
  rw [ofJson, h]

theorem ofJson_eq_malformed_iff :
    ofJson s = .error (.malformed e) ↔ Wire.usageDefinition.NoArray s.toList e := by
  rw [← array_decode_eq_error_iff Wire.usageDefinition_consumes, ofJson]
  cases (array Wire.usageDefinition).decode s with
  | ok ds => simp [ofDefinitions_ne_malformed]
  | error e' => simp

theorem not_decode_iff_malformed : (∀ ds, Wire.usageDefinitions.decode s ≠ .ok ds) ↔
    ∃ e, ofJson s = .error (.malformed e) := by
  rw [ofJson]
  cases Wire.usageDefinitions.decode s with
  | ok ds => simp [ofDefinitions_ne_malformed]
  | error e => simp

theorem ofJson_of_fault (h : Wire.usageDefinition.Fault ds.isEmpty tail e) :
    ofJson (String.ofList
      ('[' :: commaSeparated (ds.map Wire.usageDefinition.write) ++ tail)) =
      .error (.malformed e) := by
  apply ofJson_eq_malformed_iff.mpr
  rw [String.toList_ofList, List.cons_append]
  exact .fault (skipSpace_cons (by decide)) (Wire.usageDefinition_lists ds tail) h

/-- From the JSON of definitions one gets exactly what they make, be it a catalog or the name that is
taken. A text from which no definitions can be read gives neither: it is refused for the first thing
that is wrong with it, which any definitions can precede, also two of the same name. -/
theorem ofJson_refines :
    (∀ ds, ofJson (Wire.usageDefinitions.encode ds) = ofDefinitions ds) ∧
    (∀ s ds, Wire.usageDefinitions.decode s = .ok ds → ofJson s = ofDefinitions ds) ∧
    (∀ s, (∀ ds, Wire.usageDefinitions.decode s ≠ .ok ds) ↔
      ∃ e, ofJson s = .error (.malformed e)) ∧
    (∀ s e, ofJson s = .error (.malformed e) ↔ Wire.usageDefinition.NoArray s.toList e) ∧
    ∀ ds tail e, Wire.usageDefinition.Fault (List.isEmpty ds) tail e →
      ofJson (String.ofList
        ('[' :: commaSeparated (ds.map Wire.usageDefinition.write) ++ tail)) =
        .error (.malformed e) := by
  refine ⟨?_, ?_, ?_, ?_, ?_⟩
  · intro ds
    exact ofJson_of_decode (Wire.usageDefinitions_decode_encode ds)
  · intro s ds h
    exact ofJson_of_decode h
  · intro s
    exact not_decode_iff_malformed
  · intro s e
    exact ofJson_eq_malformed_iff
  · intro ds tail e h
    exact ofJson_of_fault h

/-- Calls, billed in two ways. -/
def twice : List UsageDefinition := [⟨"calls", .monthly⟩, ⟨"calls", .annual⟩]

/-- Two definitions of one name are refused for the name, but if the text breaks off after them then
for its end. -/
theorem ofJson_refines_twice :
    ofJson (Wire.usageDefinitions.encode twice) = .error (.duplicateDefinition "calls") ∧
    ofJson (String.ofList ('[' :: commaSeparated (twice.map Wire.usageDefinition.write) ++ [','])) =
      .error (.malformed (.endOfText .value)) := by
  obtain ⟨hencode, -, -, -, hfault⟩ := ofJson_refines
  refine ⟨?_, ?_⟩
  · rw [hencode]
    rfl
  · exact hfault twice [','] (.endOfText .value) (.stop (.next rfl))

end Catalog

end Lookback
