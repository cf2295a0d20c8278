import Lookback.Proofs.Text.Blank
import Lookback.Proofs.Text.Decimal
import Lookback.Settings

/-! The text of a bound. It is taken exactly if it is an integer of 32 bits within white space, and no
other integer is taken for one of these. -/
namespace Lookback.Settings

open Text

variable {raw : String} {front behind : List Char} {v w : Int} {s : Settings} {e : Error}
  {lookup : String → Option String}

/-- An integer in decimal digits with white space around it. -/
def StandsFor (raw : String) (v : Int) : Prop :=
  ∃ front cs behind, raw.toList = front ++ cs ++ behind ∧ (∀ x ∈ front, isBlank x) ∧
    (∀ x ∈ behind, isBlank x) ∧ SignedNumeral cs v

/-- The integers of 32 bits. -/
def Fits (v : Int) : Prop := -2147483648 ≤ v ∧ v ≤ 2147483647

theorem standsFor_iff : StandsFor raw v ↔ readInt? (trim raw.toList) = some v := by
  constructor
  · rintro ⟨front, cs, behind, hraw, hfront, hbehind, hcs⟩
    rw [hraw, trim_append hfront hbehind (isBlank_of_signedNumeral hcs)]
    exact readInt?_eq_some_iff.mpr hcs
  · intro h
    obtain ⟨front, behind, hraw, hfront, hbehind⟩ := exists_trim raw.toList
    exact ⟨front, _, behind, hraw, hfront, hbehind, readInt?_eq_some_iff.mp h⟩

theorem eq_of_standsFor (hv : StandsFor raw v) (hw : StandsFor raw w) : v = w :=
  Option.some.inj ((standsFor_iff.mp hv).symm.trans (standsFor_iff.mp hw))

theorem readBound?_eq_some_iff : readBound? raw = some v ↔ StandsFor raw v ∧ Fits v := by
  rw [readBound?, Option.filter_eq_some_iff, standsFor_iff, Bool.and_eq_true, decide_eq_true_eq,
    decide_eq_true_eq]
  rfl

theorem readBound?_eq_none_iff : readBound? raw = none ↔ ∀ v, StandsFor raw v → ¬ Fits v := by
  rw [Option.eq_none_iff_forall_ne_some]
  simp only [ne_eq, readBound?_eq_some_iff, not_and]

theorem bound_ofBase (v : Int) (tenant : UInt64) : (ofBase v).bound tenant = v := rfl

theorem ofLookup_eq_ok_iff (h : lookup key = some raw) :
    ofLookup lookup = .ok s ↔ ∃ v, StandsFor raw v ∧ Fits v ∧ s = ofBase v := by
  simp only [ofLookup, h]
  cases hread : readBound? raw with
  | none =>
    have hnone := readBound?_eq_none_iff.mp hread
    constructor
    · intro hok
      cases hok
    · rintro ⟨v, hv, hfits, -⟩
      exact absurd hfits (hnone v hv)
  | some v =>
    obtain ⟨hv, hfits⟩ := readBound?_eq_some_iff.mp hread
    constructor
    · intro hok
      cases hok
      exact ⟨v, hv, hfits, rfl⟩
    · rintro ⟨w, hw, -, rfl⟩
      rw [eq_of_standsFor hv hw]

theorem ofLookup_eq_error_iff (h : lookup key = some raw) :
    ofLookup lookup = .error e ↔ (∀ v, StandsFor raw v → ¬ Fits v) ∧ e = .notAnInteger raw := by
  rw [← readBound?_eq_none_iff]
  simp only [ofLookup, h]
  cases readBound? raw <;> simp [eq_comm]

theorem standsFor_intText (hraw : raw.toList = front ++ intText v ++ behind)
    (hfront : ∀ x ∈ front, isBlank x) (hbehind : ∀ x ∈ behind, isBlank x) : StandsFor raw v :=
  ⟨front, _, behind, hraw, hfront, hbehind, signedNumeral_intText v⟩

/-- The text under the key gives all tenants the bound `v` exactly if it stands for `v` and `v` has 32
bits. Any other text is refused and quoted as it is, also if it stands for a longer integer. A text
stands for one integer at most, and an integer's own text stands for it. -/
theorem ofLookup_reads_integer (lookup : String → Option String) (raw : String)
    (h : lookup key = some raw) :
    (∀ v, (∃ s, ofLookup lookup = .ok s ∧ ∀ tenant, s.bound tenant = v) ↔
      StandsFor raw v ∧ -2147483648 ≤ v ∧ v ≤ 2147483647) ∧
    (∀ e, ofLookup lookup = .error e ↔
      (∀ v, StandsFor raw v → ¬ (-2147483648 ≤ v ∧ v ≤ 2147483647)) ∧ e = .notAnInteger raw) ∧
    (Error.notAnInteger raw).message =
      "Configuration error: " ++ key ++ " must be an integer, got '" ++ raw ++ "'" ∧
    (∀ v w, StandsFor raw v → StandsFor raw w → v = w) ∧
    ∀ v front behind, raw.toList = front ++ intText v ++ behind → (∀ x ∈ front, isBlank x) →
      (∀ x ∈ behind, isBlank x) →
      if -2147483648 ≤ v ∧ v ≤ 2147483647 then ofLookup lookup = .ok (ofBase v)
      else ofLookup lookup = .error (.notAnInteger raw) := by
  refine ⟨?_, ?_, ?_, ?_, ?_⟩
  · intro v
    constructor
    · rintro ⟨s, hok, hbound⟩
      obtain ⟨w, hw, hfits, rfl⟩ := (ofLookup_eq_ok_iff h).mp hok
      obtain rfl : w = v := hbound 0
      exact ⟨hw, hfits⟩
    · rintro ⟨hv, hfits⟩
      exact ⟨ofBase v, (ofLookup_eq_ok_iff h).mpr ⟨v, hv, hfits, rfl⟩, bound_ofBase v⟩
  · intro e
    exact ofLookup_eq_error_iff h
  · rfl
  · intro v w hv hw
    exact eq_of_standsFor hv hw
  · intro v front behind hraw hfront hbehind
    have hv : StandsFor raw v := standsFor_intText hraw hfront hbehind
    split
    · rename_i hfits
      exact (ofLookup_eq_ok_iff h).mpr ⟨v, hv, hfits, rfl⟩
    · rename_i hfits
      refine (ofLookup_eq_error_iff h).mpr ⟨?_, rfl⟩
      intro w hw
      rwa [eq_of_standsFor hw hv]

namespace Sample

/-- The least integer of 32 bits, with zeros in front and within white space. -/
def lowest : String := "\u3000-002147483648\n"

/-- One more than the greatest integer of 32 bits. -/
def tooHigh : String := "+2147483648"

theorem standsFor_lowest : StandsFor lowest (-2147483648) :=
  standsFor_iff.mpr (by decide +kernel)

theorem standsFor_tooHigh : StandsFor tooHigh 2147483648 :=
  standsFor_iff.mpr (by decide +kernel)

end Sample

theorem ofLookup_reads_integer_limits :
    (∃ s, ofLookup (fun _ => some Sample.lowest) = .ok s ∧
      ∀ tenant, s.bound tenant = -2147483648) ∧
    ofLookup (fun _ => some Sample.tooHigh) = .error (.notAnInteger Sample.tooHigh) := by
  obtain ⟨hlowest, -⟩ :=
    ofLookup_reads_integer (fun _ => some Sample.lowest) Sample.lowest rfl
  obtain ⟨-, htooHigh, -, hunique, -⟩ :=
    ofLookup_reads_integer (fun _ => some Sample.tooHigh) Sample.tooHigh rfl
  refine ⟨(hlowest _).mpr ⟨Sample.standsFor_lowest, by decide⟩, ?_⟩
  refine (htooHigh _).mpr ⟨?_, rfl⟩
  intro v hv
  rw [hunique v _ hv Sample.standsFor_tooHigh]
  decide

end Lookback.Settings
