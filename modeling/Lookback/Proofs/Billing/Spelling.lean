import Lookback.Billing.Wire
import Lookback.Proofs.Json.RoundTrip
import Lookback.Proofs.Text.Blank
import Lookback.Proofs.Text.Capital
import Mathlib

/-! The spellings of the billing periods. A text names a period exactly if it is, within white space,
a sequence of characters each of which is written for one or two characters of the period's name. -/
namespace Lookback.Period

open Text

variable {x : Char} {xs cs ds : List Char} {p q : Period} {s : String}

/-- A character that may be written for a part of a name: a letter in either case, the dotless i for
an I, the long s for an S, a ligature for ST, and a low line or a hyphen for a low line. -/
inductive Writes : Char → List Char → Prop
  | capital {x : Char} (hx : x.isUpper) : Writes x [x]
  | small {x : Char} (hx : x.isLower) : Writes x [x.toUpper]
  | dotlessI : Writes 'ı' ['I']
  | longS : Writes 'ſ' ['S']
  | ligature {x : Char} (hx : x = 'ﬅ' ∨ x = 'ﬆ') : Writes x ['S', 'T']
  | lowLine {x : Char} (hx : x = '_' ∨ x = '-') : Writes x ['_']

/-- A text whose characters are written, one after the other, for the parts of a name. -/
inductive Spells : List Char → List Char → Prop
  | nil : Spells [] []
  | cons {x : Char} {xs ds cs : List Char} (hx : Writes x ds) (hxs : Spells xs cs) :
      Spells (x :: xs) (ds ++ cs)

/-- A spelling of a period's name with white space around it. -/
def Names (s : String) (p : Period) : Prop :=
  ∃ front xs behind, s.toList = front ++ xs ++ behind ∧ (∀ x ∈ front, isBlank x) ∧
    (∀ x ∈ behind, isBlank x) ∧ Spells xs p.name.toList

/-- What a character is read as: its capital form, in which a hyphen becomes a low line. -/
def readAs (x : Char) : List Char := (capital x).map fun c => if c = '-' then '_' else c

theorem normalForm_eq (cs : List Char) : normalForm cs = (trim cs).flatMap readAs := by
  rw [normalForm, capitals, List.map_flatMap]
  rfl

theorem toNat_of_isUpper (h : x.isUpper) : 65 ≤ x.toNat ∧ x.toNat ≤ 90 := by
  simpa [Char.isUpper, UInt32.le_iff_toNat_le] using h

theorem toNat_of_isLower (h : x.isLower) : 97 ≤ x.toNat ∧ x.toNat ≤ 122 := by
  simpa [Char.isLower, UInt32.le_iff_toNat_le] using h

theorem readAs_of_ascii (h : x.toNat < 128) :
    readAs x = [if x.toUpper = '-' then '_' else x.toUpper] := by
  rw [readAs, capital_of_ascii h]
  rfl

theorem ne_hyphen_of_isUpper (h : x.isUpper) : x ≠ '-' := by
  rintro rfl
  cases h

theorem readAs_of_isUpper (h : x.isUpper) : readAs x = [x] := by
  have hx := toNat_of_isUpper h
  have hcapital : x.toUpper = x := Char.toUpper_eq_of_not_isLower (Char.not_isLower_of_isUpper h)
  rw [readAs_of_ascii (by omega), hcapital, if_neg (ne_hyphen_of_isUpper h)]

theorem readAs_of_isLower (h : x.isLower) : readAs x = [x.toUpper] := by
  have hx := toNat_of_isLower h
  have hcapital : x.toUpper.isUpper := by simp [Char.isAlpha, h]
  rw [readAs_of_ascii (by omega), if_neg (ne_hyphen_of_isUpper hcapital)]

theorem readAs_of_writes (h : Writes x ds) : readAs x = ds := by
  cases h with
  | capital hx => exact readAs_of_isUpper hx
  | small hx => exact readAs_of_isLower hx
  | dotlessI => decide +kernel
  | longS => decide +kernel
  | ligature hx => rcases hx with rfl | rfl <;> decide +kernel
  | lowLine hx => rcases hx with rfl | rfl <;> decide +kernel

theorem flatMap_of_spells (h : Spells xs cs) : xs.flatMap readAs = cs := by
  induction h with
  | nil => rfl
  | cons hx _ ih => rw [List.flatMap_cons, readAs_of_writes hx, ih]

/-- Capitals other than F, and low lines, without two S in a row. Such texts have no part for which a
sharp s or one of the other ligatures could be written. -/
structure Plain (cs : List Char) : Prop where
  isUpper_or : ∀ c ∈ cs, (c.isUpper ∧ c ≠ 'F') ∨ c = '_'
  not_infix : ¬ ['S', 'S'] <:+: cs

theorem plain_name (p : Period) : Plain p.name.toList := by
  constructor
  · cases p <;> simp [name]
  · cases p <;> simp [name, List.infix_cons_iff]

theorem Plain.of_infix (h : Plain cs) (hds : ds <:+: cs) : Plain ds where
  isUpper_or c hc := h.isUpper_or c (hds.subset hc)
  not_infix hs := h.not_infix (hs.trans hds)

theorem toNat_lt_of_plain {c : Char} (h : Plain cs) (hc : c ∈ cs) : c.toNat < 128 := by
  rcases h.isUpper_or c hc with ⟨hupper, -⟩ | rfl
  · have hn := toNat_of_isUpper hupper
    omega
  · decide

theorem writes_of_ascii (hx : x.toNat < 128) (h : Plain (readAs x)) : Writes x (readAs x) := by
  by_cases hupper : x.isUpper
  · rw [readAs_of_isUpper hupper]
    exact .capital hupper
  by_cases hlower : x.isLower
  · rw [readAs_of_isLower hlower]
    exact .small hlower
  rw [readAs_of_ascii hx, Char.toUpper_eq_of_not_isLower hlower] at h ⊢
  by_cases hhyphen : x = '-'
  · rw [if_pos hhyphen]
    exact .lowLine (Or.inr hhyphen)
  · rw [if_neg hhyphen] at h ⊢
    rcases h.isUpper_or x List.mem_cons_self with ⟨hu, -⟩ | rfl
    · exact absurd hu hupper
    · exact .lowLine (Or.inl rfl)

theorem asciiCapitals_cases {e : Char × List Char} (h : e ∈ asciiCapitals) :
    Writes e.1 e.2 ∨ e.2 = ['S', 'S'] ∨ 'F' ∈ e.2 := by
  have hall : ∀ e ∈ asciiCapitals, e = ('ı', ['I']) ∨ e = ('ſ', ['S']) ∨
      ((e.1 = 'ﬅ' ∨ e.1 = 'ﬆ') ∧ e.2 = ['S', 'T']) ∨ e.2 = ['S', 'S'] ∨ 'F' ∈ e.2 := by decide
  rcases hall e h with rfl | rfl | ⟨hx, he⟩ | hother
  · exact Or.inl .dotlessI
  · exact Or.inl .longS
  · rw [he]
    exact Or.inl (.ligature hx)
  · exact Or.inr hother

/-- A character that is read as plain text is written for it: the capital forms of all others hold a
character that is in no name, or two S in a row. -/
theorem writes_of_plain (h : Plain (readAs x)) : Writes x (readAs x) := by
  by_cases hx : x.toNat < 128
  · exact writes_of_ascii hx h
  have hkeeps {d : Char} (hd : d ∈ capital x) (hne : d ≠ '-') : d ∈ readAs x :=
    List.mem_map.mpr ⟨d, hd, if_neg hne⟩
  rcases capital_of_not_ascii (not_lt.mp hx) with ⟨d, hd, hbeyond⟩ | hlisted
  · exfalso
    have hne : d ≠ '-' := by
      rintro rfl
      exact absurd hbeyond (by decide)
    have hascii := toNat_lt_of_plain h (hkeeps hd hne)
    omega
  · rcases asciiCapitals_cases hlisted with hw | hss | hf
    · rwa [readAs_of_writes hw]
    · exfalso
      apply h.not_infix
      rw [readAs, show capital x = ['S', 'S'] from hss]
      exact List.infix_rfl
    · exfalso
      rcases h.isUpper_or 'F' (hkeeps hf (by decide)) with ⟨-, hne⟩ | hne
      · exact hne rfl
      · exact absurd hne (by decide)

theorem spells_of_flatMap (h : Plain (xs.flatMap readAs)) : Spells xs (xs.flatMap readAs) := by
  induction xs with
  | nil => exact .nil
  | cons x xs ih =>
    rw [List.flatMap_cons] at h ⊢
    have hx : Plain (readAs x) := h.of_infix (List.prefix_append _ _).isInfix
    have hxs : Plain (xs.flatMap readAs) := h.of_infix (List.suffix_append _ _).isInfix
    exact .cons (writes_of_plain hx) (ih hxs)

theorem flatMap_readAs_iff (h : Plain cs) : xs.flatMap readAs = cs ↔ Spells xs cs := by
  constructor
  · rintro rfl
    exact spells_of_flatMap h
  · exact flatMap_of_spells

theorem isBlank_of_writes (h : Writes x ds) : isBlank x = false := by
  have hletter (hx : 65 ≤ x.toNat) (hx' : x.toNat ≤ 122) : isBlank x = false := by
    simp only [isBlank, Bool.or_eq_false_iff, Bool.and_eq_false_iff, decide_eq_false_iff_not,
      beq_eq_false_iff_ne]
    omega
  cases h with
  | capital hx =>
    have hn := toNat_of_isUpper hx
    exact hletter (by omega) (by omega)
  | small hx =>
    have hn := toNat_of_isLower hx
    exact hletter (by omega) (by omega)
  | dotlessI => rfl
  | longS => rfl
  | ligature hx => rcases hx with rfl | rfl <;> rfl
  | lowLine hx => rcases hx with rfl | rfl <;> rfl

theorem isBlank_of_spells (h : Spells xs cs) : ∀ x ∈ xs, isBlank x = false := by
  induction h with
  | nil => simp
  | cons hx _ ih =>
    intro y hy
    rcases List.mem_cons.mp hy with rfl | hy
    · exact isBlank_of_writes hx
    · exact ih y hy

theorem normalForm_eq_name_iff : normalForm s.toList = p.name.toList ↔ Names s p := by
  constructor
  · intro h
    obtain ⟨front, behind, hs, hfront, hbehind⟩ := exists_trim s.toList
    rw [normalForm_eq] at h
    exact ⟨front, _, behind, hs, hfront, hbehind, (flatMap_readAs_iff (plain_name p)).mp h⟩
  · rintro ⟨front, xs, behind, hs, hfront, hbehind, hxs⟩
    rw [normalForm_eq, hs, trim_append hfront hbehind (isBlank_of_spells hxs)]
    exact flatMap_of_spells hxs

theorem eq_of_names (hp : Names s p) (hq : Names s q) : p = q := by
  have hname : p.name.toList = q.name.toList :=
    (normalForm_eq_name_iff.mpr hp).symm.trans (normalForm_eq_name_iff.mpr hq)
  exact name_injective (String.toList_inj.mp hname)

theorem parse_of_names (h : Names s p) : parse s = .ok p := by
  have hfind : (all.find? fun q => q.name.toList = normalForm s.toList) = some p := by
    rw [normalForm_eq_name_iff.mpr h]
    simp only [String.toList_inj]
    exact find?_name p
  rw [parse, hfind]

theorem parse_of_not_names (h : ∀ p, ¬ Names s p) : parse s = .error ⟨s⟩ := by
  have hfind : (all.find? fun q => q.name.toList = normalForm s.toList) = none := by
    rw [List.find?_eq_none]
    intro q _ hq
    exact h q (normalForm_eq_name_iff.mp (of_decide_eq_true hq).symm)
  rw [parse, hfind]

theorem parse_eq_ok_iff : parse s = .ok p ↔ Names s p := by
  constructor
  · intro h
    by_contra hn
    have hnone : ∀ q, ¬ Names s q := by
      intro q hq
      rw [parse_of_names hq] at h
      cases h
      exact hn hq
    rw [parse_of_not_names hnone] at h
    cases h
  · exact parse_of_names

theorem parse_eq_error_iff {e : Unknown} :
    parse s = .error e ↔ (∀ p, ¬ Names s p) ∧ e = ⟨s⟩ := by
  constructor
  · intro h
    have hnone : ∀ p, ¬ Names s p := by
      intro p hp
      rw [parse_of_names hp] at h
      cases h
    rw [parse_of_not_names hnone] at h
    exact ⟨hnone, (Except.error.inj h).symm⟩
  · rintro ⟨hnone, rfl⟩
    exact parse_of_not_names hnone

theorem spells_name (h : ∀ c ∈ cs, c.isUpper ∨ c = '_') : Spells cs cs := by
  induction cs with
  | nil => exact .nil
  | cons c cs ih =>
    have hcs : Spells cs cs := ih fun d hd => h d (List.mem_cons_of_mem _ hd)
    rcases h c List.mem_cons_self with hc | hc
    · exact .cons (.capital hc) hcs
    · subst hc
      exact .cons (.lowLine (Or.inl rfl)) hcs

theorem names_name (p : Period) : Names p.name p := by
  refine ⟨[], p.name.toList, [], by simp, by simp, by simp, spells_name ?_⟩
  intro c hc
  exact ((plain_name p).isUpper_or c hc).imp_left And.left

theorem parse_of_pick (h : Json.pick all recordName s = .ok p) : parse s = .ok p := by
  unfold Json.pick at h
  split at h
  · rename_i q hq
    cases h
    have hname : p.recordName = s := by simpa using List.find?_some hq
    rw [← hname, recordName_eq_name]
    exact parse_of_names (names_name p)
  · cases h

/-- A period is read from a JSON string if it is picked by the content of the string. -/
theorem pick_of_decode {t : String} (ht : Json.text.decode t = .ok s)
    (hp : Wire.period.decode t = .ok p) : Json.pick all recordName s = .ok p := by
  obtain ⟨rest, hread, -⟩ := Json.Codec.exists_read_of_decode ht
  obtain ⟨ds, hquote, hcontent⟩ := Json.exists_readText_of_text hread
  obtain ⟨rest', hvariant, -⟩ := Json.Codec.exists_read_of_decode hp
  rw [Wire.period, Json.variant_read_text hquote hcontent, String.ofList_toList] at hvariant
  obtain ⟨q, hpick, heq⟩ := Json.map_eq_ok_iff.mp hvariant
  cases heq
  exact hpick

/-- A text is parsed to a period exactly if it spells the period's name within white space. No text
spells two names, and one that spells none is refused with that text itself. A name that stands for a
period in JSON spells it, be it a key or the content of a string that is read as the period. -/
theorem parse_iff_names (s : String) :
    (∀ p, parse s = .ok p ↔ Names s p) ∧
    (∀ p q, Names s p → Names s q → p = q) ∧
    (∀ e, parse s = .error e ↔ (∀ p, ¬ Names s p) ∧ e = ⟨s⟩) ∧
    (∀ p, Json.pick all recordName s = .ok p → parse s = .ok p) ∧
    ∀ t p, Json.text.decode t = .ok s → Wire.period.decode t = .ok p → parse s = .ok p := by
  refine ⟨?_, ?_, ?_, ?_, ?_⟩
  · intro p
    exact parse_eq_ok_iff
  · intro p q hp hq
    exact eq_of_names hp hq
  · intro e
    exact parse_eq_error_iff
  · intro p hp
    exact parse_of_pick hp
  · intro t p ht hp
    exact parse_of_pick (pick_of_decode ht hp)

/-- A ligature, a dotless i and capitals in any place spell a name, and an escape in a JSON string is
read before the name is. A sharp s spells nothing. -/
theorem parse_iff_names_ligature :
    Names "\tbiMEﬆrıal\u2003" .bimestrial ∧
    (∀ q, Names "\tbiMEﬆrıal\u2003" q → .bimestrial = q) ∧
    (∀ p, ¬ Names "ßixty-days" p) ∧
    parse "MONTHLY" = .ok .monthly := by
  have hspelt : parse "\tbiMEﬆrıal\u2003" = .ok .bimestrial := by decide +kernel
  have hsharp : parse "ßixty-days" = .error ⟨"ßixty-days"⟩ := by decide +kernel
  have htext : Json.text.decode "\"\\u004dONTHLY\"" = .ok "MONTHLY" := by cbv
  have hperiod : Wire.period.decode "\"\\u004dONTHLY\"" = .ok .monthly := by cbv
  obtain ⟨hnames, hunique, -, -, -⟩ := parse_iff_names "\tbiMEﬆrıal\u2003"
  obtain ⟨-, -, hrefused, -, -⟩ := parse_iff_names "ßixty-days"
  obtain ⟨-, -, -, -, hread⟩ := parse_iff_names "MONTHLY"
  have hbimestrial := (hnames _).mp hspelt
  refine ⟨hbimestrial, ?_, ((hrefused _).mp hsharp).1, hread _ _ htext hperiod⟩
  intro q hq
  exact hunique _ q hbimestrial hq

end Lookback.Period
