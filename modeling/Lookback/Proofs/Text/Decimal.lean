import Lookback.Proofs.Text.Blank
import Lookback.Text.Decimal
import Mathlib.Data.List.Induction

/-! Integers in decimal digits. A text is read as an integer exactly if it is a numeral for it, with one
sign in front or none. -/
namespace Lookback.Text

variable {c : Char} {cs ds : List Char} {n : Nat} {v w : Int}

/-- At least one digit, and the number for which the digits stand: one more digit is added to ten times
the number in front of it. -/
inductive Numeral : List Char → Nat → Prop
  | digit {c : Char} (hc : c.isDigit) : Numeral [c] (c.toNat - '0'.toNat)
  | snoc {ds : List Char} {n : Nat} {c : Char} (hds : Numeral ds n) (hc : c.isDigit) :
      Numeral (ds ++ [c]) (10 * n + (c.toNat - '0'.toNat))

/-- A numeral with one sign in front of it or with none. -/
inductive SignedNumeral : List Char → Int → Prop
  | unsigned {ds : List Char} {n : Nat} (h : Numeral ds n) : SignedNumeral ds n
  | plus {ds : List Char} {n : Nat} (h : Numeral ds n) : SignedNumeral ('+' :: ds) n
  | minus {ds : List Char} {n : Nat} (h : Numeral ds n) : SignedNumeral ('-' :: ds) (-n)

theorem ofDigits_append_singleton :
    ofDigits (ds ++ [c]) = 10 * ofDigits ds + (c.toNat - '0'.toNat) := by
  rw [ofDigits, Nat.ofDigitChars_append]
  rfl

theorem numeral_iff : Numeral ds n ↔ (ds ≠ [] ∧ ds.all Char.isDigit) ∧ ofDigits ds = n := by
  constructor
  · intro h
    induction h with
    | digit hc => simp [ofDigits, Nat.ofDigitChars, hc]
    | snoc _ hc ih =>
      obtain ⟨⟨-, hall⟩, rfl⟩ := ih
      simp [ofDigits_append_singleton, hall, hc]
  · rintro ⟨⟨hne, hall⟩, rfl⟩
    induction ds using List.reverseRecOn with
    | nil => exact absurd rfl hne
    | append_singleton ds c ih =>
      rw [List.all_append, Bool.and_eq_true, List.all_cons, List.all_nil, Bool.and_true] at hall
      rw [ofDigits_append_singleton]
      by_cases hds : ds = []
      · subst hds
        have hdigit := Numeral.digit hall.2
        simpa [ofDigits] using hdigit
      · exact .snoc (ih hds hall.1) hall.2

theorem isDigit_of_numeral (h : Numeral ds n) : ∀ c ∈ ds, c.isDigit :=
  List.all_eq_true.mp (numeral_iff.mp h).1.2

theorem naturalOf_eq_some_iff :
    (if ds ≠ [] ∧ ds.all Char.isDigit then some (ofDigits ds) else none) = some n ↔ Numeral ds n := by
  rw [Option.ite_none_right_eq_some, Option.some.injEq, numeral_iff]

theorem readInt?_minus :
    readInt? ('-' :: ds) = some v ↔ ∃ n, Numeral ds n ∧ -(n : Int) = v := by
  simp only [readInt?, Option.map_eq_some_iff, Option.bind_eq_bind, Option.bind_eq_some_iff,
    naturalOf_eq_some_iff, Option.pure_def, Option.some.injEq]
  constructor
  · rintro ⟨_, ⟨n, hn, rfl⟩, hv⟩
    exact ⟨n, hn, hv⟩
  · rintro ⟨n, hn, hv⟩
    exact ⟨_, ⟨n, hn, rfl⟩, hv⟩

theorem readInt?_plus : readInt? ('+' :: ds) = some v ↔ ∃ n, Numeral ds n ∧ (n : Int) = v := by
  simp only [readInt?, Option.map_eq_some_iff, naturalOf_eq_some_iff, Int.ofNat_eq_natCast]

theorem readInt?_unsigned (hminus : cs.head? ≠ some '-') (hplus : cs.head? ≠ some '+') :
    readInt? cs = some v ↔ ∃ n, Numeral cs n ∧ (n : Int) = v := by
  unfold readInt?
  split
  · exact absurd rfl hminus
  · exact absurd rfl hplus
  · simp only [Option.map_eq_some_iff, naturalOf_eq_some_iff, Int.ofNat_eq_natCast]

theorem head?_ne_of_numeral (h : Numeral ds n) (hc : c.isDigit = false) : ds.head? ≠ some c := by
  intro hhead
  have hdigit := isDigit_of_numeral h c (List.mem_of_head? hhead)
  rw [hc] at hdigit
  cases hdigit

theorem readInt?_eq_some_iff : readInt? cs = some v ↔ SignedNumeral cs v := by
  constructor
  · intro h
    by_cases hminus : cs.head? = some '-'
    · obtain ⟨ds, rfl⟩ := List.head?_eq_some_iff.mp hminus
      obtain ⟨n, hn, rfl⟩ := readInt?_minus.mp h
      exact .minus hn
    by_cases hplus : cs.head? = some '+'
    · obtain ⟨ds, rfl⟩ := List.head?_eq_some_iff.mp hplus
      obtain ⟨n, hn, rfl⟩ := readInt?_plus.mp h
      exact .plus hn
    obtain ⟨n, hn, rfl⟩ := (readInt?_unsigned hminus hplus).mp h
    exact .unsigned hn
  · intro h
    cases h with
    | unsigned hn =>
      exact (readInt?_unsigned (head?_ne_of_numeral hn rfl) (head?_ne_of_numeral hn rfl)).mpr
        ⟨_, hn, rfl⟩
    | plus hn => exact readInt?_plus.mpr ⟨_, hn, rfl⟩
    | minus hn => exact readInt?_minus.mpr ⟨_, hn, rfl⟩

theorem numeral_toDigits (n : Nat) : Numeral (Nat.toDigits 10 n) n := by
  refine numeral_iff.mpr ⟨⟨Nat.toDigits_ne_nil, ?_⟩, ?_⟩
  · rw [List.all_eq_true]
    intro c hc
    exact Nat.isDigit_of_mem_toDigits (by decide) (by decide) hc
  · exact Nat.ofDigitChars_toDigits (by decide) (by decide)

theorem signedNumeral_intText (v : Int) : SignedNumeral (intText v) v := by
  cases v with
  | ofNat n => exact .unsigned (numeral_toDigits n)
  | negSucc n => exact .minus (numeral_toDigits (n + 1))

/-- No white space stands in a numeral or behind its sign. -/
theorem isBlank_of_signedNumeral (h : SignedNumeral cs v) : ∀ c ∈ cs, isBlank c = false := by
  have hdigits {ds : List Char} {n : Nat} (hn : Numeral ds n) : ∀ c ∈ ds, isBlank c = false :=
    fun c hc => isBlank_of_isDigit (isDigit_of_numeral hn c hc)
  cases h with
  | unsigned hn => exact hdigits hn
  | plus hn => exact List.forall_mem_cons.mpr ⟨rfl, hdigits hn⟩
  | minus hn => exact List.forall_mem_cons.mpr ⟨rfl, hdigits hn⟩

end Lookback.Text
