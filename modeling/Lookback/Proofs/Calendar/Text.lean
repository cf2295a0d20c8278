import Lookback.Calendar.Printing
import Lookback.Calendar.Reading
import Lookback.Proofs.Calendar.Months
import Lookback.Proofs.Text.Blank
import Mathlib.Algebra.Group.Nat.Defs

/-! Dates and instants are read back from the text that is written for them. -/
namespace Lookback

namespace Text

variable {c : Char} {cs : List Char} {width n : Nat}

theorem padded_eq_cons (width n : Nat) : ∃ c cs, padded width n = c :: cs ∧ c.isDigit := by
  have hne : padded width n ≠ [] := by
    intro h
    exact Nat.toDigits_ne_nil (List.append_eq_nil_iff.mp h).2
  obtain ⟨c, cs, hcs⟩ := List.exists_cons_of_ne_nil hne
  have hmem : c ∈ padded width n := by
    rw [hcs]
    exact List.mem_cons_self
  exact ⟨c, cs, hcs, isDigit_of_mem_padded hmem⟩

theorem length_padded (hw : 0 < width) (hn : n < 10 ^ width) : (padded width n).length = width := by
  have h := (Nat.length_toDigits_le_iff (by decide) hw).mpr hn
  simp only [padded, List.length_append, List.length_replicate]
  omega

theorem ofDigits_append_zeros (ds : List Char) (k : Nat) :
    ofDigits (ds ++ List.replicate k '0') = 10 ^ k * ofDigits ds := by
  rw [ofDigits, Nat.ofDigitChars_append, Nat.ofDigitChars_replicate_zero]
  rfl

end Text

namespace Calendar

open Text

variable {ds rest : List Char} {width lo hi n : Nat} {y : Int}

/-- No digit stands in front, so a number ends here. -/
def EndsDigits : List Char → Prop
  | [] => True
  | c :: _ => c.isDigit = false

theorem takeWhile_isDigit_append (hd : ∀ c ∈ ds, c.isDigit) (hrest : EndsDigits rest) (k : Nat) :
    (ds ++ rest.take k).takeWhile Char.isDigit = ds := by
  rw [List.takeWhile_append_of_pos hd]
  have hnone : (rest.take k).takeWhile Char.isDigit = [] := by
    cases k with
    | zero => rfl
    | succ k =>
      cases rest with
      | nil => rfl
      | cons c cs =>
        have hc : c.isDigit = false := hrest
        rw [List.take_succ_cons, List.takeWhile_cons_of_neg (by simp [hc])]
  rw [hnone, List.append_nil]

/-- Digits that fit in the width are read to the last one. -/
theorem readDigits_padded {w : Nat} (hlen : (padded w n).length ≤ width)
    (hrest : EndsDigits rest) :
    readDigits width (padded w n ++ rest) = .ok (padded w n, rest) := by
  have hdigits : ∀ c ∈ padded w n, c.isDigit := fun _ hc => isDigit_of_mem_padded hc
  have hds := takeWhile_isDigit_append hdigits hrest (width - (padded w n).length)
  obtain ⟨c, cs, hcs, hc⟩ := padded_eq_cons w n
  have htake : (c :: (cs ++ rest)).take width =
      padded w n ++ rest.take (width - (padded w n).length) := by
    rw [← List.cons_append, ← hcs, List.take_append, List.take_of_length_le hlen]
  rw [hcs, List.cons_append, readDigits, if_pos hc]
  simp only [htake, hds]
  rw [← List.cons_append, ← hcs, List.drop_left]

theorem dropBlank_padded (w n : Nat) (rest : List Char) :
    dropBlank (padded w n ++ rest) = padded w n ++ rest := by
  obtain ⟨c, cs, hcs, hc⟩ := padded_eq_cons w n
  rw [hcs, List.cons_append, dropBlank_cons (isBlank_of_isDigit hc)]

theorem readNumber_padded (hw : 0 < width) (hn : n < 10 ^ width) (hlo : lo ≤ n) (hhi : n ≤ hi)
    (hrest : EndsDigits rest) :
    readNumber width lo hi (padded width n ++ rest) = .ok (n, rest) := by
  have hread := readDigits_padded (Nat.le_of_eq (length_padded hw hn)) hrest
  simp only [readNumber, dropBlank_padded, hread, bind, Except.bind, ofDigits_padded,
    if_pos (And.intro hlo hhi)]
  rfl

/-- Digits right after a sign are read to the last one, however many there are. -/
theorem readDigits_signed (n : Nat) (hrest : EndsDigits rest) :
    readDigits (padded 4 n ++ rest).length (padded 4 n ++ rest) = .ok (padded 4 n, rest) := by
  refine readDigits_padded ?_ hrest
  rw [List.length_append]
  exact Nat.le_add_right _ _

theorem readYear_unsigned (hn : n < 10 ^ 4) (hrest : EndsDigits rest) :
    readYear (padded 4 n ++ rest) = .ok ((n : Int), rest) := by
  have hread := readDigits_padded (Nat.le_of_eq (length_padded (by decide) hn)) hrest
  have hbounds : -2147483648 ≤ (n : Int) ∧ (n : Int) ≤ 2147483647 := by omega
  obtain ⟨c, cs, hcs, hc⟩ := padded_eq_cons 4 n
  rw [readYear, dropBlank_padded]
  split
  · rename_i heq
    rw [hcs] at heq
    cases heq
    cases hc
  · rename_i heq
    rw [hcs] at heq
    cases heq
    cases hc
  · simp only [hread, Except.map, ofDigits_padded, bind, Except.bind, if_pos hbounds]
    rfl

theorem readYear_yearText (hlo : -2147483648 ≤ y) (hhi : y ≤ 2147483647)
    (hrest : EndsDigits rest) : readYear (yearText y ++ rest) = .ok (y, rest) := by
  have hbounds : -2147483648 ≤ y ∧ y ≤ 2147483647 := ⟨hlo, hhi⟩
  rw [yearText]
  split
  · rename_i hy
    rw [readYear_unsigned (by omega) hrest, Int.toNat_of_nonneg hy.1]
  · have hread := readDigits_signed y.natAbs hrest
    by_cases hneg : y < 0
    · have hval : -(y.natAbs : Int) = y := by omega
      rw [if_pos hneg, List.cons_append, readYear, dropBlank_cons (by decide)]
      simp only [hread, Except.map, ofDigits_padded, bind, Except.bind, hval, if_pos hbounds]
      rfl
    · have hval : (y.natAbs : Int) = y := by omega
      rw [if_neg hneg, List.cons_append, readYear, dropBlank_cons (by decide)]
      simp only [hread, Except.map, ofDigits_padded, bind, Except.bind, hval, if_pos hbounds]
      rfl

theorem isBlank_hyphen : isBlank '-' = false := by decide

theorem isBlank_colon : isBlank ':' = false := by decide

theorem readChar_cons (c : Char) (cs : List Char) : readChar c (c :: cs) = .ok cs := if_pos rfl

end Calendar

namespace Date

open Text Calendar

variable {rest : List Char}

/-- The first year of the calendar and the last. -/
theorem year_bounds (d : Date) : -262143 ≤ d.month / 12 ∧ d.month / 12 ≤ 262142 := by
  have h := d.month_bounds
  omega

theorem readYearMonthDay_padded {y : Int} {m k : Nat} (hylo : -262143 ≤ y) (hyhi : y ≤ 262142)
    (hm : 1 ≤ m) (hm12 : m ≤ 12) (hk : 1 ≤ k) (hk31 : k ≤ 31) (hrest : EndsDigits rest) :
    readYearMonthDay (yearText y ++ '-' :: padded 2 m ++ '-' :: padded 2 k ++ rest) =
      .ok ((y, m, k), rest) := by
  have hyear (cs : List Char) : readYear (yearText y ++ '-' :: cs) = .ok (y, '-' :: cs) :=
    readYear_yearText (by omega) (by omega) rfl
  have hmonth (cs : List Char) :
      readNumber 2 1 12 (padded 2 m ++ '-' :: cs) = .ok (m, '-' :: cs) :=
    readNumber_padded (by decide) (by omega) hm hm12 rfl
  have hday : readNumber 2 1 31 (padded 2 k ++ rest) = .ok (k, rest) :=
    readNumber_padded (by decide) (by omega) hk hk31 hrest
  simp only [List.append_assoc, List.cons_append, readYearMonthDay, hyear, bind, Except.bind,
    dropBlank_cons isBlank_hyphen, readChar_cons, hmonth, hday]
  rfl

theorem readYearMonthDay_text (d : Date) (hrest : EndsDigits rest) :
    readYearMonthDay (d.text ++ rest) =
      .ok ((d.month / 12, (d.month % 12 + 1).toNat, d.day.toNat), rest) := by
  have hy := d.year_bounds
  have hd := d.day_bounds
  have hlen := daysIn_bounds d.month
  exact readYearMonthDay_padded hy.1 hy.2 (by omega) (by omega) (by omega) (by omega) hrest

theorem dateOf_month_day (d : Date) :
    dateOf (d.month / 12, (d.month % 12 + 1).toNat, d.day.toNat) = .ok d := by
  have hd := d.day_bounds
  have hmonth : 12 * (d.month / 12) + (((d.month % 12 + 1).toNat : Int) - 1) = d.month := by omega
  have hday : (d.day.toNat : Int) = d.day := by omega
  simp only [dateOf, hmonth, hday, ofMonthDay?_month_day]

theorem parse_text (d : Date) : Date.parse d.text = .ok d := by
  have hread := readYearMonthDay_text d (show EndsDigits [] from trivial)
  rw [List.append_nil] at hread
  simp only [Date.parse, hread, bind, Except.bind, dateOf_month_day]
  rfl

end Date

namespace Calendar

open Text

variable {rest : List Char} {w n : Nat}

theorem dropWhile_isDigit_of_ends (hrest : EndsDigits rest) :
    rest.dropWhile Char.isDigit = rest := by
  cases rest with
  | nil => rfl
  | cons c cs =>
    have hc : c.isDigit = false := hrest
    rw [List.dropWhile_cons_of_neg (by simp [hc])]

/-- The digits after a point count from the largest part of a second down. -/
theorem readFraction_padded (hw : 0 < w) (hw9 : w ≤ 9) (hn : n < 10 ^ w) (hrest : EndsDigits rest) :
    readFraction ('.' :: (padded w n ++ rest)) = .ok (10 ^ (9 - w) * n, rest) := by
  have hlen := length_padded hw hn
  have hread : readDigits 9 (padded w n ++ rest) = .ok (padded w n, rest) :=
    readDigits_padded (by omega) hrest
  simp only [readFraction, hread, bind, Except.bind, hlen, ofDigits_append_zeros, ofDigits_padded,
    dropWhile_isDigit_of_ends hrest]
  rfl

theorem readFraction_fractionText (hn : n < 1000000000) :
    readFraction (fractionText n ++ ['Z']) = .ok (n, ['Z']) := by
  have hz : EndsDigits ['Z'] := rfl
  rw [fractionText]
  split
  · rename_i h
    subst h
    rfl
  split
  · rename_i h
    have hval : 10 ^ (9 - 3) * (n / 1000000) = n := by omega
    rw [List.cons_append, readFraction_padded (by decide) (by decide) (by omega) hz, hval]
  split
  · rename_i h
    have hval : 10 ^ (9 - 6) * (n / 1000) = n := by omega
    rw [List.cons_append, readFraction_padded (by decide) (by decide) (by omega) hz, hval]
  · have hval : 10 ^ (9 - 9) * n = n := by omega
    rw [List.cons_append, readFraction_padded (by decide) (by decide) (by omega) hz, hval]

theorem endsDigits_fractionText (n : Nat) (rest : List Char) (hrest : EndsDigits rest) :
    EndsDigits (fractionText n ++ rest) := by
  rw [fractionText]
  split
  · exact hrest
  split
  · rfl
  split <;> rfl

end Calendar

namespace Timestamp

open Text Calendar

theorem clock_bounds (t : Timestamp) :
    t.hour ≤ 23 ∧ t.minute ≤ 59 ∧ t.clockSecond.1 ≤ 60 ∧ t.clockSecond.2 < 1000000000 := by
  have hs := t.second_lt
  have hn := t.nano_lt
  simp only [hour, minute, clockSecond]
  split <;> dsimp only <;> omega

theorem parse_padded {d : Date} {h m s n : Nat} {t : Timestamp} (hh : h ≤ 23) (hm : m ≤ 59)
    (hs : s ≤ 60) (hn : n < 1000000000) (ht : ofClock? d h m s n = some t) :
    Timestamp.parse (d.text ++ 'T' :: padded 2 h ++ ':' :: padded 2 m ++ ':' :: padded 2 s ++
      fractionText n ++ ['Z']) = .ok t := by
  have hdate (cs : List Char) := d.readYearMonthDay_text (show EndsDigits ('T' :: cs) from rfl)
  have hhour (cs : List Char) : readNumber 2 0 23 (padded 2 h ++ ':' :: cs) = .ok (h, ':' :: cs) :=
    readNumber_padded (by decide) (by omega) (Nat.zero_le h) hh rfl
  have hminute (cs : List Char) :
      readNumber 2 0 59 (padded 2 m ++ ':' :: cs) = .ok (m, ':' :: cs) :=
    readNumber_padded (by decide) (by omega) (Nat.zero_le m) hm rfl
  have hsecond : readNumber 2 0 60 (padded 2 s ++ (fractionText n ++ ['Z'])) =
      .ok (s, fractionText n ++ ['Z']) :=
    readNumber_padded (by decide) (by omega) (Nat.zero_le s) hs
      (endsDigits_fractionText n ['Z'] rfl)
  have hfraction := readFraction_fractionText hn
  have hoffset : readOffset (dropBlank ['Z']) = .ok (0, []) := rfl
  have hend : expectEnd [] = .ok () := rfl
  simp only [List.append_assoc, List.cons_append, Timestamp.parse, hdate, bind, Except.bind,
    true_or, if_true, pure, Except.pure, hhour, dropBlank_cons isBlank_colon, readChar_cons,
    hminute, hsecond, hfraction, hoffset, hend, Date.dateOf_month_day, ht, Int.neg_zero,
    addMinutes?_zero]
  rfl

theorem parse_text (t : Timestamp) : Timestamp.parse t.text = .ok t := by
  obtain ⟨hh, hm, hs, hn⟩ := t.clock_bounds
  exact parse_padded hh hm hs hn t.ofClock?_clock

end Timestamp

end Lookback
