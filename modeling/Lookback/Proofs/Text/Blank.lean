import Lookback.Text.Blank
import Mathlib.Data.List.TakeWhile

/-! A text is the white space in front of it, what is left of it by `trim`, and the white space behind
it. -/
namespace Lookback.Text

variable {c : Char} {cs front behind : List Char}

theorem isBlank_of_isDigit (h : c.isDigit) : isBlank c = false := by
  obtain ⟨hlo, hhi⟩ := Char.isDigit_iff_toNat.mp h
  have h0 : '0'.toNat = 48 := rfl
  have h9 : '9'.toNat = 57 := rfl
  simp only [isBlank, Bool.or_eq_false_iff, Bool.and_eq_false_iff, decide_eq_false_iff_not,
    beq_eq_false_iff_ne]
  omega

theorem dropBlank_cons (h : isBlank c = false) : dropBlank (c :: cs) = c :: cs := by
  rw [dropBlank, List.dropWhile_cons_of_neg (by simp [h])]

theorem exists_dropBlank (cs : List Char) :
    ∃ front, cs = front ++ dropBlank cs ∧ ∀ x ∈ front, isBlank x :=
  ⟨cs.takeWhile isBlank, List.takeWhile_append_dropWhile.symm, fun _ hx =>
    List.mem_takeWhile_imp hx⟩

theorem exists_trim (cs : List Char) : ∃ front behind, cs = front ++ trim cs ++ behind ∧
    (∀ x ∈ front, isBlank x) ∧ ∀ x ∈ behind, isBlank x := by
  obtain ⟨front, hcs, hfront⟩ := exists_dropBlank cs
  obtain ⟨tail, hrest, htail⟩ := exists_dropBlank (dropBlank cs).reverse
  refine ⟨front, tail.reverse, ?_, hfront, ?_⟩
  · have hend : dropBlank cs = trim cs ++ tail.reverse := by
      rw [trim, dropBlankEnd, ← List.reverse_append, ← hrest, List.reverse_reverse]
    rw [List.append_assoc, ← hend]
    exact hcs
  · intro x hx
    exact htail x (List.mem_reverse.mp hx)

theorem dropBlank_append (hfront : ∀ x ∈ front, isBlank x) (hc : isBlank c = false) :
    dropBlank (front ++ c :: cs) = c :: cs := by
  rw [dropBlank, List.dropWhile_append_of_pos hfront]
  exact dropBlank_cons hc

theorem dropBlank_eq_nil (h : ∀ x ∈ cs, isBlank x) : dropBlank cs = [] := by
  rw [dropBlank, List.dropWhile_eq_nil_iff]
  exact h

theorem trim_eq_nil (h : ∀ x ∈ cs, isBlank x) : trim cs = [] := by
  rw [trim, dropBlank_eq_nil h]
  rfl

/-- White space that does not stand inside a text is all that is left out of it. -/
theorem trim_append (hfront : ∀ x ∈ front, isBlank x) (hbehind : ∀ x ∈ behind, isBlank x)
    (hcs : ∀ x ∈ cs, isBlank x = false) : trim (front ++ cs ++ behind) = cs := by
  cases cs with
  | nil =>
    apply trim_eq_nil
    intro x hx
    rw [List.append_nil] at hx
    rcases List.mem_append.mp hx with hx | hx
    · exact hfront x hx
    · exact hbehind x hx
  | cons c cs =>
    have hc : isBlank c = false := hcs c List.mem_cons_self
    rw [trim, List.append_assoc, List.cons_append, dropBlank_append hfront hc, dropBlankEnd,
      ← List.cons_append, List.reverse_append]
    obtain ⟨last, init, hlast⟩ : ∃ last init, (c :: cs).reverse = last :: init :=
      List.exists_cons_of_ne_nil (by simp)
    have hmem : last ∈ c :: cs := by
      rw [← List.mem_reverse, hlast]
      exact List.mem_cons_self
    rw [hlast, dropBlank_append _ (hcs last hmem), ← hlast, List.reverse_reverse]
    intro x hx
    exact hbehind x (List.mem_reverse.mp hx)

end Lookback.Text
