import Lookback.Text.Capital

/-! The characters that become ASCII letters in capitals: beside the ASCII letters, these are the
dotless i, the long s, the sharp s and the Latin ligatures. -/
namespace Lookback.Text

variable {c : Char} {r : CapitalRun} {ns : List Nat} {n : Nat}

theorem capital_of_ascii (h : c.toNat < 128) : capital c = [c.toUpper] := if_pos h

/-- The characters beyond ASCII whose capital form is in ASCII, with that form. -/
def asciiCapitals : List (Char × List Char) :=
  [('ı', ['I']), ('ſ', ['S']), ('ß', ['S', 'S']), ('ﬀ', ['F', 'F']), ('ﬁ', ['F', 'I']),
    ('ﬂ', ['F', 'L']), ('ﬃ', ['F', 'F', 'I']), ('ﬄ', ['F', 'F', 'L']), ('ﬅ', ['S', 'T']),
    ('ﬆ', ['S', 'T'])]

theorem longCapitals_bounds (h : (n, ns) ∈ longCapitals) :
    (∃ m ∈ ns, 128 ≤ (Char.ofNat m).toNat) ∨ (Char.ofNat n, ns.map Char.ofNat) ∈ asciiCapitals := by
  have hall : ∀ e ∈ longCapitals, (∃ m ∈ e.2, 128 ≤ (Char.ofNat m).toNat) ∨
      (Char.ofNat e.1, e.2.map Char.ofNat) ∈ asciiCapitals := by decide +kernel
  exact hall _ h

/-- Of the runs only two lead into ASCII. All others lead to characters beyond it. -/
theorem capitalRuns_bounds (h : r ∈ capitalRuns) :
    r = ⟨0x131, 0x131, 1, -232⟩ ∨ r = ⟨0x17F, 0x17F, 1, -300⟩ ∨
      128 ≤ r.first + r.offset ∧
        (r.last + r.offset < 0xD800 ∨ 0xDFFF < r.first + r.offset ∧ r.last + r.offset < 0x110000) := by
  revert r
  decide +kernel

theorem toNat_ofNat_of_run (hr : r ∈ capitalRuns) (hcover : r.covers c.toNat)
    (hi : c ≠ 'ı') (hs : c ≠ 'ſ') :
    128 ≤ (Char.ofNat (c.toNat + r.offset).toNat).toNat := by
  simp only [CapitalRun.covers, Bool.and_eq_true, decide_eq_true_eq] at hcover
  obtain ⟨⟨hfirst, hlast⟩, -⟩ := hcover
  rcases capitalRuns_bounds hr with rfl | rfl | ⟨hbeyond, hchar⟩
  · dsimp only at hfirst hlast
    have hn : c.toNat = 0x131 := by omega
    exact absurd (Char.toNat_inj.mp hn) hi
  · dsimp only at hfirst hlast
    have hn : c.toNat = 0x17F := by omega
    exact absurd (Char.toNat_inj.mp hn) hs
  · have hvalid : (c.toNat + r.offset).toNat.isValidChar := by
      unfold Nat.isValidChar
      omega
    have hn : (Char.ofNat (c.toNat + r.offset).toNat).toNat = (c.toNat + r.offset).toNat := by
      rw [Char.ofNat, dif_pos hvalid]
      rfl
    omega

/-- The capital form of a character beyond ASCII is listed above, or not all of it is in ASCII. -/
theorem capital_of_not_ascii (h : 128 ≤ c.toNat) :
    (∃ d ∈ capital c, 128 ≤ d.toNat) ∨ (c, capital c) ∈ asciiCapitals := by
  by_cases hi : c = 'ı'
  · subst hi
    right
    decide +kernel
  by_cases hs : c = 'ſ'
  · subst hs
    right
    decide +kernel
  rw [capital, if_neg (Nat.not_lt.mpr h)]
  split
  · rename_i ns hns
    obtain ⟨before, behind, htable, -⟩ := List.lookup_eq_some_iff.mp hns
    have hmem : (c.toNat, ns) ∈ longCapitals := by
      rw [htable]
      exact List.mem_append_right _ List.mem_cons_self
    rcases longCapitals_bounds hmem with ⟨m, hm, hbeyond⟩ | hlisted
    · left
      exact ⟨_, List.mem_map_of_mem hm, hbeyond⟩
    · right
      rwa [Char.ofNat_toNat] at hlisted
  · left
    split
    · rename_i r hr
      have hcover : r.covers c.toNat := List.find?_some (p := fun r : CapitalRun => r.covers c.toNat) hr
      refine ⟨_, List.mem_singleton_self _, ?_⟩
      exact toNat_ofNat_of_run (List.mem_of_find?_eq_some hr) hcover hi hs
    · exact ⟨c, List.mem_singleton_self c, h⟩

end Lookback.Text
