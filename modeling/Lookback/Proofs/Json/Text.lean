import Lookback.Json.Text

/-! A JSON string reads back as the text that was written, whatever follows it. -/
namespace Lookback.Json

variable {c d : Char} {cs rest : List Char} {n : Nat}

theorem readText_quote (cs : List Char) : readText ('"' :: cs) = .ok ([], cs) := by
  rw [readText, if_pos rfl]

theorem readText_escape (h : readEscape cs = .ok (d, rest)) :
    readText ('\\' :: cs) = (readText rest).map fun (ds, r) => (d :: ds, r) := by
  rw [readText, if_neg (by decide), if_pos rfl]
  split <;> rename_i h' <;> cases h.symm.trans h'
  rfl

theorem readText_plain (hq : c ≠ '"') (hb : c ≠ '\\') (hc : 0x20 ≤ c.toNat) :
    readText (c :: cs) = (readText cs).map fun (ds, r) => (c :: ds, r) := by
  rw [readText, if_neg hq, if_neg hb, if_neg (Nat.not_lt.mpr hc)]

theorem readUnit_hexDigits (hn : n < 0x10000) (cs : List Char) :
    readUnit (Text.hexDigits 4 n ++ cs) = .ok (n, cs) := by
  obtain ⟨w, x, y, z, hds⟩ : ∃ w x y z, Text.hexDigits 4 n = [w, x, y, z] := ⟨_, _, _, _, rfl⟩
  have hall : [w, x, y, z].all fun x => (Text.hexValue? x).isSome := by
    rw [← hds, List.all_eq_true]
    exact fun x hx => Text.isSome_hexValue?_of_mem_hexDigits hx
  have hval : Text.ofHex [w, x, y, z] = n := by
    rw [← hds, Text.ofHex_hexDigits]
    exact Nat.mod_eq_of_lt hn
  rw [hds]
  simp only [List.cons_append, List.nil_append, readUnit, hall, if_true, hval]

theorem readEscape_control (hc : c.toNat < 0x20) :
    readEscape ('u' :: Text.hexDigits 4 c.toNat ++ cs) = .ok (c, cs) := by
  have hu := readUnit_hexDigits (show c.toNat < 0x10000 by omega) cs
  have hlow : ¬ (0xDC00 ≤ c.toNat ∧ c.toNat ≤ 0xDFFF) := by omega
  have hhigh : c.toNat < 0xD800 ∨ 0xDFFF < c.toNat := by omega
  rw [List.cons_append, readEscape, if_neg (by decide), if_neg (by decide), if_neg (by decide),
    if_neg (by decide), if_neg (by decide), if_neg (by decide), if_pos rfl, readUnits, hu]
  simp only [bind, Except.bind, if_neg hlow, if_pos hhigh, Char.ofNat_toNat]
  rfl

/-- Each character is written so that it is read back. -/
theorem readText_writeChar :
    readText (writeChar c ++ cs) = (readText cs).map fun (ds, r) => (c :: ds, r) := by
  rw [writeChar]
  split
  · rename_i h
    refine readText_escape ?_
    rcases h with rfl | rfl <;> rfl
  · rename_i h
    obtain ⟨hq, hb⟩ := not_or.mp h
    split
    · rename_i h; subst h; exact readText_escape rfl
    split
    · rename_i h; subst h; exact readText_escape rfl
    split
    · rename_i h; subst h; exact readText_escape rfl
    split
    · rename_i h; subst h; exact readText_escape rfl
    split
    · rename_i h; subst h; exact readText_escape rfl
    split
    · rename_i hc; exact readText_escape (readEscape_control hc)
    · rename_i hc; exact readText_plain hq hb (Nat.not_lt.mp hc)

theorem readText_flatMap_writeChar (cs rest : List Char) :
    readText (cs.flatMap writeChar ++ '"' :: rest) = .ok (cs, rest) := by
  induction cs with
  | nil => exact readText_quote rest
  | cons c cs ih => rw [List.flatMap_cons, List.append_assoc, readText_writeChar, ih]; rfl

theorem writeText_append (cs rest : List Char) :
    writeText cs ++ rest = '"' :: (cs.flatMap writeChar ++ '"' :: rest) := by
  simp [writeText]

end Lookback.Json
