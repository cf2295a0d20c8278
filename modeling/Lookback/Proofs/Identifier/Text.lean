import Lookback.Identifier.UuidText

/-! An identifier is read back from its hyphenated text. -/
namespace Lookback

namespace Text

variable {c : Char} {cs : List Char}

theorem byteLength_eq_length (h : ∀ c ∈ cs, c.utf8Size = 1) : byteLength cs = cs.length := by
  induction cs with
  | nil => rfl
  | cons c cs ih =>
    have hc := h c List.mem_cons_self
    have hcs := ih fun d hd => h d (List.mem_cons_of_mem _ hd)
    rw [byteLength, hc, hcs, List.length_cons, Nat.add_comm]

theorem toNat_le_of_hexValue? (h : (hexValue? c).isSome) : c.toNat ≤ 102 := by
  have hle (d : Char) (hd : c ≤ d) : c.toNat ≤ d.toNat := hd
  rw [hexValue?] at h
  split at h
  · rename_i hc
    exact Nat.le_trans (hle '9' hc.2) (by decide)
  split at h
  · rename_i hc
    exact hle 'f' hc.2
  split at h
  · rename_i hc
    exact Nat.le_trans (hle 'F' hc.2) (by decide)
  · cases h

end Text

namespace Uuid

open Text

variable {c : Char} {cs ds rest : List Char} {i : Nat}

theorem utf8Size_of_isHex (h : isHex c) : c.utf8Size = 1 := by
  have hc := toNat_le_of_hexValue? h
  exact Char.utf8Size_eq_one_iff.mpr (Nat.le_trans hc (by decide))

theorem ne_hyphen_of_isHex (h : isHex c) : c ≠ '-' := by
  rintro rfl
  cases h

theorem firstStranger_eq_none (h : ∀ c ∈ cs, isHex c ∨ c = '-') : firstStranger i cs = none := by
  induction cs generalizing i with
  | nil => rfl
  | cons c cs ih =>
    have hc := h c List.mem_cons_self
    rw [firstStranger, if_pos (by simpa using hc)]
    exact ih fun d hd => h d (List.mem_cons_of_mem _ hd)

/-- The positions of the hyphens, counted from `i`. -/
def hyphensFrom (i : Nat) (cs : List Char) : List Nat :=
  ((cs.zipIdx i).filter fun (c, _) => c = '-').map Prod.snd

theorem hyphensFrom_append (h : ∀ c ∈ cs, isHex c) (i : Nat) (rest : List Char) :
    hyphensFrom i (cs ++ rest) = hyphensFrom (i + cs.length) rest := by
  induction cs generalizing i with
  | nil => rfl
  | cons c cs ih =>
    have hc : c ≠ '-' := ne_hyphen_of_isHex (h c List.mem_cons_self)
    have hcs := ih (fun d hd => h d (List.mem_cons_of_mem _ hd)) (i + 1)
    rw [List.length_cons, ← Nat.add_assoc, Nat.add_right_comm, ← hcs]
    simp [hyphensFrom, hc]

theorem hyphensFrom_hyphen (i : Nat) (cs : List Char) :
    hyphensFrom i ('-' :: cs) = i :: hyphensFrom (i + 1) cs := rfl

theorem hyphensFrom_digits (h : ∀ c ∈ cs, isHex c) (i : Nat) : hyphensFrom i cs = [] := by
  have hall := hyphensFrom_append h i []
  rwa [List.append_nil] at hall

theorem filter_digits (h : ∀ c ∈ cs, isHex c) : cs.filter (· ≠ '-') = cs :=
  List.filter_eq_self.mpr fun c hc => by simpa using ne_hyphen_of_isHex (h c hc)

/-- Thirty-two digits in their five groups. -/
theorem exists_groups (hlen : ds.length = 32) : ∃ g₀ g₁ g₂ g₃ g₄ : List Char,
    ds = g₀ ++ g₁ ++ g₂ ++ g₃ ++ g₄ ∧
    hyphenated ds = g₀ ++ '-' :: (g₁ ++ '-' :: (g₂ ++ '-' :: (g₃ ++ '-' :: g₄))) ∧
    g₀.length = 8 ∧ g₁.length = 4 ∧ g₂.length = 4 ∧ g₃.length = 4 ∧ g₄.length = 12 := by
  refine ⟨ds.take 8, (ds.drop 8).take 4, (ds.drop 12).take 4, (ds.drop 16).take 4, ds.drop 20,
    ?_, ?_, ?_⟩
  · have hcut (n k : Nat) : (ds.drop n).take k ++ ds.drop (n + k) = ds.drop n := by
      rw [← List.drop_drop, List.take_append_drop]
    rw [List.append_assoc, hcut 16 4, List.append_assoc, hcut 12 4, List.append_assoc, hcut 8 4,
      List.take_append_drop]
  · simp [hyphenated]
  · simp [hlen]

/-- A text of digits in their groups is read, and its digits are all that counts. -/
theorem parse_hyphenated (hlen : ds.length = 32) (hd : ∀ c ∈ ds, isHex c) :
    parse (hyphenated ds) = .ok (ofHex ds) := by
  obtain ⟨g₀, g₁, g₂, g₃, g₄, rfl, htext, h₀, h₁, h₂, h₃, h₄⟩ := exists_groups hlen
  simp only [List.mem_append, or_imp, forall_and] at hd
  obtain ⟨⟨⟨⟨d₀, d₁⟩, d₂⟩, d₃⟩, d₄⟩ := hd
  rw [htext]
  generalize hcs : g₀ ++ '-' :: (g₁ ++ '-' :: (g₂ ++ '-' :: (g₃ ++ '-' :: g₄))) = cs
  have hmem : ∀ c ∈ cs, isHex c ∨ c = '-' := by
    intro c hc
    simp only [← hcs, List.mem_append, List.mem_cons] at hc
    grind
  have hsize : byteLength cs = 36 := by
    have hone : ∀ c ∈ cs, c.utf8Size = 1 := by
      intro c hc
      rcases hmem c hc with hx | rfl
      · exact utf8Size_of_isHex hx
      · rfl
    rw [byteLength_eq_length hone, ← hcs]
    simp [h₀, h₁, h₂, h₃, h₄]
  have hbody : body cs = ⟨cs, false, 0, 36⟩ := by
    simp only [body, hsize, if_true]
  have hhyphens : hyphens cs = [8, 13, 18, 23] := by
    change hyphensFrom 0 cs = _
    rw [← hcs, hyphensFrom_append d₀, hyphensFrom_hyphen, hyphensFrom_append d₁,
      hyphensFrom_hyphen, hyphensFrom_append d₂, hyphensFrom_hyphen, hyphensFrom_append d₃,
      hyphensFrom_hyphen, hyphensFrom_digits d₄, h₀, h₁, h₂, h₃]
  have hfilter : cs.filter (· ≠ '-') = g₀ ++ g₁ ++ g₂ ++ g₃ ++ g₄ := by
    have hyphen (cs : List Char) : ('-' :: cs).filter (· ≠ '-') = cs.filter (· ≠ '-') := rfl
    rw [← hcs, List.filter_append, hyphen, List.filter_append, hyphen, List.filter_append, hyphen,
      List.filter_append, hyphen, filter_digits d₀, filter_digits d₁, filter_digits d₂,
      filter_digits d₃, filter_digits d₄]
    simp only [List.append_assoc]
  have hgroups : wrongGroup [8, 13, 18, 23] = none := rfl
  have hstranger : firstStranger 0 cs = none := firstStranger_eq_none hmem
  simp only [parse, hbody, hsize, hstranger, hhyphens, hgroups, hfilter]
  rfl

theorem parse_text (u : Uuid) : parse u.text = .ok u := by
  have hd : ∀ c ∈ hexDigits 32 u.bits.toNat, isHex c :=
    fun _ hc => isSome_hexValue?_of_mem_hexDigits hc
  rw [Uuid.text, parse_hyphenated (length_hexDigits 32 _) hd, ofHex_hexDigits]

end Uuid

end Lookback
