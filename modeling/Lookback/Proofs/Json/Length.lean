import Lookback.Json.Record

/-! What a reader leaves of a text is shorter than the text: each value takes at least one character. -/
namespace Lookback.Json

variable {α β : Type} {c : Codec α} {cs ds rest : List Char} {ch : Char} {n : Nat}

theorem bind_eq_ok_iff {x : Except Error α} {f : α → Except Error β} {b : β} :
    x >>= f = .ok b ↔ ∃ a, x = .ok a ∧ f a = .ok b := by
  cases x <;> simp [bind, Except.bind]

theorem map_eq_ok_iff {x : Except Error α} {f : α → β} {b : β} :
    x.map f = .ok b ↔ ∃ a, x = .ok a ∧ f a = b := by
  cases x <;> simp [Except.map]

theorem skipSpace_length (cs : List Char) : (skipSpace cs).length ≤ cs.length :=
  (List.dropWhile_suffix _).length_le

theorem length_of_skipSpace (h : skipSpace cs = ch :: ds) : ds.length < cs.length := by
  have hl := skipSpace_length cs
  rw [h, List.length_cons] at hl
  omega

theorem readText_length (h : readText cs = .ok (ds, rest)) : rest.length < cs.length := by
  fun_induction readText cs generalizing ds with
  | case1 => cases h
  | case2 cs =>
    cases h
    exact Nat.lt_succ_self _
  | case3 => cases h
  | case4 cs d left hd hescape _ ih =>
    obtain ⟨⟨es, left⟩, hr, heq⟩ := map_eq_ok_iff.mp h
    cases heq
    have hleft := ih hr
    rw [List.length_cons]
    omega
  | case5 => cases h
  | case6 c cs _ _ _ ih =>
    obtain ⟨⟨es, left⟩, hr, heq⟩ := map_eq_ok_iff.mp h
    cases heq
    have hleft := ih hr
    rw [List.length_cons]
    omega

theorem skipText_length (h : skipText cs = .ok rest) : rest.length < cs.length := by
  fun_induction skipText cs with
  | case1 => cases h
  | case2 cs =>
    cases h
    exact Nat.lt_succ_self _
  | case3 => cases h
  | case4 cs left hd hescape _ ih =>
    have hleft := ih h
    rw [List.length_cons]
    omega
  | case5 => cases h
  | case6 c cs _ _ _ ih =>
    have hleft := ih h
    rw [List.length_cons]
    omega

theorem readWord_length {ws : List Char} (h : readWord ws cs = .ok rest) :
    rest.length ≤ cs.length := by
  induction ws generalizing cs with
  | nil =>
    cases h
    exact Nat.le_refl _
  | cons w ws ih =>
    cases cs with
    | nil => cases h
    | cons c cs =>
      rw [readWord] at h
      split at h
      · have hleft := ih h
        rw [List.length_cons]
        omega
      · cases h

theorem spanDigits_length (cs : List Char) : (spanDigits cs).2.length ≤ cs.length :=
  (List.dropWhile_suffix _).length_le

theorem readWhole_length (h : readWhole cs = .ok (ds, rest)) : rest.length ≤ cs.length := by
  have hspan := spanDigits_length cs
  unfold readWhole at h
  generalize spanDigits cs = p at h hspan
  split at h
  · cases h
  · split at h
    · cases h
    · cases h
      exact hspan
  · cases h
    exact hspan

theorem readFraction_length {o : Option (List Char)} (h : readFraction cs = .ok (o, rest)) :
    rest.length ≤ cs.length := by
  unfold readFraction at h
  split at h
  · rename_i cs
    have hspan := spanDigits_length cs
    generalize spanDigits cs = p at h hspan
    rw [List.length_cons]
    split at h
    · cases h
    · cases h
      exact Nat.le_succ_of_le hspan
  · cases h
    exact Nat.le_refl _

theorem readExponent_length {o : Option Int} (h : readExponent cs = .ok (o, rest)) :
    rest.length ≤ cs.length := by
  unfold readExponent at h
  split at h
  · rename_i c cs
    rw [List.length_cons]
    split at h
    · split at h
      rename_i negative ds hsign
      have hds : ds.length ≤ cs.length := by
        split at hsign <;> cases hsign <;> simp
      have hspan := spanDigits_length ds
      generalize spanDigits ds = p at h hspan
      split at h
      · cases h
      · cases h
        exact Nat.le_succ_of_le (Nat.le_trans hspan hds)
    · cases h
      exact Nat.le_refl _
  · cases h
    exact Nat.le_refl _

theorem readUnsigned_length {negative : Bool} {m : Numeral}
    (h : readUnsigned negative cs = .ok (m, rest)) : rest.length ≤ cs.length := by
  obtain ⟨⟨whole, cs1⟩, hwhole, h⟩ := bind_eq_ok_iff.mp h
  obtain ⟨⟨fraction, cs2⟩, hfraction, h⟩ := bind_eq_ok_iff.mp h
  obtain ⟨⟨e, cs3⟩, hexponent, h⟩ := bind_eq_ok_iff.mp h
  cases h
  have h1 := readWhole_length hwhole
  have h2 := readFraction_length hfraction
  have h3 := readExponent_length hexponent
  omega

theorem readNumeral_length {m : Numeral} (h : readNumeral cs = .ok (m, rest)) :
    rest.length ≤ cs.length := by
  unfold readNumeral at h
  split at h
  · have hleft := readUnsigned_length h
    rw [List.length_cons]
    omega
  · exact readUnsigned_length h

theorem skipScalar_length (h : skipScalar cs = .ok rest) : rest.length ≤ cs.length := by
  unfold skipScalar at h
  split at h
  · cases h
  · rename_i c cs
    split at h
    · exact Nat.le_succ_of_le (Nat.le_of_lt (skipText_length h))
    split at h
    · split at h
      · rename_i hnumeral
        cases h
        exact readNumeral_length hnumeral
      · cases h
    split at h
    · exact Nat.le_succ_of_le (readWord_length h)
    split at h
    · exact Nat.le_succ_of_le (readWord_length h)
    split at h
    · exact Nat.le_succ_of_le (readWord_length h)
    · cases h

theorem Bracket.skipKey_length {b : Bracket} (h : b.skipKey cs = .ok rest) :
    rest.length ≤ cs.length := by
  unfold Bracket.skipKey at h
  split at h
  · cases h
    exact Nat.le_refl _
  · split at h
    · rename_i ds hds
      obtain ⟨es, hes, h⟩ := bind_eq_ok_iff.mp h
      have hkey := length_of_skipSpace hds
      have htext := skipText_length hes
      split at h
      · rename_i fs hfs
        have hcolon := length_of_skipSpace hfs
        cases h
        omega
      · cases h
      · cases h
    · cases h
    · cases h

theorem skipAhead_length {next : Ahead} (h : skipAhead n next cs = .ok rest) :
    rest.length ≤ cs.length := by
  induction n generalizing next cs with
  | zero => cases h
  | succ n ih =>
    cases next with
    | value around =>
      rw [skipAhead] at h
      split at h
      · rename_i ds hds
        have hopen := length_of_skipSpace hds
        have hleft := ih h
        omega
      · rename_i ds hds
        have hopen := length_of_skipSpace hds
        have hleft := ih h
        omega
      · obtain ⟨ds, hds, h⟩ := bind_eq_ok_iff.mp h
        have hspace := skipSpace_length cs
        have hscalar := skipScalar_length hds
        split at h
        · have hleft := ih h
          omega
        · cases h
          omega
    | inside b around afterValue =>
      rw [skipAhead] at h
      split at h
      · cases h
      · rename_i c ds hds
        have hc := length_of_skipSpace hds
        split at h
        · split at h
          · have hleft := ih h
            omega
          · cases h
            omega
        split at h
        · split at h
          · obtain ⟨es, hes, h⟩ := bind_eq_ok_iff.mp h
            have hkey := Bracket.skipKey_length hes
            have hleft := ih h
            omega
          · cases h
        · obtain ⟨es, hes, h⟩ := bind_eq_ok_iff.mp h
          have hkey := Bracket.skipKey_length hes
          have hleft := ih h
          rw [List.length_cons] at hkey
          omega

theorem skipValue_length (h : skipValue cs = .ok rest) : rest.length ≤ cs.length :=
  skipAhead_length h

theorem readColon_length (h : readColon cs = .ok rest) : rest.length < cs.length := by
  unfold readColon at h
  split at h
  · rename_i ds hds
    cases h
    exact length_of_skipSpace hds
  · cases h
  · cases h

theorem nextElement_length {first more : Bool} (h : nextElement first cs = .ok (more, rest)) :
    rest.length ≤ cs.length := by
  unfold nextElement at h
  have hspace := skipSpace_length cs
  split at h
  · cases h
  · rename_i ds hds
    cases h
    exact Nat.le_of_lt (length_of_skipSpace hds)
  · rename_i c ds _ hds
    rw [hds] at hspace
    split at h
    · cases h
      exact hspace
    split at h
    · have hafter := skipSpace_length ds
      rw [List.length_cons] at hspace
      split at h
      · cases h
      · cases h
      · cases h
        omega
    · cases h

/-- No value is read from an empty piece of a text. -/
def Codec.Consumes (c : Codec α) : Prop :=
  ∀ {cs a rest}, c.read cs = .ok (a, rest) → rest.length < cs.length

theorem refined_consumes {expected : String} {parse : List Char → Except String α}
    {print : α → List Char} : (refined expected parse print).Consumes := by
  intro cs a rest h
  simp only [refined] at h
  split at h
  · rename_i ds hds
    simp only [bind_eq_ok_iff, Prod.exists] at h
    obtain ⟨es, left, hes, h⟩ := h
    have hquote := length_of_skipSpace hds
    have htext := readText_length hes
    split at h
    · cases h
      omega
    · cases h
  · cases h

theorem variant_consumes {all : List α} {name : α → String} : (variant all name).Consumes := by
  intro cs a rest h
  simp only [variant] at h
  split at h
  · rename_i ds hds
    simp only [bind_eq_ok_iff, Prod.exists] at h
    obtain ⟨es, left, hes, b, -, h⟩ := h
    have hquote := length_of_skipSpace hds
    have htext := readText_length hes
    cases h
    omega
  · rename_i ds hds
    have hopen := length_of_skipSpace hds
    split at h
    · rename_i es hes
      simp only [bind_eq_ok_iff, Prod.exists] at h
      obtain ⟨fs, left, hfs, b, -, gs, hgs, h⟩ := h
      have hquote := length_of_skipSpace hes
      have htext := readText_length hfs
      have hcolon := readColon_length hgs
      split at h
      · rename_i ks hks
        obtain ⟨ls, hls, h⟩ := bind_eq_ok_iff.mp h
        have hn := length_of_skipSpace hks
        have hnull := readWord_length hls
        split at h
        · rename_i ms hms
          have hclose := length_of_skipSpace hms
          cases h
          omega
        · cases h
        · cases h
      · cases h
    · cases h
    · cases h
    · cases h
  · cases h
  · cases h

namespace Fields

variable {fs : Fields β} {draft draft' : fs.Draft} {b : β}

/-- No field is read from an empty piece of a text. -/
def Consume : {β : Type} → Fields β → Prop
  | _, .nil => True
  | _, .cons _ codec _ rest => codec.Consumes ∧ rest.Consume

theorem readField?_length {key : String} (hc : fs.Consume)
    (h : fs.readField? key draft cs = some (.ok (draft', rest))) : rest.length < cs.length := by
  induction fs with
  | nil => cases h
  | cons first codec absent others ih =>
    obtain ⟨slot, later⟩ := draft
    obtain ⟨hcodec, hothers⟩ := hc
    simp only [readField?] at h
    split at h
    · split at h
      · cases h
      · simp only [Option.some.injEq, bind_eq_ok_iff, Prod.exists] at h
        obtain ⟨ds, hds, a, left, ha, h⟩ := h
        have hcolon := readColon_length hds
        have hvalue := hcodec ha
        cases h
        omega
    · obtain ⟨result, hr, h⟩ := Option.map_eq_some_iff.mp h
      obtain ⟨⟨later', left⟩, rfl, heq⟩ := map_eq_ok_iff.mp h
      cases heq
      exact ih hothers hr

theorem nextKey_length {first : Bool} {key : Option String}
    (h : nextKey first cs = .ok (key, rest)) : rest.length < cs.length := by
  unfold nextKey at h
  split at h
  · cases h
  · rename_i ds hds
    cases h
    exact length_of_skipSpace hds
  · rename_i c ds _ hds
    have hc := length_of_skipSpace hds
    split at h
    · split at h
      · obtain ⟨⟨es, left⟩, hes, heq⟩ := map_eq_ok_iff.mp h
        have htext := readText_length hes
        cases heq
        omega
      · cases h
    split at h
    · split at h
      · rename_i es hes
        obtain ⟨⟨ks, left⟩, hks, heq⟩ := map_eq_ok_iff.mp h
        have hquote := length_of_skipSpace hes
        have htext := readText_length hks
        cases heq
        omega
      · cases h
      · cases h
      · cases h
    · cases h

theorem readMembers_length {first : Bool} (hc : fs.Consume)
    (h : fs.readMembers n first draft cs = .ok (b, rest)) : rest.length < cs.length := by
  induction n generalizing first draft cs with
  | zero => cases h
  | succ n ih =>
    obtain ⟨⟨key, ds⟩, hds, h⟩ := bind_eq_ok_iff.mp h
    have hkey := nextKey_length hds
    cases key with
    | none =>
      obtain ⟨b', -, h⟩ := bind_eq_ok_iff.mp h
      cases h
      exact hkey
    | some key =>
      simp only at h
      split at h
      · rename_i result hr
        simp only [bind_eq_ok_iff, Prod.exists] at h
        obtain ⟨draft', es, rfl, h⟩ := h
        have hfield := readField?_length hc hr
        have hleft := ih h
        omega
      · obtain ⟨es, hes, h⟩ := bind_eq_ok_iff.mp h
        obtain ⟨ks, hks, h⟩ := bind_eq_ok_iff.mp h
        have hcolon := readColon_length hes
        have hvalue := skipValue_length hks
        have hleft := ih h
        omega

theorem readInOrder_length {record : String} {total i : Nat} (hc : fs.Consume)
    (h : fs.readInOrder record total i cs = .ok (b, rest)) : rest.length < cs.length := by
  induction fs generalizing i cs rest with
  | nil =>
    simp only [readInOrder] at h
    split at h
    · cases h
    · rename_i ds hds
      cases h
      exact length_of_skipSpace hds
    · split at h
      · cases h
      · cases h
    · cases h
  | cons key codec absent others ih =>
    obtain ⟨hcodec, hothers⟩ := hc
    simp only [readInOrder, bind_eq_ok_iff, Prod.exists] at h
    obtain ⟨more, ds, hds, h⟩ := h
    have hnext := nextElement_length hds
    split at h
    · simp only [bind_eq_ok_iff, Prod.exists] at h
      obtain ⟨a, es, ha, as, ks, has, h⟩ := h
      have hvalue := hcodec ha
      have hleft := ih hothers has
      cases h
      omega
    · cases h

end Fields

theorem record_consumes {name : String} {fs : Fields β} {make : β → α} {parts : α → β}
    (hc : fs.Consume) : (record name fs make parts).Consumes := by
  intro cs a rest h
  simp only [record] at h
  split at h
  · rename_i ds hds
    simp only [map_eq_ok_iff, Prod.exists] at h
    obtain ⟨b, left, hb, heq⟩ := h
    have hopen := length_of_skipSpace hds
    have hleft := Fields.readInOrder_length hc hb
    cases heq
    omega
  · rename_i ds hds
    simp only [map_eq_ok_iff, Prod.exists] at h
    obtain ⟨b, left, hb, heq⟩ := h
    have hopen := length_of_skipSpace hds
    have hleft := Fields.readMembers_length hc hb
    cases heq
    omega
  · cases h

end Lookback.Json
