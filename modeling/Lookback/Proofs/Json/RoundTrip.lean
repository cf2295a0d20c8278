import Lookback.Proofs.Json.Length
import Lookback.Proofs.Json.Text

/-! Values that read back as they were written, whatever follows them in the text. -/
namespace Lookback.Json

variable {α β : Type} {c : Codec α} {a : α} {as : List α} {ch : Char} {cs rest : List Char} {n : Nat}

/-- What may follow a value: nothing, or a character that ends it. -/
def EndsValue : List Char → Prop
  | [] => True
  | ch :: _ => ch = ',' ∨ ch = ']' ∨ ch = '}'

theorem skipSpace_cons (h : isSpace ch = false) : skipSpace (ch :: cs) = ch :: cs := by
  rw [skipSpace, List.dropWhile_cons_of_neg (by simp [h])]

namespace Codec

/-- A value is read back as it was written, and what follows it is left. -/
def RoundTrips (c : Codec α) (a : α) : Prop :=
  ∀ rest, EndsValue rest → c.read (c.write a ++ rest) = .ok (a, rest)

/-- The first character that is written for a value. -/
def Opens (c : Codec α) (a : α) (ch : Char) : Prop := ∃ cs, c.write a = ch :: cs

theorem decode_encode (h : c.RoundTrips a) : c.decode (c.encode a) = .ok a := by
  have hr := h [] trivial
  rw [List.append_nil] at hr
  rw [decode, encode, String.toList_ofList, hr]
  rfl

theorem exists_read_of_decode {s : String} (h : c.decode s = .ok a) :
    ∃ rest, c.read s.toList = .ok (a, rest) ∧ skipSpace rest = [] := by
  simp only [decode, bind_eq_ok_iff, Prod.exists] at h
  obtain ⟨b, rest, hr, h⟩ := h
  split at h
  · rename_i hrest
    cases h
    exact ⟨rest, hr, hrest⟩
  · cases h

theorem map_roundTrips {f : α → β} {g : β → α} {b : β} (hfg : f (g b) = b)
    (h : c.RoundTrips (g b)) : (c.map f g).RoundTrips b := by
  intro rest hrest
  have hr := h rest hrest
  simp only [map, hr, Except.map, hfg]

end Codec

theorem refined_roundTrips {expected : String} {parse : List Char → Except String α}
    {print : α → List Char} (h : parse (print a) = .ok a) :
    (refined expected parse print).RoundTrips a := by
  intro rest _
  have ht := readText_flatMap_writeChar (print a) rest
  simp only [refined, writeText_append, skipSpace_cons (show isSpace '"' = false by decide), ht,
    bind, Except.bind, h]
  rfl

theorem text_roundTrips (s : String) : text.RoundTrips s :=
  refined_roundTrips (by simp)

theorem exists_readText_of_text {s : String} (h : text.read cs = .ok (s, rest)) :
    ∃ ds, skipSpace cs = '"' :: ds ∧ readText ds = .ok (s.toList, rest) := by
  simp only [text, refined] at h
  split at h
  · rename_i ds hds
    simp only [bind_eq_ok_iff, Prod.exists, Function.comp_apply] at h
    obtain ⟨es, left, hes, h⟩ := h
    cases h
    refine ⟨ds, hds, ?_⟩
    rw [String.toList_ofList]
    exact hes
  · cases h

/-- One of several named values is read from a string if that is its name. -/
theorem variant_read_text {all : List α} {name : α → String} {ds xs : List Char}
    (hcs : skipSpace cs = '"' :: ds) (hds : readText ds = .ok (xs, rest)) :
    (variant all name).read cs = (pick all name (String.ofList xs)).map (·, rest) := by
  simp only [variant, hcs, hds, bind, Except.bind]
  cases pick all name (String.ofList xs) <;> rfl

theorem variant_roundTrips {all : List α} {name : α → String}
    (h : all.find? (fun b => name b = name a) = some a) : (variant all name).RoundTrips a := by
  intro rest _
  have ht := readText_flatMap_writeChar (name a).toList rest
  have hquote : skipSpace (writeText (name a).toList ++ rest) =
      '"' :: ((name a).toList.flatMap writeChar ++ '"' :: rest) := by
    rw [writeText_append, skipSpace_cons (by decide)]
  refine (variant_read_text hquote ht).trans ?_
  rw [String.ofList_toList, pick, h]
  rfl

theorem optional_none_roundTrips (c : Codec α) : (optional c).RoundTrips none := fun _ _ => rfl

theorem optional_some_roundTrips (h : c.RoundTrips a) (ho : c.Opens a ch)
    (hs : isSpace ch = false) (hn : ch ≠ 'n') : (optional c).RoundTrips (some a) := by
  intro rest hrest
  obtain ⟨cs, hcs⟩ := ho
  have hr := h rest hrest
  rw [hcs, List.cons_append] at hr
  simp only [optional, hcs, List.cons_append, skipSpace_cons hs]
  split
  · rename_i heq
    cases heq
    exact absurd rfl hn
  · rw [hr]
    rfl

theorem commaSeparated_cons (t : List Char) (ts : List (List Char)) :
    commaSeparated (t :: ts) = t ++ ts.flatMap (',' :: ·) := by
  induction ts generalizing t with
  | nil => simp [commaSeparated]
  | cons t' ts ih =>
    have h := ih t'
    rw [commaSeparated] at h ⊢
    rw [List.flatMap_cons, List.cons_append, ← h]
    simp [List.intercalate]

/-- An element of an array opens with a character that neither is a space nor closes the array. -/
def Codec.OpensElement (c : Codec α) (a : α) : Prop :=
  ∃ ch, c.Opens a ch ∧ isSpace ch = false ∧ ch ≠ ']'

theorem length_le_flatMap (ts : List (List Char)) :
    ts.length ≤ (ts.flatMap (',' :: ·)).length := by
  induction ts with
  | nil => exact Nat.le_refl 0
  | cons t ts ih => simp only [List.length_cons, List.flatMap_cons, List.length_append]; omega

end Lookback.Json
