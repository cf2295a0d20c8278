import Lookback.Json.Record

/-! Readers that take the same texts and make of them the values of another type. -/
namespace Lookback.Json

variable {α β γ δ : Type}

/-- The second codec reads what the first one reads and maps the value. -/
def Codec.Maps (f : α → β) (c : Codec α) (c' : Codec β) : Prop :=
  ∀ cs, c'.read cs = (c.read cs).map (Prod.map f id)

namespace Codec

theorem maps_id (c : Codec α) : c.Maps id c := by
  intro cs
  cases c.read cs <;> rfl

theorem maps_map (c : Codec α) (f : α → β) (g : β → α) : c.Maps f (c.map f g) := fun _ => rfl

theorem decode_of_maps {f : α → β} {c : Codec α} {c' : Codec β} (h : c.Maps f c') (s : String) :
    c'.decode s = (c.decode s).map f := by
  rw [decode, decode, h]
  cases c.read s.toList with
  | error e => rfl
  | ok p =>
    by_cases hs : skipSpace p.2 = []
    · simp only [Except.map, Prod.map, bind, Except.bind, id, if_pos hs]
      rfl
    · simp only [Except.map, Prod.map, bind, Except.bind, id, if_neg hs]
      rfl

end Codec

namespace Fields

/-- Fields of the same names, each with a codec that maps what the other one reads, together with
what they make of a value and of a draft. -/
inductive Mapped : {α β : Type} → (fs : Fields α) → (gs : Fields β) → (α → β) →
    (fs.Draft → gs.Draft) → Prop
  | nil : Mapped .nil .nil id id
  | cons {α α' β β' : Type} {key : String} {c : Codec α} {c' : Codec α'} {absent : Option α}
      {fs : Fields β} {gs : Fields β'} {f : α → α'} {g : β → β'} {m : fs.Draft → gs.Draft}
      (read : c.Maps f c') (others : Mapped fs gs g m) :
      Mapped (.cons key c absent fs) (.cons key c' (absent.map f) gs) (Prod.map f g)
        (Prod.map (Option.map f) m)

variable {fs : Fields α} {gs : Fields β} {f : α → β} {m : fs.Draft → gs.Draft}

theorem Mapped.blank (h : Mapped fs gs f m) : m fs.blank = gs.blank := by
  induction h with
  | nil => rfl
  | cons _ _ ih => exact congrArg (none, ·) ih

theorem Mapped.size (h : Mapped fs gs f m) : gs.size = fs.size := by
  induction h with
  | nil => rfl
  | cons _ _ ih => exact congrArg (· + 1) ih

theorem Mapped.complete (h : Mapped fs gs f m) (d : fs.Draft) :
    gs.complete (m d) = (fs.complete d).map f := by
  induction h with
  | nil => rfl
  | @cons _ _ _ _ key c c' absent fs gs f g m _ _ ih =>
    obtain ⟨slot, others⟩ := d
    have hrest := ih others
    cases slot with
    | some a =>
      simp only [Fields.complete, Prod.map, Option.map_some, Option.some_or, hrest]
      cases fs.complete others <;> rfl
    | none =>
      cases absent with
      | none => rfl
      | some a =>
        simp only [Fields.complete, Prod.map, Option.map_some, Option.map_none, Option.none_or,
          hrest]
        cases fs.complete others <;> rfl

theorem Mapped.readField? (h : Mapped fs gs f m) (key : String) (d : fs.Draft) (cs : List Char) :
    gs.readField? key (m d) cs = (fs.readField? key d cs).map (·.map (Prod.map m id)) := by
  induction h with
  | nil => rfl
  | @cons _ _ _ _ first c c' absent fs gs f g m hread _ ih =>
    obtain ⟨slot, others⟩ := d
    have hrest := ih others
    by_cases hkey : key = first
    · cases slot with
      | some a =>
        simp only [Fields.readField?, Prod.map, if_pos hkey]
        rfl
      | none =>
        simp only [Fields.readField?, Prod.map, if_pos hkey, bind, Except.bind]
        cases readColon cs with
        | error e => rfl
        | ok ds =>
          simp only [hread ds]
          cases c.read ds <;> rfl
    · simp only [Fields.readField?, Prod.map, if_neg hkey, hrest]
      cases fs.readField? key others cs with
      | none => rfl
      | some r => cases r <;> rfl

theorem Mapped.readMembers (h : Mapped fs gs f m) (n : Nat) (first : Bool) (d : fs.Draft)
    (cs : List Char) :
    gs.readMembers n first (m d) cs = (fs.readMembers n first d cs).map (Prod.map f id) := by
  induction n generalizing first d cs with
  | zero => rfl
  | succ n ih =>
    simp only [Fields.readMembers, bind, Except.bind]
    cases nextKey first cs with
    | error e => rfl
    | ok p =>
      obtain ⟨key, ds⟩ := p
      cases key with
      | none =>
        simp only [h.complete d]
        cases fs.complete d <;> rfl
      | some key =>
        simp only [h.readField? key d ds]
        cases fs.readField? key d ds with
        | none =>
          simp only [Option.map_none]
          cases readColon ds with
          | error e => rfl
          | ok es =>
            simp only
            cases skipValue es with
            | error e => rfl
            | ok rest => exact ih false d rest
        | some r =>
          cases r with
          | error e => rfl
          | ok p => exact ih false p.1 p.2

theorem Mapped.readInOrder (h : Mapped fs gs f m) (name : String) (total i : Nat) (cs : List Char) :
    gs.readInOrder name total i cs = (fs.readInOrder name total i cs).map (Prod.map f id) := by
  induction h generalizing i cs with
  | nil =>
    rw [Prod.map_id, Except.map_id]
    rfl
  | @cons _ _ _ _ key c c' absent fs gs f g m hread _ ih =>
    simp only [Fields.readInOrder, bind, Except.bind]
    cases nextElement (i == 0) cs with
    | error e => rfl
    | ok p =>
      obtain ⟨more, ds⟩ := p
      cases more with
      | false => rfl
      | true =>
        simp only [if_true, hread ds]
        cases c.read ds with
        | error e => rfl
        | ok p =>
          simp only [Except.map, Prod.map, id, ih]
          cases fs.readInOrder name total (i + 1) p.2 <;> rfl

end Fields

/-- A record is made of mapped values if the same record is made of them and mapped. -/
theorem record_maps {name : String} {fs : Fields α} {gs : Fields β} {f : α → β}
    (h : ∃ m, Fields.Mapped fs gs f m) {make : α → γ} {make' : β → δ}
    {parts : γ → α} {parts' : δ → β} {g : γ → δ} (hmake : ∀ a, make' (f a) = g (make a)) :
    (record name fs make parts).Maps g (record name gs make' parts') := by
  obtain ⟨m, h⟩ := h
  have hmap (r : Except Error (α × List Char)) :
      (r.map (Prod.map f id)).map (Prod.map make' id) =
        (r.map (Prod.map make id)).map (Prod.map g id) := by
    cases r with
    | error e => rfl
    | ok p => simp only [Except.map, Prod.map, id, hmake]
  intro cs
  simp only [record]
  split
  · rw [h.readInOrder, h.size]
    exact hmap _
  · rw [← h.blank, h.readMembers]
    exact hmap _
  · rfl

end Lookback.Json
