import Lookback.Proofs.Json.RoundTrip

/-! An array is read one element after the other, up to its end or to the first thing that is wrong
with it. -/
namespace Lookback.Json

variable {α : Type} {c : Codec α} {a : α} {as : List α} {cs ds tail rest : List Char} {first : Bool}
  {n : Nat} {r : Except Error (List Char)} {s : String} {e : Error}

theorem nextElement_first (h : c.OpensElement a) :
    nextElement true (c.write a ++ cs) = .ok (true, c.write a ++ cs) := by
  obtain ⟨ch, ⟨ds, hds⟩, hs, hc⟩ := h
  rw [hds, List.cons_append, nextElement, skipSpace_cons hs]
  split
  · rename_i heq
    cases heq
  · rename_i heq
    cases heq
    exact absurd rfl hc
  · rename_i heq
    cases heq
    rfl

theorem nextElement_comma (h : c.OpensElement a) (cs : List Char) :
    nextElement false (',' :: (c.write a ++ cs)) = .ok (true, c.write a ++ cs) := by
  obtain ⟨ch, ⟨ds, hds⟩, hs, hc⟩ := h
  rw [hds, List.cons_append, nextElement, skipSpace_cons (by decide)]
  split
  · rename_i heq
    cases heq
  · rename_i heq
    cases heq
  · rename_i heq
    cases heq
    rw [if_neg (by decide), if_pos rfl, skipSpace_cons hs]
    split
    · rename_i heq
      cases heq
    · rename_i heq
      cases heq
      exact absurd rfl hc
    · rfl

namespace Codec

/-- The elements that stand in front, as the first ones or after others, and what follows them. -/
inductive Lists (c : Codec α) : Bool → List Char → List α → List Char → Prop
  | nil {first : Bool} {cs : List Char} : c.Lists first cs [] cs
  | cons {first : Bool} {cs ds rest tail : List Char} {a : α} {as : List α}
      (next : nextElement first cs = .ok (true, ds)) (read : c.read ds = .ok (a, rest))
      (others : c.Lists false rest as tail) : c.Lists first cs (a :: as) tail

/-- Where no element stands in front: what is wrong there, or what follows the closing bracket. -/
inductive Stops (c : Codec α) (first : Bool) (tail : List Char) :
    Except Error (List Char) → Prop
  | next {e : Error} (next : nextElement first tail = .error e) : c.Stops first tail (.error e)
  | element {ds : List Char} {e : Error} (next : nextElement first tail = .ok (true, ds))
      (read : c.read ds = .error e) : c.Stops first tail (.error e)
  | close {rest : List Char} (next : nextElement first tail = .ok (false, rest)) :
      c.Stops first tail (.ok rest)

end Codec

theorem readElements_of_lists (h : c.Lists first cs as tail) :
    readElements c (as.length + n) first cs =
      (readElements c n (first && as.isEmpty) tail).map (Prod.map (as ++ ·) id) := by
  induction h with
  | @nil first cs =>
    rw [List.length_nil, Nat.zero_add, List.isEmpty_nil, Bool.and_true]
    cases readElements c n first cs <;> rfl
  | @cons first cs ds rest tail a as next read _ ih =>
    rw [List.length_cons, Nat.add_right_comm, readElements]
    simp only [next, read, ih, bind, Except.bind, if_true, List.isEmpty_cons, Bool.and_false,
      Bool.false_and]
    cases readElements c n false tail <;> rfl

theorem readElements_of_stops (h : c.Stops first tail r) :
    readElements c (n + 1) first tail = r.map ([], ·) := by
  cases h with
  | next next => simp only [readElements, next, bind, Except.bind]; rfl
  | element next read =>
    simp only [readElements, next, read, bind, Except.bind, if_true]
    rfl
  | close next => simp only [readElements, next, bind, Except.bind]; rfl

/-- With more steps than there are elements, reading comes to where it stops. -/
theorem readElements_eq (hl : c.Lists first cs as tail)
    (hs : c.Stops (first && as.isEmpty) tail r) (hn : as.length < n) :
    readElements c n first cs = r.map (as, ·) := by
  obtain ⟨m, rfl⟩ := Nat.exists_eq_add_of_lt hn
  rw [Nat.add_assoc, readElements_of_lists hl, readElements_of_stops hs]
  cases r with
  | error e => rfl
  | ok rest => simp [Except.map]

theorem length_of_lists (hc : c.Consumes) (h : c.Lists first cs as tail) :
    as.length + tail.length ≤ cs.length := by
  induction h with
  | nil => simp
  | cons next read _ ih =>
    have hnext := nextElement_length next
    have hread := hc read
    rw [List.length_cons]
    omega

/-- Whatever the text, there are some elements in front and then reading stops. -/
theorem exists_lists (hc : c.Consumes) (first : Bool) (cs : List Char) :
    ∃ as tail r, c.Lists first cs as tail ∧ c.Stops (first && as.isEmpty) tail r := by
  -- an element leaves less of the text than there was before it
  induction hn : cs.length using Nat.strongRecOn generalizing first cs with
  | ind n ih =>
    have hstop {r : Except Error (List Char)} (h : c.Stops first cs r) :
        ∃ as tail r, c.Lists first cs as tail ∧ c.Stops (first && as.isEmpty) tail r := by
      refine ⟨[], cs, r, .nil, ?_⟩
      rwa [List.isEmpty_nil, Bool.and_true]
    cases hnext : nextElement first cs with
    | error e => exact hstop (.next hnext)
    | ok p =>
      obtain ⟨more, ds⟩ := p
      cases more with
      | false => exact hstop (.close hnext)
      | true =>
        cases hread : c.read ds with
        | error e => exact hstop (.element hnext hread)
        | ok q =>
          obtain ⟨a, rest⟩ := q
          have hds := nextElement_length hnext
          have hrest := hc hread
          obtain ⟨as, tail, r, hl, hs⟩ := ih rest.length (by omega) false rest rfl
          refine ⟨a :: as, tail, r, .cons hnext hread hl, ?_⟩
          simpa using hs

theorem array_read_eq (hc : c.Consumes) (hcs : skipSpace cs = '[' :: ds)
    (hl : c.Lists true ds as tail) (hs : c.Stops as.isEmpty tail r) :
    (array c).read cs = r.map (as, ·) := by
  have hlen := length_of_lists hc hl
  simp only [array, hcs]
  exact readElements_eq hl hs (by omega)

theorem array_read_of_ne (h : ∀ ds, skipSpace cs ≠ '[' :: ds) :
    (array c).read cs = .error (refusal "a sequence" (skipSpace cs)) := by
  simp only [array]

/-- What is wrong behind the elements that stand in front. -/
inductive Codec.Fault (c : Codec α) (first : Bool) (tail : List Char) : Error → Prop
  | stop {e : Error} (stop : c.Stops first tail (.error e)) : c.Fault first tail e
  | trailing {rest : List Char} (stop : c.Stops first tail (.ok rest))
      (more : skipSpace rest ≠ []) : c.Fault first tail .trailingCharacters

/-- What is wrong with a text that is no array: it does not open as one, or there is a fault behind
its first elements. -/
inductive Codec.NoArray (c : Codec α) (cs : List Char) : Error → Prop
  | opening (opening : ∀ ds, skipSpace cs ≠ '[' :: ds) :
      c.NoArray cs (refusal "a sequence" (skipSpace cs))
  | fault {ds tail : List Char} {as : List α} {e : Error} (opening : skipSpace cs = '[' :: ds)
      (elements : c.Lists true ds as tail) (fault : c.Fault as.isEmpty tail e) : c.NoArray cs e

theorem array_decode_of_noArray (hc : c.Consumes) (h : c.NoArray s.toList e) :
    (array c).decode s = .error e := by
  rw [Codec.decode]
  cases h with
  | opening opening =>
    rw [array_read_of_ne opening]
    rfl
  | fault opening elements fault =>
    cases fault with
    | stop stop =>
      rw [array_read_eq hc opening elements stop]
      rfl
    | trailing stop more =>
      rw [array_read_eq hc opening elements stop]
      simp only [Except.map, bind, Except.bind, if_neg more]
      rfl

/-- A text that is no array is refused for the first thing that is wrong with it. -/
theorem array_decode_eq_error_iff (hc : c.Consumes) :
    (array c).decode s = .error e ↔ c.NoArray s.toList e := by
  refine ⟨?_, array_decode_of_noArray hc⟩
  intro h
  by_cases hopen : ∃ ds, skipSpace s.toList = '[' :: ds
  · obtain ⟨ds, hds⟩ := hopen
    obtain ⟨as, tail, r, hl, hs⟩ := exists_lists hc true ds
    rw [Bool.true_and] at hs
    rw [Codec.decode, array_read_eq hc hds hl hs] at h
    cases r with
    | error e' =>
      cases h
      exact .fault hds hl (.stop hs)
    | ok rest =>
      simp only [Except.map, bind, Except.bind] at h
      split at h
      · cases h
      · rename_i hmore
        cases h
        exact .fault hds hl (.trailing hs hmore)
  · have hne : ∀ ds, skipSpace s.toList ≠ '[' :: ds := by
      intro ds hds
      exact hopen ⟨ds, hds⟩
    rw [Codec.decode, array_read_of_ne hne] at h
    cases h
    exact .opening hne

/-- An element is read back in front of the texts of others and of what follows them. -/
def Codec.ReadsBefore (c : Codec α) (a : α) (tail : List Char) : Prop :=
  ∀ ts : List (List Char), c.read (c.write a ++ (ts.flatMap (',' :: ·) ++ tail)) =
    .ok (a, ts.flatMap (',' :: ·) ++ tail)

theorem lists_after (hr : ∀ a ∈ as, c.ReadsBefore a tail) (ho : ∀ a ∈ as, c.OpensElement a) :
    c.Lists false ((as.map c.write).flatMap (',' :: ·) ++ tail) as tail := by
  induction as with
  | nil => exact .nil
  | cons a as ih =>
    obtain ⟨hra, hras⟩ := List.forall_mem_cons.mp hr
    obtain ⟨hoa, hoas⟩ := List.forall_mem_cons.mp ho
    have hnext := nextElement_comma hoa ((as.map c.write).flatMap (',' :: ·) ++ tail)
    rw [List.map_cons, List.flatMap_cons, List.cons_append, List.cons_append, List.append_assoc]
    exact .cons hnext (hra _) (ih hras hoas)

theorem lists_written (hr : ∀ a ∈ as, c.ReadsBefore a tail) (ho : ∀ a ∈ as, c.OpensElement a) :
    c.Lists true (commaSeparated (as.map c.write) ++ tail) as tail := by
  cases as with
  | nil => exact .nil
  | cons a as =>
    obtain ⟨hra, hras⟩ := List.forall_mem_cons.mp hr
    obtain ⟨hoa, hoas⟩ := List.forall_mem_cons.mp ho
    rw [List.map_cons, commaSeparated_cons, List.append_assoc]
    exact .cons (nextElement_first hoa) (hra _) (lists_after hras hoas)

theorem length_le_commaSeparated (ts : List (List Char)) :
    ts.length ≤ (commaSeparated ts).length + 1 := by
  cases ts with
  | nil => exact Nat.zero_le _
  | cons t ts =>
    have h := length_le_flatMap ts
    rw [commaSeparated_cons, List.length_append, List.length_cons]
    omega

theorem array_roundTrips (hr : ∀ a ∈ as, c.RoundTrips a) (ho : ∀ a ∈ as, c.OpensElement a) :
    (array c).RoundTrips as := by
  intro rest _
  have hbefore : ∀ a ∈ as, c.ReadsBefore a (']' :: rest) := by
    intro a ha ts
    apply hr a ha
    cases ts <;> simp [EndsValue]
  have hl : c.Lists true (commaSeparated (as.map c.write) ++ ']' :: rest) as (']' :: rest) :=
    lists_written hbefore ho
  have hs : c.Stops (true && as.isEmpty) (']' :: rest) (.ok rest) := .close rfl
  have hwrite : (array c).write as ++ rest =
      '[' :: (commaSeparated (as.map c.write) ++ ']' :: rest) := by
    simp [array]
  have hlen := length_le_commaSeparated (as.map c.write)
  rw [List.length_map] at hlen
  rw [hwrite, array]
  simp only [skipSpace_cons (show isSpace '[' = false by decide)]
  rw [readElements_eq hl hs]
  · rfl
  · rw [List.length_append, List.length_cons]
    omega

end Lookback.Json
