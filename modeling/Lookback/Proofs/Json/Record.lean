import Lookback.Proofs.Json.RoundTrip

/-! A record reads back as it was written if each of its fields does and no two have one name. -/
namespace Lookback.Json

namespace Fields

variable {α : Type} {fs : Fields α} {a : α} {k n : Nat} {key : String} {body rest cs : List Char}

def keys : {α : Type} → Fields α → List String
  | _, .nil => []
  | _, .cons key _ _ rest => key :: rest.keys

/-- The names of the fields with what is written for their values. -/
def members : {α : Type} → Fields α → α → List (String × List Char)
  | _, .nil, _ => []
  | _, .cons key codec _ rest, (a, others) => (key, codec.write a) :: rest.members others

/-- The value of each field is read back as it was written. -/
def RoundTrips : {α : Type} → Fields α → α → Prop
  | _, .nil, _ => True
  | _, .cons _ codec _ rest, (a, others) => codec.RoundTrips a ∧ rest.RoundTrips others

/-- The first `k` values are there. -/
def filled : {α : Type} → (fs : Fields α) → Nat → α → fs.Draft
  | _, .nil, _, _ => ()
  | _, .cons _ _ _ rest, 0, (_, others) => (none, rest.filled 0 others)
  | _, .cons _ _ _ rest, k + 1, (a, others) => (some a, rest.filled k others)

def memberText (m : String × List Char) : List Char := writeText m.1.toList ++ ':' :: m.2

theorem writeMembers_eq_map (fs : Fields α) (a : α) :
    fs.writeMembers a = (fs.members a).map memberText := by
  induction fs with
  | nil => rfl
  | cons key codec absent rest ih => exact congrArg (_ :: ·) (ih a.2)

theorem map_members (fs : Fields α) (a : α) : (fs.members a).map Prod.fst = fs.keys := by
  induction fs with
  | nil => rfl
  | cons key codec absent rest ih => exact congrArg (key :: ·) (ih a.2)

theorem length_members (fs : Fields α) (a : α) : (fs.members a).length = fs.size := by
  induction fs with
  | nil => rfl
  | cons key codec absent rest ih => exact congrArg (· + 1) (ih a.2)

theorem filled_zero (fs : Fields α) (a : α) : fs.filled 0 a = fs.blank := by
  induction fs with
  | nil => rfl
  | cons key codec absent rest ih => exact congrArg (none, ·) (ih a.2)

theorem complete_filled (hk : fs.size ≤ k) : fs.complete (fs.filled k a) = .ok a := by
  induction fs generalizing k with
  | nil => rfl
  | cons key codec absent rest ih =>
    obtain ⟨a, others⟩ := a
    cases k with
    | zero => cases hk
    | succ k =>
      have h := ih (a := others) (Nat.le_of_succ_le_succ hk)
      simp only [filled, complete, Option.some_or, h]
      rfl

theorem readColon_cons (cs : List Char) : readColon (':' :: cs) = .ok cs := rfl

/-- The next member fills the next field. -/
theorem readField?_filled (hn : fs.keys.Nodup) (hr : fs.RoundTrips a) (hrest : EndsValue rest)
    (hk : (fs.members a)[k]? = some (key, body)) :
    fs.readField? key (fs.filled k a) (':' :: (body ++ rest)) =
      some (.ok (fs.filled (k + 1) a, rest)) := by
  induction fs generalizing k with
  | nil => cases hk
  | cons first codec absent others ih =>
    obtain ⟨a, as⟩ := a
    obtain ⟨hne, hn⟩ := List.nodup_cons.mp hn
    cases k with
    | zero =>
      obtain ⟨rfl, rfl⟩ : first = key ∧ codec.write a = body := by simpa [members] using hk
      have hread := hr.1 rest hrest
      simp only [filled, readField?, if_true, readColon_cons, bind, Except.bind, hread]
      rfl
    | succ k =>
      have hk : (others.members as)[k]? = some (key, body) := hk
      have hmem : key ∈ others.keys := by
        rw [← map_members others as]
        exact List.mem_map_of_mem (f := Prod.fst) (List.mem_of_getElem? hk)
      have hkey : key ≠ first := fun h => hne (h ▸ hmem)
      have h := ih hn hr.2 hk
      simp only [filled, readField?, if_neg hkey, h]
      rfl

/-- A key stands in quotes and follows a comma, or opens the object. -/
theorem nextKey_first (key : String) (cs : List Char) :
    nextKey true (writeText key.toList ++ cs) = .ok (some key, cs) := by
  have hquote (ds : List Char) : nextKey true ('"' :: ds) =
      (readText ds).map fun r => (some (String.ofList r.1), r.2) := rfl
  rw [writeText_append, hquote, readText_flatMap_writeChar]
  simp only [Except.map, String.ofList_toList]

theorem nextKey_comma (key : String) (cs : List Char) :
    nextKey false (',' :: (writeText key.toList ++ cs)) = .ok (some key, cs) := by
  have hquote (ds : List Char) : nextKey false (',' :: '"' :: ds) =
      (readText ds).map fun r => (some (String.ofList r.1), r.2) := rfl
  rw [writeText_append, hquote, readText_flatMap_writeChar]
  simp only [Except.map, String.ofList_toList]

theorem nextKey_close (first : Bool) (cs : List Char) :
    nextKey first ('}' :: cs) = .ok (none, cs) := rfl

/-- The text after a member: those that follow it, and the end of the object. -/
def following (ms : List (String × List Char)) (rest : List Char) : List Char :=
  (ms.map memberText).flatMap (',' :: ·) ++ '}' :: rest

theorem following_cons (key : String) (body : List Char) (ms : List (String × List Char))
    (rest : List Char) :
    following ((key, body) :: ms) rest =
      ',' :: (writeText key.toList ++ ':' :: (body ++ following ms rest)) := by
  simp [following, memberText]

theorem endsValue_following (ms : List (String × List Char)) (rest : List Char) :
    EndsValue (following ms rest) := by
  cases ms <;> simp [following, EndsValue]

/-- Reading a member fills a field and goes on with the next one. -/
theorem readMembers_filled {first : Bool} (hn : fs.keys.Nodup) (hr : fs.RoundTrips a)
    (hrest : EndsValue rest) (hk : (fs.members a)[k]? = some (key, body))
    (hnext : nextKey first cs = .ok (some key, ':' :: (body ++ rest))) :
    fs.readMembers (n + 1) first (fs.filled k a) cs =
      fs.readMembers n false (fs.filled (k + 1) a) rest := by
  have hfield := readField?_filled hn hr hrest hk
  simp only [readMembers, hnext, bind, Except.bind, hfield]

theorem readMembers_close {first : Bool} (hk : fs.size ≤ k) :
    fs.readMembers (n + 1) first (fs.filled k a) ('}' :: rest) = .ok (a, rest) := by
  have h := complete_filled (a := a) hk
  simp only [readMembers, nextKey_close, bind, Except.bind, h]
  rfl

theorem readMembers_following {ms : List (String × List Char)} (hn : fs.keys.Nodup)
    (hr : fs.RoundTrips a) (hms : (fs.members a).drop k = ms) (hlen : ms.length < n) :
    fs.readMembers n false (fs.filled k a) (following ms rest) = .ok (a, rest) := by
  induction ms generalizing k n with
  | nil =>
    obtain ⟨m, rfl⟩ := Nat.exists_eq_succ_of_ne_zero (Nat.ne_of_gt hlen)
    refine readMembers_close ?_
    rw [← length_members fs a]
    exact List.drop_eq_nil_iff.mp hms
  | cons m ms ih =>
    obtain ⟨key, body⟩ := m
    obtain ⟨n, rfl⟩ := Nat.exists_eq_succ_of_ne_zero (Nat.ne_of_gt (Nat.zero_lt_of_lt hlen))
    have hk : (fs.members a)[k]? = some (key, body) := by
      rw [← List.head?_drop, hms, List.head?_cons]
    have hrest : (fs.members a).drop (k + 1) = ms := by
      rw [← List.tail_drop, hms, List.tail_cons]
    rw [following_cons,
      readMembers_filled hn hr (endsValue_following ms rest) hk (nextKey_comma key _)]
    exact ih hrest (Nat.lt_of_succ_lt_succ hlen)

theorem length_le_following (ms : List (String × List Char)) (rest : List Char) :
    ms.length ≤ (following ms rest).length := by
  have h := length_le_flatMap (ms.map memberText)
  rw [List.length_map] at h
  rw [following, List.length_append]
  exact Nat.le_trans h (Nat.le_add_right _ _)

/-- All members of an object with the text that `writeMembers` gives for them. -/
theorem readMembers_writeMembers (hn : fs.keys.Nodup) (hr : fs.RoundTrips a) (rest : List Char)
    (hcs : cs = commaSeparated (fs.writeMembers a) ++ '}' :: rest) :
    fs.readMembers (cs.length + 1) true fs.blank cs = .ok (a, rest) := by
  subst hcs
  rw [← filled_zero fs a, writeMembers_eq_map]
  cases hms : fs.members a with
  | nil =>
    refine readMembers_close ?_
    rw [← length_members fs a, hms]
    exact Nat.le_refl 0
  | cons m ms =>
    obtain ⟨key, body⟩ := m
    have htext : commaSeparated (((key, body) :: ms).map memberText) ++ '}' :: rest =
        writeText key.toList ++ ':' :: (body ++ following ms rest) := by
      simp [commaSeparated_cons, memberText, following]
    have hlen := length_le_following ms rest
    have hk : (fs.members a)[0]? = some (key, body) := by rw [hms]; rfl
    have hdrop : (fs.members a).drop 1 = ms := by rw [hms]; rfl
    rw [htext, readMembers_filled hn hr (endsValue_following ms rest) hk (nextKey_first key _)]
    refine readMembers_following hn hr hdrop ?_
    simp only [List.length_append, List.length_cons]
    omega

end Fields

variable {α β : Type} {name : String} {fs : Fields β} {make : β → α} {parts : α → β} {a : α}

theorem record_opensElement : (record name fs make parts).OpensElement a :=
  ⟨'{', ⟨_, rfl⟩, by decide, by decide⟩

/-- A closing brace ends a record, whatever follows it. -/
theorem record_read_write (hmake : make (parts a) = a) (hn : fs.keys.Nodup)
    (hr : fs.RoundTrips (parts a)) (rest : List Char) :
    (record name fs make parts).read ((record name fs make parts).write a ++ rest) =
      .ok (a, rest) := by
  have hwrite : (record name fs make parts).write a ++ rest =
      '{' :: (commaSeparated (fs.writeMembers (parts a)) ++ '}' :: rest) := by
    simp [record]
  have hread := Fields.readMembers_writeMembers hn hr rest rfl
  rw [hwrite]
  simp only [record, skipSpace_cons (show isSpace '{' = false by decide), hread, Except.map, hmake]

theorem record_roundTrips (hmake : make (parts a) = a) (hn : fs.keys.Nodup)
    (hr : fs.RoundTrips (parts a)) : (record name fs make parts).RoundTrips a :=
  fun rest _ => record_read_write hmake hn hr rest

end Lookback.Json
