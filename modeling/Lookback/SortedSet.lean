/-!
Finite sets of ordered values, held as lists in strictly ascending order.
-/
namespace Lookback

/-- A set of values in order, each once. -/
structure SortedSet (α : Type) [Ord α] where
  toList : List α
  sorted : toList.Pairwise fun a b => compare a b = .lt
deriving DecidableEq

namespace SortedSet

variable {α : Type} [Ord α]

def insertInto (a : α) : List α → List α
  | [] => [a]
  | b :: bs =>
    match compare a b with
    | .lt => a :: b :: bs
    | .eq => b :: bs
    | .gt => b :: insertInto a bs

theorem mem_insertInto {a b : α} {bs : List α} (h : b ∈ insertInto a bs) : b = a ∨ b ∈ bs := by
  induction bs with
  | nil => simpa [insertInto] using h
  | cons c cs ih =>
    simp only [insertInto] at h
    split at h
    · simpa using h
    · exact Or.inr h
    · rcases List.mem_cons.mp h with rfl | h
      · exact Or.inr (List.mem_cons_self ..)
      · exact (ih h).imp_right (List.mem_cons_of_mem _)

theorem pairwise_insertInto [Std.TransOrd α] {a : α} {bs : List α}
    (h : bs.Pairwise fun a b => compare a b = .lt) :
    (insertInto a bs).Pairwise fun a b => compare a b = .lt := by
  induction bs with
  | nil => simp [insertInto]
  | cons b bs ih =>
    have hb := List.pairwise_cons.mp h
    simp only [insertInto]
    split
    · rename_i hab
      refine List.pairwise_cons.mpr ⟨fun c hc => ?_, h⟩
      rcases List.mem_cons.mp hc with rfl | hc
      · exact hab
      · exact Std.TransCmp.lt_trans hab (hb.1 c hc)
    · exact h
    · rename_i hab
      refine List.pairwise_cons.mpr ⟨fun c hc => ?_, ih hb.2⟩
      rcases mem_insertInto hc with rfl | hc
      · exact Std.OrientedCmp.lt_of_gt hab
      · exact hb.1 c hc

instance : Membership α (SortedSet α) := ⟨fun s a => a ∈ s.toList⟩

def empty : SortedSet α := ⟨[], List.Pairwise.nil⟩

variable [Std.TransOrd α]

def insert (a : α) (s : SortedSet α) : SortedSet α :=
  ⟨insertInto a s.toList, pairwise_insertInto s.sorted⟩

/-- The set of the values in a list. -/
def ofList (as : List α) : SortedSet α := as.foldr insert empty

end SortedSet

end Lookback
