/-!
Integers written with decimal digits.
-/
namespace Lookback.Text

/-- The digits of `n`, with zeros in front up to a width. -/
def padded (width n : Nat) : List Char :=
  let ds := Nat.toDigits 10 n
  List.replicate (width - ds.length) '0' ++ ds

/-- The number that decimal digits stand for. -/
def ofDigits (cs : List Char) : Nat := Nat.ofDigitChars 10 cs 0

/-- Reads an optional sign and at least one digit. -/
def readInt? (cs : List Char) : Option Int :=
  let natural (ds : List Char) : Option Nat :=
    if ds ≠ [] ∧ ds.all Char.isDigit then some (ofDigits ds) else none
  match cs with
  | '-' :: ds => (natural ds).map fun n => -(n : Int)
  | '+' :: ds => (natural ds).map Int.ofNat
  | ds => (natural ds).map Int.ofNat

def intText (n : Int) : List Char :=
  match n with
  | .ofNat m => Nat.toDigits 10 m
  | .negSucc m => '-' :: Nat.toDigits 10 (m + 1)

theorem ofDigits_padded (width n : Nat) : ofDigits (padded width n) = n := by
  simp [ofDigits, padded, Nat.ofDigitChars_append, Nat.ofDigitChars_toDigits]

theorem isDigit_of_mem_padded {width n : Nat} {c : Char} (h : c ∈ padded width n) :
    c.isDigit := by
  simp only [padded, List.mem_append, List.mem_replicate] at h
  rcases h with ⟨_, rfl⟩ | h
  · rfl
  · exact Nat.isDigit_of_mem_toDigits (by decide) (by decide) h

end Lookback.Text
