/-!
Hexadecimal digits.
-/
namespace Lookback.Text

/-- The value of a hexadecimal digit of either case. -/
def hexValue? (c : Char) : Option Nat :=
  if '0' ≤ c ∧ c ≤ '9' then some (c.toNat - 48)
  else if 'a' ≤ c ∧ c ≤ 'f' then some (c.toNat - 87)
  else if 'A' ≤ c ∧ c ≤ 'F' then some (c.toNat - 55)
  else none

/-- The number that hexadecimal digits stand for. -/
def ofHex (cs : List Char) : Nat := cs.foldl (fun n c => 16 * n + (hexValue? c).getD 0) 0

/-- The last `k` hexadecimal digits of `n`, in small letters. -/
def hexDigits : Nat → Nat → List Char
  | 0, _ => []
  | k + 1, n => hexDigits k (n / 16) ++ [Nat.digitChar (n % 16)]

theorem length_hexDigits (k n : Nat) : (hexDigits k n).length = k := by
  induction k generalizing n with
  | zero => rfl
  | succ k ih => simp [hexDigits, ih]

theorem hexValue?_digitChar : ∀ d < 16, hexValue? (Nat.digitChar d) = some d := by decide

theorem isSome_hexValue?_of_mem_hexDigits {k n : Nat} {c : Char} (h : c ∈ hexDigits k n) :
    (hexValue? c).isSome := by
  induction k generalizing n with
  | zero => cases h
  | succ k ih =>
    rcases List.mem_append.mp h with h | h
    · exact ih h
    · rw [List.mem_singleton.mp h, hexValue?_digitChar _ (Nat.mod_lt _ (by decide))]
      rfl

theorem ofHex_hexDigits (k n : Nat) : ofHex (hexDigits k n) = n % Nat.pow 16 k := by
  induction k generalizing n with
  | zero => simp [hexDigits, ofHex, Nat.mod_one]
  | succ k ih =>
    have hd := hexValue?_digitChar (n % 16) (Nat.mod_lt _ (by decide))
    have hk := ih (n / 16)
    simp only [ofHex] at hk
    simp only [hexDigits, ofHex, List.foldl_append, List.foldl_cons, List.foldl_nil, hk, hd,
      Option.getD_some]
    have hp : Nat.pow 16 (k + 1) = 16 * Nat.pow 16 k := Nat.mul_comm _ _
    rw [hp, Nat.mod_mul, Nat.add_comm]

end Lookback.Text
