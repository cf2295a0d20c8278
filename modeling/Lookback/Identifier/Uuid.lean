import Lookback.Text.Hex

/-!
Universally unique identifiers of 128 bits and their hyphenated text.
-/
namespace Lookback

structure Uuid where
  bits : BitVec 128
deriving DecidableEq

namespace Uuid

instance : Ord Uuid := ⟨compareOn bits⟩

instance : Std.TransOrd Uuid := inferInstanceAs (Std.TransCmp (compareOn bits))

/-- Five groups of 8, 4, 4, 4 and 12 digits with hyphens between them. -/
def hyphenated (ds : List Char) : List Char :=
  ds.take 8 ++ '-' :: (ds.drop 8).take 4 ++ '-' :: (ds.drop 12).take 4 ++
    '-' :: (ds.drop 16).take 4 ++ '-' :: ds.drop 20

def text (u : Uuid) : List Char := hyphenated (Text.hexDigits 32 u.bits.toNat)

def ofHex (ds : List Char) : Uuid := ⟨BitVec.ofNat 128 (Text.ofHex ds)⟩

theorem ofHex_hexDigits (u : Uuid) : ofHex (Text.hexDigits 32 u.bits.toNat) = u := by
  have hu : u.bits.toNat < Nat.pow 16 32 := Nat.lt_of_lt_of_eq u.bits.isLt (by decide)
  rw [ofHex, Text.ofHex_hexDigits, Nat.mod_eq_of_lt hu, BitVec.ofNat_toNat, BitVec.setWidth_eq]

/-- Version 4 in the four bits and variant 1 in the two bits that hold them. -/
def IsVersion4 (u : Uuid) : Prop :=
  u.bits.extractLsb' 76 4 = 4 ∧ u.bits.extractLsb' 62 2 = 2

instance (u : Uuid) : Decidable u.IsVersion4 := inferInstanceAs (Decidable (_ ∧ _))

/-- The identifier of version 4 with the given random bits. -/
def ofRandom (r : BitVec 122) : Uuid :=
  ⟨r.extractLsb' 74 48 ++ (4 : BitVec 4) ++ r.extractLsb' 62 12 ++ (2 : BitVec 2) ++
    r.extractLsb' 0 62⟩

end Uuid

end Lookback
