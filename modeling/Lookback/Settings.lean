import Lookback.Text.Blank
import Lookback.Text.Decimal

/-!
How many periods to look back: a base bound, and overrides for single tenants. A negative bound
switches the look-back off.
-/
namespace Lookback

/-- A base bound, and the overrides in the order of their tenants. -/
structure Settings where
  base : Int
  overrides : List (UInt64 × Int)
  sorted : overrides.Pairwise fun a b => a.1 < b.1
deriving DecidableEq

namespace Settings

inductive Error
  | notAnInteger (raw : String)
  | file (path : String) (reason : String)
deriving DecidableEq

/-- The name under which the base bound is looked up. -/
def key : String := "INVOICE_MAX_RAW_USAGE_PREVIOUS_PERIOD"

def Error.message : Error → String
  | .notAnInteger raw => s!"Configuration error: {key} must be an integer, got '{raw}'"
  | .file path reason => s!"Configuration error: {path}: {reason}"

/-- The same bound for all tenants. -/
def ofBase (base : Int) : Settings := ⟨base, [], List.Pairwise.nil⟩

def default : Settings := ofBase 2

def insertInto (tenant : UInt64) (bound : Int) : List (UInt64 × Int) → List (UInt64 × Int)
  | [] => [(tenant, bound)]
  | (t, b) :: rest =>
    if tenant < t then (tenant, bound) :: (t, b) :: rest
    else if tenant = t then (tenant, bound) :: rest
    else (t, b) :: insertInto tenant bound rest

theorem mem_insertInto {tenant : UInt64} {bound : Int} {os : List (UInt64 × Int)}
    {o : UInt64 × Int} (h : o ∈ insertInto tenant bound os) : o.1 = tenant ∨ o ∈ os := by
  induction os with
  | nil => simp_all [insertInto]
  | cons p os ih =>
    simp only [insertInto] at h
    split at h
    · rcases List.mem_cons.mp h with rfl | h
      · exact Or.inl rfl
      · exact Or.inr h
    · split at h
      · rcases List.mem_cons.mp h with rfl | h
        · exact Or.inl rfl
        · exact Or.inr (List.mem_cons_of_mem _ h)
      · rcases List.mem_cons.mp h with rfl | h
        · exact Or.inr (List.mem_cons_self ..)
        · exact (ih h).imp_right (List.mem_cons_of_mem _)

theorem pairwise_insertInto {tenant : UInt64} {bound : Int} {os : List (UInt64 × Int)}
    (h : os.Pairwise fun a b => a.1 < b.1) :
    (insertInto tenant bound os).Pairwise fun a b => a.1 < b.1 := by
  induction os with
  | nil => simp [insertInto]
  | cons p os ih =>
    have hp := List.pairwise_cons.mp h
    simp only [insertInto]
    split
    · rename_i ht
      refine List.pairwise_cons.mpr ⟨fun o ho => ?_, h⟩
      rcases List.mem_cons.mp ho with rfl | ho
      · exact ht
      · exact UInt64.lt_trans ht (hp.1 o ho)
    · split
      · rename_i ht
        subst ht
        exact List.pairwise_cons.mpr hp
      · rename_i hlt hne
        refine List.pairwise_cons.mpr ⟨fun o ho => ?_, ih hp.2⟩
        rcases mem_insertInto ho with ht | ho
        · rw [ht]
          exact UInt64.lt_of_le_of_ne (UInt64.not_lt.mp hlt) (Ne.symm hne)
        · exact hp.1 o ho

/-- Sets the bound of one tenant. -/
def withOverride (s : Settings) (tenant : UInt64) (bound : Int) : Settings :=
  ⟨s.base, insertInto tenant bound s.overrides, pairwise_insertInto s.sorted⟩

/-- The bound of a tenant: its override, or the base bound. -/
def bound (s : Settings) (tenant : UInt64) : Int :=
  (s.overrides.lookup tenant).getD s.base

/-- Reads a bound of 32 bits, in white space. -/
def readBound? (raw : String) : Option Int :=
  (Text.readInt? (Text.trim raw.toList)).filter fun n =>
    -2147483648 ≤ n && n ≤ 2147483647

/-- The settings under which `key` is looked up, or the default ones. -/
def ofLookup (lookup : String → Option String) : Except Error Settings :=
  match lookup key with
  | none => .ok default
  | some raw =>
    match readBound? raw with
    | some n => .ok (ofBase n)
    | none => .error (.notAnInteger raw)

end Settings

end Lookback
