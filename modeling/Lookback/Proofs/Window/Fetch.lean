import Lookback.Window.Fetch

/-! Two reads that run side by side are ended by the first round that decides, and end well exactly
if both do. -/
namespace Lookback.Window.Fetch

variable {α β : Type} {u : Fetch α} {t : Fetch β} {k m : Nat} {a : α} {b : β} {e : Error}
  {x y : Except Error (α × β)}

theorem poll_of_le {f : Fetch α} (h : f.suspensions ≤ k) : f.poll k = some f.outcome := if_pos h

theorem poll_of_lt {f : Fetch α} (h : k < f.suspensions) : f.poll k = none :=
  if_neg (Nat.not_le.mpr h)

theorem outcome_of_poll {f : Fetch α} {r : Except Error α} (h : f.poll k = some r) :
    f.outcome = r := by
  unfold poll at h
  split at h
  · exact Option.some.inj h
  · cases h

theorem round_eq_ok_iff :
    round u t k = some (.ok (a, b)) ↔ u.poll k = some (.ok a) ∧ t.poll k = some (.ok b) := by
  rw [round]
  rcases u.poll k with _ | _ | _ <;> rcases t.poll k with _ | _ | _ <;> simp

/-- An error comes from a read that has ended. -/
theorem poll_of_round_error (h : round u t k = some (.error e)) :
    u.poll k = some (.error e) ∨ t.poll k = some (.error e) := by
  rw [round] at h
  split at h <;> simp_all
  split at h <;> simp_all

/-- Round `k` is the first to decide. -/
def Decides (u : Fetch α) (t : Fetch β) (k : Nat) (x : Except Error (α × β)) : Prop :=
  round u t k = some x ∧ ∀ j < k, round u t j = none

theorem Decides.unique (h : Decides u t k x) (h' : Decides u t m y) : k = m ∧ x = y := by
  obtain rfl : k = m := by
    rcases Nat.lt_trichotomy k m with hlt | heq | hlt
    · cases h.1.symm.trans (h'.2 k hlt)
    · exact heq
    · cases h'.1.symm.trans (h.2 m hlt)
  exact ⟨rfl, Option.some.inj (h.1.symm.trans h'.1)⟩

theorem exists_decides_joinFrom (h : ∀ j < k, round u t j = none) :
    ∃ m, Decides u t m (joinFrom u t k) := by
  induction k using joinFrom.induct u t with
  | case1 k r hr =>
    refine ⟨k, ?_, h⟩
    rw [joinFrom]
    split
    · assumption
    · rename_i hn
      cases hr.symm.trans hn
  | case2 k hr ih =>
    have hj : joinFrom u t k = joinFrom u t (k + 1) := by
      rw [joinFrom]
      split
      · rename_i hr'
        cases hr.symm.trans hr'
      · rfl
    rw [hj]
    apply ih
    -- round `k` joins those that have not decided
    intro j hlt
    rcases Nat.lt_succ_iff_lt_or_eq.mp hlt with hlt | rfl
    · exact h j hlt
    · exact hr

theorem exists_decides_join (u : Fetch α) (t : Fetch β) : ∃ k, Decides u t k (join u t) :=
  exists_decides_joinFrom fun _ h => absurd h (Nat.not_lt_zero _)

theorem join_eq_ok_iff : join u t = .ok (a, b) ↔ u.outcome = .ok a ∧ t.outcome = .ok b := by
  obtain ⟨k, hk, -⟩ := exists_decides_join u t
  constructor
  · intro h
    rw [h, round_eq_ok_iff] at hk
    exact ⟨outcome_of_poll hk.1, outcome_of_poll hk.2⟩
  · rintro ⟨hu, ht⟩
    cases hj : join u t with
    | error e =>
      rw [hj] at hk
      rcases poll_of_round_error hk with hp | hp
      · cases hu.symm.trans (outcome_of_poll hp)
      · cases ht.symm.trans (outcome_of_poll hp)
    | ok found =>
      obtain ⟨a', b'⟩ := found
      rw [hj, round_eq_ok_iff] at hk
      cases hu.symm.trans (outcome_of_poll hk.1)
      cases ht.symm.trans (outcome_of_poll hk.2)
      rfl

end Lookback.Window.Fetch
