import Lookback.Proofs.Window.Fetch

/-! Two reads polled wake by wake, in whatever order, come to one result that their outcomes decide.
Only if both fail does it matter when they fail, and only if they fail together in which order they
were polled. -/
namespace Lookback.Window

variable {α β : Type}

/-- A read on its way, or what it has come to. -/
inductive Branch (α : Type)
  | pending (suspensions : Nat) (outcome : Except Error α)
  | done (a : α)

namespace Branch

variable {b b' : Branch α} {e : Error}

/-- A poll uses up a suspension or brings the outcome. A branch that is done is not polled again. -/
def poll : Branch α → Except Error (Branch α)
  | pending (n + 1) o => .ok (pending n o)
  | pending 0 o => o.map done
  | done a => .ok (done a)

/-- How many polls are left. -/
def ahead : Branch α → Nat
  | pending n _ => n + 1
  | done _ => 0

/-- A branch that is done is a read that has its outcome at once. -/
def rest : Branch α → Fetch α
  | pending n o => ⟨n, o⟩
  | done a => ⟨0, .ok a⟩

theorem ahead_of_poll (h : b.poll = .ok b') : b'.ahead = b.ahead - 1 := by
  rcases b with ⟨_ | n, _ | a⟩ | a <;> cases h <;> rfl

theorem outcome_of_poll (h : b.poll = .ok b') : b'.rest.outcome = b.rest.outcome := by
  rcases b with ⟨_ | n, _ | a⟩ | a <;> cases h <;> rfl

/-- Only a branch that is to fail has suspensions that matter. -/
theorem suspensions_of_poll (h : b.poll = .ok b') (he : b.rest.outcome = .error e) :
    b.rest.suspensions = b'.rest.suspensions + 1 := by
  rcases b with ⟨_ | n, _ | a⟩ | a <;> cases h <;> cases he
  rfl

theorem poll_eq_error_iff : b.poll = .error e ↔
    b.rest.suspensions = 0 ∧ b.rest.outcome = .error e := by
  rcases b with ⟨_ | n, _ | a⟩ | a <;> simp [poll, rest, Except.map]

end Branch

namespace Fetch

variable {u : Fetch α} {t : Fetch β} {a : α} {y : β} {b b' : Branch α} {c c' : Branch β}
  {e : Error} {order : Nat → Bool} {usageFirst : Bool} {k : Nat}

/-- Each branch is polled once, the first or the second of them first. An error ends the wake. -/
def wake (usageFirst : Bool) (b : Branch α) (c : Branch β) : Except Error (Branch α × Branch β) :=
  if usageFirst then do
    let b ← b.poll
    let c ← c.poll
    return (b, c)
  else do
    let c ← c.poll
    let b ← b.poll
    return (b, c)

theorem wake_eq_ok_iff :
    wake usageFirst b c = .ok (b', c') ↔ b.poll = .ok b' ∧ c.poll = .ok c' := by
  rw [wake]
  cases b.poll <;> cases c.poll <;> cases usageFirst <;>
    simp [bind, Except.bind, pure, Except.pure]

/-- The branch polled first fails before the other one is looked at. -/
theorem wake_eq_error (h : wake usageFirst b c = .error e) :
    (b.poll = .error e ∧ (usageFirst ∨ ∃ c', c.poll = .ok c')) ∨
      (c.poll = .error e ∧ (usageFirst = false ∨ ∃ b', b.poll = .ok b')) := by
  rw [wake] at h
  cases hb : b.poll <;> cases hc : c.poll <;> cases usageFirst <;>
    simp_all [bind, Except.bind, pure, Except.pure]

/-- The results of two branches that are done. -/
def results? : Branch α → Branch β → Option (α × β)
  | .done a, .done y => some (a, y)
  | _, _ => none

theorem results?_eq_some_iff : results? b c = some (a, y) ↔ b = .done a ∧ c = .done y := by
  cases b <;> cases c <;> simp [results?]

/-- While a branch is not done, a wake brings the end nearer. -/
theorem ahead_lt_of_wake (h : wake usageFirst b c = .ok (b', c')) (hr : results? b' c' = none) :
    b'.ahead + c'.ahead < b.ahead + c.ahead := by
  obtain ⟨hb, hc⟩ := wake_eq_ok_iff.mp h
  rw [Branch.ahead_of_poll hb, Branch.ahead_of_poll hc]
  cases b with
  | pending n o => simp only [Branch.ahead]; omega
  | done a =>
    cases c with
    | pending m o => simp only [Branch.ahead]; omega
    | done y =>
      cases hb
      cases hc
      cases hr

/-- Wakes from the `k`-th on until both branches are done or one fails. -/
def wakesFrom (order : Nat → Bool) (k : Nat) (b : Branch α) (c : Branch β) :
    Except Error (α × β) :=
  match _ : wake (order k) b c with
  | .error e => .error e
  | .ok (b', c') =>
    match hr : results? b' c' with
    | some found => .ok found
    | none => wakesFrom order (k + 1) b' c'
termination_by b.ahead + c.ahead
decreasing_by exact ahead_lt_of_wake ‹_› hr

/-- Two reads polled in an order that may change from wake to wake. -/
def joinIn (order : Nat → Bool) (u : Fetch α) (t : Fetch β) : Except Error (α × β) :=
  wakesFrom order 0 (.pending u.suspensions u.outcome) (.pending t.suspensions t.outcome)

/-- Both results, or the error of the read that fails. Of two that fail, the one with fewer
suspensions is first, and among equals `usageFirst` decides. -/
def settle (usageFirst : Bool) (u : Fetch α) (t : Fetch β) : Except Error (α × β) :=
  match u.outcome, t.outcome with
  | .ok a, .ok y => .ok (a, y)
  | .error e, .ok _ => .error e
  | .ok _, .error e => .error e
  | .error e, .error e' =>
    if u.suspensions < t.suspensions ∨ (u.suspensions = t.suspensions ∧ usageFirst) then .error e
    else .error e'

theorem settle_of_ok (hu : u.outcome = .ok a) (ht : t.outcome = .ok y) :
    settle usageFirst u t = .ok (a, y) := by
  rw [settle, hu, ht]

theorem settle_of_usage_error (hu : u.outcome = .error e)
    (h : ∀ e', t.outcome = .error e' →
      u.suspensions < t.suspensions ∨ (u.suspensions = t.suspensions ∧ usageFirst)) :
    settle usageFirst u t = .error e := by
  rw [settle, hu]
  cases ht : t.outcome with
  | ok y => rfl
  | error e' => exact if_pos (h e' ht)

theorem settle_of_tracking_error (ht : t.outcome = .error e)
    (h : ∀ e', u.outcome = .error e' →
      t.suspensions < u.suspensions ∨ (u.suspensions = t.suspensions ∧ usageFirst = false)) :
    settle usageFirst u t = .error e := by
  rw [settle, ht]
  cases hu : u.outcome with
  | ok a => rfl
  | error e' =>
    refine if_neg ?_
    rintro (hlt | ⟨heq, hf⟩)
    · rcases h e' hu with hgt | ⟨heq, -⟩ <;> omega
    · rcases h e' hu with hgt | ⟨-, hf'⟩
      · omega
      · cases hf.symm.trans hf'

/-- A wake without an error leaves the result open or as it was. -/
theorem settle_of_poll (hb : b.poll = .ok b') (hc : c.poll = .ok c') :
    settle (order (k + 1 + b'.rest.suspensions)) b'.rest c'.rest =
      settle (order (k + b.rest.suspensions)) b.rest c.rest := by
  rw [settle, settle, Branch.outcome_of_poll hb, Branch.outcome_of_poll hc]
  cases hbo : b.rest.outcome <;> cases hco : c.rest.outcome <;> try rfl
  rw [Branch.suspensions_of_poll hb hbo, Branch.suspensions_of_poll hc hco, Nat.add_right_comm k]
  simp only [Nat.add_lt_add_iff_right, Nat.add_right_cancel_iff, Nat.add_assoc]

theorem settle_of_wake_error (h : wake (order k) b c = .error e) :
    settle (order (k + b.rest.suspensions)) b.rest c.rest = .error e := by
  rcases wake_eq_error h with ⟨hb, hfirst⟩ | ⟨hc, hfirst⟩
  · obtain ⟨hbs, hbo⟩ := Branch.poll_eq_error_iff.mp hb
    refine settle_of_usage_error hbo fun e' hco => ?_
    rcases hfirst with hf | ⟨c', hc⟩
    · rw [hbs, Nat.add_zero]
      exact (Nat.eq_zero_or_pos _).symm.imp_right fun hz => ⟨hz.symm, hf⟩
    · exact Or.inl (by rw [hbs, Branch.suspensions_of_poll hc hco]; omega)
  · obtain ⟨hcs, hco⟩ := Branch.poll_eq_error_iff.mp hc
    refine settle_of_tracking_error hco fun e' hbo => ?_
    rcases hfirst with hf | ⟨b', hb⟩
    · rw [hcs]
      refine (Nat.eq_zero_or_pos _).symm.imp_right fun hz => ⟨hz, ?_⟩
      rwa [hz]
    · exact Or.inl (by rw [hcs, Branch.suspensions_of_poll hb hbo]; omega)

theorem wakesFrom_of_error (h : wake (order k) b c = .error e) :
    wakesFrom order k b c = .error e := by
  rw [wakesFrom]
  split <;> rename_i h' <;> cases h.symm.trans h'
  rfl

theorem wakesFrom_of_wake (h : wake (order k) b c = .ok (b', c')) :
    wakesFrom order k b c = match results? b' c' with
      | some found => .ok found
      | none => wakesFrom order (k + 1) b' c' := by
  rw [wakesFrom]
  split <;> rename_i h' <;> cases h.symm.trans h'
  split <;> rename_i hr <;> rw [hr]

/-- Wakes come to the result that the outcomes and suspensions decide. -/
theorem wakesFrom_eq_settle :
    wakesFrom order k b c = settle (order (k + b.rest.suspensions)) b.rest c.rest := by
  induction k, b, c using wakesFrom.induct order with
  | case1 k b c e h => rw [settle_of_wake_error h, wakesFrom_of_error h]
  | case2 k b c b' c' h found hr =>
    obtain ⟨hb, hc⟩ := wake_eq_ok_iff.mp h
    obtain ⟨rfl, rfl⟩ := results?_eq_some_iff.mp hr
    rw [← settle_of_poll hb hc, settle_of_ok rfl rfl, wakesFrom_of_wake h]
    rfl
  | case3 k b c b' c' h hr ih =>
    obtain ⟨hb, hc⟩ := wake_eq_ok_iff.mp h
    rw [← settle_of_poll hb hc, ← ih, wakesFrom_of_wake h, hr]

theorem joinIn_eq_settle : joinIn order u t = settle (order u.suspensions) u t := by
  rw [joinIn, wakesFrom_eq_settle, Nat.zero_add]
  rfl

end Fetch

end Lookback.Window
