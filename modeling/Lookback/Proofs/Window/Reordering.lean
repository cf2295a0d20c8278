import Lookback.Proofs.Window.Deletion

/-! Records for different accounts commute: two sequences of operations that differ only in their
order have the same outputs, and no read tells the sessions after them apart. -/
namespace Lookback.Window

variable {s s' t : Session} {o p : Operation} {os ps : List Operation} {a b c : UInt64}

/-- The account for which an operation records something. -/
def Operation.account? : Operation → Option UInt64
  | .recordUsage a _ | .recordTracking a _ => some a
  | _ => none

/-- Sequences of operations that differ only in the order of records for different accounts. -/
inductive Reordered : List Operation → List Operation → Prop
  | refl (os : List Operation) : Reordered os os
  | cons (o : Operation) {os ps : List Operation} : Reordered os ps → Reordered (o :: os) (o :: ps)
  | swap {o p : Operation} {a b : UInt64} (os : List Operation) (ho : o.account? = some a)
      (hp : p.account? = some b) (hab : a ≠ b) : Reordered (o :: p :: os) (p :: o :: os)
  | trans {os ps qs : List Operation} : Reordered os ps → Reordered ps qs → Reordered os qs

theorem usageFor?_eq_none (ho : o.account? ≠ some c) : o.usageFor? c = none := by
  cases o with
  | recordUsage a u =>
    refine if_neg ?_
    rintro rfl
    exact ho rfl
  | _ => rfl

theorem trackingFor?_eq_none (ho : o.account? ≠ some c) : o.trackingFor? c = none := by
  cases o with
  | recordTracking a row =>
    refine if_neg ?_
    rintro rfl
    exact ho rfl
  | _ => rfl

theorem account?_ne_or (ho : o.account? = some a) (hp : p.account? = some b) (hab : a ≠ b)
    (c : UInt64) : o.account? ≠ some c ∨ p.account? ≠ some c := by
  rw [ho, hp]
  by_cases hac : a = c
  · subst hac
    exact Or.inr fun h => hab (Option.some.inj h).symm
  · exact Or.inl fun h => hac (Option.some.inj h)

namespace Session

/-- What a session holds besides its stores. -/
def frame (s : Session) : Settings × Option Fault × Option Fault × UInt64 :=
  (s.settings, s.usageFault, s.trackingFault, s.reported)

/-- Sessions that hold the same records of each account and are otherwise the same. -/
structure Alike (s s' : Session) : Prop where
  usage (c : UInt64) : s.usage.ofAccount c = s'.usage.ofAccount c
  tracking (c : UInt64) : s.tracking.ofAccount c = s'.tracking.ofAccount c
  frame : s.frame = s'.frame

theorem Alike.refl (s : Session) : s.Alike s :=
  ⟨fun _ => rfl, fun _ => rfl, rfl⟩

theorem Alike.trans (h : s.Alike s') (h' : s'.Alike t) : s.Alike t where
  usage c := (h.usage c).trans (h'.usage c)
  tracking c := (h.tracking c).trans (h'.tracking c)
  frame := h.frame.trans h'.frame

theorem Alike.frame_eq (h : s.Alike s') : s.settings = s'.settings ∧
    s.usageFault = s'.usageFault ∧ s.trackingFault = s'.trackingFault ∧
    s.reported = s'.reported := by
  simpa only [Session.frame, Prod.mk.injEq] using h.frame

theorem Alike.usageBetween_eq (h : s.Alike s') : s.usageBetween = s'.usageBetween := by
  funext start stop caller
  rw [usageBetween, usageBetween, Store.read, Store.read, h.usage]

theorem Alike.trackingBetween_eq (h : s.Alike s') : s.trackingBetween = s'.trackingBetween := by
  funext start stop caller
  rw [trackingBetween, trackingBetween, Store.read, Store.read, h.tracking]

theorem Alike.sources_eq (h : s.Alike s') : s.sources = s'.sources := by
  obtain ⟨-, hu, ht, -⟩ := h.frame_eq
  rw [sources, sources, h.usageBetween_eq, h.trackingBetween_eq, hu, ht]

/-- No operation tells sessions apart that are alike. -/
theorem Alike.step (h : s.Alike s') (o : Operation) :
    (s.step o).2 = (s'.step o).2 ∧ (s.step o).1.Alike (s'.step o).1 := by
  obtain ⟨hsettings, hfu, hft, hreported⟩ := h.frame_eq
  have hu : ∀ c, (s.step o).1.usage.ofAccount c = (s'.step o).1.usage.ofAccount c := by
    intro c
    rw [usage_step, usage_step, h.usage]
  have ht : ∀ c, (s.step o).1.tracking.ofAccount c = (s'.step o).1.tracking.ofAccount c := by
    intro c
    rw [tracking_step, tracking_step, h.tracking]
  cases o with
  | recordUsage a u => exact ⟨rfl, hu, ht, h.frame⟩
  | recordTracking a row => exact ⟨rfl, hu, ht, h.frame⟩
  | failUsage f =>
    refine ⟨rfl, hu, ht, ?_⟩
    simp only [Session.step, Session.frame, hsettings, hft, hreported]
  | failTracking f =>
    refine ⟨rfl, hu, ht, ?_⟩
    simp only [Session.step, Session.frame, hsettings, hfu, hreported]
  | readUsage start stop caller =>
    exact ⟨congrArg Output.usage (by rw [h.usageBetween_eq]), h⟩
  | readTracking start stop caller =>
    exact ⟨congrArg Output.tracking (by rw [h.trackingBetween_eq]), h⟩
  | window r =>
    have ha : read s.settings s.sources r = read s'.settings s'.sources r := by
      rw [hsettings, h.sources_eq]
    refine ⟨?_, hu, ht, ?_⟩
    · simp only [Session.step, ha, hreported]
    · simp only [Session.step, Session.frame, ha]
      rw [hsettings, hfu, hft, hreported]

theorem Alike.run_after (h : s.Alike s') (os : List Operation) :
    s.run os = s'.run os ∧ (s.after os).Alike (s'.after os) := by
  induction os generalizing s s' with
  | nil => exact ⟨rfl, h⟩
  | cons o os ih =>
    obtain ⟨hout, hnext⟩ := h.step o
    obtain ⟨hrun, hafter⟩ := ih hnext
    rw [run_cons, run_cons, hout, hrun]
    exact ⟨rfl, hafter⟩

theorem output_of_account (ho : o.account? = some a) : (s.step o).2 = .done := by
  cases o with
  | recordUsage x u => rfl
  | recordTracking x row => rfl
  | _ => cases ho

/-- A record leaves all but the stores. -/
theorem frame_of_account (ho : o.account? = some a) : (s.step o).1.frame = s.frame := by
  cases o with
  | recordUsage x u => rfl
  | recordTracking x row => rfl
  | _ => cases ho

theorem alike_of_swapped (ho : o.account? = some a) (hp : p.account? = some b) (hab : a ≠ b) :
    ((s.step o).1.step p).1.Alike ((s.step p).1.step o).1 where
  usage c := by
    simp only [usage_step]
    rcases account?_ne_or ho hp hab c with hc | hc <;> simp [usageFor?_eq_none hc]
  tracking c := by
    simp only [tracking_step]
    rcases account?_ne_or ho hp hab c with hc | hc <;> simp [trackingFor?_eq_none hc]
  frame := by
    rw [frame_of_account hp, frame_of_account ho, frame_of_account ho, frame_of_account hp]

end Session

/-- Outputs and reads are the same whatever the order of records for different accounts. -/
theorem Reordered.run_after (h : Reordered os ps) (s : Session) :
    s.run os = s.run ps ∧ (s.after os).Alike (s.after ps) := by
  induction h generalizing s with
  | refl os => exact ⟨rfl, .refl _⟩
  | cons o _ ih =>
    obtain ⟨hrun, hafter⟩ := ih (s.step o).1
    rw [Session.run_cons, Session.run_cons, hrun]
    exact ⟨rfl, hafter⟩
  | swap os ho hp hab =>
    obtain ⟨hrun, hafter⟩ := (Session.alike_of_swapped (s := s) ho hp hab).run_after os
    simp only [Session.run_cons, Session.output_of_account ho, Session.output_of_account hp, hrun]
    exact ⟨trivial, hafter⟩
  | trans _ _ ih ih' =>
    obtain ⟨hrun, hafter⟩ := ih s
    obtain ⟨hrun', hafter'⟩ := ih' s
    exact ⟨hrun.trans hrun', hafter.trans hafter'⟩

end Lookback.Window
