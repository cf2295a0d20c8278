import Lookback.Proofs.Window.History

/-! Reading a window leaves nothing behind but the count of its anomalies: a session without the
read goes on in the same way and has counted that many fewer. -/
namespace Lookback.Window

variable {s : Session} {o : Operation} {os : List Operation} {k : UInt64}

/-- The output with `k` more anomalies counted. -/
def Output.countMore (k : UInt64) : Output → Output
  | .window a reported => .window a (reported + k)
  | out => out

namespace Session

/-- The session with `k` more anomalies counted. -/
def countMore (k : UInt64) (s : Session) : Session := { s with reported := s.reported + k }

/-- No operation looks at the count. -/
theorem step_countMore :
    (s.countMore k).step o = ((s.step o).1.countMore k, (s.step o).2.countMore k) := by
  cases o with
  | window r =>
    have ht : ∀ n items, tally (n + k) items = tally n items + k := by
      intro n items
      rw [tally, tally, UInt64.add_assoc, UInt64.add_assoc, UInt64.add_comm k]
    simp only [step, countMore, Output.countMore, ht]
    rfl
  | _ => rfl

theorem run_cons : s.run (o :: os) = (s.step o).2 :: (s.step o).1.run os := rfl

theorem after_cons : s.after (o :: os) = (s.step o).1.after os := rfl

theorem run_countMore : (s.countMore k).run os = (s.run os).map (Output.countMore k) := by
  induction os generalizing s with
  | nil => rfl
  | cons o os ih => rw [run_cons, run_cons, step_countMore, ih, List.map_cons]

theorem after_countMore : (s.countMore k).after os = (s.after os).countMore k := by
  induction os generalizing s with
  | nil => rfl
  | cons o os ih => rw [after_cons, after_cons, step_countMore, ih]

theorem after_append (s : Session) (os ps : List Operation) :
    s.after (os ++ ps) = (s.after os).after ps :=
  List.foldl_append

theorem run_append (s : Session) (os ps : List Operation) :
    s.run (os ++ ps) = s.run os ++ (s.after os).run ps := by
  induction os generalizing s with
  | nil => rfl
  | cons o os ih => rw [List.cons_append, run_cons, run_cons, ih, after_cons, List.cons_append]

/-- All that a window leaves is a higher count. -/
theorem step_window (s : Session) (r : Request) :
    let a := read s.settings s.sources r
    let k := a.anomalies.length.toUInt64
    s.step (.window r) = (s.countMore k, .window a (s.reported + k)) := rfl

end Session

/-- A window that is read between other operations changes none of their outputs and nothing in the
session but the count, which is higher by the anomalies of that window from then on. -/
theorem run_without_window (s : Session) (before later : List Operation) (r : Request) :
    let a := read (s.after before).settings (s.after before).sources r
    let k := a.anomalies.length.toUInt64
    ∃ outs, s.run (before ++ later) = s.run before ++ outs ∧
      s.run (before ++ .window r :: later) =
        s.run before ++ .window a ((s.after before).reported + k) :: outs.map (Output.countMore k) ∧
      s.after (before ++ .window r :: later) = (s.after (before ++ later)).countMore k := by
  intro a k
  have hstep : (s.after before).step (.window r) = _ := Session.step_window _ r
  -- what follows the window runs in the same session but for the count
  refine ⟨(s.after before).run later, Session.run_append s before later, ?_, ?_⟩
  · rw [Session.run_append, Session.run_cons, hstep, Session.run_countMore]
  · rw [Session.after_append, Session.after_append, Session.after_cons, hstep,
      Session.after_countMore]

end Lookback.Window
