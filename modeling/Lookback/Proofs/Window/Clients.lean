import Lookback.Proofs.Window.Reordering
import Mathlib.Data.List.FinRange
import Mathlib.Logic.Function.Basic

/-! Several clients work on one session, each through its own operations and in any order of turns.
At any moment a read gives what they have recorded so far for its account and on its days: all of it,
nothing else, as often as it was recorded, and what one client recorded in the order of that client. -/
namespace Lookback.Window

section Parts

variable {α β : Type} {n : Nat} {i j : Fin n} {x : α} {xs : List α} {l : List (Fin n × α)}
  {parts c c' : Fin n → List α}

/-- The part of client `i` in what all clients do or leave. -/
def partOf (i : Fin n) (l : List (Fin n × α)) : List α :=
  l.filterMap fun e => if e.1 = i then some e.2 else none

theorem partOf_cons :
    partOf i ((j, x) :: l) = if j = i then x :: partOf i l else partOf i l := by
  by_cases h : j = i <;> simp [partOf, h]

theorem partOf_append (i : Fin n) (l m : List (Fin n × α)) :
    partOf i (l ++ m) = partOf i l ++ partOf i m :=
  List.filterMap_append

/-- Turns of clients: in each turn one of them takes the first item of what is ahead of it. They lead
from what was ahead of each client to what still is. -/
inductive Turns : (Fin n → List α) → List (Fin n × α) → (Fin n → List α) → Prop
  | refl (c : Fin n → List α) : Turns c [] c
  | next {c c' : Fin n → List α} {l : List (Fin n × α)} {i : Fin n} {x : α} {rest : List α}
      (hi : c i = x :: rest) (hl : Turns (Function.update c i rest) l c') : Turns c ((i, x) :: l) c'

/-- The turns of a client and what is still ahead of it are what was ahead of it. -/
theorem Turns.partOf_append (h : Turns c l c') (i : Fin n) : partOf i l ++ c' i = c i := by
  induction h with
  | refl c => rfl
  | @next c c' l j x rest hj _ ih =>
    rw [partOf_cons]
    by_cases hji : j = i
    · subst hji
      rw [if_pos rfl, List.cons_append, ih, Function.update_self, hj]
    · rw [if_neg hji, ih, Function.update_of_ne (Ne.symm hji)]

/-- A list is put together from the parts of some clients, each of them in its own order. -/
def Merges (parts : Fin n → List α) (xs : List α) : Prop :=
  ∃ l : List (Fin n × α), l.map Prod.snd = xs ∧ ∀ i, partOf i l = parts i

theorem Merges.filterMap (h : Merges parts xs) (f : α → Option β) :
    Merges (fun i => (parts i).filterMap f) (xs.filterMap f) := by
  obtain ⟨l, rfl, hparts⟩ := h
  refine ⟨l.filterMap fun e => (f e.2).map (Prod.mk e.1), ?_, fun i => ?_⟩
  · rw [List.map_filterMap, List.filterMap_map]
    refine List.filterMap_congr fun e _ => ?_
    cases he : f e.2 <;> simp [he]
  · dsimp only
    rw [← hparts i, partOf, partOf, List.filterMap_filterMap, List.filterMap_filterMap]
    refine List.filterMap_congr fun e _ => ?_
    by_cases hi : e.1 = i
    · cases he : f e.2 <;> simp [hi, he]
    · cases he : f e.2 <;> simp [hi]

theorem Merges.filter (h : Merges parts xs) (p : α → Bool) :
    Merges (fun i => (parts i).filter p) (xs.filter p) := by
  simpa only [List.filterMap_eq_filter] using h.filterMap (Option.guard p)

/-- One more item in one part is one more item in all parts together. -/
theorem perm_flatMap_of_cons (hj : c j = x :: c' j) (hother : ∀ i, j ≠ i → c i = c' i) :
    ((List.finRange n).flatMap c).Perm (x :: (List.finRange n).flatMap c') := by
  obtain ⟨pre, post, hsplit⟩ := List.append_of_mem (List.mem_finRange j)
  have hnodup := List.nodup_finRange n
  rw [hsplit] at hnodup ⊢
  have hnot : j ∉ pre ++ post := (List.nodup_cons.mp (List.nodup_middle.mp hnodup)).1
  have hpre : pre.flatMap c = pre.flatMap c' := by
    refine List.flatMap_congr fun i hi => hother i ?_
    rintro rfl
    exact hnot (List.mem_append_left _ hi)
  have hpost : post.flatMap c = post.flatMap c' := by
    refine List.flatMap_congr fun i hi => hother i ?_
    rintro rfl
    exact hnot (List.mem_append_right _ hi)
  rw [List.flatMap_append, List.flatMap_cons, List.flatMap_append, List.flatMap_cons, hpre, hpost,
    hj]
  exact List.perm_middle

theorem perm_flatMap_partOf (l : List (Fin n × α)) :
    (l.map Prod.snd).Perm ((List.finRange n).flatMap fun i => partOf i l) := by
  induction l with
  | nil => simp [partOf]
  | cons e l ih =>
    obtain ⟨j, x⟩ := e
    -- a turn shows in the part of its own client only
    have hturn : ((List.finRange n).flatMap fun i => partOf i ((j, x) :: l)).Perm
        (x :: (List.finRange n).flatMap fun i => partOf i l) := by
      refine perm_flatMap_of_cons (j := j) ?_ ?_
      · rw [partOf_cons, if_pos rfl]
      · intro i hji
        rw [partOf_cons, if_neg hji]
    exact (ih.cons x).trans hturn.symm

theorem Merges.perm (h : Merges parts xs) : xs.Perm ((List.finRange n).flatMap parts) := by
  obtain ⟨l, rfl, hparts⟩ := h
  obtain rfl : (fun i => partOf i l) = parts := funext hparts
  exact perm_flatMap_partOf l

end Parts

section Adjoining

variable {α : Type} {start mid next stop d : Date}

theorem exists_next (h : mid < stop) : ∃ next, mid.addDays? 1 = some next := by
  have hmid := Date.lt_iff.mp h
  have hfirst := mid.first_le
  have hend := stop.lt_end
  cases hn : mid.addDays? 1 with
  | none =>
    have hout := Date.ofDayNumber?_eq_none_iff.mp hn
    omega
  | some next => exact ⟨next, rfl⟩

theorem next_le_iff (hn : mid.addDays? 1 = some next) : next ≤ d ↔ ¬ d ≤ mid := by
  have hnext := Date.addDays?_eq_some_iff.mp hn
  rw [Date.le_iff, Date.le_iff]
  omega

/-- The days of an interval are those up to a day of it and those from the next day on. -/
theorem perm_filter_adjoining (day : α → Date) (hn : mid.addDays? 1 = some next)
    (hstart : start ≤ mid) (hstop : mid < stop) (xs : List α) :
    (xs.filter (fun x => start ≤ day x ∧ day x ≤ mid) ++
      xs.filter fun x => next ≤ day x ∧ day x ≤ stop).Perm
        (xs.filter fun x => start ≤ day x ∧ day x ≤ stop) := by
  have hlow : xs.filter (fun x => start ≤ day x ∧ day x ≤ mid) =
      (xs.filter fun x => start ≤ day x ∧ day x ≤ stop).filter fun x => day x ≤ mid := by
    rw [List.filter_filter]
    refine List.filter_congr fun x _ => ?_
    have hle : day x ≤ mid → day x ≤ stop := fun h => h.trans hstop.le
    simp only [← Bool.decide_and, decide_eq_decide]
    tauto
  have hhigh : xs.filter (fun x => next ≤ day x ∧ day x ≤ stop) =
      (xs.filter fun x => start ≤ day x ∧ day x ≤ stop).filter fun x => !decide (day x ≤ mid) := by
    rw [List.filter_filter]
    refine List.filter_congr fun x _ => ?_
    have hle : ¬ day x ≤ mid → start ≤ day x := fun h => hstart.trans (not_le.mp h).le
    simp only [← decide_not, ← Bool.decide_and, decide_eq_decide, next_le_iff hn]
    tauto
  rw [hlow, hhigh]
  exact List.filter_append_perm _ _

end Adjoining

variable {α : Type} {n : Nat} {programs ahead : Fin n → List Operation}
  {l before later : List (Fin n × Operation)} {s : Session} {o : Operation} {ps : List Operation}

/-- What reads give after some turns, where `recorded` is what an operation records for an account
and `day` is the day of a record. -/
structure ExactReads (recorded : UInt64 → Operation → Option α) (day : α → Date)
    (l : List (Fin n × Operation)) (read : Date → Date → Caller → List α) : Prop where
  /-- A read holds what each client has recorded, in the order of that client. -/
  merges (start stop : Date) (caller : Caller) :
    Merges (fun i => ((partOf i l).filterMap (recorded caller.account)).filter
      fun x => start ≤ day x ∧ day x ≤ stop) (read start stop caller)
  /-- A read holds each record as often as it was recorded. -/
  perm (start stop : Date) (caller : Caller) :
    (read start stop caller).Perm ((List.finRange n).flatMap fun i =>
      ((partOf i l).filterMap (recorded caller.account)).filter
        fun x => start ≤ day x ∧ day x ≤ stop)
  /-- Reads of adjoining intervals are together a read of both. -/
  adjoining {start mid stop : Date} (caller : Caller) (hstart : start ≤ mid) (hstop : mid < stop) :
    ∃ next, mid.addDays? 1 = some next ∧
      (read start mid caller ++ read next stop caller).Perm (read start stop caller)

theorem exactReads_of_eq {recorded : UInt64 → Operation → Option α} {day : α → Date}
    {read : Date → Date → Caller → List α}
    (h : ∀ start stop caller, read start stop caller =
      ((l.map Prod.snd).filterMap (recorded caller.account)).filter
        fun x => start ≤ day x ∧ day x ≤ stop) : ExactReads recorded day l read := by
  have hmerges : ∀ start stop caller,
      Merges (fun i => ((partOf i l).filterMap (recorded caller.account)).filter
        fun x => start ≤ day x ∧ day x ≤ stop) (read start stop caller) := by
    intro start stop caller
    have hall : Merges (fun i => partOf i l) (l.map Prod.snd) := ⟨l, rfl, fun _ => rfl⟩
    rw [h]
    exact (hall.filterMap _).filter _
  refine ⟨hmerges, fun start stop caller => (hmerges start stop caller).perm, ?_⟩
  intro start mid stop caller hstart hstop
  obtain ⟨next, hn⟩ := exists_next hstop
  refine ⟨next, hn, ?_⟩
  rw [h, h, h]
  exact perm_filter_adjoining day hn hstart hstop _

/-- A read of a store. -/
def Operation.isRead : Operation → Bool
  | .readUsage .. | .readTracking .. => true
  | _ => false

namespace Session

/-- Reads stay the same until something is recorded. -/
theorem between_after_of_no_record (h : ∀ o ∈ ps, o.account? = none) :
    (s.after ps).usageBetween = s.usageBetween ∧
      (s.after ps).trackingBetween = s.trackingBetween := by
  have hne : ∀ o ∈ ps, ∀ c, o.account? ≠ some c := by
    intro o ho c hc
    cases (h o ho).symm.trans hc
  constructor
  · funext start stop caller
    have hnone : ps.filterMap (·.usageFor? caller.account) = [] :=
      List.filterMap_eq_nil_iff.mpr fun o ho => usageFor?_eq_none (hne o ho caller.account)
    have hview : (s.after ps).usage.ofAccount caller.account = _ :=
      view_after (fun s => s.usage.ofAccount caller.account) _ (fun _ _ => usage_step) s ps
    rw [usageBetween_eq, usageBetween_eq, hview, hnone, List.append_nil]
  · funext start stop caller
    have hnone : ps.filterMap (·.trackingFor? caller.account) = [] :=
      List.filterMap_eq_nil_iff.mpr fun o ho => trackingFor?_eq_none (hne o ho caller.account)
    have hview : (s.after ps).tracking.ofAccount caller.account = _ :=
      view_after (fun s => s.tracking.ofAccount caller.account) _ (fun _ _ => tracking_step) s ps
    rw [trackingBetween_eq, trackingBetween_eq, hview, hnone, List.append_nil]

theorem run_readUsage (s : Session) (os ps : List Operation) (start stop : Date)
    (caller : Caller) : s.run (os ++ .readUsage start stop caller :: ps) =
      s.run os ++ .usage ((s.after os).usageBetween start stop caller) :: (s.after os).run ps := by
  rw [run_append]
  rfl

theorem run_readTracking (s : Session) (os ps : List Operation) (start stop : Date)
    (caller : Caller) : s.run (os ++ .readTracking start stop caller :: ps) =
      s.run os ++ .tracking ((s.after os).trackingBetween start stop caller) ::
        (s.after os).run ps := by
  rw [run_append]
  rfl

theorem step_of_isRead (h : o.isRead) : (s.step o).1 = s := by
  cases o with
  | readUsage start stop caller => rfl
  | readTracking start stop caller => rfl
  | _ => cases h

theorem after_of_isRead (h : ∀ o ∈ ps, o.isRead) : s.after ps = s := by
  induction ps with
  | nil => rfl
  | cons o ps ih =>
    obtain ⟨ho, hps⟩ := List.forall_mem_cons.mp h
    rw [after_cons, step_of_isRead ho]
    exact ih hps

end Session

/-- At any moment of any interleaving of any number of clients, each client has done a first part of
its program, and a read of either store gives what has been recorded for its account and on its days:
everything, as often as it was recorded, with the order of each client. That is also what a read
answers that is itself a turn. Interleavings that differ only in the order of records for different
accounts have the same outputs and the same reads. Reads stay the same until something is recorded,
and reading leaves the session as it is. -/
theorem reads_of_turns (h : Turns programs (before ++ later) ahead) (settings : Settings) :
    let new := Session.new settings
    let os := (before ++ later).map Prod.snd
    let s := new.after (before.map Prod.snd)
    (∀ i, partOf i before <+: programs i) ∧
    ExactReads (fun account o => o.usageFor? account) (fun u => u.recordDate.date) before
      s.usageBetween ∧
    ExactReads (fun account o => o.trackingFor? account) (fun row => row.recordDate) before
      s.trackingBetween ∧
    (∀ i start stop caller rest,
      (later = (i, .readUsage start stop caller) :: rest → new.run os =
        new.run (before.map Prod.snd) ++
          .usage (s.usageBetween start stop caller) :: s.run (rest.map Prod.snd)) ∧
      (later = (i, .readTracking start stop caller) :: rest → new.run os =
        new.run (before.map Prod.snd) ++
          .tracking (s.trackingBetween start stop caller) :: s.run (rest.map Prod.snd))) ∧
    (∀ ps, Reordered os ps → new.run os = new.run ps ∧
      (new.after os).usageBetween = (new.after ps).usageBetween ∧
      (new.after os).trackingBetween = (new.after ps).trackingBetween) ∧
    (∀ ps, (∀ o ∈ ps, o.account? = none) → (s.after ps).usageBetween = s.usageBetween ∧
      (s.after ps).trackingBetween = s.trackingBetween) ∧
    ∀ ps, (∀ o ∈ ps, o.isRead) → s.after ps = s := by
  intro new os s
  refine ⟨fun i => ?_, exactReads_of_eq ?_, exactReads_of_eq ?_, ?_, ?_, ?_, ?_⟩
  · have hparts := h.partOf_append i
    rw [partOf_append, List.append_assoc] at hparts
    exact ⟨_, hparts⟩
  · intro start stop caller
    rw [Session.usageBetween_eq, Session.usage_after]
  · intro start stop caller
    rw [Session.trackingBetween_eq, Session.tracking_after]
  · intro i start stop caller rest
    constructor
    · rintro rfl
      have hos : os = before.map Prod.snd ++ .readUsage start stop caller :: rest.map Prod.snd :=
        List.map_append
      rw [hos, Session.run_readUsage]
    · rintro rfl
      have hos : os = before.map Prod.snd ++ .readTracking start stop caller :: rest.map Prod.snd :=
        List.map_append
      rw [hos, Session.run_readTracking]
  · intro ps hps
    obtain ⟨hrun, halike⟩ := hps.run_after new
    exact ⟨hrun, halike.usageBetween_eq, halike.trackingBetween_eq⟩
  · intro ps hps
    exact Session.between_after_of_no_record hps
  · intro ps hps
    exact Session.after_of_isRead hps

namespace Sample

/-- Two clients, the second of which reads at last. -/
def plans (i : Fin 2) : List Operation :=
  if i = 0 then
    [.recordUsage 8 (used june), .recordTracking 8 (row 1 june), .recordUsage 8 (used january)]
  else
    [.recordUsage 9 (used june), .recordUsage 8 (used december), .readUsage january june ⟨8, 1⟩]

def turnsBeforeRead : List (Fin 2 × Operation) :=
  [(0, .recordUsage 8 (used june)), (1, .recordUsage 9 (used june)),
    (0, .recordTracking 8 (row 1 june)), (1, .recordUsage 8 (used december))]

def readTurn : Fin 2 × Operation := (1, .readUsage january june ⟨8, 1⟩)

end Sample

/-- The first client has not recorded its usage of January when the second one reads. What is recorded
of June is left out up to December. -/
theorem reads_of_turns_twoClients :
    let s := (Session.new (.ofBase 1)).after (Sample.turnsBeforeRead.map Prod.snd)
    (∃ ahead, Turns Sample.plans (Sample.turnsBeforeRead ++ [Sample.readTurn]) ahead ∧
      ahead 0 = [.recordUsage 8 (Sample.used Sample.january)]) ∧
    partOf 0 Sample.turnsBeforeRead <+: Sample.plans 0 ∧
    (s.usageBetween Sample.january Sample.june ⟨8, 1⟩).Perm
      [Sample.used Sample.june, Sample.used Sample.december] ∧
    (s.usageBetween Sample.january Sample.december ⟨8, 1⟩).Perm [Sample.used Sample.december] ∧
    (s.trackingBetween Sample.january Sample.december ⟨8, 1⟩).Perm [] ∧
    ∃ next, Sample.december.addDays? 1 = some next ∧
      (s.usageBetween Sample.january Sample.december ⟨8, 1⟩ ++
        s.usageBetween next Sample.june ⟨8, 1⟩).Perm
          (s.usageBetween Sample.january Sample.june ⟨8, 1⟩) := by
  intro s
  have hturns : Turns Sample.plans (Sample.turnsBeforeRead ++ [Sample.readTurn]) _ :=
    .next rfl (.next rfl (.next rfl (.next rfl (.next rfl (.refl _)))))
  obtain ⟨hparts, husage, htracking, -⟩ := reads_of_turns hturns (.ofBase 1)
  exact ⟨⟨_, hturns, rfl⟩, hparts 0, husage.perm Sample.january Sample.june ⟨8, 1⟩,
    husage.perm Sample.january Sample.december ⟨8, 1⟩,
    htracking.perm Sample.january Sample.december ⟨8, 1⟩,
    husage.adjoining ⟨8, 1⟩ (by decide) (by decide)⟩

end Lookback.Window
