import Lookback.Proofs.Window.Acts
import Lookback.Proofs.Window.Polling

/-! The two reads of a window come to the same under any order of polls: the window if both end
well, and otherwise the unchanged error of the first that fails, which is logged once. -/
namespace Lookback.Window

namespace Fetch

variable {α β : Type} {u : Fetch α} {t : Fetch β} {k : Nat} {e e' : Error} {order : Nat → Bool}

theorem poll_of_not_failed {f : Fetch α} (h : ∀ e, f.outcome = .error e → k < f.suspensions) :
    f.poll k = none ∨ ∃ a, f.poll k = some (.ok a) := by
  by_cases hk : f.suspensions ≤ k
  · right
    rw [poll_of_le hk]
    cases ho : f.outcome with
    | ok a => exact ⟨a, rfl⟩
    | error e => exact absurd (h e ho) (Nat.not_lt.mpr hk)
  · exact Or.inl (poll_of_lt (Nat.lt_of_not_le hk))

theorem decides_of_usage_error (hu : u.outcome = .error e)
    (ht : ∀ e', t.outcome = .error e' → u.suspensions < t.suspensions) :
    Decides u t u.suspensions (.error e) := by
  constructor
  · rcases poll_of_not_failed ht with h | ⟨b, h⟩ <;> rw [round, poll_of_le le_rfl, hu, h]
  · intro j hj
    have hlater : ∀ e', t.outcome = .error e' → j < t.suspensions :=
      fun e' he => hj.trans (ht e' he)
    rcases poll_of_not_failed hlater with h | ⟨b, h⟩ <;> rw [round, poll_of_lt hj, h]

theorem decides_of_tracking_error (ht : t.outcome = .error e)
    (hu : ∀ e', u.outcome = .error e' → t.suspensions < u.suspensions) :
    Decides u t t.suspensions (.error e) := by
  constructor
  · rcases poll_of_not_failed hu with h | ⟨b, h⟩ <;> rw [round, poll_of_le (f := t) le_rfl, ht, h]
  · intro j hj
    have hlater : ∀ e', u.outcome = .error e' → j < u.suspensions :=
      fun e' he => hj.trans (hu e' he)
    rcases poll_of_not_failed hlater with h | ⟨b, h⟩ <;> rw [round, poll_of_lt (f := t) hj, h]

theorem decides_of_both_errors (hu : u.outcome = .error e) (ht : t.outcome = .error e')
    (h : u.suspensions = t.suspensions) :
    Decides u t u.suspensions (.error (if u.suspensions % 2 = 0 then e else e')) := by
  constructor
  · rw [round, poll_of_le le_rfl, poll_of_le h.ge, hu, ht]
  · intro j hj
    rw [round, poll_of_lt hj, poll_of_lt (h ▸ hj)]

/-- Rounds come to the same as polls in turn. -/
theorem join_eq_settle : join u t = settle (u.suspensions % 2 = 0) u t := by
  obtain ⟨k, hk⟩ := exists_decides_join u t
  cases hu : u.outcome with
  | ok a =>
    cases ht : t.outcome with
    | ok b => rw [settle_of_ok hu ht, join_eq_ok_iff.mpr ⟨hu, ht⟩]
    | error e =>
      rw [settle_of_tracking_error ht (by simp [hu])]
      exact (hk.unique (decides_of_tracking_error ht (by simp [hu]))).2
  | error e =>
    cases ht : t.outcome with
    | ok b =>
      rw [settle_of_usage_error hu (by simp [ht])]
      exact (hk.unique (decides_of_usage_error hu (by simp [ht]))).2
    | error e' =>
      rcases Nat.lt_trichotomy u.suspensions t.suspensions with hlt | heq | hgt
      · rw [settle_of_usage_error hu fun _ _ => Or.inl hlt]
        exact (hk.unique (decides_of_usage_error hu fun _ _ => hlt)).2
      · rw [(hk.unique (decides_of_both_errors hu ht heq)).2, settle, hu, ht]
        simp only [heq, lt_irrefl, decide_eq_true_eq, true_and, false_or]
        split <;> rfl
      · rw [settle_of_tracking_error ht fun _ _ => Or.inl hgt]
        exact (hk.unique (decides_of_tracking_error ht fun _ _ => hgt)).2

/-- The order of polls matters only if both reads fail after as many suspensions. -/
theorem settle_eq_or (f g : Bool) (u : Fetch α) (t : Fetch β) :
    settle f u t = settle g u t ∨
      ∃ e e', u.outcome = .error e ∧ t.outcome = .error e' ∧ u.suspensions = t.suspensions := by
  rw [settle, settle]
  cases hu : u.outcome <;> cases ht : t.outcome <;> try exact Or.inl rfl
  by_cases h : u.suspensions = t.suspensions
  · exact Or.inr ⟨_, _, rfl, rfl, h⟩
  · exact Or.inl (by simp only [h, false_and, or_false])

theorem settle_of_both_errors (f : Bool) (hu : u.outcome = .error e) (ht : t.outcome = .error e') :
    settle f u t = .error e ∨ settle f u t = .error e' := by
  rw [settle, hu, ht]
  dsimp only
  split
  · exact Or.inl rfl
  · exact Or.inr rfl

/-- Any order of polls that starts with the first read comes to what polls in turn come to, unless
both reads fail after as many suspensions, and then to one of the two errors. -/
theorem joinIn_eq_join_or (h : order 0 = true) :
    joinIn order u t = join u t ∨
      ∃ e e', u.outcome = .error e ∧ t.outcome = .error e' ∧ u.suspensions = t.suspensions ∧
        0 < u.suspensions ∧ (joinIn order u t = .error e ∨ joinIn order u t = .error e') := by
  rw [joinIn_eq_settle, join_eq_settle]
  rcases settle_eq_or (order u.suspensions) (u.suspensions % 2 = 0) u t with heq | ⟨e, e', hu, ht, hs⟩
  · exact Or.inl heq
  · rcases Nat.eq_zero_or_pos u.suspensions with hz | hpos
    · left
      rw [hz, h]
      rfl
    · exact Or.inr ⟨e, e', hu, ht, hs, hpos, settle_of_both_errors _ hu ht⟩

end Fetch

variable {settings : Settings} {sources : Sources} {r : Request} {s : Date} {now : Log.Clock}

theorem level_toLog_eq_error_iff {v : Event} :
    (v.toLog now).level = .error ↔ ∃ c e, v = .fetchFailed c e := by
  cases v <;> simp [Event.toLog, Log.forCaller, Log.failure]

/-- The events of an answer that the log shows as errors. -/
def Answer.errors (now : Log.Clock) (a : Answer) : List Log.Event :=
  (a.events.map (Event.toLog now)).filter fun v => v.level = .error

theorem errors_eq_nil {vs : List Event} (h : ∀ v ∈ vs, ∀ c e, v ≠ .fetchFailed c e) :
    ((vs.map (Event.toLog now)).filter fun v => v.level = .error) = [] := by
  refine List.filter_eq_nil_iff.mpr fun l hl => ?_
  obtain ⟨v, hv, rfl⟩ := List.mem_map.mp hl
  rw [decide_eq_true_eq, level_toLog_eq_error_iff]
  rintro ⟨c, e, rfl⟩
  exact h _ hv c e rfl

theorem not_fetchFailed_of_mem_decision {bound : Int} {v : Event} (h : v ∈ r.decision bound s)
    (c : Caller) (e : Error) : v ≠ .fetchFailed c e := by
  rintro rfl
  by_cases ht : r.target < r.first <;> simp [Request.decision, ht] at h

theorem errors_of_start (h : (startUnder (settings.bound r.caller.tenant) r).result = .ok s) :
    (read settings sources r).errors now =
      (r.failure (fetch sources r s)).map (Event.toLog now) := by
  rw [read_of_start h, Answer.errors, events_actsOf, List.map_append, List.filter_append,
    errors_eq_nil, List.nil_append, List.filter_eq_self]
  · intro l hl
    obtain ⟨v, hv, rfl⟩ := List.mem_map.mp hl
    rw [decide_eq_true_eq, level_toLog_eq_error_iff]
    cases hf : fetch sources r s with
    | ok w => simp [hf, Request.failure] at hv
    | error e =>
      rw [hf] at hv
      exact ⟨r.caller, e, List.mem_singleton.mp hv⟩
  · intro v hv c e
    rcases List.mem_append.mp hv with hv | hv
    · obtain ⟨i, -, rfl⟩ := List.mem_map.mp hv
      intro he
      cases he
    · exact not_fetchFailed_of_mem_decision hv c e

theorem result_of_start (h : (startUnder (settings.bound r.caller.tenant) r).result = .ok s) :
    (read settings sources r).result =
      (Fetch.settle ((sources.usage s r.target r.caller).suspensions % 2 = 0)
        (sources.usage s r.target r.caller) (sources.tracking s r.target r.caller)).map
        fun (usage, rows) => ⟨s, usage, .ofList (rows.map TrackingRow.identity)⟩ := by
  rw [read_of_start h, fetch, Fetch.join_eq_settle]

/-- Once a start is found, the window is read if and only if both reads end well, and then it holds
all of both, however long they were suspended. A read that fails alone gives its error, whether it
ends before or after the other one. Of two that fail, the one with fewer suspensions gives it, the
first read if there are none, and one of the two if they are as many. The error comes back as it is
and is logged once. The order in which the reads are polled after the first round makes no difference
but between two that fail after as many suspensions. -/
theorem read_of_joint_fetch (settings : Settings) (sources : Sources) (r : Request) (s : Date)
    (now : Log.Clock) (h : (startUnder (settings.bound r.caller.tenant) r).result = .ok s) :
    let u := sources.usage s r.target r.caller
    let t := sources.tracking s r.target r.caller
    let a := read settings sources r
    ((∃ w, a.result = .ok w) ↔ (∃ us, u.outcome = .ok us) ∧ ∃ rows, t.outcome = .ok rows) ∧
    (∀ us rows, u.outcome = .ok us → t.outcome = .ok rows →
      a.result = .ok ⟨s, us, .ofList (rows.map TrackingRow.identity)⟩) ∧
    (∀ e rows, u.outcome = .error e → t.outcome = .ok rows → a.result = .error e) ∧
    (∀ us e, u.outcome = .ok us → t.outcome = .error e → a.result = .error e) ∧
    (∀ e e', u.outcome = .error e → t.outcome = .error e' →
      (u.suspensions < t.suspensions → a.result = .error e) ∧
      (t.suspensions < u.suspensions → a.result = .error e') ∧
      (u.suspensions = 0 → t.suspensions = 0 → a.result = .error e) ∧
      (a.result = .error e ∨ a.result = .error e')) ∧
    (∀ e, a.result = .error e →
      a.errors now = [Log.failure r.caller now "Raw usage window fetch" e.message]) ∧
    (∀ w, a.result = .ok w → a.errors now = []) ∧
    ∀ order : Nat → Bool, order 0 = true →
      Fetch.joinIn order u t = Fetch.join u t ∨
        ∃ e e', u.outcome = .error e ∧ t.outcome = .error e' ∧ u.suspensions = t.suspensions ∧
          0 < u.suspensions ∧
          (Fetch.joinIn order u t = .error e ∨ Fetch.joinIn order u t = .error e') := by
  intro u t a
  have ha : a.result = (Fetch.settle (u.suspensions % 2 = 0) u t).map
      fun (usage, rows) => ⟨s, usage, .ofList (rows.map TrackingRow.identity)⟩ := result_of_start h
  have hf : a.result = fetch sources r s := by rw [show a = _ from read_of_start h]
  have hok : ∀ us rows, u.outcome = .ok us → t.outcome = .ok rows →
      a.result = .ok ⟨s, us, .ofList (rows.map TrackingRow.identity)⟩ := by
    intro us rows hu ht
    rw [ha, Fetch.settle_of_ok hu ht]
    rfl
  have husage : ∀ e, u.outcome = .error e →
      (∀ e', t.outcome = .error e' →
        u.suspensions < t.suspensions ∨ (u.suspensions = t.suspensions ∧ u.suspensions = 0)) →
      a.result = .error e := by
    intro e hu hlater
    have hfirst : Fetch.settle (decide (u.suspensions % 2 = 0)) u t = .error e := by
      refine Fetch.settle_of_usage_error hu fun e' ht => ?_
      exact (hlater e' ht).imp_right (And.imp_right fun hz => by simp [hz])
    rw [ha, hfirst]
    rfl
  have htracking : ∀ e, t.outcome = .error e →
      (∀ e', u.outcome = .error e' → t.suspensions < u.suspensions) → a.result = .error e := by
    intro e ht hlater
    rw [ha, Fetch.settle_of_tracking_error ht fun e' hu => Or.inl (hlater e' hu)]
    rfl
  refine ⟨⟨?_, ?_⟩, hok, ?_, ?_, ?_, ?_, ?_, fun order => Fetch.joinIn_eq_join_or⟩
  · rintro ⟨w, hw⟩
    rw [ha] at hw
    cases hj : Fetch.settle (u.suspensions % 2 = 0) u t with
    | error e => simp [hj, Except.map] at hw
    | ok found =>
      obtain ⟨hu, ht⟩ := Fetch.join_eq_ok_iff.mp (Fetch.join_eq_settle.trans hj)
      exact ⟨⟨_, hu⟩, _, ht⟩
  · rintro ⟨⟨us, hu⟩, rows, ht⟩
    exact ⟨_, hok us rows hu ht⟩
  · intro e rows hu ht
    exact husage e hu fun e' he => by cases ht.symm.trans he
  · intro us e hu ht
    exact htracking e ht fun e' he => by cases hu.symm.trans he
  · intro e e' hu ht
    refine ⟨fun hlt => husage e hu fun _ _ => Or.inl hlt, fun hlt => htracking e' ht fun _ _ => hlt,
      fun hu0 ht0 => husage e hu fun _ _ => Or.inr ⟨hu0.trans ht0.symm, hu0⟩, ?_⟩
    rw [ha]
    rcases Fetch.settle_of_both_errors (u.suspensions % 2 = 0) hu ht with hs | hs <;> rw [hs]
    · exact Or.inl rfl
    · exact Or.inr rfl
  · intro e he
    rw [show a.errors now = _ from errors_of_start h, ← hf, he]
    rfl
  · intro w hw
    rw [show a.errors now = _ from errors_of_start h, ← hf, hw]
    rfl

namespace Sample

/-- Usage that fails in the fourth round, and tracking rows that fail in the second. -/
def bothFailing : Sources where
  usage _ _ _ := ⟨3, .error (.usageSource "down")⟩
  tracking _ _ _ := ⟨1, .error (.trackingStore "reset")⟩

end Sample

/-- The tracking rows fail first, and the log has one error for it. -/
theorem read_of_joint_fetch_bothFailing :
    (startUnder 1 Sample.request).result = .ok Sample.december ∧
    (read (.ofBase 1) Sample.bothFailing Sample.request).result =
      .error (.trackingStore "reset") ∧
    (read (.ofBase 1) Sample.bothFailing Sample.request).errors (.ofMillis 0) =
      [Log.failure ⟨8, 1⟩ (.ofMillis 0) "Raw usage window fetch"
        "Tracking store read failed: reset"] := by
  have hs : (startUnder 1 Sample.request).result = .ok Sample.december := by decide +kernel
  obtain ⟨-, -, -, -, hboth, herrors, -⟩ := read_of_joint_fetch (.ofBase 1) Sample.bothFailing
    Sample.request Sample.december (.ofMillis 0) hs
  have he := (hboth _ _ rfl rfl).2.1 (by decide)
  exact ⟨hs, he, herrors _ he⟩

end Lookback.Window
