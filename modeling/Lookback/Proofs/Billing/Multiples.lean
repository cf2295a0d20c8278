import Lookback.Proofs.Billing.Order

/-! A period that is a multiple of another one, against as many of the other as it holds. Days come
to the same date. Months come to the same month, and the shorter period, which visits more months,
may be cut to an earlier day by one that the longer period passes over. -/
namespace Lookback.Period

open Calendar

variable {d e f : Date} {k t : Int} {j n : Nat}

/-- The length that is `j` times as long. -/
def Length.times (j : Nat) : Length → Length
  | .days k => .days (j * k)
  | .months k => .months (j * k)

/-- The months that `n` steps of `k` months visit from month `t` on. -/
def monthsVisited (t k : Int) (n : Nat) : Set Int := (fun i : Nat => t + i * k) '' Set.Icc 1 n

theorem lengthsVisited_eq :
    lengthsVisited d k n = insert d.day (daysIn '' monthsVisited d.month k n) := by
  rw [lengthsVisited, monthsVisited, Set.image_image]

theorem monthsVisited_subset (hj : 0 < j) :
    monthsVisited t (j * k) n ⊆ monthsVisited t k (j * n) := by
  rintro _ ⟨i, ⟨hi, hin⟩, rfl⟩
  refine ⟨j * i, ⟨Nat.mul_pos hj hi, Nat.mul_le_mul_left j hin⟩, ?_⟩
  push_cast
  ring

/-- Both walks fail or neither does, as they are to end in the same month. -/
theorem isSome_steps?_multiple : (steps? (·.addMonths? (j * k)) n d).isSome ↔
    (steps? (·.addMonths? k) (j * n) d).isSome := by
  have hsum : d.month + n * (j * k) = d.month + (j * n : Nat) * k := by
    push_cast
    ring
  rw [Option.isSome_iff_ne_none, Option.isSome_iff_ne_none, ne_eq, ne_eq,
    steps?_addMonths_eq_none_iff, steps?_addMonths_eq_none_iff, hsum]

/-- How the end `f` of a walk compares with the end `e` of a walk that passes over some of its
months. -/
structure Finer (passedOver : Set Int) (e f : Date) : Prop where
  month_eq : f.month = e.month
  le : f ≤ e
  eq_iff : f = e ↔ ∀ t ∈ passedOver, e.day ≤ daysIn t

theorem finer_of_steps? (hj : 0 < j) (he : steps? (·.addMonths? (j * k)) n d = some e)
    (hf : steps? (·.addMonths? k) (j * n) d = some f) :
    Finer (monthsVisited d.month k (j * n) \ monthsVisited d.month (j * k) n) e f := by
  obtain ⟨hem, hed⟩ := month_day_of_steps? he
  obtain ⟨hfm, hfd⟩ := month_day_of_steps? hf
  rw [lengthsVisited_eq] at hed hfd
  have hmonth : f.month = e.month := by
    rw [hfm, hem]
    push_cast
    ring
  have hsub := monthsVisited_subset (t := d.month) (k := k) (n := n) hj
  have hday : f.day ≤ e.day := hed.mono hfd (Set.insert_subset_insert (Set.image_mono hsub))
  refine ⟨hmonth, (Date.le_iff_day_le hmonth).mpr hday, ?_⟩
  constructor
  · rintro rfl t ⟨ht, -⟩
    exact hfd.2 (Set.mem_insert_of_mem _ ⟨t, ht, rfl⟩)
  · intro hall
    -- no month of the finer walk is shorter than the day of the coarser one
    have hleast : e.day ≤ f.day := by
      rcases hfd.1 with hstart | ⟨t, ht, hlen⟩
      · rw [hstart]
        exact hed.2 (Set.mem_insert _ _)
      · rw [← hlen]
        by_cases hboth : t ∈ monthsVisited d.month (j * k) n
        · exact hed.2 (Set.mem_insert_of_mem _ ⟨t, hboth, rfl⟩)
        · exact hall t ⟨ht, hboth⟩
    exact Date.eq_of_month_day_eq hmonth (le_antisymm hday hleast)

variable {p q : Period} {l : Length} {m : Nat}

theorem times_pos (hp : p.length = some (l.times j)) : 0 < j := by
  have hpos := count_pos hp
  cases l with
  | days m => exact Nat.pos_of_mul_pos_right hpos
  | months m => exact Nat.pos_of_mul_pos_right hpos

theorem recedeBy_multiple_of_days (hp : p.length = some (.days (j * m)))
    (hq : q.length = some (.days m)) : p.recedeBy d n = q.recedeBy d (j * n) := by
  rw [recedeBy_of_days hp, recedeBy_of_days hq]
  congr 1
  push_cast
  ring

theorem advanceBy_multiple_of_days (hp : p.length = some (.days (j * m)))
    (hq : q.length = some (.days m)) : p.advanceBy d n = q.advanceBy d (j * n) := by
  rw [advanceBy_of_days hp, advanceBy_of_days hq]
  congr 1
  push_cast
  ring

theorem recedeBy_multiple_of_months (hp : p.length = some (.months (j * m))) :
    p.recedeBy d n = steps? (·.addMonths? (j * -m)) n d := by
  have hm : -((j * m : Nat) : Int) = j * -m := by
    push_cast
    ring
  rw [recedeBy_of_months hp, hm]

theorem advanceBy_multiple_of_months (hp : p.length = some (.months (j * m))) :
    p.advanceBy d n = steps? (·.addMonths? (j * m)) n d := by
  rw [advanceBy_of_months hp, Nat.cast_mul]

/-- A period that is `j` times as long as another one can be moved by `n` times exactly if the other
one can be moved by `j * n` times, back and forth. If they count days, both come to the same date. If
they count months, both come to the same month, the shorter period on a day that is no later, and on
the same day exactly if none of the months that only it visits is shorter than the day to which the
longer one comes. -/
theorem moves_of_multiple (p q : Period) (l : Length) (j : Nat) (hq : q.length = some l)
    (hp : p.length = some (l.times j)) (d : Date) (n : Nat) :
    ((p.recedeBy d n).isSome ↔ (q.recedeBy d (j * n)).isSome) ∧
    ((p.advanceBy d n).isSome ↔ (q.advanceBy d (j * n)).isSome) ∧
    (∀ m, l = .days m → p.recedeBy d n = q.recedeBy d (j * n) ∧
      p.advanceBy d n = q.advanceBy d (j * n)) ∧
    ∀ m, l = .months m → ∀ e f,
      (p.recedeBy d n = some e → q.recedeBy d (j * n) = some f →
        Finer (monthsVisited d.month (-m) (j * n) \ monthsVisited d.month (j * -m) n) e f) ∧
      (p.advanceBy d n = some e → q.advanceBy d (j * n) = some f →
        Finer (monthsVisited d.month m (j * n) \ monthsVisited d.month (j * m) n) e f) := by
  have hj := times_pos hp
  cases l with
  | days m =>
    have hr : p.recedeBy d n = q.recedeBy d (j * n) := recedeBy_multiple_of_days hp hq
    have ha : p.advanceBy d n = q.advanceBy d (j * n) := advanceBy_multiple_of_days hp hq
    exact ⟨by rw [hr], by rw [ha], fun _ _ => ⟨hr, ha⟩, nofun⟩
  | months m =>
    rw [recedeBy_multiple_of_months hp, advanceBy_multiple_of_months hp, recedeBy_of_months hq,
      advanceBy_of_months hq]
    refine ⟨isSome_steps?_multiple, isSome_steps?_multiple, nofun, ?_⟩
    rintro _ ⟨rfl⟩ e f
    exact ⟨finer_of_steps? hj, finer_of_steps? hj⟩

/-- A quarter before the end of March 2020 is the end of December. Three single months before it are
the 29th of December, cut by the February that the quarter passes over. -/
theorem moves_of_multiple_march :
    ∃ e f, Period.quarterly.recedeBy Sample.march 1 = some e ∧
      Period.monthly.recedeBy Sample.march 3 = some f ∧ f.month = e.month ∧ f < e := by
  have he : Period.quarterly.recedeBy Sample.march 1 = some ⟨737789, by decide, by decide⟩ := by
    decide
  have hf : Period.monthly.recedeBy Sample.march 3 = some ⟨737787, by decide, by decide⟩ := by
    decide
  obtain ⟨-, -, -, hmonths⟩ :=
    moves_of_multiple .quarterly .monthly (.months 1) 3 rfl rfl Sample.march 1
  have hfiner := (hmonths 1 rfl _ _).1 he hf
  refine ⟨_, _, he, hf, hfiner.month_eq, lt_of_le_of_ne hfiner.le fun heq => ?_⟩
  have hfebruary := hfiner.eq_iff.mp heq (Sample.march.month - 1) ⟨⟨1, by decide, rfl⟩, ?_⟩
  · exact absurd hfebruary (by decide)
  · rintro ⟨i, ⟨hi, hin⟩, hmonth⟩
    dsimp only at hmonth
    omega

end Lookback.Period
