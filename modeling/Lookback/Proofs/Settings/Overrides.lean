import Lookback.Proofs.Window.Reports
import Mathlib.Data.List.Induction

/-! Bounds set for single tenants. The last one set for a tenant counts, what was set before it or for
others leaves nothing behind, and reads look back by it. -/
namespace Lookback

namespace Settings

variable {tenant other : UInt64} {bound base base' : Int} {o o' : UInt64 × Int}
  {os os' : List (UInt64 × Int)} {s s' : Settings}

/-- The settings once bounds have been set for tenants one after the other. -/
def ofOverrides (base : Int) (os : List (UInt64 × Int)) : Settings :=
  os.foldl (fun s o => s.withOverride o.1 o.2) (ofBase base)

/-- The bound set last for a tenant. -/
def last? (tenant : UInt64) (os : List (UInt64 × Int)) : Option Int :=
  ((os.filter fun o => o.1 = tenant).getLast?).map Prod.snd

theorem lookup_cons (o : UInt64 × Int) (os : List (UInt64 × Int)) (tenant : UInt64) :
    (o :: os).lookup tenant = if tenant = o.1 then some o.2 else os.lookup tenant := by
  by_cases h : tenant = o.1
  · rw [if_pos h, h, List.lookup_cons_self]
  · rw [if_neg h, List.lookup_cons, beq_false_of_ne h]

theorem lookup_insertInto : (insertInto tenant bound os).lookup other =
    if other = tenant then some bound else os.lookup other := by
  induction os with
  | nil => rw [insertInto, lookup_cons]
  | cons o os ih =>
    rw [insertInto]
    split
    · rw [lookup_cons]
    · split
      · rename_i htenant
        rw [lookup_cons, lookup_cons, htenant]
        split <;> rfl
      · rename_i hne
        rw [lookup_cons, lookup_cons, ih]
        by_cases h : other = o.1
        · rw [if_pos h, if_pos h, if_neg]
          rw [h]
          exact Ne.symm hne
        · rw [if_neg h, if_neg h]

theorem ofOverrides_append : ofOverrides base (os ++ [o]) =
    (ofOverrides base os).withOverride o.1 o.2 :=
  List.foldl_append

theorem last?_append (tenant : UInt64) (os os' : List (UInt64 × Int)) :
    last? tenant (os ++ os') = (last? tenant os').or (last? tenant os) := by
  rw [last?, List.filter_append, List.getLast?_append, Option.map_or]
  rfl

theorem last?_cons (tenant : UInt64) (o : UInt64 × Int) (os : List (UInt64 × Int)) :
    last? tenant (o :: os) =
      (last? tenant os).or (if tenant = o.1 then some o.2 else none) := by
  have hone : last? tenant [o] = if tenant = o.1 then some o.2 else none := by
    by_cases h : tenant = o.1
    · simp [last?, h]
    · simp [last?, h, Ne.symm h]
  rw [← hone]
  exact last?_append tenant [o] os

theorem base_ofOverrides (base : Int) (os : List (UInt64 × Int)) :
    (ofOverrides base os).base = base := by
  induction os using List.reverseRecOn with
  | nil => rfl
  | append_singleton os o ih => rw [ofOverrides_append, withOverride, ih]

theorem lookup_ofOverrides (base : Int) (os : List (UInt64 × Int)) (tenant : UInt64) :
    (ofOverrides base os).overrides.lookup tenant = last? tenant os := by
  induction os using List.reverseRecOn with
  | nil => rfl
  | append_singleton os o ih =>
    rw [ofOverrides_append, withOverride, lookup_insertInto, ih, last?_append, last?_cons]
    split <;> rfl

theorem bound_ofOverrides (base : Int) (os : List (UInt64 × Int)) (tenant : UInt64) :
    (ofOverrides base os).bound tenant = (last? tenant os).getD base := by
  rw [Settings.bound, lookup_ofOverrides, base_ofOverrides]

theorem mem_iff_lookup (h : os.Pairwise fun a b => a.1 < b.1) :
    o ∈ os ↔ os.lookup o.1 = some o.2 := by
  induction os with
  | nil => simp
  | cons p os ih =>
    obtain ⟨hlt, hos⟩ := List.pairwise_cons.mp h
    rw [List.mem_cons, lookup_cons]
    by_cases htenant : o.1 = p.1
    · have hout : o ∉ os := fun ho => UInt64.ne_of_lt (hlt o ho) htenant.symm
      rw [if_pos htenant, or_iff_left hout, Option.some.injEq, Prod.ext_iff]
      exact ⟨fun hop => hop.2.symm, fun hbound => ⟨htenant, hbound.symm⟩⟩
    · have hne : o ≠ p := fun hop => htenant (congrArg Prod.fst hop)
      rw [if_neg htenant, or_iff_right hne, ih hos]

/-- What they say about each tenant is all there is to sorted overrides. -/
theorem eq_of_lookup_eq (h : os.Pairwise fun a b => a.1 < b.1)
    (h' : os'.Pairwise fun a b => a.1 < b.1) (hlookup : ∀ t, os.lookup t = os'.lookup t) :
    os = os' := by
  have hne {a b : UInt64 × Int} (hab : a.1 < b.1) : a ≠ b :=
    fun hab' => UInt64.ne_of_lt hab (congrArg Prod.fst hab')
  have hperm : os.Perm os' := by
    rw [List.perm_ext_iff_of_nodup (h.imp hne) (h'.imp hne)]
    intro o
    rw [mem_iff_lookup h, mem_iff_lookup h', hlookup]
  exact hperm.eq_of_pairwise (fun _ _ _ _ hab hba => absurd hba (UInt64.lt_asymm hab)) h h'

theorem eq_iff : s = s' ↔
    s.base = s'.base ∧ ∀ t, s.overrides.lookup t = s'.overrides.lookup t := by
  constructor
  · rintro rfl
    exact ⟨rfl, fun _ => rfl⟩
  · rintro ⟨hbase, hlookup⟩
    have hoverrides := eq_of_lookup_eq s.sorted s'.sorted hlookup
    cases s
    cases s'
    cases hbase
    cases hoverrides
    rfl

theorem ofOverrides_eq_iff : ofOverrides base os = ofOverrides base' os' ↔
    base = base' ∧ ∀ t, last? t os = last? t os' := by
  simp only [eq_iff, base_ofOverrides, lookup_ofOverrides]

theorem last?_swap (h : o.1 ≠ o'.1) (before behind : List (UInt64 × Int)) (tenant : UInt64) :
    last? tenant (before ++ o :: o' :: behind) = last? tenant (before ++ o' :: o :: behind) := by
  simp only [last?_append, last?_cons]
  by_cases ho : tenant = o.1
  · simp [ho, h]
  · simp [ho]

theorem last?_superseded (h : o.1 = o'.1) (before between behind : List (UInt64 × Int))
    (tenant : UInt64) : last? tenant (before ++ o :: between ++ o' :: behind) =
      last? tenant (before ++ between ++ o' :: behind) := by
  simp only [last?_append, last?_cons, h]
  by_cases ho' : tenant = o'.1
  · simp [ho']
  · simp [ho']

end Settings

namespace Window

variable {settings : Settings} {sources : Sources} {r : Request} {c : Caller} {s : Date}
  {e : Error}

theorem issued_actsOf {logged failed : List Event} {reads : List Issued}
    {x : Except Error UsageWindow} : Answer.issued ⟨actsOf logged reads failed, x⟩ = reads := by
  simp [Answer.issued, actsOf, List.filterMap_map, Function.comp_def, Act.issued?]

theorem issued_of_error (h : (startUnder (settings.bound r.caller.tenant) r).result = .error e) :
    (read settings sources r).issued = [] := by
  rw [read_of_error h, issued_actsOf]

theorem issued_of_start (h : (startUnder (settings.bound r.caller.tenant) r).result = .ok s) :
    (read settings sources r).issued = r.readsFrom s := by
  rw [read_of_start h, issued_actsOf]

theorem read_of_neg (h : settings.bound r.caller.tenant < 0) :
    (read settings sources r).result = fetch sources r r.first ∧
      (read settings sources r).anomalies = [] := by
  rw [read_result, read_anomalies, startUnder_of_neg h]
  exact ⟨rfl, rfl⟩

theorem read_of_natural {n : Nat} (h : settings.bound r.caller.tenant = n) :
    (read settings sources r).result =
        (start r.first r.target r.items r.catalog n).result.bind (fetch sources r) ∧
      (read settings sources r).anomalies =
        (start r.first r.target r.items r.catalog n).anomalies := by
  rw [read_result, read_anomalies, startUnder_of_nonneg (by omega), h, Int.toNat_natCast]
  exact ⟨rfl, rfl⟩

/-- A window of one day. -/
def oneDay (d : Date) (items : List InvoiceItem) (c : Caller) : Request := ⟨d, d, items, .empty, c⟩

/-- A usage item that does not say which usage it bills. -/
def unnamed (d : Date) : InvoiceItem := ⟨⟨⟨0⟩⟩, ⟨⟨0⟩⟩, none, .usage, none, d, d⟩

theorem startUnder_oneDay_nil (bound : Int) (d : Date) (c : Caller) :
    (startUnder bound (oneDay d [] c)).result = .ok d := by
  rw [startUnder]
  split <;> rfl

theorem startUnder_oneDay_unnamed {bound : Int} (h : 0 ≤ bound) (d : Date) (c : Caller) :
    (startUnder bound (oneDay d [unnamed d] c)).result = .error (.missingName (unnamed d).id) := by
  rw [startUnder_of_nonneg h, start, if_neg (by simp [oneDay])]
  rfl

/-- A negative bound, and no other, makes reads pass items and catalog over. -/
theorem passes_items_over_iff : (∀ r, r.caller = c → ∀ items catalog,
      read settings sources { r with items := items, catalog := catalog } =
        read settings sources r) ↔ settings.bound c.tenant < 0 := by
  constructor
  · intro hsame
    by_contra hbound
    -- an item that cannot be resolved would keep the reads from being issued
    let d : Date := ⟨0, by decide, by decide⟩
    have hissued := congrArg Answer.issued (hsame (oneDay d [] c) rfl [unnamed d] .empty)
    have hnone : (read settings sources (oneDay d [unnamed d] c)).issued = [] :=
      issued_of_error (startUnder_oneDay_unnamed (not_lt.mp hbound) d c)
    rw [issued_of_start (startUnder_oneDay_nil _ d c)] at hissued
    cases hnone.symm.trans hissued
  · rintro hbound r rfl items catalog
    simp only [read, startUnder_of_neg hbound]
    rfl

end Window

namespace Settings

open Window

/-- The bound set last for a tenant is the one of all its callers, or else the base bound. The same
settings come from the same base bound and, for each tenant, the same bound set last or none: what is
set for two tenants can be set in either order, and what is set again later need not be set before. A
read passes its items over exactly if that bound is negative, and looks back that many periods if it
is not. -/
theorem last_override_counts (base : Int) (os : List (UInt64 × Int)) :
    (∀ c : Caller, (ofOverrides base os).bound c.tenant = (last? c.tenant os).getD base) ∧
    (∀ base' os', ofOverrides base os = ofOverrides base' os' ↔
      base = base' ∧ ∀ tenant, last? tenant os = last? tenant os') ∧
    (∀ before o o' behind, os = before ++ o :: o' :: behind → o.1 ≠ o'.1 →
      ofOverrides base os = ofOverrides base (before ++ o' :: o :: behind)) ∧
    (∀ before o between o' behind, os = before ++ o :: between ++ o' :: behind → o.1 = o'.1 →
      ofOverrides base os = ofOverrides base (before ++ between ++ o' :: behind)) ∧
    (∀ (c : Caller) (sources : Sources), (∀ r, r.caller = c → ∀ items catalog,
        read (ofOverrides base os) sources { r with items := items, catalog := catalog } =
          read (ofOverrides base os) sources r) ↔ (last? c.tenant os).getD base < 0) ∧
    (∀ (sources : Sources) (r : Request), (last? r.caller.tenant os).getD base < 0 →
      let a := read (ofOverrides base os) sources r
      a.result = fetch sources r r.first ∧ a.anomalies = []) ∧
    ∀ (sources : Sources) (r : Request) (n : Nat), (last? r.caller.tenant os).getD base = n →
      let a := read (ofOverrides base os) sources r
      let found := start r.first r.target r.items r.catalog n
      a.result = found.result.bind (fetch sources r) ∧ a.anomalies = found.anomalies := by
  have hbound (tenant : UInt64) :
      (ofOverrides base os).bound tenant = (last? tenant os).getD base :=
    bound_ofOverrides base os tenant
  refine ⟨fun c => hbound c.tenant, fun base' os' => ofOverrides_eq_iff, ?_, ?_, ?_, ?_, ?_⟩
  · rintro before o o' behind rfl hne
    exact ofOverrides_eq_iff.mpr ⟨rfl, last?_swap hne before behind⟩
  · rintro before o between o' behind rfl heq
    exact ofOverrides_eq_iff.mpr ⟨rfl, last?_superseded heq before between behind⟩
  · intro c sources
    rw [← hbound]
    exact passes_items_over_iff
  · intro sources r hneg
    rw [← hbound] at hneg
    exact read_of_neg hneg
  · intro sources r n hn
    rw [← hbound] at hn
    exact read_of_natural hn

namespace Sample

/-- Tenant 1 is given two bounds and tenant 8 a negative one. -/
def overrides : List (UInt64 × Int) := [(1, 4), (8, -1), (1, 0)]

end Sample

/-- What was set first for tenant 1 leaves nothing behind, but a bound that equals the base bound
does. -/
theorem last_override_counts_sample :
    ofOverrides 2 Sample.overrides = ofOverrides 2 [(8, -1), (1, 0)] ∧
    ofOverrides 2 Sample.overrides ≠ ofOverrides 2 ((9, 2) :: Sample.overrides) ∧
    (read (ofOverrides 2 Sample.overrides) Window.Sample.failing Window.Sample.request).result =
      (start Window.Sample.january Window.Sample.june Window.Sample.items Window.Sample.catalog
        0).result.bind (fetch Window.Sample.failing Window.Sample.request) ∧
    (read (ofOverrides 2 Sample.overrides) Window.Sample.failing
      { Window.Sample.request with caller := ⟨1, 8⟩ }).anomalies = [] := by
  obtain ⟨-, hsame, -, hsuperseded, -, hneg, hread⟩ := last_override_counts 2 Sample.overrides
  refine ⟨hsuperseded [] (1, 4) [(8, -1)] (1, 0) [] rfl rfl, ?_, ?_, ?_⟩
  · intro heq
    exact absurd (((hsame 2 _).mp heq).2 9) (by decide)
  · exact (hread Window.Sample.failing Window.Sample.request 0 (by decide)).1
  · exact (hneg Window.Sample.failing { Window.Sample.request with caller := ⟨1, 8⟩ } (by decide)).2

end Settings

end Lookback
