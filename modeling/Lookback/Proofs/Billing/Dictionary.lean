import Lookback.Proofs.Billing.Catalog
import Mathlib.Data.Set.Card

/-! A catalog is the dictionary that its definitions make when they are entered one after the other.
The first of them whose name is taken is refused, so that no entry is ever replaced. -/
namespace Lookback

/-- A table of definitions under names. -/
abbrev Dictionary := String → Option UsageDefinition

namespace Catalog

variable {c c' : Catalog} {d : UsageDefinition} {ds : List UsageDefinition} {n : String}
  {seen : List String} {t u : Dictionary} {e : Error}

/-- Enters a definition under its name, unless the name is taken. -/
def enter (t : Dictionary) (d : UsageDefinition) : Except Error Dictionary :=
  match t d.name with
  | some _ => .error (.duplicateDefinition d.name)
  | none => .ok (Function.update t d.name (some d))

/-- The names that were seen are those that are taken. -/
theorem foldlM_enter (hseen : ∀ n, n ∈ seen ↔ (t n).isSome) :
    ds.foldlM enter t = match repeated? seen ds with
      | some n => .error (.duplicateDefinition n)
      | none => .ok fun n => (t n).or (ds.find? fun d => d.name = n) := by
  induction ds generalizing seen t with
  | nil => simp [repeated?, pure, Except.pure]
  | cons d ds ih =>
    rw [List.foldlM_cons, repeated?]
    by_cases hd : d.name ∈ seen
    · obtain ⟨e, he⟩ := Option.isSome_iff_exists.mp ((hseen d.name).mp hd)
      simp only [enter, he, if_pos hd]
      rfl
    · have hfree : t d.name = none := by
        rw [← Option.not_isSome_iff_eq_none, ← hseen]
        exact hd
      have hseen' : ∀ n, n ∈ d.name :: seen ↔ (Function.update t d.name (some d) n).isSome := by
        intro n
        rw [List.mem_cons]
        by_cases hn : n = d.name
        · simp [hn]
        · rw [Function.update_of_ne hn, ← hseen]
          simp [hn]
      have htable : (fun n => (Function.update t d.name (some d) n).or
          (ds.find? fun d => d.name = n)) = fun n => (t n).or ((d :: ds).find? fun d => d.name = n) := by
        funext n
        by_cases hn : n = d.name
        · subst hn
          simp [hfree]
        · have hne : d.name ≠ n := fun h => hn h.symm
          simp [Function.update_of_ne hn, hne]
      simp only [enter, hfree, if_neg hd, bind, Except.bind]
      rw [ih hseen', htable]

theorem ofDefinitions_of_repeated (h : repeated? [] ds = some n) :
    ofDefinitions ds = .error (.duplicateDefinition n) := by
  unfold ofDefinitions
  split
  · rename_i m hm
    cases h.symm.trans hm
    rfl
  · rename_i hnone
    cases h.symm.trans hnone

theorem definitions_of_ofDefinitions (h : ofDefinitions ds = .ok c) : c.definitions = ds := by
  unfold ofDefinitions at h
  split at h
  · cases h
  · cases h
    rfl

theorem nodup_of_ofDefinitions (h : ofDefinitions ds = .ok c) :
    (ds.map UsageDefinition.name).Nodup := by
  rw [← definitions_of_ofDefinitions h]
  exact c.nodup

theorem map_get?_ofDefinitions : (ofDefinitions ds).map get? = ds.foldlM enter fun _ => none := by
  have hseen : ∀ n, n ∈ ([] : List String) ↔ ((fun _ => none : Dictionary) n).isSome := by simp
  rw [foldlM_enter hseen]
  cases hr : repeated? [] ds with
  | some n => rw [ofDefinitions_of_repeated hr]; rfl
  | none =>
    rw [ofDefinitions_eq_ok (repeated?_eq_none_iff.mp hr).1]
    simp only [Option.none_or]
    rfl

/-- The first repeated name belongs to the first definition whose name stands before it. -/
theorem repeated?_eq_some_iff : repeated? seen ds = some n ↔
    ∃ before d behind, ds = before ++ d :: behind ∧ repeated? seen before = none ∧
      (d.name ∈ seen ∨ d.name ∈ before.map UsageDefinition.name) ∧ d.name = n := by
  induction ds generalizing seen with
  | nil => simp [repeated?]
  | cons d ds ih =>
    by_cases hd : d.name ∈ seen
    · rw [repeated?, if_pos hd, Option.some.injEq]
      constructor
      · intro hn
        exact ⟨[], d, ds, rfl, rfl, Or.inl hd, hn⟩
      · rintro ⟨before, e, behind, heq, hnone, -, hn⟩
        cases before with
        | nil =>
          cases heq
          exact hn
        | cons b before =>
          cases heq
          rw [repeated?, if_pos hd] at hnone
          cases hnone
    · rw [repeated?, if_neg hd, ih]
      constructor
      · rintro ⟨before, e, behind, rfl, hnone, hseen, hn⟩
        refine ⟨d :: before, e, behind, rfl, ?_, ?_, hn⟩
        · rw [repeated?, if_neg hd]
          exact hnone
        · simp only [List.mem_cons, List.map_cons] at hseen ⊢
          tauto
      · rintro ⟨before, e, behind, heq, hnone, hseen, hn⟩
        cases before with
        | nil =>
          cases heq
          simp only [List.map_nil, List.not_mem_nil, or_false] at hseen
          exact absurd hseen hd
        | cons b before =>
          cases heq
          rw [repeated?, if_neg hd] at hnone
          refine ⟨before, e, behind, rfl, hnone, ?_, hn⟩
          simp only [List.mem_cons, List.map_cons] at hseen ⊢
          tauto

theorem ofDefinitions_eq_error_iff : ofDefinitions ds = .error e ↔
    ∃ before d behind, ds = before ++ d :: behind ∧
      (before.map UsageDefinition.name).Nodup ∧ d.name ∈ before.map UsageDefinition.name ∧
      e = .duplicateDefinition d.name := by
  have hrep (m : String) : repeated? [] ds = some m ↔ ∃ before d behind, ds = before ++ d :: behind ∧
      (before.map UsageDefinition.name).Nodup ∧ d.name ∈ before.map UsageDefinition.name ∧
      d.name = m := by
    rw [repeated?_eq_some_iff]
    simp [repeated?_eq_none_iff]
  constructor
  · intro h
    cases hr : repeated? [] ds with
    | none =>
      rw [ofDefinitions_eq_ok (repeated?_eq_none_iff.mp hr).1] at h
      cases h
    | some m =>
      rw [ofDefinitions_of_repeated hr] at h
      cases h
      obtain ⟨before, d, behind, hds, hnodup, hd, rfl⟩ := (hrep m).mp hr
      exact ⟨before, d, behind, hds, hnodup, hd, rfl⟩
  · rintro ⟨before, d, behind, hds, hnodup, hd, rfl⟩
    exact ofDefinitions_of_repeated ((hrep d.name).mpr ⟨before, d, behind, hds, hnodup, hd, rfl⟩)

theorem definitions_nodup (c : Catalog) : c.definitions.Nodup := c.nodup.of_map

theorem perm_iff_get?_eq : c.definitions.Perm c'.definitions ↔ c.get? = c'.get? := by
  rw [List.perm_ext_iff_of_nodup c.definitions_nodup c'.definitions_nodup]
  constructor
  · intro h
    funext n
    apply Option.ext
    intro d
    rw [get?_eq_some_iff, get?_eq_some_iff, h d]
  · intro h d
    have hd := get?_eq_some_iff (c := c) (d := d) (n := d.name)
    rw [h, get?_eq_some_iff] at hd
    simpa using hd.symm

theorem beq_iff : c == c' ↔ c.size = c'.size ∧ ∀ d ∈ c.definitions, c'.get? d.name = some d := by
  show (c.size == c'.size && c.definitions.all fun d => c'.get? d.name = some d) = true ↔ _
  simp

theorem beq_iff_perm : c == c' ↔ c.definitions.Perm c'.definitions := by
  rw [beq_iff]
  constructor
  · rintro ⟨hsize, hget⟩
    have hsub : c.definitions ⊆ c'.definitions := by
      intro d hd
      exact (get?_eq_some_iff.mp (hget d hd)).1
    exact (List.subperm_of_subset c.definitions_nodup hsub).perm_of_length_le hsize.ge
  · intro h
    refine ⟨h.length_eq, ?_⟩
    intro d hd
    exact get?_eq_some_iff.mpr ⟨h.subset hd, rfl⟩

/-- As many names are in use as there are definitions. -/
theorem ncard_names (c : Catalog) : {n | (c.get? n).isSome}.ncard = c.size := by
  have hnames : {n | (c.get? n).isSome} =
      ((c.definitions.map UsageDefinition.name).toFinset : Set String) := by
    ext n
    simp [Option.isSome_iff_exists, get?_eq_some_iff]
  rw [hnames, Set.ncard_coe_finset, List.toFinset_card_of_nodup c.nodup, List.length_map, size]

/-- Definitions make a catalog exactly if their names are pairwise distinct. Otherwise the first whose
name stands before it is refused. A catalog is the dictionary into which the definitions are entered
one after the other: it has each of them under its own name and nothing else, with as many names as
definitions and with their periods in order. Two catalogs are equal exactly if they have the same
entries, which is if one's definitions are those of the other in some order. -/
theorem ofDefinitions_faithful (ds : List UsageDefinition) :
    ((∃ c, ofDefinitions ds = .ok c) ↔ (ds.map UsageDefinition.name).Nodup) ∧
    (∀ e, ofDefinitions ds = .error e ↔ ∃ before d behind, ds = before ++ d :: behind ∧
      (before.map UsageDefinition.name).Nodup ∧ d.name ∈ before.map UsageDefinition.name ∧
      e = .duplicateDefinition d.name) ∧
    (ofDefinitions ds).map get? = ds.foldlM enter (fun _ => none) ∧
    ∀ c, ofDefinitions ds = .ok c →
      (∀ n d, c.get? n = some d ↔ d ∈ ds ∧ d.name = n) ∧
      (c.size = ds.length ∧ {n | (c.get? n).isSome}.ncard = ds.length) ∧
      (c.periods.Sublist Period.all ∧ ∀ p, p ∈ c.periods ↔ ∃ d ∈ ds, d.period = p) ∧
      (∀ d ∈ c.definitions, c.get? d.name = some d) ∧
      ∀ ds' c', ofDefinitions ds' = .ok c' →
        (c == c' ↔ ds.Perm ds') ∧ (c == c' ↔ c.get? = c'.get?) := by
  refine ⟨⟨?_, ?_⟩, ?_, map_get?_ofDefinitions, ?_⟩
  · rintro ⟨c, h⟩
    exact nodup_of_ofDefinitions h
  · intro h
    exact ⟨_, ofDefinitions_eq_ok h⟩
  · intro e
    exact ofDefinitions_eq_error_iff
  · intro c h
    obtain rfl := definitions_of_ofDefinitions h
    refine ⟨?_, ⟨rfl, ncard_names c⟩, ⟨List.filter_sublist, ?_⟩, ?_, ?_⟩
    · intro n d
      exact get?_eq_some_iff
    · intro p
      exact mem_periods
    · intro d hd
      exact get?_eq_some_iff.mpr ⟨hd, rfl⟩
    · intro ds' c' h'
      obtain rfl := definitions_of_ofDefinitions h'
      exact ⟨beq_iff_perm, by rw [beq_iff_perm, perm_iff_get?_eq]⟩

namespace Sample

def calls : UsageDefinition := ⟨"calls", .monthly⟩

def storage : UsageDefinition := ⟨"storage", .quarterly⟩

/-- Calls again, billed otherwise. -/
def yearlyCalls : UsageDefinition := ⟨"calls", .annual⟩

end Sample

/-- Two names in either order make equal catalogs, and a third definition that takes one of the names
is refused. -/
theorem ofDefinitions_faithful_swapped : ∃ c c',
    ofDefinitions [Sample.calls, Sample.storage] = .ok c ∧
    ofDefinitions [Sample.storage, Sample.calls] = .ok c' ∧
    c == c' ∧ c'.get? "calls" = some Sample.calls ∧
    ofDefinitions [Sample.calls, Sample.storage, Sample.yearlyCalls] =
      .error (.duplicateDefinition "calls") := by
  obtain ⟨hok, -, -, hcatalog⟩ := ofDefinitions_faithful [Sample.calls, Sample.storage]
  obtain ⟨hok', -, -, hcatalog'⟩ := ofDefinitions_faithful [Sample.storage, Sample.calls]
  obtain ⟨-, herror, -, -⟩ :=
    ofDefinitions_faithful [Sample.calls, Sample.storage, Sample.yearlyCalls]
  obtain ⟨c, hc⟩ := hok.mpr (by decide)
  obtain ⟨c', hc'⟩ := hok'.mpr (by decide)
  refine ⟨c, c', hc, hc', ?_, ?_, ?_⟩
  · obtain ⟨-, -, -, -, heq⟩ := hcatalog c hc
    exact (heq [Sample.storage, Sample.calls] c' hc').1.mpr (.swap _ _ _)
  · obtain ⟨hget, -⟩ := hcatalog' c' hc'
    exact (hget "calls" Sample.calls).mpr ⟨by decide, rfl⟩
  · exact (herror _).mpr ⟨[Sample.calls, Sample.storage], Sample.yearlyCalls, [], rfl, by decide,
      by decide, rfl⟩

end Catalog

end Lookback
