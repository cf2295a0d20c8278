import Lookback.Proofs.Environment.Precedence

/-! Settings from the nearest file against settings from the same file by its path. They are the same
if the file can be loaded. If it cannot, the path is refused while the nearest file passes for one that
ends early. -/
namespace Lookback.Settings

open Environment

variable {e : Environment} {f : File} {files : List File} {path : String}

theorem ofEnvironment_of_find (h : files.find? File.isRegular = some f) :
    ofEnvironment e files = ((e.load f).1, ofLookup (e.load f).1.get?) := by
  rw [ofEnvironment_eq, File.nearest, h, Option.getD_some]

/-- Only the value under the key is looked up. -/
theorem ofLookup_congr {lookup lookup' : String → Option String} (h : lookup key = lookup' key) :
    ofLookup lookup = ofLookup lookup' := by
  rw [ofLookup, ofLookup, h]

theorem get?_load_of_unset (h : e.get? key = none) :
    (e.load f).1.get? key = (e.assignments f.applied).lookup key := by
  rw [File.get?_load, get?_followedBy, h, Option.none_or]

/-- The nearest file and its path leave the same environment. Both give the same settings, or the same
refusal, if the file can be loaded; if not, the path is refused, and the nearest file gives what the
environment says then. So they agree exactly if the file can be loaded or the environment is refused
too. If the key was unset, its value is the first in front of the line that cannot be read, and without
one the default is taken, whatever stands behind that line. -/
theorem ofEnvironment_agrees_iff (e : Environment) (files : List File) (f : File) (path : String)
    (h : files.find? File.isRegular = some f) :
    let near := ofEnvironment e files
    let named := ofFile e path f
    near.1 = named.1 ∧
    (f.isLoadable → near.2 = named.2) ∧
    (f.isLoadable = false → near.2 = ofLookup near.1.get? ∧
      ∃ reason, named.2 = .error (.file path reason)) ∧
    ((∀ s, near.2 = .ok s ↔ named.2 = .ok s) ↔
      f.isLoadable ∨ ∃ err, ofLookup near.1.get? = .error err) ∧
    (e.get? key = none → match (e.assignments f.applied).lookup key with
      | some raw => near.2 = ofLookup fun _ => some raw
      | none => near.2 = .ok default) := by
  intro near named
  have hnear : near = ((e.load f).1, ofLookup (e.load f).1.get?) := ofEnvironment_of_find h
  have hunset (hkey : e.get? key = none) : match (e.assignments f.applied).lookup key with
      | some raw => near.2 = ofLookup fun _ => some raw
      | none => near.2 = .ok default := by
    have hload := get?_load_of_unset (f := f) hkey
    rw [hnear]
    split
    · rename_i raw hraw
      exact ofLookup_congr (hload.trans hraw)
    · rename_i hnone
      simp only [ofLookup, hload.trans hnone]
  rw [hnear] at hunset ⊢
  cases hf : f.isLoadable with
  | true =>
    have hnamed : named = _ := ofFile_of_loadable hf path
    rw [hnamed]
    exact ⟨rfl, fun _ => rfl, nofun, by simp, hunset⟩
  | false =>
    obtain ⟨reason, hreason⟩ := ofFile_of_not_loadable hf e path
    have hnamed : named = _ := hreason
    rw [hnamed]
    refine ⟨rfl, nofun, fun _ => ⟨rfl, reason, rfl⟩, ?_, hunset⟩
    cases ofLookup (e.load f).1.get? with
    | ok s => simp
    | error err => simp

namespace Sample

/-- The line of the key comes after one that cannot be read. -/
def broken : File := Environment.Sample.text ("bad\n" ++ key ++ "=5")

end Sample

/-- The same file is refused by its path, but with a key that is set to an integer it gives settings as
the nearest file. If the key is set to anything else, both refuse. -/
theorem ofEnvironment_agrees_iff_broken :
    [File.directory, Sample.broken].find? File.isRegular = some Sample.broken ∧
    (¬ ∀ s, (ofEnvironment ⟨[(key, "7")]⟩ [.directory, Sample.broken]).2 = .ok s ↔
      (ofFile ⟨[(key, "7")]⟩ ".env" Sample.broken).2 = .ok s) ∧
    ∀ s, (ofEnvironment ⟨[(key, "two")]⟩ [.directory, Sample.broken]).2 = .ok s ↔
      (ofFile ⟨[(key, "two")]⟩ ".env" Sample.broken).2 = .ok s := by
  obtain ⟨-, -, -, hseven, -⟩ := ofEnvironment_agrees_iff ⟨[(key, "7")]⟩
    [.directory, Sample.broken] Sample.broken ".env" rfl
  obtain ⟨-, -, -, htwo, -⟩ := ofEnvironment_agrees_iff ⟨[(key, "two")]⟩
    [.directory, Sample.broken] Sample.broken ".env" rfl
  refine ⟨rfl, ?_, htwo.mpr (Or.inr ⟨.notAnInteger "two", by decide +kernel⟩)⟩
  intro hsame
  rcases hseven.mp hsame with hloadable | ⟨err, herr⟩
  · exact absurd hloadable (by decide +kernel)
  · have hok : ofLookup (ofEnvironment ⟨[(key, "7")]⟩ [.directory, Sample.broken]).1.get? =
        .ok (ofBase 7) := by decide +kernel
    cases hok.symm.trans herr

/-- From the nearest file the default bound is taken without a word, though the file gives the key
another one in a line that can be read, and is refused by its path. -/
theorem default_despite_assignment :
    [Sample.broken].find? File.isRegular = some Sample.broken ∧
    (∃ l ∈ Sample.broken.lines, isReadable l ∧ assignment? ⟨[]⟩ l = some (key, "5")) ∧
    (ofEnvironment ⟨[]⟩ [Sample.broken]).2 = .ok default ∧
    (ofFile ⟨[]⟩ ".env" Sample.broken).2 =
      .error (.file ".env" "Error parsing line: 'bad', error at line index: 3") := by
  refine ⟨rfl, ⟨(key ++ "=5").toUTF8.toList, ?_, ?_, ?_⟩, ?_, ?_⟩ <;> decide +kernel

end Lookback.Settings
