import Lookback.Environment.Settings
import Lookback.Proofs.Environment.Line
import Mathlib.Data.List.Basic

/-! Which value a variable has after any loads. The one it had before them stays. Otherwise it is the
first that is given to it by a line, in the order of the loads and of their lines, of which those behind
a line that cannot be read do not count. -/
namespace Lookback

namespace Environment

variable {e e' : Environment} {as bs : List (String × String)} {l : List UInt8}
  {ls : List (List UInt8)} {name : String} {f : File} {files : List File}

/-- An environment and assignments behind it. The first value of a variable counts. -/
def followedBy (e : Environment) (as : List (String × String)) : Environment := ⟨e.bindings ++ as⟩

theorem get?_followedBy : (e.followedBy as).get? name = (e.get? name).or (as.lookup name) :=
  List.lookup_append

theorem followedBy_append : (e.followedBy as).followedBy bs = e.followedBy (as ++ bs) := by
  rw [followedBy, followedBy, followedBy, List.append_assoc]

theorem followedBy_congr (h : e.get? = e'.get?) :
    (e.followedBy as).get? = (e'.followedBy as).get? := by
  funext name
  rw [get?_followedBy, get?_followedBy, h]

theorem get?_setIfUnset_eq (e : Environment) (name v : String) :
    (e.setIfUnset name v).get? = (e.followedBy [(name, v)]).get? := by
  funext other
  rw [get?_setIfUnset, get?_followedBy]
  by_cases h : other = name
  · rw [if_pos h, h, List.lookup_cons_self]
  · rw [if_neg h, List.lookup_cons, beq_false_of_ne h]
    rfl

theorem reference?_congr (h : e.get? = e'.get?) : e.reference? = e'.reference? := by
  funext name
  simp only [reference?, h]

theorem assignment?_congr (h : e.get? = e'.get?) : e.assignment? l = e'.assignment? l := by
  simp only [assignment?, reference?_congr h]

/-- The assignments of lines one after the other. What a line refers to has the value that it was given
before. -/
def assignments (e : Environment) : List (List UInt8) → List (String × String)
  | [] => []
  | l :: ls =>
    match e.assignment? l with
    | none => e.assignments ls
    | some a => a :: (e.followedBy [a]).assignments ls

theorem assignments_congr (h : e.get? = e'.get?) : e.assignments ls = e'.assignments ls := by
  induction ls generalizing e e' with
  | nil => rfl
  | cons l ls ih =>
    simp only [assignments, assignment?_congr h]
    split
    · exact ih h
    · rw [ih (followedBy_congr h)]

theorem loadLines_of_readable (h : isReadable l) : e.loadLines (l :: ls) =
    match e.assignment? l with
    | none => e.loadLines ls
    | some (name, v) => (e.setIfUnset name v).loadLines ls := by
  cases htext : String.fromUTF8? ⟨l.toArray⟩ with
  | none =>
    rw [isReadable_eq_false htext] at h
    cases h
  | some line =>
    rw [isReadable_eq htext e.reference?] at h
    rw [loadLines, htext]
    cases hread : readLine e.reference? line with
    | error err =>
      rw [hread] at h
      cases h
    | ok a =>
      rw [assignment?_eq htext hread]
      cases a <;> simp only [hread]

theorem loadLines_of_not_readable (h : isReadable l = false) (e : Environment)
    (ls : List (List UInt8)) : ∃ err, e.loadLines (l :: ls) = (e, .error err) := by
  rw [loadLines]
  cases htext : String.fromUTF8? ⟨l.toArray⟩ with
  | none => exact ⟨_, rfl⟩
  | some line =>
    rw [isReadable_eq htext e.reference?] at h
    cases hread : readLine e.reference? line with
    | error err => exact ⟨.line err, by simp only [hread]⟩
    | ok a =>
      rw [hread] at h
      cases h

/-- Lines leave the environment with the assignments of those that are read. -/
theorem get?_loadLines : (e.loadLines ls).1.get? =
    (e.followedBy (e.assignments (ls.takeWhile isReadable))).get? := by
  induction ls generalizing e with
  | nil => rw [loadLines, List.takeWhile_nil, assignments, followedBy, List.append_nil]
  | cons l ls ih =>
    cases h : isReadable l with
    | true =>
      rw [loadLines_of_readable h, List.takeWhile_cons_of_pos h, assignments]
      cases e.assignment? l with
      | none => exact ih
      | some a =>
        have hset := get?_setIfUnset_eq e a.1 a.2
        simp only [ih, assignments_congr hset]
        rw [followedBy_congr hset, followedBy_append, List.singleton_append]
    | false =>
      obtain ⟨err, herr⟩ := loadLines_of_not_readable h e ls
      rw [herr, List.takeWhile_cons_of_neg (by simp [h]), assignments, followedBy,
        List.append_nil]

theorem loadLines_eq_ok_iff : (e.loadLines ls).2 = .ok () ↔ ls.all isReadable := by
  induction ls generalizing e with
  | nil => simp [loadLines]
  | cons l ls ih =>
    rw [List.all_cons, Bool.and_eq_true]
    cases h : isReadable l with
    | true =>
      rw [loadLines_of_readable h, and_iff_right rfl]
      cases e.assignment? l <;> exact ih
    | false =>
      obtain ⟨err, herr⟩ := loadLines_of_not_readable h e ls
      simp [herr]

end Environment

namespace File

open Environment

variable {e : Environment} {f : File} {files : List File}

/-- The lines of a regular file. -/
def lines : File → List (List UInt8)
  | .regular contents => Environment.lines contents
  | .missing | .directory => []

/-- The lines of a file in front of the first that cannot be read. -/
def applied (f : File) : List (List UInt8) := f.lines.takeWhile isReadable

def isRegular : File → Bool
  | .regular _ => true
  | .missing | .directory => false

/-- A regular file in which every line can be read. -/
def isLoadable (f : File) : Bool := f.isRegular && f.lines.all isReadable

/-- The first regular file, if there is one. -/
def nearest (files : List File) : File := (files.find? isRegular).getD .missing

theorem get?_load : (e.load f).1.get? = (e.followedBy (e.assignments f.applied)).get? := by
  cases f with
  | regular contents => exact get?_loadLines
  | missing | directory =>
    rw [load, applied, lines, List.takeWhile_nil, assignments, followedBy, List.append_nil]

theorem load_eq_ok_iff : (e.load f).2 = .ok () ↔ f.isLoadable := by
  cases f with
  | regular contents => exact loadLines_eq_ok_iff
  | missing | directory => simp [load, isLoadable, isRegular]

theorem exists_load_error (h : f.isLoadable = false) (e : Environment) :
    ∃ err, (e.load f).2 = .error err := by
  cases hload : (e.load f).2 with
  | error err => exact ⟨err, rfl⟩
  | ok u =>
    rw [load_eq_ok_iff.mp hload] at h
    cases h

theorem loadNearest_eq : e.loadNearest files = e.load (nearest files) := by
  induction files with
  | nil => rfl
  | cons f files ih =>
    cases f with
    | regular contents => rfl
    | missing | directory => exact ih

end File

namespace Settings

variable {e : Environment} {f : File} {files : List File} {path : String}

theorem ofFile_of_loadable (h : f.isLoadable) (path : String) :
    ofFile e path f = ((e.load f).1, ofLookup (e.load f).1.get?) := by
  have hload : (e.load f).2 = .ok () := File.load_eq_ok_iff.mpr h
  simp only [ofFile, hload]

theorem ofFile_of_not_loadable (h : f.isLoadable = false) (e : Environment) (path : String) :
    ∃ reason, ofFile e path f = ((e.load f).1, .error (.file path reason)) := by
  obtain ⟨err, hload⟩ := File.exists_load_error h e
  exact ⟨err.message, by simp only [ofFile, hload]⟩

theorem ofFile_fst : (ofFile e path f).1 = (e.load f).1 := by
  cases h : f.isLoadable with
  | true => rw [ofFile_of_loadable h]
  | false =>
    obtain ⟨reason, hfile⟩ := ofFile_of_not_loadable h e path
    rw [hfile]

theorem ofEnvironment_eq : ofEnvironment e files =
    ((e.load (File.nearest files)).1, ofLookup (e.load (File.nearest files)).1.get?) := by
  rw [ofEnvironment, File.loadNearest_eq]

end Settings

/-- A call for settings, after a load of the file under a path or of the nearest of some files. -/
inductive Load
  | file (path : String) (f : File)
  | nearest (files : List File)

namespace Load

variable {e : Environment} {c : Load} {s : Settings}

/-- What is loaded. -/
def source : Load → File
  | .file _ f => f
  | .nearest files => File.nearest files

/-- The environment after the call, and what the call answers. -/
def run (e : Environment) : Load → Environment × Except Settings.Error Settings
  | .file path f => Settings.ofFile e path f
  | .nearest files => Settings.ofEnvironment e files

theorem run_fst : (c.run e).1 = (e.load c.source).1 := by
  cases c with
  | file path f => exact Settings.ofFile_fst
  | nearest files => rw [run, Settings.ofEnvironment_eq, source]

/-- Settings come from the environment that the call leaves. -/
theorem ofLookup_of_run (h : (c.run e).2 = .ok s) :
    Settings.ofLookup (c.run e).1.get? = .ok s := by
  cases c with
  | file path f =>
    cases hf : f.isLoadable with
    | true =>
      rw [run, Settings.ofFile_of_loadable hf] at h ⊢
      exact h
    | false =>
      obtain ⟨reason, hfile⟩ := Settings.ofFile_of_not_loadable hf e path
      rw [run, hfile] at h
      cases h
  | nearest files =>
    rw [run, Settings.ofEnvironment_eq] at h ⊢
    exact h

end Load

namespace Environment

variable {e e' : Environment} {cs : List Load}

/-- The environment after calls one after the other, also those that fail. -/
def after (e : Environment) (cs : List Load) : Environment := cs.foldl (fun e c => (c.run e).1) e

/-- The assignments of all that the calls load, up to the first line of each that cannot be read. -/
def applied (e : Environment) : List Load → List (String × String)
  | [] => []
  | c :: cs =>
    let as := e.assignments c.source.applied
    as ++ (e.followedBy as).applied cs

theorem get?_run (e : Environment) (c : Load) :
    (c.run e).1.get? = (e.followedBy (e.assignments c.source.applied)).get? := by
  rw [Load.run_fst, File.get?_load]

theorem applied_congr (h : e.get? = e'.get?) : e.applied cs = e'.applied cs := by
  induction cs generalizing e e' with
  | nil => rfl
  | cons c cs ih => simp only [applied, assignments_congr h, ih (followedBy_congr h)]

theorem get?_after : (e.after cs).get? = (e.followedBy (e.applied cs)).get? := by
  induction cs generalizing e with
  | nil => rw [after, List.foldl_nil, applied, followedBy, List.append_nil]
  | cons c cs ih =>
    have hrun := get?_run e c
    rw [after, List.foldl_cons, ← after, ih, applied_congr hrun, followedBy_congr hrun,
      followedBy_append]
    rfl

theorem after_append (e : Environment) (cs ds : List Load) :
    e.after (cs ++ ds) = (e.after cs).after ds :=
  List.foldl_append

/-- After any calls a variable that was set has its old value, and any other has the first that a line
gives to it: files are taken in the order of the calls, also of those that fail, and of each file the
lines in front of the first that cannot be read. Settings are always those of the environment that the
call leaves, and a named file that is no regular one, or has a line that cannot be read, is refused. -/
theorem first_assignment_counts (e : Environment) (cs : List Load) :
    (∀ name v, e.get? name = some v → (e.after cs).get? name = some v) ∧
    (∀ name, e.get? name = none → (e.after cs).get? name = (e.applied cs).lookup name) ∧
    (∀ before c behind s, cs = before ++ c :: behind → (c.run (e.after before)).2 = .ok s →
      Settings.ofLookup (e.after (before ++ [c])).get? = .ok s) ∧
    ∀ before path f behind, cs = before ++ .file path f :: behind → f.isLoadable = false →
      ∃ reason, (Load.run (e.after before) (.file path f)).2 = .error (.file path reason) := by
  refine ⟨?_, ?_, ?_, ?_⟩
  · intro name v h
    rw [get?_after, get?_followedBy, h, Option.some_or]
  · intro name h
    rw [get?_after, get?_followedBy, h, Option.none_or]
  · rintro before c behind s - hok
    rw [after_append]
    exact Load.ofLookup_of_run hok
  · rintro before path f behind - hf
    obtain ⟨reason, hfile⟩ := Settings.ofFile_of_not_loadable hf (e.after before) path
    exact ⟨reason, by rw [Load.run, hfile]⟩

namespace Sample

def text (s : String) : File := .regular s.toUTF8.toList

/-- The third line has no name. -/
def broken : File := text "HOST=file\nUNIT=2\n=3\nTENANT=4"

/-- A directory of the name is passed over. -/
def complete : List File :=
  [.directory, text ("UNIT=5\nTENANT=6\n" ++ Settings.key ++ "=1$UNIT")]

def loads : List Load := [.file "settings" broken, .file "absent" .missing, .nearest complete]

end Sample

/-- The host is the one of the environment, the unit that of the file which could not be read to its
end, and the tenant that of the file after it. The bound refers to the unit. -/
theorem first_assignment_counts_broken :
    let e : Environment := ⟨[("HOST", "environment")]⟩
    (e.after Sample.loads).get? "HOST" = some "environment" ∧
    (e.after Sample.loads).get? "UNIT" = some "2" ∧
    (e.after Sample.loads).get? "TENANT" = some "6" ∧
    (∃ reason, (Load.run e (.file "settings" Sample.broken)).2 =
      .error (.file "settings" reason)) ∧
    Settings.ofLookup (e.after Sample.loads).get? = .ok (.ofBase 12) := by
  intro e
  obtain ⟨hset, hunset, hok, hrefused⟩ := first_assignment_counts e Sample.loads
  refine ⟨hset _ _ rfl, ?_, ?_, ?_, ?_⟩
  · rw [hunset "UNIT" rfl]
    decide +kernel
  · rw [hunset "TENANT" rfl]
    decide +kernel
  · exact hrefused [] "settings" Sample.broken _ rfl (by decide +kernel)
  · refine hok [.file "settings" Sample.broken, .file "absent" .missing] (.nearest Sample.complete)
      [] (.ofBase 12) rfl ?_
    decide +kernel

end Environment

end Lookback
