import Lookback.Environment.Basic
import Lookback.Environment.Line

/-!
Settings files loaded into the environment line by line. A line takes effect before the next one is
read, and the first line that cannot be read ends the load.
-/
namespace Lookback

/-- What is found under the name of a file. -/
inductive File
  | missing
  | directory
  | regular (contents : List UInt8)

namespace Environment

inductive LoadError
  | noSuchFile
  | isDirectory
  | notText
  | line (e : LineError)
deriving DecidableEq

def LoadError.message : LoadError → String
  | .noSuchFile => "No such file or directory (os error 2)"
  | .isDirectory => "Is a directory (os error 21)"
  | .notText => "stream did not contain valid UTF-8"
  | .line e => e.message

/-- The lines of a file. A carriage return before the end of a line belongs to the end. -/
def lines : List UInt8 → List (List UInt8)
  | [] => []
  | 10 :: bs => [] :: lines bs
  | 13 :: 10 :: bs => [] :: lines bs
  | b :: bs =>
    match lines bs with
    | [] => [[b]]
    | l :: ls => (b :: l) :: ls

/-- Loads lines in order. -/
def loadLines (e : Environment) : List (List UInt8) → Environment × Except LoadError Unit
  | [] => (e, .ok ())
  | l :: ls =>
    match String.fromUTF8? ⟨l.toArray⟩ with
    | none => (e, .error .notText)
    | some line =>
      match readLine e.reference? line with
      | .error err => (e, .error (.line err))
      | .ok none => e.loadLines ls
      | .ok (some (name, value)) => (e.setIfUnset name value).loadLines ls

def load (e : Environment) : File → Environment × Except LoadError Unit
  | .missing => (e, .error .noSuchFile)
  | .directory => (e, .error .isDirectory)
  | .regular contents => e.loadLines (lines contents)

/-- Loads the first regular file among those of a directory and the directories above it. -/
def loadNearest (e : Environment) : List File → Environment × Except LoadError Unit
  | [] => (e, .error .noSuchFile)
  | .regular contents :: _ => e.load (.regular contents)
  | _ :: files => e.loadNearest files

end Environment

end Lookback
