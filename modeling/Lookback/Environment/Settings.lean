import Lookback.Environment.File
import Lookback.Settings

/-!
Settings from the environment, after a file was loaded into it.
-/
namespace Lookback.Settings

/-- Settings from the environment and the file at a path. A file that cannot be loaded is an error,
though its first lines may have taken effect. -/
def ofFile (e : Environment) (path : String) (file : File) :
    Environment × Except Error Settings :=
  let (e, loaded) := e.load file
  match loaded with
  | .error err => (e, .error (.file path err.message))
  | .ok () => (e, ofLookup e.get?)

/-- Settings from the environment and the nearest of the given files, as far as it can be loaded. -/
def ofEnvironment (e : Environment) (files : List File) : Environment × Except Error Settings :=
  let (e, _) := e.loadNearest files
  (e, ofLookup e.get?)

end Lookback.Settings
