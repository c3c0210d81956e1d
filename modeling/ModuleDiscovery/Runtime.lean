import ModuleDiscovery.Path.Clean
import ModuleDiscovery.Text.Utf8

/-!
# Where files come from

Discovery asks its surroundings two things: the working directory, and the bytes
of a file by its path.  Both can fail.  Discovery recurses through files, so the
surroundings also list the files that can be read; `Runtime.FinitelyServed` says
that no others can.
-/

namespace ModuleDiscovery

/-- Why a file or the working directory cannot be had. -/
inductive RuntimeError where
  | fileNotFound (path : Path)
  /-- Any other failure, in the words of the system. -/
  | failed (text : String)
  deriving DecidableEq, Repr

/-- The text of an error. -/
def RuntimeError.message : RuntimeError → String
  | fileNotFound path => s!"File not found: {path.text}"
  | failed text => s!"I/O error: {text}"

/-- The surroundings of a discovery. -/
structure Runtime where
  cwd : Except RuntimeError Path
  readFile : Path → Except RuntimeError Bytes
  /-- Paths of files that can be read. -/
  served : List Path

namespace Runtime

/-- Every file that can be read by a resolved path is listed. -/
def FinitelyServed (runtime : Runtime) : Prop :=
  ∀ path bytes, path.clean = path → runtime.readFile path = .ok bytes →
    ∃ listed ∈ runtime.served, listed.Same path

/-- The contents listed for a path, found by its segments. -/
def lookup? (files : List (Path × Except String Bytes)) (path : Path) : Option (Except String Bytes) :=
  (files.find? fun entry => entry.1.segments = path.segments).map Prod.snd

/-- Surroundings that serve a list of files; a listed file may also fail to be read. -/
def ofFiles (cwd : Except RuntimeError Path) (files : List (Path × Except String Bytes)) : Runtime where
  cwd := cwd
  readFile path :=
    match lookup? files path with
    | none => .error (.fileNotFound path)
    | some (.error text) => .error (.failed text)
    | some (.ok bytes) => .ok bytes
  served := files.map Prod.fst

end Runtime

end ModuleDiscovery
