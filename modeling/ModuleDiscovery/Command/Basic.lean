import ModuleDiscovery.Command.Error
import ModuleDiscovery.Config.Layers
import ModuleDiscovery.Notice

/-!
# Commands

A command reads its surroundings and leaves a transcript: the notices it gave, what it
printed, and the file it wrote.  It does nothing else, so all that can be said about a
run is said about its transcript and its result.

Standard output and standard error take whatever is sent to them: `note` and `print` do not
fail, as they would where a reader has gone or a disk is full.  The file that is written is
a file of its own, not a device that stands for one of the streams, and a write that the
disk does not refuse is complete.  So a run is described as long as these things hold.
-/

namespace ModuleDiscovery

/-- What a command works with. -/
structure Surroundings where
  disk : Disk
  environment : Environment
  parser : SpecifierParser

/-- What a command has done. -/
structure Transcript where
  notices : List Notice
  /-- What went to standard output. -/
  printed : String
  /-- The file that was written. -/
  written : Option (Path × Bytes)
  deriving DecidableEq, Repr

/-- The transcript of a command that has done nothing. -/
def Transcript.empty : Transcript := ⟨[], "", none⟩

/-- A command. -/
abbrev Command (α : Type) := ExceptT CommandError (StateM Transcript) α

namespace Command

/-- Gives notice. -/
def note (notice : Notice) : Command Unit :=
  modifyThe Transcript fun t => { t with notices := t.notices ++ [notice] }

/-- Shows a status line. -/
def tell (mood : Mood) (message : String) : Command Unit :=
  note (.status ⟨mood, message⟩)

/-- Prints a text, all of it. -/
def print (text : String) : Command Unit :=
  modifyThe Transcript fun t => { t with printed := t.printed ++ text }

/-- Writes a file as a whole, unless the disk refuses it. -/
def write (disk : Disk) (path : Path) (bytes : Bytes) : Command Unit :=
  match disk.refusal? path with
  | some cause => throw (.unwritten path cause)
  | none => modifyThe Transcript fun t => { t with written := some (path, bytes) }

/-- The result of a step that leaves no trace. -/
def pass {ε α : Type} (wrap : ε → CommandError) : Except ε α → Command α
  | .ok value => return value
  | .error e => throw (wrap e)

/-- Runs a step that leaves events, and gives notice of them. -/
def follow {ε α : Type} (wrap : ε → CommandError) (step : Logged ε α) : Command α := do
  let (result, events) := step.run []
  modifyThe Transcript fun t => { t with notices := t.notices ++ events.map .discovery }
  pass wrap result

/-- The working directory. -/
def workingDirectory (s : Surroundings) : Command Path :=
  pass .adrift s.disk.cwd

/-- The configuration of a run. -/
def loadConfig (s : Surroundings) (file : Option Path) (flags : Flags) (cwd : Path) :
    Command Config := do
  match file with
  | some path => do
    note (.mergingConfig path)
    note (.loadingConfig path)
  | none => pure ()
  pass .config (Config.load s.disk file s.environment flags cwd)

end Command

end ModuleDiscovery
