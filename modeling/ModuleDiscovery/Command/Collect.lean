import ModuleDiscovery.Command.Basic
import ModuleDiscovery.Config.Validation
import ModuleDiscovery.Manifest

/-!
# Collecting a manifest

The command puts the configuration together, collects the modules it asks for, and
writes their manifest.  An entry on the command line is always walked; without one,
modules that are declared come before the entrypoint.
-/

namespace ModuleDiscovery

namespace Command

/-- Where the modules of a configuration come from. -/
def sourceOf (config : Config) (entryGiven : Bool) (runtime : Runtime) : Command ModuleSource :=
  if !entryGiven && !config.modules.isEmpty then return .listed config.modules
  else
    match config.main with
    | some main => follow (fun e => .collect (.module e)) (ModuleSource.ofFile runtime main)
    | none => throw (.config .noEntrypoint)

/-- The modules of a configuration. -/
def gather (s : Surroundings) (config : Config) (entryGiven : Bool) (cwd : Path) :
    Command (List WorkerModule) := do
  let runtime := s.disk.runtime
  let source ← sourceOf config entryGiven runtime
  follow .collect (collectModules source (config.walkOptions cwd) runtime s.parser)

/-- Prints a manifest, or writes it to a file. -/
def deliver (disk : Disk) (cwd : Path) (count : Nat) (manifest : String) : Option Path → Command Unit
  | none => print manifest
  | some output => do
    let path := cwd.join output
    write disk path (Utf8.encode manifest)
    tell .success s!"Wrote {count} modules to {path.text}"

/-- Collects the modules of a build and delivers their manifest. -/
def collect (s : Surroundings) (entry : Option Path) (flags : Flags) (given : Option Path)
    (format : ManifestFormat) (output : Option Path) : Command Unit := do
  let cwd ← workingDirectory s
  let config ← loadConfig s (Config.file? s.disk given cwd) flags cwd
  pass .config config.validate
  let modules ← gather s config entry.isSome cwd
  note (.manifestReady modules.length)
  deliver s.disk cwd modules.length (Manifest.render modules format) output

end Command

end ModuleDiscovery
