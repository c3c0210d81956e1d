import ModuleDiscovery.Command.Basic
import ModuleDiscovery.Config.Validation

/-!
# Checking a configuration

The command reads the configuration, checks it and looks for the files it names, but
walks none of them.
-/

namespace ModuleDiscovery

namespace Command

/-- Tells what a valid configuration says. -/
def summarize (config : Config) : Command Unit := do
  tell .success "Configuration is valid!"
  match config.main with
  | some main => tell .info s!"  entrypoint: {main.text}"
  | none => pure ()
  tell .info s!"  node compat: {config.nodeCompat.name}"
  tell .info s!"  {config.rules.length} rules, {config.modules.length} declared modules"

/-- Checks the configuration of a directory. -/
def check (s : Surroundings) (given : Option Path) : Command Unit := do
  let cwd ← workingDirectory s
  match Config.file? s.disk given cwd with
  | none => throw (.config (.notFound cwd))
  | some file =>
    tell .info s!"Checking {file.text}..."
    let config ← loadConfig s (some file) Flags.empty cwd
    pass .config (config.validateFiles s.disk.isFile cwd)
    summarize config

end Command

end ModuleDiscovery
