import ModuleDiscovery.Collect
import ModuleDiscovery.Config.Error

/-!
# Why a command failed

A command passes on what was wrong with the configuration, the rules or a module, and
has two failures of its own.  Rule and module errors carry a code.
-/

namespace ModuleDiscovery

/-- Why a command failed. -/
inductive CommandError where
  | config (e : ConfigError)
  | collect (e : CollectError)
  /-- The manifest could not be written. -/
  | unwritten (path : Path) (cause : DiskError)
  /-- There is no working directory. -/
  | adrift (cause : DiskError)
  deriving DecidableEq, Repr

/-- The text of an error of a build. -/
def CollectError.message : CollectError → String
  | rule e => e.message
  | module e => e.message
  | tooDeep => "modules lie too deep inside one another"

/-- The code of an error of a build. -/
def CollectError.code : CollectError → Option String
  | rule _ => some "rove::build::invalid_rule"
  | module e => some e.code
  | tooDeep => none

/-- What might help against an error of a build. -/
def CollectError.help : CollectError → Option String
  | module e => e.help
  | _ => none

namespace CommandError

/-- The text of an error; `details` stands for what a format's reader has to say. -/
def message (details : String) : CommandError → String
  | config e => "Configuration error: " ++ e.message details
  | collect e => e.message
  | unwritten path cause => s!"Failed to write {path.text}: {cause.message}"
  | adrift cause => s!"I/O error: {cause.message}"

/-- The code of an error. -/
def code : CommandError → Option String
  | collect e => e.code
  | _ => none

/-- What might help against an error. -/
def help : CommandError → Option String
  | collect e => e.help
  | _ => none

end CommandError

end ModuleDiscovery
