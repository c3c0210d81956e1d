import ModuleDiscovery.Disk.Basic
import ModuleDiscovery.Rule

/-!
# What can be wrong with a configuration

A configuration may be missing, unreadable, not in its format, or say something
that cannot be; its files may not be there.
-/

namespace ModuleDiscovery

/-- Why there is no usable configuration. -/
inductive ConfigError where
  | notFound (root : Path)
  | unreadable (path : Path) (cause : DiskError)
  /-- A value that cannot be used, and why. -/
  | invalidValue (field hint : String)
  /-- A document that is not in its format. -/
  | malformed (field format : String)
  | noEntrypoint
  | emptyRule (kind : ContentKind)
  | invalidRule (e : RuleError)
  | emptyExternal
  | entryNotFound (path : Path)
  | moduleNotFound (path : Path)
  deriving DecidableEq, Repr

/-- The text of an error; `details` stands for what a format's reader has to say. -/
def ConfigError.message (details : String) : ConfigError → String
  | notFound root => s!"no rove.toml or package.json \"rove\" field found in {root.text}"
  | unreadable path cause => s!"failed to read {path.text}: {cause.message}"
  | invalidValue field hint => s!"invalid config value for '{field}': {hint}"
  | malformed field format => s!"invalid config value for '{field}': {format}{details}"
  | noEntrypoint => "no entrypoint: set `main` or declare `modules`"
  | emptyRule kind => s!"{kind.name} rule must list at least one glob"
  | invalidRule e => e.message
  | emptyExternal => "external specifiers cannot be empty"
  | entryNotFound path => s!"entrypoint not found: {path.text}"
  | moduleNotFound path => s!"module path not found: {path.text}"

end ModuleDiscovery
