import ModuleDiscovery.Config.Basic
import ModuleDiscovery.Config.Error
import ModuleDiscovery.Text.Blank

/-!
# Checking a configuration

`validate` looks at the configuration alone: it needs an entrypoint or modules,
names for all external specifiers, globs in every rule, and globs that can be
read.  `validateFiles` also looks for the files it names.
-/

namespace ModuleDiscovery

namespace Config

/-- Whether a specifier is empty but for blanks. -/
def isBlankName (name : String) : Bool :=
  (trimBlank name.toList).isEmpty

/-- Checks a configuration without looking at files. -/
def validate (config : Config) : Except ConfigError Unit :=
  if config.main.isNone ∧ config.modules.isEmpty then .error .noEntrypoint
  else if config.external.any isBlankName then .error .emptyExternal
  else
    match config.rules.find? (·.globs.isEmpty) with
    | some rule => .error (.emptyRule rule.kind)
    | none =>
      match ModuleRule.compile config.rules with
      | .error e => .error (.invalidRule e)
      | .ok _ => .ok ()

/-- The first module that has no contents and no file. -/
def missingModule? (isFile : Path → Bool) (root : Path) : List ModuleDefinition → Option Path
  | [] => none
  | d :: rest =>
    if d.contents.isNone ∧ ¬ isFile (root.join d.path) then some (root.join d.path)
    else missingModule? isFile root rest

/-- Checks a configuration and looks for its files, which are seen from `root`. -/
def validateFiles (isFile : Path → Bool) (root : Path) (config : Config) : Except ConfigError Unit := do
  config.validate
  match config.main with
  | some main => unless isFile (root.join main) do throw (.entryNotFound (root.join main))
  | none => pure ()
  match missingModule? isFile root config.modules with
  | some path => throw (.moduleNotFound path)
  | none => pure ()

end Config

end ModuleDiscovery
