import ModuleDiscovery.Json.Decode

/-!
# Kinds of module content

Every file that becomes a module is loaded as one of seven kinds.  Configuration
files and listings call them by the names of `ContentKind.name`.
-/

namespace ModuleDiscovery

/-- What a module is loaded as. -/
inductive ContentKind where
  | esModule
  | commonJs
  | text
  | data
  | compiledWasm
  | pythonModule
  | pythonRequirement
  deriving DecidableEq, Repr, Inhabited

namespace ContentKind

/-- All kinds in their order of declaration. -/
def all : List ContentKind :=
  [esModule, commonJs, text, data, compiledWasm, pythonModule, pythonRequirement]

/-- The name of a kind. -/
def name : ContentKind → String
  | esModule => "ESModule"
  | commonJs => "CommonJS"
  | text => "Text"
  | data => "Data"
  | compiledWasm => "CompiledWasm"
  | pythonModule => "PythonModule"
  | pythonRequirement => "PythonRequirement"

/-- Reads a kind by its name. -/
def decode : Decoder ContentKind :=
  Decoder.variant (all.map fun kind => (kind.name, kind))

end ContentKind

end ModuleDiscovery
