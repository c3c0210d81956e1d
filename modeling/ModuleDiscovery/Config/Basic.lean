import ModuleDiscovery.NodeCompat
import ModuleDiscovery.Path.Clean
import ModuleDiscovery.Rule
import ModuleDiscovery.Walk.Basic

/-!
# Configurations

A configuration names the entrypoint or lists the modules, and says how to look
at the files in between.  `Config.resolve` makes its paths independent of where
it was written down.
-/

namespace ModuleDiscovery

/-- A configuration. -/
structure Config where
  /-- The entrypoint. -/
  main : Option Path
  /-- The directory that module names are relative to. -/
  root : Option Path
  nodeCompat : NodeCompat
  /-- Specifiers that the platform provides besides its own. -/
  external : List String
  rules : List ModuleRule
  /-- Modules listed by hand. -/
  modules : List ModuleDefinition
  deriving DecidableEq, Repr

namespace Config

/-- The configuration that says nothing. -/
def empty : Config := ⟨none, none, .none, [], [], []⟩

/-! ## Reading and writing -/

/-- Takes one field of a configuration. -/
def put (config : Config) (key : String) (value : Json) : Except DecodeError Config :=
  if key = "main" then do
    let main ← Decoder.optional ModuleDefinition.decodePath value
    return { config with main }
  else if key = "root" then do
    let root ← Decoder.optional ModuleDefinition.decodePath value
    return { config with root }
  else if key = "node_compat" then do
    let nodeCompat ← NodeCompat.decode value
    return { config with nodeCompat }
  else if key = "external" then do
    let external ← Decoder.list Decoder.string value
    return { config with external }
  else if key = "rules" then do
    let rules ← Decoder.list ModuleRule.decode value
    return { config with rules }
  else if key = "modules" then do
    let modules ← Decoder.list ModuleDefinition.decode value
    return { config with modules }
  else return config

/-- The fields in their order of declaration. -/
def fieldNames : List String :=
  ["main", "root", "node_compat", "external", "rules", "modules"]

/-- Reads a configuration; fields that are not there keep their empty values. -/
def decode : Decoder Config
  | .obj entries => Decoder.fields empty put .ok entries
  | .arr items => do
    let config ← (fieldNames.zip items).foldlM (fun config (key, value) => put config key value) empty
    unless items.length ≤ fieldNames.length do throw (Decoder.tooMany items.length)
    return config
  | found => .error (.invalidType found "struct RoveConfig")

/-- An optional path as a field, as it is shown; left out when it is not there. -/
def encodePath (key : String) : Option Path → List (String × Json)
  | none => []
  | some path => [(key, .str path.text)]

/-- The fields of a configuration, with its paths as they are shown. -/
def layer (config : Config) : List (String × Json) :=
  [("external", .ofStrings config.external)] ++ encodePath "main" config.main ++
  [("modules", .arr (config.modules.map ModuleDefinition.encode)),
    ("node_compat", .str config.nodeCompat.name)] ++ encodePath "root" config.root ++
  [("rules", .arr (config.rules.map ModuleRule.encode))]

/-- Whether all paths of a configuration are text.  A path that is not cannot be written. -/
def isText (config : Config) : Bool :=
  config.main.all Path.isText && config.root.all Path.isText &&
    config.modules.all (·.path.isText)

/-! ## Paths -/

/-- Makes every path of a configuration one that is seen from `base`.  Without a root
of its own the configuration gets `base` as its root. -/
def resolve (base : Path) (config : Config) : Config :=
  let fromBase (path : Path) : Path := (base.join path).clean
  { config with
    main := config.main.map fromBase
    root := some (match config.root with
      | none => base.clean
      | some root => fromBase root)
    modules := config.modules.map fun d => { d with path := fromBase d.path } }

/-- The options of a walk under this configuration, whose root is `fallback` when
the configuration has none. -/
def walkOptions (config : Config) (fallback : Path) : WalkOptions where
  root := config.root.getD fallback
  rules := config.rules
  nodeCompat := config.nodeCompat
  external := config.external

end Config

end ModuleDiscovery
