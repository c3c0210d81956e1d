import ModuleDiscovery.Config.Document
import ModuleDiscovery.Environment.Basic
import ModuleDiscovery.Environment.Value

/-!
# Layers of a configuration

A configuration is put together from four layers: empty values, a file, the
environment, and flags.  A layer is a list of fields in the order of their names, and
an upper layer replaces the fields of a lower one; only the external specifiers among
the flags are added to those below.  The fields of the file and of the flags are written
out and read again, so their paths have to be text.  `Config.layered` reads the whole as one
configuration, whose paths are seen from the working directory.
-/

namespace ModuleDiscovery

/-- Fields of a configuration by their names. -/
abbrev Layer := List (String × Json)

namespace Layer

/-- A layer with another one on top of it. -/
def under (lower upper : Layer) : Layer :=
  upper.foldl (fun fields (name, value) => Json.insertField name value fields) lower

end Layer

/-! ## The environment -/

namespace Environment

/-- What the names of variables start with, in upper or lower case. -/
def opening : List Char := ['R', 'O', 'V', 'E', '_']

/-- The rest of a name behind its opening. -/
def dropOpening? : List Char → List Char → Option (List Char)
  | [], name => some name
  | _ :: _, [] => none
  | b :: opening, c :: name => if b = c.toUpper then dropOpening? opening name else none

/-- The path of the field a variable sets, in lower case. -/
def fieldPath? (name : String) : Option (List String) := do
  let rest ← dropOpening? opening (trimBlank name.toList)
  let parts := ((trimBlank rest).map Char.toLower).splitOn '.'
  if [] ∈ parts then none else some (parts.map String.ofList)

/-- A value inside objects with the given field names. -/
def nest (value : Setting) : List String → Setting
  | [] => value
  | name :: path => .fields [(name, nest value path)]

/-- The field a variable sets. -/
def setting? (name value : String) : Option (String × Setting) :=
  match fieldPath? name with
  | some (field :: path) => some (field, nest (parseValue value) path)
  | _ => none

/-- The fields that variables set; of two for one field the later counts. -/
def settings (environment : Environment) : List (String × Setting) :=
  (environment.filterMap fun (name, value) => setting? name value).foldl
    (fun fields (name, value) => Json.insertField name value fields) []

/-- The fields that variables set, as JSON. -/
def layer (environment : Environment) : Layer :=
  environment.settings.map fun (name, value) => (name, value.toJson)

/-- Whether the contents of a module are set to one character, which is neither a text
nor bytes. -/
def hasCharContents (environment : Environment) : Bool :=
  match environment.settings.lookup "modules" with
  | some modules =>
    modules.items.any fun m => ((m.field? "contents" 2).map Setting.isChar).getD false
  | none => false

end Environment

/-! ## Flags -/

/-- Settings given on the command line. -/
structure Flags where
  main : Option Path
  root : Option Path
  nodeCompat : Option NodeCompat
  /-- Specifiers that are added to those of lower layers. -/
  external : List String
  deriving DecidableEq, Repr

namespace Flags

/-- No flags. -/
def empty : Flags := ⟨none, none, none, []⟩

/-- A field, if it has a value. -/
def field (name : String) (value : Option String) : Layer :=
  (value.map fun text => (name, Json.str text)).toList

/-- Whether the paths among flags are text. -/
def isText (flags : Flags) : Bool :=
  flags.main.all Path.isText && flags.root.all Path.isText

/-- The fields that flags replace, with paths as they are shown. -/
def layer (flags : Flags) : Layer :=
  field "main" (flags.main.map Path.text) ++
    field "node_compat" (flags.nodeCompat.map NodeCompat.name) ++
    field "root" (flags.root.map Path.text)

/-- A list with more names behind it; anything else gives way to the names. -/
def addNames (names : List String) : Option Json → Json
  | some (.arr items) => .arr (items ++ names.map .str)
  | _ => .ofStrings names

/-- Puts flags on top of fields. -/
def apply (flags : Flags) (fields : Layer) : Layer :=
  let fields := Layer.under fields flags.layer
  if flags.external.isEmpty then fields
  else Json.insertField "external" (addNames flags.external (fields.lookup "external")) fields

end Flags

/-! ## All together -/

namespace Config

/-- The fields of all layers together, with paths as they are shown. -/
def layers (file : Option Config) (environment : Environment) (flags : Flags) : Layer :=
  let fields := (file.getD empty).layer
  flags.apply (Layer.under fields environment.layer)

/-- The fields of all layers together.  Those of the file and of the flags are written out
first, and a path that is not text cannot be. -/
def layers? (file : Option Config) (environment : Environment) (flags : Flags) : Option Layer :=
  if (file.getD empty).isText && flags.isText then some (layers file environment flags) else none

/-- Records in a list, each of which may itself be written as a list; what stands there
behind its three fields is dropped. -/
def dropSurplus : Json → Json
  | .arr records => .arr <| records.map fun
    | .arr items => .arr (items.take 3)
    | record => record
  | value => value

/-- The configuration that fields spell.  What stands behind the last field of a rule or
a module is not looked at here. -/
def ofLayer (fields : Layer) : Except DecodeError Config :=
  decode <| .obj <| fields.map fun (name, value) =>
    (name, if name = "rules" ∨ name = "modules" then dropSurplus value else value)

/-- The configuration of all layers together. -/
def layered (file : Option Config) (environment : Environment) (flags : Flags) (cwd : Path) :
    Except ConfigError Config := do
  if environment.hasCharContents then throw (.malformed "configuration" "")
  let some fields := layers? file environment flags | throw (.malformed "configuration" "")
  let config ← (ofLayer fields).mapError fun _ => .malformed "configuration" ""
  return config.resolve cwd

/-- The configuration of a file, if there is one, under the environment and flags. -/
def load (disk : Disk) (file : Option Path) (environment : Environment) (flags : Flags) (cwd : Path) :
    Except ConfigError Config := do
  let file ← file.mapM (ofFile disk)
  layered file environment flags cwd

end Config

end ModuleDiscovery
