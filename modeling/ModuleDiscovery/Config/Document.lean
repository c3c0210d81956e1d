import ModuleDiscovery.Config.Basic
import ModuleDiscovery.Config.Error
import ModuleDiscovery.Json.Parser
import ModuleDiscovery.Toml.Document

/-!
# Configurations on disk

A configuration lies in a directory as `rove.toml` or as the field `rove` of
`package.json`.  `Config.find?` looks for it there and `Config.ofFile` reads it; the
paths it names are seen from the directory it lies in.
-/

namespace ModuleDiscovery

namespace Config

/-- The name of a file that holds a configuration. -/
def documentName : String := "rove.toml"

/-- The name of a file of which one field holds a configuration. -/
def packageName : String := "package.json"

/-- The name of that field. -/
def packageField : String := "rove"

/-! ## Finding -/

/-- Whether the text of a package file has a configuration in it. -/
def announced (text : String) : Bool :=
  match (Json.parse? text).bind (·.get? packageField) with
  | some value => !value.isNull
  | none => false

/-- The file in a directory that holds its configuration. -/
def find? (disk : Disk) (root : Path) : Option Path :=
  let document := root.join documentName
  let package := root.join packageName
  if disk.exists? document then some document
  else
    match disk.readText package with
    | .ok text => if announced text then some package else none
    | .error _ => none

/-- The file to use: the given one, seen from the working directory, or else the one
that is found there. -/
def file? (disk : Disk) (given : Option Path) (cwd : Path) : Option Path :=
  match given with
  | some path => some (cwd.join path)
  | none => find? disk cwd

/-! ## Reading -/

/-- A configuration given as JSON. -/
def ofJson (value : Json) : Except ConfigError Config :=
  (decode value).mapError fun e => .invalidValue "config" e.message

/-- The value in the text of a package file. -/
def packageValue (text : String) : Except ConfigError Json :=
  match Json.parse? text with
  | none => .error (.malformed packageName "Invalid JSON: ")
  | some package =>
    match package.get? packageField with
    | none => .error (.invalidValue packageField "Add a 'rove' field to your package.json")
    | some .null => .error (.invalidValue packageField "The 'rove' field cannot be null")
    | some value => .ok value

/-- The value in the text of any other file. -/
def documentValue (text : String) : Except ConfigError Json :=
  match Toml.parse? text with
  | none => .error (.malformed "toml" "Invalid TOML syntax: ")
  | some value => .ok value

/-- The value in a file. -/
def fileValue (disk : Disk) (path : Path) : Except ConfigError Json := do
  let text ← (disk.readText path).mapError (.unreadable path)
  if path.fileName = some (Utf8.encode packageName) then packageValue text else documentValue text

/-- The directory that the paths in a file are seen from. -/
def baseOf (path : Path) : Path :=
  path.parent.getD "."

/-- The configuration in a file. -/
def ofFile (disk : Disk) (path : Path) : Except ConfigError Config := do
  let value ← fileValue disk path
  let config ← ofJson value
  return config.resolve (baseOf path)

/-- The configuration of a directory. -/
def ofDirectory (disk : Disk) (root : Path) : Except ConfigError Config :=
  match find? disk root with
  | some path => ofFile disk path
  | none => .error (.notFound root)

/-- The configuration of the working directory. -/
def discover (disk : Disk) : Except ConfigError Config := do
  let cwd ← disk.cwd.mapError (.unreadable ".")
  ofDirectory disk cwd

end Config

end ModuleDiscovery
