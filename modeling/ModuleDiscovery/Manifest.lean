import ModuleDiscovery.Json.Printer
import ModuleDiscovery.Text.Size
import ModuleDiscovery.WorkerModule

/-!
# Manifests

A manifest lists the modules of a build in their order: as a JSON array, which can be
read back, or as one line per module with its kind, name and size.
-/

namespace ModuleDiscovery

/-- How a manifest is written. -/
inductive ManifestFormat where
  | json
  | text
  deriving DecidableEq, Repr

namespace ManifestFormat

/-- The formats by their names. -/
def spellings : List (String × ManifestFormat) :=
  [("json", json), ("text", text)]

/-- The format with the given name. -/
def parse? (name : String) : Option ManifestFormat :=
  spellings.lookup name

end ManifestFormat

namespace Manifest

/-- What stands for the kind of a module that the platform generates. -/
def generatedKind : String := "NodeJsCompat"

/-- The column that names start in. -/
def kindWidth : Nat := 18

/-- A text filled up with blanks to the given width. -/
def padded (width : Nat) (text : String) : String :=
  text ++ String.ofList (List.replicate (width - text.length) ' ')

/-- The line of a module. -/
def line (m : WorkerModule) : String :=
  let kind := (m.kind?.map ContentKind.name).getD generatedKind
  padded kindWidth kind ++ " " ++ m.name ++ "  " ++ Size.render m.contents.size ++ "\n"

/-- The manifest of some modules. -/
def render (modules : List WorkerModule) : ManifestFormat → String
  | .json => (Json.arr (modules.map WorkerModule.encode)).pretty ++ "\n"
  | .text => String.join (modules.map line)

end Manifest

end ModuleDiscovery
