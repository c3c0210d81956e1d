import ModuleDiscovery.ContentKind
import ModuleDiscovery.Text.Utf8

/-!
# Worker modules

A worker module is what the platform loads: a name and contents of one of eight
sorts.  Seven of them are the kinds of `ContentKind`; the eighth is generated by
the platform for its own Node.js fallbacks and has no kind.
-/

namespace ModuleDiscovery

/-- The contents of a module. -/
inductive ModuleContents where
  | esModule (code : String)
  | commonJs (code : String)
  | text (text : String)
  | data (bytes : Bytes)
  | wasm (bytes : Bytes)
  | pythonModule (code : String)
  | pythonRequirement (text : String)
  | nodeJsCompat (code : String)
  deriving DecidableEq, Repr, Inhabited

namespace ModuleContents

/-- The text of contents that are text. -/
def text? : ModuleContents → Option String
  | esModule s | commonJs s | text s | pythonModule s | pythonRequirement s | nodeJsCompat s => some s
  | data _ | wasm _ => none

/-- The bytes of contents that are bytes. -/
def bytes? : ModuleContents → Option Bytes
  | data bytes | wasm bytes => some bytes
  | _ => none

/-- The number of bytes. -/
def size (contents : ModuleContents) : Nat :=
  match contents.bytes? with
  | some bytes => bytes.length
  | none => (contents.text?.map String.utf8ByteSize).getD 0

/-- The kind of contents; those the platform generates have none. -/
def kind? : ModuleContents → Option ContentKind
  | esModule _ => some .esModule
  | commonJs _ => some .commonJs
  | text _ => some .text
  | data _ => some .data
  | wasm _ => some .compiledWasm
  | pythonModule _ => some .pythonModule
  | pythonRequirement _ => some .pythonRequirement
  | nodeJsCompat _ => none

/-- The bytes of a file as contents of the given kind.  Kinds that are text replace
malformed bytes. -/
def ofBytes (kind : ContentKind) (bytes : Bytes) : ModuleContents :=
  match kind with
  | .esModule => esModule (Utf8.decodeLossy bytes)
  | .commonJs => commonJs (Utf8.decodeLossy bytes)
  | .text => text (Utf8.decodeLossy bytes)
  | .data => data bytes
  | .compiledWasm => wasm bytes
  | .pythonModule => pythonModule (Utf8.decodeLossy bytes)
  | .pythonRequirement => pythonRequirement (Utf8.decodeLossy bytes)

/-! ## Reading and writing contents -/

/-- The JSON field that holds the contents. -/
def fieldName : ModuleContents → String
  | esModule _ => "esModule"
  | commonJs _ => "commonJsModule"
  | text _ => "text"
  | data _ => "data"
  | wasm _ => "wasm"
  | pythonModule _ => "pythonModule"
  | pythonRequirement _ => "pythonRequirement"
  | nodeJsCompat _ => "nodeJsCompatModule"

/-- The value of that field. -/
def encodeValue (contents : ModuleContents) : Json :=
  match contents.bytes? with
  | some bytes => .ofBytes bytes
  | none => .str (contents.text?.getD "")

/-- How the field of the given name is read, if it is one that holds contents. -/
def decoder? (field : String) : Option (Decoder ModuleContents) :=
  let ofText (make : String → ModuleContents) : Decoder ModuleContents := fun value =>
    (Decoder.string value).map make
  let ofByteList (make : Bytes → ModuleContents) : Decoder ModuleContents := fun value =>
    (Decoder.list Decoder.byte value).map make
  match field with
  | "esModule" => some (ofText esModule)
  | "commonJsModule" => some (ofText commonJs)
  | "text" => some (ofText text)
  | "data" => some (ofByteList data)
  | "wasm" => some (ofByteList wasm)
  | "pythonModule" => some (ofText pythonModule)
  | "pythonRequirement" => some (ofText pythonRequirement)
  | "nodeJsCompatModule" => some (ofText nodeJsCompat)
  | _ => none

/-- Reads the first field that holds contents. -/
def decodeFirst : List (String × Json) → Except DecodeError ModuleContents
  | [] => .error .absentContents
  | (field, value) :: rest =>
    match decoder? field with
    | some decode => decode value
    | none => decodeFirst rest

end ModuleContents

/-- A module that is ready to be loaded. -/
structure WorkerModule where
  name : String
  contents : ModuleContents
  deriving DecidableEq, Repr, Inhabited

namespace WorkerModule

/-- The kind of a module. -/
def kind? (m : WorkerModule) : Option ContentKind :=
  m.contents.kind?

/-- A module as JSON, its name first. -/
def encode (m : WorkerModule) : Json :=
  .obj [("name", .str m.name), (m.contents.fieldName, m.contents.encodeValue)]

/-- Reads a module: a name, and a field with its contents. -/
def decode : Decoder WorkerModule
  | .obj entries => do
    let name ← entries.foldlM (fun name (key, value) =>
      if key = "name" then (Decoder.string value).map some else .ok name) none
    let some name := name | throw (.missingField "name")
    let contents ← ModuleContents.decodeFirst entries
    return ⟨name, contents⟩
  | found => .error (.invalidType found "struct WorkerModule")

end WorkerModule

end ModuleDiscovery
