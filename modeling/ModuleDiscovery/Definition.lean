import ModuleDiscovery.WorkerModule
import ModuleDiscovery.Path.Basic

/-!
# Declared modules

A caller can list modules by hand: the kind and the path of each, and its
contents when they should not be read from the path.
-/

namespace ModuleDiscovery

/-- Contents written into a definition. -/
inductive InlineContents where
  | text (text : String)
  | bytes (bytes : Bytes)
  deriving DecidableEq, Repr

namespace InlineContents

/-- The bytes of inline contents. -/
def toBytes : InlineContents → Bytes
  | text s => Utf8.encode s
  | bytes bs => bs

/-- Reads a text or a list of bytes. -/
def decode : Decoder InlineContents
  | .str s => .ok (text s)
  | value =>
    match Decoder.list Decoder.byte value with
    | .ok bs => .ok (bytes bs)
    | .error _ => .error .unreadableContents

/-- Inline contents as JSON. -/
def encode : InlineContents → Json
  | text s => .str s
  | bytes bs => .ofBytes bs

end InlineContents

/-- A module listed by hand. -/
structure ModuleDefinition where
  kind : ContentKind
  path : Path
  contents : Option InlineContents
  deriving DecidableEq, Repr

namespace ModuleDefinition

/-- What has been read of a definition. -/
structure Draft where
  kind : Option ContentKind
  path : Option Path
  contents : Option InlineContents

/-- Reads a path. -/
def decodePath : Decoder Path := fun value =>
  (Decoder.text "path string" value).map Path.ofText

/-- Takes one field of a definition. -/
def Draft.put (draft : Draft) (key : String) (value : Json) : Except DecodeError Draft :=
  if key = "type" then do
    let kind ← ContentKind.decode value
    return { draft with kind := some kind }
  else if key = "path" then do
    let path ← decodePath value
    return { draft with path := some path }
  else if key = "contents" then do
    let contents ← Decoder.optional InlineContents.decode value
    return { draft with contents := contents }
  else return draft

/-- The definition, when nothing is missing. -/
def Draft.finish (draft : Draft) : Except DecodeError ModuleDefinition :=
  match draft.kind, draft.path with
  | none, _ => .error (.missingField "type")
  | some _, none => .error (.missingField "path")
  | some kind, some path => .ok ⟨kind, path, draft.contents⟩

/-- Reads a definition. -/
def decode : Decoder ModuleDefinition
  | .obj entries => Decoder.fields ⟨none, none, none⟩ Draft.put Draft.finish entries
  | .arr items => do
    let (kind, rest) ← Decoder.nextItem ContentKind.decode items
    let some kind := kind | throw (Decoder.tooFew 0 "ModuleDefinition" 3)
    let (path, rest) ← Decoder.nextItem decodePath rest
    let some path := path | throw (Decoder.tooFew 1 "ModuleDefinition" 3)
    let (contents, rest) ← Decoder.nextItem (Decoder.optional InlineContents.decode) rest
    unless rest.isEmpty do throw (Decoder.tooMany items.length)
    return ⟨kind, path, contents.getD none⟩
  | found => .error (.invalidType found "struct ModuleDefinition")

/-- A definition as JSON, with its path as it is shown; contents that are not there are
left out. -/
def encode (d : ModuleDefinition) : Json :=
  let contents := match d.contents with
    | none => []
    | some contents => [("contents", contents.encode)]
  .obj (contents ++ [("path", .str d.path.text), ("type", .str d.kind.name)])

end ModuleDefinition

end ModuleDiscovery
