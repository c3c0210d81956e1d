import ModuleDiscovery.Text.Utf8

/-!
# Slash-separated paths

A path keeps the bytes it was written with.  They need not be text: a system asks of
the name of a file only that it has no zero and no slash in it.  `Path.text?` is the text
of a path that is one, and `Path.text` shows any path, with U+FFFD where its bytes are
malformed.

Everything else looks at the segments of a path: `/` at the front, `.` at the front of a
relative path, `..`, and names.  Empty parts and any other `.` are not segments,
so `a//b/./c/` and `a/b/c` have the same ones.

`Path.join` and `Path.parent` are the two ways to get from one path to another;
`Path.clean`, in `ModuleDiscovery.Path.Clean`, resolves `.` and `..`.
-/

namespace ModuleDiscovery

/-- A path as it was written. -/
structure Path where
  bytes : Bytes
  deriving DecidableEq, Repr, Inhabited

/-- One step of a path. -/
inductive Segment where
  /-- The `/` an absolute path starts with. -/
  | root
  /-- A `.` at the front of a relative path. -/
  | here
  /-- A `..`. -/
  | up
  /-- A file or directory name. -/
  | name (bytes : Bytes)
  deriving DecidableEq, Repr, Inhabited

namespace Segment

/-- The byte between two segments. -/
abbrev slash : UInt8 := 0x2F

/-- The byte that `.` and `..` are made of. -/
abbrev dot : UInt8 := 0x2E

/-- The segment a part stands for, unless it stands for none. -/
def ofPart? (part : Bytes) : Option Segment :=
  if part = [] ∨ part = [dot] then none
  else if part = [dot, dot] then some up
  else some (name part)

/-- The part that spells a segment; the root has none. -/
def toPart : Segment → Bytes
  | root => []
  | here => [dot]
  | up => [dot, dot]
  | name bytes => bytes

/-- The characters that show a segment. -/
def shown (segment : Segment) : List Char :=
  (Utf8.decodeLossy segment.toPart).toList

/-- The segments of some bytes. -/
def ofBytes (bytes : Bytes) : List Segment :=
  match bytes.splitOn slash with
  | [] => []
  | part :: parts =>
    let front :=
      if part = [] then (if parts = [] then [] else [root])
      else if part = [dot] then [here]
      else (ofPart? part).toList
    front ++ parts.filterMap ofPart?

/-- Segments one after the other, each in its spelling, with separators between them.  The
root is a separator in front. -/
def spell {α : Type} (separator : α) (spelling : Segment → List α) : List Segment → List α
  | root :: rest => separator :: [separator].intercalate (rest.map spelling)
  | segments => [separator].intercalate (segments.map spelling)

/-- The fewest bytes with the given segments. -/
def toBytes : List Segment → Bytes :=
  spell slash toPart

/-- The characters that show segments. -/
def toChars : List Segment → List Char :=
  spell '/' shown

end Segment

namespace Path

/-! ## Texts -/

/-- The path that a text spells. -/
def ofText (text : String) : Path :=
  ⟨Utf8.encode text⟩

instance : Coe String Path := ⟨ofText⟩

/-- The text of a path, if it is one. -/
def text? (p : Path) : Option String :=
  Utf8.decode? p.bytes

/-- Whether a path is text. -/
def isText (p : Path) : Bool :=
  p.text?.isSome

/-- The text that shows a path. -/
def text (p : Path) : String :=
  Utf8.decodeLossy p.bytes

/-! ## Segments -/

/-- The segments of a path. -/
def segments (p : Path) : List Segment :=
  Segment.ofBytes p.bytes

/-- The path with the given segments and nothing superfluous. -/
def ofSegments (segments : List Segment) : Path :=
  ⟨Segment.toBytes segments⟩

/-- Whether two paths have the same segments. -/
def Same (p q : Path) : Prop :=
  p.segments = q.segments

instance (p q : Path) : Decidable (p.Same q) :=
  inferInstanceAs (Decidable (p.segments = q.segments))

/-- Whether the path starts at the root. -/
def isAbsolute (p : Path) : Bool :=
  p.bytes.head? = some Segment.slash

/-- The text that shows a path without superfluous slashes and dots. -/
def slashed (p : Path) : String :=
  String.ofList (Segment.toChars p.segments)

/-- `other` seen from `p`: an absolute path stands for itself, any other is put
behind `p` with one slash between, unless `p` is empty or already ends in one. -/
def join (p other : Path) : Path :=
  if other.isAbsolute then other
  else
    match p.bytes.getLast? with
    | none => other
    | some last =>
      if last = Segment.slash then ⟨p.bytes ++ other.bytes⟩
      else ⟨p.bytes ++ Segment.slash :: other.bytes⟩

/-- The path without its last segment; the empty path and the root have none. -/
def parent (p : Path) : Option Path :=
  match p.segments.getLast? with
  | none => none
  | some .root => none
  | some _ => some (ofSegments p.segments.dropLast)

/-- The last segment, when it is a name. -/
def fileName (p : Path) : Option Bytes :=
  match p.segments.getLast? with
  | some (.name bytes) => some bytes
  | _ => none

end Path

end ModuleDiscovery
