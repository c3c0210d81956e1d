import ModuleDiscovery.Text.Slice
import ModuleDiscovery.Text.Utf8

/-!
# Lines and columns

A parser reports a place in a source as a byte offset of 32 bits; a reader wants a
line and a column.  Lines end at a line feed and nowhere else, columns count
characters, and both start at one.

The offsets at which the lines of a source start are gathered once.  The line of an
offset is then found by halving the table, and its column by counting the characters
from the start of that line.
-/

namespace ModuleDiscovery

/-- A place in a source text. -/
structure Position where
  line : Nat
  column : Nat
  deriving DecidableEq, Repr, Inhabited

/-- Halves the `size` places from `base` on until one is left: the last of them that does
not come later than what is looked for, or `base` when all do. -/
def narrow (later : Nat → Bool) (base size : Nat) : Nat :=
  if size ≤ 1 then base
  else
    let half := size / 2
    narrow later (if later (base + half) then base else base + half) (size - half)
termination_by size

/-- Halving does not leave the places it started with. -/
theorem narrow_lt (later : Nat → Bool) (base : Nat) {size : Nat} (hsize : 0 < size) :
    narrow later base size < base + size := by
  fun_induction narrow later base size with
  | case1 base size hone => omega
  | case2 base size hmore half ih =>
      have hnext := ih (by omega)
      split at hnext <;> simp_all <;> omega

/-- The offsets at which the lines of a source start. -/
structure LineIndex where
  starts : Array UInt32
  /-- There is a first line. -/
  size_pos : 0 < starts.size

namespace LineIndex

/-- The byte that ends a line. -/
def lineFeed : UInt8 := 10

/-- The offsets behind the line feeds among some bytes, the first of which is at `offset`. -/
def startsBehind (offset : Nat) : Bytes → List UInt32
  | [] => []
  | byte :: rest =>
    if byte = lineFeed then UInt32.ofNat (offset + 1) :: startsBehind (offset + 1) rest
    else startsBehind (offset + 1) rest

/-- The lines of a source. -/
def ofSource (source : String) : LineIndex where
  starts := ((0 : UInt32) :: startsBehind 0 (Utf8.encode source)).toArray
  size_pos := by simp

/-- The place of an offset in the table, or the place where it would have to be put in. -/
def search (index : LineIndex) (offset : UInt32) : Except Nat Nat :=
  let place := narrow (fun place => index.starts[place]?.any (offset < ·)) 0 index.starts.size
  match index.starts[place]? with
  | some start =>
    if start = offset then .ok place
    else .error (if start < offset then place + 1 else place)
  | none => .error place

/-- The line of an offset, counted from zero. -/
def line (index : LineIndex) (offset : UInt32) : Nat :=
  match index.search offset with
  | .ok place => place
  | .error place => place - 1

/-- The line of an offset is in the table. -/
theorem line_lt (index : LineIndex) (offset : UInt32) :
    index.line offset < index.starts.size := by
  have hplace := narrow_lt (fun place => index.starts[place]?.any (offset < ·)) 0 index.size_pos
  unfold line search
  grind

/-- The offset at which the line of an offset starts. -/
def start (index : LineIndex) (offset : UInt32) : UInt32 :=
  have hline := index.line_lt offset
  index.starts[index.line offset]

/-- The number of characters between two offsets, or zero when one of them lies inside a
character. -/
def columnsBetween (source : String) (start stop : Nat) : Nat :=
  match Slice.between source.toList start stop with
  | .ok piece => piece.length
  | .error _ => 0

/-- The line and column of an offset.  An offset inside a character has no column of its
own and is put at column one; an offset past the end stops at the end. -/
def position (index : LineIndex) (source : String) (offset : UInt32) : Position :=
  let stop := min offset.toNat source.utf8ByteSize
  let column := columnsBetween source (index.start offset).toNat stop
  ⟨(UInt32.ofNat (index.line offset) + 1).toNat, (UInt32.ofNat column + 1).toNat⟩

end LineIndex

/-- The line and column of an offset in a source. -/
def Position.ofOffset (source : String) (offset : Nat) : Position :=
  (LineIndex.ofSource source).position source (UInt32.ofNat offset)

end ModuleDiscovery
