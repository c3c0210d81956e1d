import ModuleDiscovery.Text.Quoted

/-!
# Pieces of a text by bytes

Each character of a text begins at a place: the number of bytes in front of it.  The
piece between two places holds the characters that begin there.  It can be cut out
only where no character lies across one of its ends.
-/

namespace ModuleDiscovery

/-- Why a piece cannot be cut out: one of its ends lies inside a character. -/
structure SliceError where
  /-- Whether that is the end in front. -/
  inFront : Bool
  place : Nat
  char : Char
  /-- The place where the character begins. -/
  beginning : Nat
  deriving DecidableEq, Repr

/-- The text of an error. -/
def SliceError.message (e : SliceError) : String :=
  let side := if e.inFront then "start" else "end"
  let shown := String.ofList (Quoted.escapeChar e.char)
  let ending := e.beginning + e.char.utf8Size
  s!"{side} byte index {e.place} is not a char boundary; " ++
    "it is inside '" ++ shown ++ s!"' (bytes {e.beginning}..{ending} of string)"

namespace Slice

/-- The size of a text in bytes. -/
def size (text : List Char) : Nat :=
  text.foldr (fun c size => c.utf8Size + size) 0

/-- The characters of a text with the places where they begin, counted from `place`. -/
def placed (place : Nat) : List Char → List (Nat × Char)
  | [] => []
  | c :: rest => (place, c) :: placed (place + c.utf8Size) rest

/-- The character that lies across a place, with the place where it begins. -/
def across? (text : List Char) (place : Nat) : Option (Nat × Char) :=
  (placed 0 text).find? fun (beginning, c) => beginning < place && place < beginning + c.utf8Size

/-- The piece between two places; of two errors the one in front counts. -/
def between (text : List Char) (front back : Nat) : Except SliceError (List Char) :=
  match across? text front, across? text back with
  | some (beginning, c), _ => .error ⟨true, front, c, beginning⟩
  | none, some (beginning, c) => .error ⟨false, back, c, beginning⟩
  | none, none =>
    .ok (((placed 0 text).filter fun (beginning, _) => front ≤ beginning && beginning < back).map Prod.snd)

end Slice

end ModuleDiscovery
