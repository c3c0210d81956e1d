/-!
# Bytes and their reading as UTF-8

A file is a list of bytes; source text is a list of characters.  `encode` writes
characters as UTF-8.  Reading back is a machine over single bytes: `Partial` is
the character whose bytes have begun to arrive, `step` feeds it one byte, and
every byte sequence that is no character yields one mark `none`.  `decode?`
accepts only sequences without a mark; `decodeLossy` puts U+FFFD for each mark,
one per longest beginning of a character that turns out not to continue.
-/

namespace ModuleDiscovery

/-- The contents of a file. -/
abbrev Bytes := List UInt8

namespace Utf8

/-- The bytes of a text. -/
def encode (text : String) : Bytes :=
  text.toList.flatMap String.utf8EncodeChar

/-- A character of which the leading bytes have arrived: the bits collected so
far, the number of bytes still missing, and the bounds of the next one. -/
structure Partial where
  bits : Nat
  missing : Nat
  lower : Nat
  upper : Nat
  deriving DecidableEq, Repr

/-- Where the machine stands between two bytes. -/
abbrev Stage := Option Partial

/-- Reads a byte that starts a character.  The bounds of the second byte exclude
overlong forms, surrogates and numbers above U+10FFFF. -/
def start (byte : Nat) : List (Option Char) × Stage :=
  if byte < 0x80 then ([some (Char.ofNat byte)], none)
  else if byte < 0xC2 then ([none], none)
  else if byte < 0xE0 then ([], some ⟨byte - 0xC0, 1, 0x80, 0xBF⟩)
  else if byte = 0xE0 then ([], some ⟨0, 2, 0xA0, 0xBF⟩)
  else if byte = 0xED then ([], some ⟨0xD, 2, 0x80, 0x9F⟩)
  else if byte < 0xF0 then ([], some ⟨byte - 0xE0, 2, 0x80, 0xBF⟩)
  else if byte = 0xF0 then ([], some ⟨0, 3, 0x90, 0xBF⟩)
  else if byte < 0xF4 then ([], some ⟨byte - 0xF0, 3, 0x80, 0xBF⟩)
  else if byte = 0xF4 then ([], some ⟨4, 3, 0x80, 0x8F⟩)
  else ([none], none)

/-- Feeds one byte.  A byte that does not continue the pending character marks
that character and is read again as a start. -/
def step (stage : Stage) (byte : Nat) : List (Option Char) × Stage :=
  match stage with
  | none => start byte
  | some p =>
    if p.lower ≤ byte ∧ byte ≤ p.upper then
      let bits := p.bits * 64 + (byte - 0x80)
      if p.missing ≤ 1 then ([some (Char.ofNat bits)], none)
      else ([], some ⟨bits, p.missing - 1, 0x80, 0xBF⟩)
    else
      let (out, next) := start byte
      (none :: out, next)

/-- The characters and marks of a byte list; a character cut off by the end is
one mark. -/
def scan : Stage → Bytes → List (Option Char)
  | none, [] => []
  | some _, [] => [none]
  | stage, byte :: rest =>
    let (out, next) := step stage byte.toNat
    out ++ scan next rest

/-- The text of well-formed bytes. -/
def decode? (bytes : Bytes) : Option String :=
  ((scan none bytes).mapM id).map String.ofList

/-- The text of any bytes, with U+FFFD where they are malformed. -/
def decodeLossy (bytes : Bytes) : String :=
  String.ofList ((scan none bytes).map (·.getD '\uFFFD'))

end Utf8

end ModuleDiscovery
