import ModuleDiscovery.Json.Basic
import ModuleDiscovery.Text.Hex

/-!
# Writing JSON

`compact` writes a value without blanks; `pretty` gives every item and field a
line of its own, indented by two spaces per level, and writes empty arrays and
objects on one line.  Only quotes, backslashes and control characters are
escaped.
-/

namespace ModuleDiscovery

namespace Json

/-- One character inside a string. -/
def escapeChar (c : Char) : List Char :=
  if c = '"' then ['\\', '"']
  else if c = '\\' then ['\\', '\\']
  else if c = '\x08' then ['\\', 'b']
  else if c = '\x0c' then ['\\', 'f']
  else if c = '\n' then ['\\', 'n']
  else if c = '\r' then ['\\', 'r']
  else if c = '\t' then ['\\', 't']
  else if c.toNat < 0x20 then ['\\', 'u', '0', '0', Hex.lowerDigit (c.toNat / 16), Hex.lowerDigit (c.toNat % 16)]
  else [c]

/-- A string with its quotes. -/
def quote (text : String) : List Char :=
  '"' :: text.toList.flatMap escapeChar ++ ['"']

/-- A whole number. -/
def renderInt : Int → List Char
  | .ofNat n => Nat.toDigits 10 n
  | .negSucc n => '-' :: Nat.toDigits 10 (n + 1)

/-- A value that holds no others; nothing for an array or an object. -/
def renderScalar : Json → List Char
  | null => ['n', 'u', 'l', 'l']
  | bool true => ['t', 'r', 'u', 'e']
  | bool false => ['f', 'a', 'l', 's', 'e']
  | int value => renderInt value
  | float value => value.brief.toList
  | str text => quote text
  | arr _ => []
  | obj _ => []

mutual

/-- A value on one line. -/
def compactChars : Json → List Char
  | arr items => '[' :: compactItems true items
  | obj fields => '\x7b' :: compactFields true fields
  | value => renderScalar value

/-- Items of an array with the bracket that closes it. -/
def compactItems (first : Bool) : List Json → List Char
  | [] => [']']
  | item :: rest => (if first then [] else [',']) ++ compactChars item ++ compactItems false rest

/-- Fields of an object with the brace that closes it. -/
def compactFields (first : Bool) : List (String × Json) → List Char
  | [] => ['\x7d']
  | (key, value) :: rest =>
    (if first then [] else [',']) ++ quote key ++ ':' :: compactChars value ++ compactFields false rest

end

/-- A value on one line. -/
def compact (value : Json) : String :=
  String.ofList (compactChars value)

/-- A line break and the blanks before the next line. -/
def newLine (level : Nat) : List Char :=
  '\n' :: List.replicate (2 * level) ' '

mutual

/-- A value over several lines, when it stands at the given level. -/
def prettyChars (level : Nat) : Json → List Char
  | arr [] => ['[', ']']
  | arr (item :: rest) =>
    '[' :: newLine (level + 1) ++ prettyChars (level + 1) item ++ prettyItems level rest
  | obj [] => ['\x7b', '\x7d']
  | obj ((key, value) :: rest) =>
    '\x7b' :: newLine (level + 1) ++ quote key ++ ':' :: ' ' :: prettyChars (level + 1) value ++
      prettyFields level rest
  | value => renderScalar value

/-- Further items of an array with the bracket that closes it. -/
def prettyItems (level : Nat) : List Json → List Char
  | [] => newLine level ++ [']']
  | item :: rest =>
    ',' :: newLine (level + 1) ++ prettyChars (level + 1) item ++ prettyItems level rest

/-- Further fields of an object with the brace that closes it. -/
def prettyFields (level : Nat) : List (String × Json) → List Char
  | [] => newLine level ++ ['\x7d']
  | (key, value) :: rest =>
    ',' :: newLine (level + 1) ++ quote key ++ ':' :: ' ' :: prettyChars (level + 1) value ++
      prettyFields level rest

end

/-- A value over several lines. -/
def pretty (value : Json) : String :=
  String.ofList (prettyChars 0 value)

end Json

end ModuleDiscovery
