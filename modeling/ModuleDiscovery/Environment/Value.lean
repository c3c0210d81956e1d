import ModuleDiscovery.Decimal.Whole
import ModuleDiscovery.Json.Basic
import ModuleDiscovery.Text.Blank
import ModuleDiscovery.Text.Hex

/-!
# Values of environment variables

The text of a variable can be a truth value, a string in double quotes, one character
in single quotes, a list in brackets, fields in braces, or a bare word, which is a
number when it looks like one.  A text that is none of these as a whole stands for
itself.

    true    "a b"    'c'    [a, "b c", 3]    {main = a.mjs, external = [b]}
-/

namespace ModuleDiscovery

/-- The value of a variable.  One character is told from a text of one character. -/
inductive Setting where
  | plain (value : Json)
  | char (c : Char)
  | list (items : List Setting)
  | fields (entries : List (String × Setting))
  deriving Repr, Inhabited

namespace Setting

mutual

/-- A setting as JSON, where a character is a text. -/
def toJson : Setting → Json
  | plain value => value
  | char c => .str (String.singleton c)
  | list items => .arr (toJsons items)
  | fields entries => .obj (toFields entries)

/-- Settings as JSON. -/
def toJsons : List Setting → List Json
  | [] => []
  | s :: rest => toJson s :: toJsons rest

/-- Fields as JSON. -/
def toFields : List (String × Setting) → List (String × Json)
  | [] => []
  | (name, s) :: rest => (name, toJson s) :: toFields rest

end

/-- Whether the setting is one character. -/
def isChar : Setting → Bool
  | char _ => true
  | _ => false

/-- The items of a list. -/
def items : Setting → List Setting
  | list items => items
  | _ => []

/-- A field, which in a list is the item at its place. -/
def field? (name : String) (place : Nat) : Setting → Option Setting
  | list items => items[place]?
  | fields entries => entries.lookup name
  | _ => none

end Setting

namespace Environment

/-- Whether a character may stand around a value. -/
def isSpace (c : Char) : Bool :=
  c = ' ' || c = '\t' || c = '\n' || c = '\x0c' || c = '\r'

/-- Whether a character ends a bare word. -/
def isSeparator (c : Char) : Bool :=
  c = ',' || c = '\x7b' || c = '\x7d' || c = '[' || c = ']'

/-! ## Bare words -/

/-- Splits at the first character that satisfies `p`, which is dropped. -/
def splitFirst (p : Char → Bool) (text : List Char) : List Char × Option (List Char) :=
  match text.dropWhile (!p ·) with
  | [] => (text, none)
  | _ :: rest => (text.takeWhile (!p ·), some rest)

/-- A sign at the front: whether it is a minus, and the rest. -/
def takeSign : List Char → Bool × List Char
  | '-' :: rest => (true, rest)
  | '+' :: rest => (false, rest)
  | text => (false, text)

/-- The exponent of a number, held within bounds far beyond those of doubles. -/
def exponent? : Option (List Char) → Option Int
  | none => some 0
  | some text =>
    let (negative, digits) := takeSign text
    if digits.isEmpty ∨ digits.any (!·.isDigit) then none
    else
      let size := (Whole.readDigits 100000 0 digits).getD 100000
      some (if negative then -(size : Int) else size)

/-- A number with a point.  One of its two sides may be empty; a number beyond all
doubles is the largest of its sign. -/
def fraction? (word : List Char) : Option Binary64 := do
  let (negative, body) := takeSign word
  let (mantissa, power) := splitFirst (fun c => c = 'e' || c = 'E') body
  let (whole, some places) := splitFirst (· = '.') mantissa | none
  let digits := whole ++ places
  if digits.isEmpty ∨ digits.any (!·.isDigit) then none
  let power ← exponent? power
  let value := digits.foldl (fun value c => value * 10 + Whole.digitValue c) 0
  let largest : Binary64 := ⟨negative, Nat.pow 2 53 - 1, Binary64.maxExponent⟩
  return (Binary64.ofDecimal negative value (power - places.length)).getD largest

/-- A whole number of 64 bits. -/
def whole? : List Char → Option Int
  | '-' :: digits => (Whole.ofDigits? (Nat.pow 2 63 + 1) digits).map fun n => -(n : Int)
  | word => (Whole.parse? (Nat.pow 2 64) word).map fun n => (n : Int)

/-- The value of a bare word. -/
def bareValue (word : List Char) : Json :=
  match fraction? word, whole? word with
  | some x, _ => .float x
  | none, some n => .int n
  | none, none => .str (String.ofList word)

/-! ## Strings -/

/-- The character that a letter behind a backslash stands for. -/
def simpleEscape? : Char → Option Char
  | '"' => some '"'
  | '\\' => some '\\'
  | 'b' => some '\x08'
  | 'f' => some '\x0c'
  | 'n' => some '\n'
  | 'r' => some '\r'
  | 't' => some '\t'
  | _ => none

/-- Whether a character may stand in a string as it is. -/
def isPlain (c : Char) : Bool :=
  c = '\t' || (' ' ≤ c && c ≠ '\x7f')

/-- The rest of a string up to its closing quote, and what follows. -/
def stringRest : List Char → Option (List Char × List Char)
  | [] => none
  | '"' :: rest => some ([], rest)
  | '\\' :: 'u' :: a :: b :: c :: d :: rest =>
    (Hex.char? [a, b, c, d]).bind fun char => putFirst char (stringRest rest)
  | '\\' :: 'U' :: a :: b :: c :: d :: e :: f :: g :: h :: rest =>
    (Hex.char? [a, b, c, d, e, f, g, h]).bind fun char => putFirst char (stringRest rest)
  | '\\' :: c :: rest => (simpleEscape? c).bind fun char => putFirst char (stringRest rest)
  | c :: rest => if isPlain c then putFirst c (stringRest rest) else none
where
  /-- Puts a character in front of what was read. -/
  putFirst (c : Char) (read : Option (List Char × List Char)) : Option (List Char × List Char) :=
    read.map fun (text, rest) => (c :: text, rest)

/-! ## Values -/

/-- A reader gives what stands at the front of a text, and the rest. -/
abbrev Reader (α : Type) := List Char → Option (α × List Char)

/-- Items with commas between them, and perhaps one behind the last, up to and with the
closing bracket.  The first argument bounds their number. -/
def items {α : Type} (item : Reader α) (closing : Char) : Nat → Reader (List α)
  | 0, _ => none
  | count + 1, text =>
    if text.head? = some closing then some ([], text.tail)
    else do
      let (first, rest) ← item text
      match rest with
      | ',' :: rest =>
        let (more, rest) ← items item closing count rest
        return (first :: more, rest)
      | c :: rest => if c = closing then return ([first], rest) else none
      | [] => none

/-- The name of a field: a string, or letters, digits, underscores and hyphens. -/
def fieldName : Reader String
  | '"' :: rest => (stringRest rest).map fun (name, rest) => (String.ofList name, rest)
  | text =>
    let isNameChar (c : Char) : Bool := c.isAlphanum || c = '_' || c = '-'
    let name := text.takeWhile isNameChar
    if name.isEmpty then none else some (String.ofList name, text.dropWhile isNameChar)

/-- A field: its name, an equals sign and its value. -/
def field (value : Reader Setting) : Reader (String × Setting) := fun text => do
  let (name, rest) ← fieldName (text.dropWhile isSpace)
  let '=' :: rest := rest.dropWhile isSpace | none
  let (v, rest) ← value (rest.dropWhile isSpace)
  return ((name, v), rest.dropWhile isSpace)

/-- Fields by their names; of two with one name the later counts. -/
def ofFields (fields : List (String × Setting)) : Setting :=
  .fields (fields.foldl (fun known (name, v) => Json.insertField name v known) [])

/-- A value without the spaces around it; the first argument bounds how deeply others
lie inside it. -/
def value? : Nat → Reader Setting
  | 0, _ => none
  | depth + 1, text => do
    let (v, rest) ← match text.dropWhile isSpace with
      | 't' :: 'r' :: 'u' :: 'e' :: rest => some (Setting.plain (.bool true), rest)
      | 'f' :: 'a' :: 'l' :: 's' :: 'e' :: rest => some (.plain (.bool false), rest)
      | '\x7b' :: rest =>
        (items (field (value? depth)) '\x7d' (rest.length + 1) rest).map fun (fields, rest) =>
          (ofFields fields, rest)
      | '[' :: rest =>
        (items (value? depth) ']' (rest.length + 1) rest).map fun (xs, rest) => (.list xs, rest)
      | '"' :: rest => (stringRest rest).map fun (s, rest) => (.plain (.str (String.ofList s)), rest)
      | '\'' :: c :: '\'' :: rest => some (.char c, rest)
      | '\'' :: _ => none
      | text =>
        some (.plain (bareValue (trimBlank (text.takeWhile (!isSeparator ·)))),
          text.dropWhile (!isSeparator ·))
    return (v, rest.dropWhile isSpace)

/-- The value of a variable with the given text. -/
def parseValue (text : String) : Setting :=
  match value? (text.length + 1) text.toList with
  | some (v, []) => v
  | _ => .plain (.str text)

end Environment

end ModuleDiscovery
