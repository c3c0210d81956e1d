import ModuleDiscovery.Text.Hex
import ModuleDiscovery.Toml.Blank

/-!
# Strings and keys of TOML

Strings in double quotes have escapes and those in single quotes have none; either
kind may stand between three quotes and then spans lines, whose ends it keeps as they
are.  Every reader gives what it read and the text behind it.
-/

namespace ModuleDiscovery.Toml

/-- Puts a character in front of what was read. -/
def readCons (c : Char) (more : Option (List Char × List Char)) : Option (List Char × List Char) :=
  more.map fun (text, rest) => (c :: text, rest)

/-! ## Escapes -/

/-- The character that a letter behind a backslash stands for. -/
def simpleEscape? : Char → Option Char
  | 'b' => some '\x08'
  | 't' => some '\t'
  | 'n' => some '\n'
  | 'f' => some '\x0c'
  | 'r' => some '\r'
  | 'e' => some '\x1b'
  | '"' => some '"'
  | '\\' => some '\\'
  | _ => none

/-! ## Strings on one line -/

/-- A string in double quotes, behind the opening one. -/
def basicString : List Char → Option (List Char × List Char)
  | [] => none
  | '"' :: rest => some ([], rest)
  | '\\' :: 'x' :: a :: b :: rest => (Hex.char? [a, b]).bind (readCons · (basicString rest))
  | '\\' :: 'u' :: a :: b :: c :: d :: rest =>
    (Hex.char? [a, b, c, d]).bind (readCons · (basicString rest))
  | '\\' :: 'U' :: a :: b :: c :: d :: e :: f :: g :: h :: rest =>
    (Hex.char? [a, b, c, d, e, f, g, h]).bind (readCons · (basicString rest))
  | '\\' :: c :: rest => (simpleEscape? c).bind (readCons · (basicString rest))
  | c :: rest => if isControl c then none else readCons c (basicString rest)

/-- A string in single quotes, behind the opening one. -/
def literalString : List Char → Option (List Char × List Char)
  | [] => none
  | '\'' :: rest => some ([], rest)
  | c :: rest => if isControl c then none else readCons c (literalString rest)

/-! ## Strings over several lines -/

/-- Whether only blanks are left on a line. -/
def lineIsOver (text : List Char) : Bool :=
  match dropBlanks text with
  | '\n' :: _ => true
  | '\r' :: '\n' :: _ => true
  | _ => false

/-- A string between three double quotes, behind the opening ones.  Up to two quotes may
stand in front of the closing ones.  `joining` passes over blanks and line ends behind a
backslash at the end of a line. -/
def longBasicString (joining : Bool) : List Char → Option (List Char × List Char)
  | [] => none
  | '"' :: '"' :: '"' :: '"' :: '"' :: rest => some (['"', '"'], rest)
  | '"' :: '"' :: '"' :: '"' :: rest => some (['"'], rest)
  | '"' :: '"' :: '"' :: rest => some ([], rest)
  | '\n' :: rest => if joining then longBasicString true rest else readCons '\n' (longBasicString false rest)
  | '\r' :: '\n' :: rest =>
    if joining then longBasicString true rest
    else readCons '\r' (readCons '\n' (longBasicString false rest))
  | '\\' :: 'x' :: a :: b :: rest =>
    (Hex.char? [a, b]).bind (readCons · (longBasicString false rest))
  | '\\' :: 'u' :: a :: b :: c :: d :: rest =>
    (Hex.char? [a, b, c, d]).bind (readCons · (longBasicString false rest))
  | '\\' :: 'U' :: a :: b :: c :: d :: e :: f :: g :: h :: rest =>
    (Hex.char? [a, b, c, d, e, f, g, h]).bind (readCons · (longBasicString false rest))
  | '\\' :: c :: rest =>
    if lineIsOver (c :: rest) then longBasicString true (c :: rest)
    else (simpleEscape? c).bind (readCons · (longBasicString false rest))
  | c :: rest =>
    if joining ∧ isBlank c then longBasicString true rest
    else if isControl c then none
    else readCons c (longBasicString false rest)

/-- A string between three single quotes, behind the opening ones. -/
def longLiteralString : List Char → Option (List Char × List Char)
  | [] => none
  | '\'' :: '\'' :: '\'' :: '\'' :: '\'' :: rest => some (['\'', '\''], rest)
  | '\'' :: '\'' :: '\'' :: '\'' :: rest => some (['\''], rest)
  | '\'' :: '\'' :: '\'' :: rest => some ([], rest)
  | '\n' :: rest => readCons '\n' (longLiteralString rest)
  | '\r' :: '\n' :: rest => readCons '\r' (readCons '\n' (longLiteralString rest))
  | c :: rest => if isControl c then none else readCons c (longLiteralString rest)

/-- The text behind a line end at its front, if there is one. -/
def dropLineEnd : List Char → List Char
  | '\n' :: rest => rest
  | '\r' :: '\n' :: rest => rest
  | text => text

/-- A string of any kind. -/
def string? : List Char → Option (String × List Char)
  | '"' :: '"' :: '"' :: rest => finish (longBasicString false (dropLineEnd rest))
  | '"' :: rest => finish (basicString rest)
  | '\'' :: '\'' :: '\'' :: rest => finish (longLiteralString (dropLineEnd rest))
  | '\'' :: rest => finish (literalString rest)
  | _ => none
where
  /-- The characters that were read as a string. -/
  finish (read : Option (List Char × List Char)) : Option (String × List Char) :=
    read.map fun (text, rest) => (String.ofList text, rest)

/-! ## Keys -/

/-- Whether a character may stand in a key without quotes. -/
def isBareKey (c : Char) : Bool :=
  c.isAlphanum || c = '_' || c = '-'

/-- One part of a key. -/
def keyPart? (text : List Char) : Option (String × List Char) :=
  match text with
  | '"' :: rest => (basicString rest).map fun (key, rest) => (String.ofList key, rest)
  | '\'' :: rest => (literalString rest).map fun (key, rest) => (String.ofList key, rest)
  | text =>
    let key := text.takeWhile isBareKey
    if key.isEmpty then none else some (String.ofList key, text.dropWhile isBareKey)

/-- How many parts a key may have. -/
def maxParts : Nat := 80

/-- A key with points between its parts and blanks around them; the first argument
bounds the number of parts. -/
def key? : Nat → List Char → Option (List String × List Char)
  | 0, _ => none
  | parts + 1, text => do
    let (first, rest) ← keyPart? (dropBlanks text)
    match dropBlanks rest with
    | '.' :: rest =>
      let (more, rest) ← key? parts rest
      return (first :: more, rest)
    | rest => return ([first], rest)

end ModuleDiscovery.Toml
