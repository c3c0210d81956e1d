import ModuleDiscovery.Toml.Scalar
import ModuleDiscovery.Toml.Table
import ModuleDiscovery.Toml.Text

/-!
# TOML documents

A document is a sequence of lines: headers that open tables, and keys with values.
`Toml.parse?` reads it as JSON, or not at all.  At most eighty arrays and inline
tables lie inside one another, and a key has at most eighty parts.
-/

namespace ModuleDiscovery.Toml

/-! ## Values -/

/-- How deeply arrays and inline tables may lie inside one another. -/
def maxDepth : Nat := 80

/-- Items of an array, up to and with the closing bracket.  The second argument bounds
their number. -/
def arrayItems (value : List Char → Option (Json × List Char)) : Nat → List Char → Option (List Json × List Char)
  | 0, _ => none
  | count + 1, text => do
    match ← dropVoid false text with
    | ']' :: rest => return ([], rest)
    | text =>
      let (item, rest) ← value text
      match ← dropVoid false rest with
      | ']' :: rest => return ([item], rest)
      | ',' :: rest =>
        let (items, rest) ← arrayItems value count rest
        return (item :: items, rest)
      | _ => none

/-- A key, an equals sign and a value; `skip` passes over what may stand between them. -/
def keyValue (skip : List Char → Option (List Char)) (value : List Char → Option (Json × List Char))
    (text : List Char) : Option ((List String × Json) × List Char) := do
  let (key, rest) ← key? maxParts text
  match ← skip rest with
  | '=' :: rest =>
    let (v, rest) ← value (← skip rest)
    return ((key, v), rest)
  | _ => none

/-- Fields of an inline table, up to and with the closing brace. -/
def inlineFields (value : List Char → Option (Json × List Char)) : Nat → Fields → List Char → Option (Fields × List Char)
  | 0, _, _ => none
  | count + 1, fields, text => do
    match ← dropVoid false text with
    | '\x7d' :: rest => return (fields, rest)
    | text =>
      let ((key, v), rest) ← keyValue (dropVoid false) value text
      let fields ← Fields.define v key fields
      match ← dropVoid false rest with
      | '\x7d' :: rest => return (fields, rest)
      | ',' :: rest => inlineFields value count fields rest
      | _ => none

/-- A value that no others lie inside. -/
def plainValue? (text : List Char) : Option (Json × List Char) :=
  match text with
  | '"' :: _ | '\'' :: _ => (string? text).map fun (s, rest) => (.str s, rest)
  | text =>
    let (word, rest) := splitScalar text
    (scalar? word).map fun v => (v, rest)

/-- A value; the first argument bounds how many arrays and inline tables lie inside one
another. -/
def value? (depth : Nat) (text : List Char) : Option (Json × List Char) :=
  match depth, text with
  | depth + 1, '[' :: rest =>
    (arrayItems (value? depth) (rest.length + 1) rest).map fun (items, rest) => (.arr items, rest)
  | depth + 1, '\x7b' :: rest =>
    (inlineFields (value? depth) (rest.length + 1) [] rest).map fun (fields, rest) =>
      (.obj (Fields.fieldsJson fields), rest)
  | _, text => plainValue? text

/-! ## Lines -/

/-- A document that has been read in part: its fields, and the table that is open. -/
structure Reading where
  fields : Fields
  header : List String
  deriving Repr

/-- A header behind its opening brackets, with the given number of closing ones. -/
def headerKey (closing : Nat) (text : List Char) : Option (List String × List Char) := do
  let (key, rest) ← key? maxParts text
  let rest := dropBlanks rest
  if rest.take closing = List.replicate closing ']' then some (key, rest.drop closing) else none

/-- Reads one header or one key with its value. -/
def readLine (r : Reading) (text : List Char) : Option (Reading × List Char) :=
  match text with
  | '[' :: '[' :: rest => do
    let (key, rest) ← headerKey 2 rest
    let fields ← Fields.openElement key r.fields
    let rest ← endLine false rest
    return (⟨fields, key⟩, rest)
  | '[' :: rest => do
    let (key, rest) ← headerKey 1 rest
    let fields ← Fields.openTable key r.fields
    let rest ← endLine false rest
    return (⟨fields, key⟩, rest)
  | text => do
    let ((key, v), rest) ← keyValue (some ∘ dropBlanks) (value? maxDepth) text
    let fields ← Fields.within (Fields.define v key) r.header r.fields
    let rest ← endLine false rest
    return (⟨fields, r.header⟩, rest)

/-- Reads all lines; the first argument bounds their number. -/
def readLines : Nat → Reading → List Char → Option Fields
  | 0, _, _ => none
  | lines + 1, r, text => do
    match ← dropVoid false text with
    | [] => return r.fields
    | text =>
      let (r, rest) ← readLine r text
      readLines lines r rest

/-- The document that a text spells; a byte order mark at its front is passed over. -/
def parse? (text : String) : Option Json :=
  let chars := match text.toList with
    | '\uFEFF' :: rest => rest
    | chars => chars
  (readLines (chars.length + 1) ⟨[], []⟩ chars).map fun fields => .obj (Fields.fieldsJson fields)

end ModuleDiscovery.Toml
