import ModuleDiscovery.Json.Basic
import ModuleDiscovery.Text.Quoted

/-!
# Reading values out of JSON

A decoder turns a JSON value into a value of the library or says what is wrong
with it.  Records are read from an object, whose fields are looked at in the
order they stand in and unknown ones passed over, or from an array that lists
the fields in their order of declaration.
-/

namespace ModuleDiscovery

/-- Why a JSON value is not the value it should be. -/
inductive DecodeError where
  | invalidType (found : Json) (expected : String)
  | invalidValue (found : Json) (expected : String)
  | invalidLength (length : Nat) (expected : String)
  | unknownVariant (name : String) (known : List String)
  | missingField (name : String)
  | duplicateField (name : String)
  /-- Inline contents that are neither a text nor bytes. -/
  | unreadableContents
  /-- A module without a field for its contents. -/
  | absentContents
  deriving Repr, Inhabited

namespace Json

/-- What kind of value was found. -/
def describe : Json → String
  | null => "null"
  | bool value => "boolean `" ++ (if value then "true" else "false") ++ "`"
  | int value => "integer `" ++ String.ofList (match value with
      | .ofNat n => Nat.toDigits 10 n
      | .negSucc n => '-' :: Nat.toDigits 10 (n + 1)) ++ "`"
  | float value => "floating point `" ++ value.brief ++ "`"
  | str text => "string " ++ Quoted.render text
  | arr _ => "sequence"
  | obj _ => "map"

end Json

namespace DecodeError

/-- Names in backticks with commas between them. -/
def listNames (names : List String) : String :=
  String.intercalate ", " (names.map fun name => "`" ++ name ++ "`")

/-- The text of an error. -/
def message : DecodeError → String
  | invalidType found expected => s!"invalid type: {found.describe}, expected {expected}"
  | invalidValue found expected => s!"invalid value: {found.describe}, expected {expected}"
  | invalidLength length expected => s!"invalid length {length}, expected {expected}"
  | unknownVariant name known => s!"unknown variant `{name}`, expected one of {listNames known}"
  | missingField name => s!"missing field `{name}`"
  | duplicateField name => s!"duplicate field `{name}`"
  | unreadableContents => "data did not match any variant of untagged enum DefinitionContents"
  | absentContents => "no variant of enum ModuleContents found in flattened data"

end DecodeError

/-- A reading of JSON values as values of another type. -/
abbrev Decoder (α : Type) := Json → Except DecodeError α

namespace Decoder

/-! ## Plain values -/

/-- A text; `expected` names it in errors. -/
def text (expected : String) : Decoder String
  | .str text => .ok text
  | found => .error (.invalidType found expected)

/-- A text. -/
def string : Decoder String := text "a string"

/-- A truth value. -/
def bool : Decoder Bool
  | .bool value => .ok value
  | found => .error (.invalidType found "a boolean")

/-- A byte. -/
def byte : Decoder UInt8
  | .int value =>
    if 0 ≤ value ∧ value < 256 then .ok (UInt8.ofNat value.toNat)
    else .error (.invalidValue (.int value) "u8")
  | found => .error (.invalidType found "u8")

/-- A list of values. -/
def list {α : Type} (item : Decoder α) : Decoder (List α)
  | .arr items => items.mapM item
  | found => .error (.invalidType found "a sequence")

/-- A value, or null for none. -/
def optional {α : Type} (some : Decoder α) : Decoder (Option α)
  | .null => .ok none
  | value => (some value).map Option.some

/-- One of several names.  An object with a name as its only key and null as its
value stands for the name too. -/
def variant {α : Type} (table : List (String × α)) : Decoder α
  | .str name => find name
  | .obj [(name, value)] => do
    let result ← find name
    match value with
    | .null => .ok result
    | found => .error (.invalidType found "unit")
  | .obj fields => .error (.invalidValue (.obj fields) "map with a single key")
  | found => .error (.invalidType found "string or map")
where
  /-- The value of a name. -/
  find (name : String) : Except DecodeError α :=
    match table.lookup name with
    | some value => .ok value
    | none => .error (.unknownVariant name (table.map Prod.fst))

/-! ## Records -/

/-- Reads a record field by field.  `put` takes a field into the record read so
far and passes over fields it does not know; `finish` checks that nothing is
missing. -/
def fields {α β : Type} (empty : β) (put : β → String → Json → Except DecodeError β)
    (finish : β → Except DecodeError α) (entries : List (String × Json)) : Except DecodeError α := do
  let partial_ ← entries.foldlM (fun state (key, value) => put state key value) empty
  finish partial_

/-- The error for an array with too few items for a record. -/
def tooFew (count : Nat) (record : String) (size : Nat) : DecodeError :=
  .invalidLength count s!"struct {record} with {size} elements"

/-- The error for an array with too many items for a record. -/
def tooMany (count : Nat) : DecodeError :=
  .invalidLength count "fewer elements in array"

/-- Reads the next item of an array, if there is one. -/
def nextItem {α : Type} (item : Decoder α) : List Json → Except DecodeError (Option α × List Json)
  | [] => .ok (none, [])
  | value :: rest => (item value).map fun result => (some result, rest)

end Decoder

end ModuleDiscovery
