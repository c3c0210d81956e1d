import ModuleDiscovery.Decimal.Shortest

/-!
# JSON values

Numbers are whole or binary.  The fields of an object are a list; a reader keeps
it sorted by key in code point order with one entry per key, and `Fields.insert`
is how.
-/

namespace ModuleDiscovery

/-- A JSON value. -/
inductive Json where
  | null
  | bool (value : Bool)
  | int (value : Int)
  | float (value : Binary64)
  | str (text : String)
  | arr (items : List Json)
  | obj (fields : List (String × Json))
  deriving Repr, Inhabited

namespace Json

/-- Whether one key comes before another, by code points. -/
def keyLt : List Char → List Char → Bool
  | [], [] => false
  | [], _ :: _ => true
  | _ :: _, [] => false
  | a :: as, b :: bs => if a = b then keyLt as bs else a.toNat < b.toNat

/-- Puts a field in its place; a field of the same key is replaced. -/
def insertField {α : Type} (key : String) (value : α) : List (String × α) → List (String × α)
  | [] => [(key, value)]
  | (k, v) :: rest =>
    if k = key then (key, value) :: rest
    else if keyLt key.toList k.toList then (key, value) :: (k, v) :: rest
    else (k, v) :: insertField key value rest

/-- The value of a field of an object. -/
def get? (key : String) : Json → Option Json
  | obj fields => fields.lookup key
  | _ => none

/-- Whether this is the null value. -/
def isNull : Json → Bool
  | null => true
  | _ => false

/-- A list of texts. -/
def ofStrings (texts : List String) : Json :=
  arr (texts.map str)

/-- A list of bytes. -/
def ofBytes (bytes : List UInt8) : Json :=
  arr (bytes.map fun b => int b.toNat)

end Json

end ModuleDiscovery
