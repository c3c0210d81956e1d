import ModuleDiscovery.Json.Basic

/-!
# Tables under construction

A TOML document spreads a table over headers and dotted keys, and says what may be
spread: a header opens a table once, dotted keys put fields only into tables that
they made themselves, and a finished value is never extended.
-/

namespace ModuleDiscovery.Toml

/-- How a table came to be. -/
inductive Origin where
  /-- By a header that names it. -/
  | header
  /-- By a header of a table inside it. -/
  | parent
  /-- By a dotted key. -/
  | dotted
  deriving DecidableEq, Repr

/-- What a key stands for. -/
inductive Node where
  | value (value : Json)
  | table (origin : Origin) (fields : List (String × Node))
  /-- Tables in a list, the last one in front. -/
  | tables (elements : List (List (String × Node)))
  deriving Repr, Inhabited

/-- The fields of a table. -/
abbrev Fields := List (String × Node)

namespace Fields

/-- Puts a field in the place of the one of the same key. -/
def replace (key : String) (node : Node) : Fields → Fields
  | [] => []
  | (k, n) :: rest => if k = key then (key, node) :: rest else (k, n) :: replace key node rest

/-- Gives a key a value; the parts in front of it lead to the table it belongs to.  They
may lead through a table that a header made for one inside it, and through the last
table of a list, but not end there. -/
def define (value : Json) : List String → Fields → Option Fields
  | [], _ => none
  | [key], fields =>
    match fields.lookup key with
    | none => some (fields ++ [(key, .value value)])
    | some _ => none
  | key :: path, fields =>
    match fields.lookup key with
    | none => (define value path []).map fun inner => fields ++ [(key, .table .dotted inner)]
    | some (.table .dotted inner) =>
      (define value path inner).map fun inner => replace key (.table .dotted inner) fields
    | some (.table .parent inner) =>
      if path.length = 1 then none
      else (define value path inner).map fun inner => replace key (.table .parent inner) fields
    | some (.tables (last :: others)) =>
      if path.length = 1 then none
      else (define value path last).map fun last => replace key (.tables (last :: others)) fields
    | some _ => none

/-- Opens the table that a header names. -/
def openTable : List String → Fields → Option Fields
  | [], _ => none
  | [key], fields =>
    match fields.lookup key with
    | none => some (fields ++ [(key, .table .header [])])
    | some (.table .parent inner) => some (replace key (.table .header inner) fields)
    | some _ => none
  | key :: path, fields => into (openTable path) key fields
where
  /-- Goes on inside the table of a key, which is made if it is not there. -/
  into (next : Fields → Option Fields) (key : String) (fields : Fields) : Option Fields :=
    match fields.lookup key with
    | none => (next []).map fun inner => fields ++ [(key, .table .parent inner)]
    | some (.table origin inner) =>
      (next inner).map fun inner => replace key (.table origin inner) fields
    | some (.tables (last :: others)) =>
      (next last).map fun last => replace key (.tables (last :: others)) fields
    | some _ => none

/-- Appends a table to the list that a header names. -/
def openElement : List String → Fields → Option Fields
  | [], _ => none
  | [key], fields =>
    match fields.lookup key with
    | none => some (fields ++ [(key, .tables [[]])])
    | some (.tables elements) => some (replace key (.tables ([] :: elements)) fields)
    | some _ => none
  | key :: path, fields => openTable.into (openElement path) key fields

/-- Changes the table that a header has opened. -/
def within (change : Fields → Option Fields) : List String → Fields → Option Fields
  | [], fields => change fields
  | key :: path, fields =>
    match fields.lookup key with
    | some (.table origin inner) =>
      (within change path inner).map fun inner => replace key (.table origin inner) fields
    | some (.tables (last :: others)) =>
      (within change path last).map fun last => replace key (.tables (last :: others)) fields
    | _ => none

mutual

/-- A node as JSON. -/
def nodeJson : Node → Json
  | .value value => value
  | .table _ fields => .obj (fieldsJson fields)
  | .tables elements => .arr (elementsJson elements).reverse

/-- Fields as JSON, in the order of their keys. -/
def fieldsJson : List (String × Node) → List (String × Json)
  | [] => []
  | (key, node) :: rest => Json.insertField key (nodeJson node) (fieldsJson rest)

/-- Tables of a list as JSON. -/
def elementsJson : List (List (String × Node)) → List Json
  | [] => []
  | fields :: rest => .obj (fieldsJson fields) :: elementsJson rest

end

end Fields

end ModuleDiscovery.Toml
