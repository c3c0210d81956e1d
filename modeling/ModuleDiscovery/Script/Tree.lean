import ModuleDiscovery.Script.Token

/-!
# Syntax trees

A tree has its children in the order of the source.  A node says what it is only as
far as that matters to someone: to the collection of specifiers, to the check of
assignment targets and members, or to the names that a module exports.  Everything else is
`Role.other`.
-/

namespace ModuleDiscovery.Script

/-- A string in a source. -/
structure StringLiteral where
  value : String
  offset : Nat
  deriving DecidableEq, Repr, Inhabited

/-- What a node is. -/
inductive Role where
  /-- `import … from source`. -/
  | importDeclaration (source : StringLiteral)
  /-- `export …`, with or without a source. -/
  | exportNamed (source : Option StringLiteral)
  /-- `export * from source`. -/
  | exportAll (source : StringLiteral)
  /-- `import(…)`; the children are its arguments. -/
  | importCall
  /-- A call; the first child is what is called, the others are the arguments.  A call
  in an optional chain is `chained`. -/
  | call (chained : Bool)
  /-- A property of the first child. -/
  | member (chained : Bool)
  | identifier (name : String)
  | string (value : String)
  | parenthesized
  /-- An array; where a comma stands behind its last item, if one does. -/
  | array (trailingComma : Option Nat)
  /-- An object, likewise. -/
  | object (trailingComma : Option Nat)
  /-- `key: value` in an object or a pattern; the value is the last child. -/
  | keyed
  /-- A property written by its name alone. -/
  | shorthand
  /-- A property written by its name alone, with a default, which only a pattern may
  have. -/
  | shorthandDefault
  | spread
  /-- A place in an array where nothing stands. -/
  | hole
  /-- A plain assignment, or one that combines. -/
  | assignment (plain : Bool)
  /-- `??`, or one of `||` and `&&`. -/
  | logical (coalescing : Bool)
  /-- The test whether something has a private member. -/
  | privateIn
  /-- A name that a declaration introduces. -/
  | binding (name : String)
  /-- A pattern; the children are patterns. -/
  | pattern
  /-- A pattern that takes what is left. -/
  | rest
  /-- A pattern with a default, which is the last child. -/
  | patternDefault
  /-- A function or a class whose name, if it has one, is the first child. -/
  | declaration
  /-- A name or pattern that is declared, and whether it has a value. -/
  | declarator (hasValue : Bool)
  /-- A function behind its name: its parameters and its body. -/
  | function
  /-- The name of a member, when it is written out. -/
  | key (name : String)
  /-- The name of a private member. -/
  | privateKey (name : String)
  /-- A word that changes the meaning of what comes behind it. -/
  | modifier (name : String)
  /-- A name under which a module exports something. -/
  | exportedName (name : String)
  /-- A default export, with the offset of its word. -/
  | exportDefault (word : Nat)
  /-- No node of the source: a list ends here. -/
  | listEnd
  | other
  deriving DecidableEq, Repr, Inhabited

/-- A node with the offset it starts at. -/
inductive Tree where
  | node (role : Role) (start : Nat) (children : List Tree)
  deriving Repr, Inhabited

namespace Tree

/-- What the node is. -/
def role : Tree → Role
  | node role _ _ => role

/-- Where the node starts. -/
def start : Tree → Nat
  | node _ start _ => start

/-- The children of the node. -/
def children : Tree → List Tree
  | node _ _ children => children

/-- A node of no particular role. -/
def other (start : Nat) (children : List Tree) : Tree :=
  node .other start children

/-- A node without children. -/
def leaf (role : Role) (start : Nat) : Tree :=
  node role start []

/-- Whether the tree lies in an optional chain that may go on. -/
def isChained (t : Tree) : Bool :=
  match t.role with
  | .call chained | .member chained => chained
  | _ => false

/-- Whether the tree is an array or an object. -/
def isLiteralPattern (t : Tree) : Bool :=
  match t.role with
  | .array _ | .object _ => true
  | _ => false

/-- The name of the word that a modifier is. -/
def modifier? (t : Tree) : Option String :=
  match t.role with
  | .modifier name => some name
  | _ => none

/-! ## Assignment targets

An expression that is assigned to is checked once the assignment is seen.
`targetFaults` lists what is wrong with it, and `asPattern` turns it into a pattern. -/

/-- Something wrong with a target, and whether the parser stops there. -/
structure TargetFault where
  fault : Fault
  stops : Bool
  deriving DecidableEq, Repr

/-- An expression that cannot be assigned to. -/
def invalidTarget (offset : Nat) : TargetFault :=
  ⟨⟨offset, "invalid assignment target"⟩, true⟩

/-- What is wrong with a target that is no pattern: it has to be a name or a property,
in parentheses or not. -/
def simpleTargetFaults : Tree → List TargetFault
  | node role start children =>
    match role, children with
    | .identifier _, _ => []
    | .member false, _ => []
    | .parenthesized, [inner] =>
      if inner.isLiteralPattern then [invalidTarget start] else simpleTargetFaults inner
    | _, _ => [invalidTarget start]

/-- What is wrong with the rest of an array or an object besides its target: in an
object it must not be a pattern, and no comma may stand behind it. -/
def restFaults (inObject : Bool) (trailingComma : Option Nat) (inner : Tree) : List TargetFault :=
  (if inObject && inner.isLiteralPattern then
    [⟨⟨inner.start, "the rest of an object must not be a pattern"⟩, false⟩] else []) ++
  (trailingComma.toList.map fun comma =>
    ⟨⟨comma, "a rest element must not have a comma behind it"⟩, false⟩)

mutual

/-- What is wrong with a target: arrays and objects are patterns. -/
def targetFaults : Tree → List TargetFault
  | node role start children =>
    match role with
    | .array trailingComma => itemFaults false trailingComma children
    | .object trailingComma => itemFaults true trailingComma children
    | _ => simpleTargetFaults (node role start children)

/-- What is wrong with an item of an array or an object as a part of a pattern. -/
def partFaults : Tree → List TargetFault
  | node role start children =>
    match role with
    | .assignment true => []
    | .shorthandDefault => []
    | .shorthand => []
    | .hole => []
    | .keyed => valueFaults children
    | .array trailingComma => itemFaults false trailingComma children
    | .object trailingComma => itemFaults true trailingComma children
    | _ => simpleTargetFaults (node role start children)

/-- What is wrong with the value of a keyed property, which is the last child. -/
def valueFaults : List Tree → List TargetFault
  | [] => []
  | [value] => partFaults value
  | _ :: rest => valueFaults rest

/-- What is wrong with items as parts.  Only the last one may take the rest. -/
def itemFaults (inObject : Bool) (trailingComma : Option Nat) : List Tree → List TargetFault
  | [] => []
  | node .spread start [inner] :: rest =>
    if rest.isEmpty then targetFaults inner ++ restFaults inObject trailingComma inner
    else [⟨⟨start, "a rest element must be last"⟩, true⟩]
  | item :: rest => partFaults item ++ itemFaults inObject trailingComma rest

end

mutual

/-- An expression as a pattern: a property with a default is in its place there. -/
def asPattern : Tree → Tree
  | node role start children =>
    match role with
    | .array _ | .object _ | .keyed | .spread => node .pattern start (asPatterns children)
    | .shorthandDefault => node .patternDefault start children
    | role => node role start children

/-- Some expressions as patterns. -/
def asPatterns : List Tree → List Tree
  | [] => []
  | t :: rest => asPattern t :: asPatterns rest

end

/-! ## What is left over -/

mutual

/-- The first property with a default that is in no pattern. -/
def firstLooseDefault? : Tree → Option Nat
  | node role start children =>
    if role = .shorthandDefault then some start else firstLooseDefaultAmong? children

/-- The first such property in some trees. -/
def firstLooseDefaultAmong? : List Tree → Option Nat
  | [] => none
  | t :: rest => firstLooseDefault? t <|> firstLooseDefaultAmong? rest

end

mutual

/-- The names that a pattern introduces, with their offsets. -/
def boundNames : Tree → List (String × Nat)
  | node role start children =>
    match role with
    | .binding name => [(name, start)]
    | .pattern | .rest => boundNamesAmong children
    | .patternDefault =>
      match children with
      | pattern :: _ => boundNames pattern
      | [] => []
    | _ => []

/-- The names that some patterns introduce. -/
def boundNamesAmong : List Tree → List (String × Nat)
  | [] => []
  | t :: rest => boundNames t ++ boundNamesAmong rest

end

/-! ## Exported names -/

/-- The names that a statement exports, with their offsets. -/
def exportedNames (t : Tree) : List (String × Nat) :=
  t.children.filterMap fun child =>
    match child.role with
    | .exportedName name => some (name, child.start)
    | _ => none

/-- Where a statement says that it exports something by default. -/
def defaultExport? (t : Tree) : Option Nat :=
  match t.role with
  | .exportDefault word => some word
  | _ => none

end Tree

end ModuleDiscovery.Script
