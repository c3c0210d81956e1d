import ModuleDiscovery.Script.Grammar.Statement

/-!
# Imports and exports

The declarations that tie modules together.  The names that a statement exports are
children of its node, so that those of a whole module can be compared at its end.
-/

namespace ModuleDiscovery.Script.Grammar

/-! ## Names -/

/-- The name of an export: a word, or a string whose surrogates are paired. -/
def exportedName : Parser String := do
  let t ← token
  match t.kind with
  | .word name =>
    skip
    return name
  | .string value paired =>
    skip
    if !paired then note t.start "the name of an export must be well formed"
    return value
  | _ => unexpected

/-- Where a name stands last before it is repeated, for the first name that is. -/
def firstRepeated? (seen : List (String × Nat)) : List (String × Nat) → Option Nat
  | [] => none
  | (name, offset) :: rest =>
    match seen.find? (·.1 = name) with
    | some (_, before) => some before
    | none => firstRepeated? ((name, offset) :: seen) rest

/-! ## Attributes -/

/-- The name of an attribute: a word or a string. -/
def attributeName : Parser String := do
  let t ← token
  match t.kind with
  | .word name =>
    skip
    return name
  | .string value _ =>
    skip
    return value
  | _ => unexpected

/-- An attribute. -/
def attributeItem (_ : Context) : Parser Tree := do
  let t ← token
  if t.isMark "\x7d" then return listEnd
  else
    let name ← attributeName
    expectMark ":"
    discard stringLiteral
    separator "\x7d"
    return .leaf (.key name) t.start

/-- The names of attributes, with their offsets. -/
def attributeNames (attributes : List Tree) : List (String × Nat) :=
  attributes.filterMap fun t =>
    match t.role with
    | .key name => some (name, t.start)
    | _ => none

/-- Notes an attribute whose name is given again. -/
def checkAttributes (attributes : List Tree) : Parser Unit := do
  match firstRepeated? [] (attributeNames attributes) with
  | some offset => note offset "an attribute is given twice"
  | none => return ()

/-- Attributes behind the source of an import, if there are any.  No two of them may
have the same name. -/
def importAttributes (c : Context) : Parser Tree := do
  let t ← token
  if t.isWord "with" ∨ (t.isWord "assert" ∧ !t.onNewLine) then
    take
    checkAttributes (← bracketed "\x7b" "\x7d" .attributeItem c)
    return .other t.start []
  else return .other t.start []

/-! ## Imports -/

/-- Notes the name of an import that no module may use. -/
def checkImported (t : Token) : Parser Unit := do
  if t.isWordAmong moduleReservedWords then note t.start "a reserved word cannot be imported"

/-- An imported name, perhaps under another one. -/
def importItem (c : Context) : Parser Tree := do
  let t ← token
  if t.isMark "\x7d" then return listEnd
  else
    if (← ahead 1).isWord "as" then
      discard exportedName
      take
    checkImported (← token)
    discard (bindingName c)
    separator "\x7d"
    return .other t.start []

/-- All exports under one name. -/
def namespaceImport (c : Context) : Parser Unit := do
  expectMark "*"
  expectWord "as"
  discard (bindingName c)

/-- A namespace or names in braces. -/
def importClause (c : Context) : Parser Unit := do
  if ← atMark "*" then namespaceImport c
  else if ← atMark "\x7b" then discard (bracketed "\x7b" "\x7d" .importItem c)
  else unexpected

/-- A phase in front of what is imported, and not a name that happens to be the same
word. -/
def importPhase : Parser Unit := do
  let t ← token
  let after ← ahead 1
  if t.isWord "source" ∧ after.isIdentifier then
    if !after.isWord "from" ∨ (← ahead 2).isWord "from" then skip
  else if t.isWord "defer" ∧ after.isMark "*" then skip

/-- Whether a name is imported that stands for something with another name. -/
def atImportAlias : Parser Bool := do
  return (← token).isIdentifier && (← ahead 1).isMark "="

/-- A name for something with another name, which no script may have. -/
def importAlias (start : Nat) (c : Context) : Parser Tree := do
  discard (bindingName c)
  expectMark "="
  if (← token).isWord "require" ∧ (← ahead 1).isMark "(" then
    take
    expectMark "("
    discard stringLiteral
    expectMark ")"
  else dottedName c
  semicolon
  note start "an import cannot be an alias in a script"
  return .other start []

/-- Everything between `import` and the source. -/
def importBindings (c : Context) : Parser Unit := do
  if (← token).isIdentifier then
    discard (bindingName c)
    if ← eatMark "," then importClause c
  else importClause c
  expectWord "from"

/-- An import declaration. -/
def importDeclaration (c : Context) : Parser Tree := do
  let start := (← token).start
  take
  importPhase
  if ← atImportAlias then importAlias start c
  else
    if !(← token).isString then importBindings c
    let source ← stringLiteral
    let attributes ← rule .importAttributes c
    semicolon
    return .node (.importDeclaration source) start [attributes]

/-! ## Exports -/

/-- A name that is exported, perhaps under another one.  The node keeps the local name,
and its child the exported one. -/
def exportItem (_ : Context) : Parser Tree := do
  let t ← token
  if t.isMark "\x7d" then return listEnd
  else
    let name ← exportedName
    let exported ← if ← eatWord "as" then do
        let offset := (← token).start
        pure (Tree.leaf (.exportedName (← exportedName)) offset)
      else pure (.leaf (.exportedName name) t.start)
    separator "\x7d"
    return .node (if t.isString then .string name else .identifier name) t.start [exported]

/-- Notes local names that cannot be names: strings and reserved words. -/
def checkLocalNames : List Tree → Parser Unit
  | [] => return ()
  | t :: rest => do
    match t.role with
    | .string _ => note t.start "a string cannot name a local binding"
    | .identifier name =>
      if (reservedWords ++ moduleReservedWords ++ futureReservedWords).contains name then
        note t.start "a reserved word cannot name a local binding"
    | _ => return ()
    checkLocalNames rest

/-- Names in braces, and perhaps a source they come from. -/
def exportClause (start : Nat) (c : Context) : Parser Tree := do
  let found ← bracketed "\x7b" "\x7d" .exportItem c
  let exported := found.flatMap Tree.children
  let hasSource ← eatWord "from"
  if hasSource ∧ (← token).isLiteral then
    let source ← stringLiteral
    let attributes ← rule .importAttributes c
    semicolon
    return .node (.exportNamed (some source)) start (exported ++ [attributes])
  else
    checkLocalNames found
    semicolon
    return .node (.exportNamed none) start exported

/-- Everything that another module exports. -/
def exportAll (start : Nat) (c : Context) : Parser Tree := do
  expectMark "*"
  let exported ← if ← eatWord "as" then do
      let offset := (← token).start
      pure [Tree.leaf (.exportedName (← exportedName)) offset]
    else pure []
  expectWord "from"
  let source ← stringLiteral
  let attributes ← rule .importAttributes c
  semicolon
  return .node (.exportAll source) start (exported ++ [attributes])

/-- All decorators of an exported class.  They stand before or behind the words that
export it, but not on both sides. -/
def laterDecorators (earlier : List Tree) (c : Context) : Parser (List Tree) := do
  let more ← items .decoratorItem c
  if !earlier.isEmpty then noteAll "decorators stand on both sides of an export" more
  return earlier ++ more

/-- Notes decorators of what is no class. -/
def refuseDecorators : List Tree → Parser Unit :=
  noteAll "only a class can have decorators"

/-- The default export: a function, a class, an interface or an expression. -/
def exportDefault (start : Nat) (earlier : List Tree) (c : Context) : Parser Tree := do
  let word := (← token).start
  take
  let decorators ← laterDecorators earlier c
  let first ← token
  let after ← ahead 1
  if first.isWord "class" then
    return .node (.exportDefault word) start [← rule (.classTail first.start decorators) c]
  else if first.isWord "abstract" ∧ after.isWord "class" ∧ !after.onNewLine then
    take
    return .other start [← rule (.classTail first.start decorators) c]
  else if first.isWord "interface" ∧ after.isIdentifier ∧ !after.onNewLine then
    return .other start [← rule (.interfaceTail first.start) c]
  else
    refuseDecorators decorators
    if ← atFunction then
      return .node (.exportDefault word) start [← rule (.functionDeclaration false) c]
    else
      let value ← rule .assignment c.plain
      semicolon
      return .node (.exportDefault word) start [value]

/-- A declaration that is exported, with all its names. -/
def exportedDeclaration (start : Nat) (earlier : List Tree) (c : Context) : Parser Tree := do
  let decorators ← laterDecorators earlier c
  let t ← token
  if !t.isWord "class" then refuseDecorators decorators
  let declaration ←
    if t.isWordAmong ["var", "let", "const"] then rule (.variableDeclaration false) c
    else if t.isWord "class" then rule (.classTail t.start decorators) c
    else if ← atFunction then rule (.functionDeclaration true) c
    else unexpected
  return .node (.exportNamed none) start (declaration :: exported declaration)
where
  /-- The names in the first child of a tree. -/
  boundByFirst (t : Tree) : List (String × Nat) :=
    ((t.children.head?).map Tree.boundNames).getD []
  /-- The names that a declaration introduces, as exported ones. -/
  exported (declaration : Tree) : List Tree :=
    let names := match declaration.role with
      | .declaration => boundByFirst declaration
      | _ => declaration.children.flatMap boundByFirst
    names.map fun (name, offset) => .leaf (.exportedName name) offset

/-- An import that is exported, which has to be an alias. -/
def exportedImport (c : Context) : Parser Tree := do
  let t ← token
  let declaration ← rule .importDeclaration c
  match declaration.role with
  | .importDeclaration _ => fail t.start "an import cannot be exported"
  | _ => return declaration

/-- An export declaration that starts at `start`. -/
def exportDeclaration (start : Nat) (decorators : List Tree) (c : Context) : Parser Tree := do
  take
  let t ← token
  if t.isWord "default" then exportDefault start decorators c
  else if t.isMark "*" then exportAll start c
  else if t.isMark "\x7b" then exportClause start c
  else if t.isWord "import" then exportedImport c
  else exportedDeclaration start decorators c

end ModuleDiscovery.Script.Grammar
