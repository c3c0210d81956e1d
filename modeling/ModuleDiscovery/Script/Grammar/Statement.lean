import ModuleDiscovery.Script.Grammar.Class

/-!
# Statements

Every statement has a rule of its own; `statement` chooses by the token it starts
with.  What starts like no statement is an expression, perhaps with a colon behind
it that makes it a label.
-/

namespace ModuleDiscovery.Script.Grammar

/-! ## Lists of statements -/

/-- A statement of a program, which ends with the source. -/
def programItem (c : Context) : Parser Tree := do
  if (← token).isEnd then return listEnd else rule (.statement .list) c

/-- A statement in braces. -/
def blockItem (c : Context) : Parser Tree := do
  let t ← token
  if t.isEnd ∨ t.isMark "\x7d" then return listEnd else rule (.statement .list) c

/-- Statements in braces. -/
def block (c : Context) : Parser Tree := do
  let start := (← token).start
  return .other start (← bracketed "\x7b" "\x7d" .blockItem c)

/-! ## Declarations -/

/-- A declared name or pattern, perhaps with a value.  Where that is `checked`, a pattern
and a constant need one. -/
def declarator (checked constant : Bool) (c : Context) : Parser Tree := do
  let pattern ← rule .bindingTarget c
  if ← eatMark "=" then
    return .node (.declarator true) pattern.start [pattern, ← rule .assignment c]
  else
    let t := Tree.node (.declarator false) pattern.start [pattern]
    if checked then checkValues constant [t]
    return t
where
  /-- Notes declarators without a value that need one. -/
  checkValues (constant : Bool) : List Tree → Parser Unit
    | [] => return ()
    | .node (.declarator false) start [pattern] :: rest => do
      match pattern.role with
      | .binding _ => if constant then note start "a constant needs a value"
      | _ => note start "a pattern needs a value"
      checkValues constant rest
    | _ :: rest => checkValues constant rest

/-- A comma and a further declarator. -/
def declaratorItem (checked constant : Bool) (c : Context) : Parser Tree := do
  if ← eatMark "," then rule (.declarator checked constant) c else return listEnd

/-- Declared variables.  In the head of a loop they need no values yet and no
semicolon. -/
def variableDeclaration (inHead : Bool) (c : Context) : Parser Tree := do
  let t ← token
  let constant := t.isWord "const"
  take
  let first ← rule (.declarator (!inHead) constant) c
  let more ← items (.declaratorItem (!inHead) constant) c
  if !inHead then semicolon
  return .other t.start (first :: more)

/-- Whether `using`, which is `n` tokens ahead, declares something. -/
def usingDeclares (n : Nat) : Parser Bool := do
  let t ← ahead n
  let name ← ahead (n + 1)
  return t.isWord "using" && !t.escaped && (name.isIdentifier || name.isMark "\x7b") &&
    !name.onNewLine

/-- Whether `using` or `await using` declares something here.  In the head of a loop,
`using of` does so only if something is declared under the name `of`. -/
def atUsing (inHead : Bool) : Parser Bool := do
  if (← token).isWord "await" then
    if (← ahead 1).onNewLine then return false else usingDeclares 1
  else if inHead ∧ (← ahead 1).isWord "of" then
    return (← usingDeclares 0) && (← ahead 2).isMarkAmong ["=", ";", ":"]
  else usingDeclares 0

/-- Notes a resource without a name or, where it needs one, without a value. -/
def checkResource (inHead : Bool) : Tree → Parser Unit
  | .node (.declarator hasValue) start (pattern :: _) => do
    match pattern.role with
    | .binding _ => return ()
    | _ => note start "a resource needs a name"
    if !inHead ∧ !hasValue then note start "a resource needs a value"
  | _ => return ()

/-- A resource, which has a name and, outside of the head of a loop, a value. -/
def resource (inHead : Bool) (c : Context) : Parser Tree := do
  let t ← rule (.declarator false false) c
  checkResource inHead t
  return t

/-- A comma and a further resource. -/
def resourceItem (inHead : Bool) (c : Context) : Parser Tree := do
  if ← eatMark "," then rule (.resource inHead) c else return listEnd

/-- Resources that are declared. -/
def usingDeclaration (inHead : Bool) (c : Context) : Parser Tree := do
  let start := (← token).start
  discard (eatWord "await")
  take
  let first ← rule (.resource inHead) c
  let more ← items (.resourceItem inHead) c
  if !inHead then semicolon
  return .other start (first :: more)

/-- An expression that ends with a semicolon. -/
def endedExpression (nt : Nonterminal) (c : Context) : Parser Tree := do
  let e ← rule nt c
  semicolon
  return e

/-- `let`, which may also be a name.  What is called `let`, or has a property behind it,
needs no semicolon. -/
def letStatement (place : StatementPlace) (c : Context) : Parser Tree := do
  let t ← token
  let after ← ahead 1
  if after.isAssignment ∨ (after.binaryPrecedence?.isSome ∧ !after.isMarkAmong ["&&", "||", "??"]) then
    endedExpression .assignment c
  else if after.isMarkAmong [".", "("] then rule .expression c
  else if (place = .single ∧ !after.isMark "[") ∨ after.isMark ";" then
    skip
    semicolon
    return .leaf (.identifier "let") t.start
  else
    let declaration ← rule (.variableDeclaration false) c
    if place = .single then note t.start "a declaration cannot stand alone"
    return declaration

/-! ## Loops -/

/-- Whether a declaration starts the head of a loop. -/
def atHeadDeclaration : Parser Bool := do
  let t ← token
  if t.isWordAmong ["var", "const"] then return true
  else if t.isWord "let" then
    let after ← ahead 1
    return after.isMarkAmong ["[", "\x7b"] || (after.word?.isSome && !after.isWord "in")
  else return false

/-- The rest of a loop with three expressions, behind the first of them.  It cannot
wait, and what it declares needs values. -/
def forRest (start : Nat) (awaits constant : Bool) (head : List Tree) (c : Context) : Parser Tree := do
  expectMark ";"
  declarator.checkValues constant (head.flatMap Tree.children)
  let test ← if ← atMark ";" then pure [] else do pure [← rule .expression c.plain]
  expectMark ";"
  let step ← if ← atMark ")" then pure [] else do pure [← rule .expression c.plain]
  expectMark ")"
  if awaits then note start "only a loop over items can wait"
  let body ← rule (.statement .single) c
  return .other start (head ++ test ++ step ++ [body])

/-- The rest of a loop over something, behind what takes its items.  A loop over names
cannot wait. -/
def forEachRest (start : Nat) (awaits : Bool) (head : Tree) (c : Context) : Parser Tree := do
  let overItems ← eatWord "of"
  if !overItems then expectWord "in"
  let found ← if overItems then rule .assignment c.plain else rule .expression c.plain
  expectMark ")"
  if awaits ∧ !overItems then note start "only a loop over items can wait"
  let body ← rule (.statement .single) c
  return .other start [head, found, body]

/-- A `for` loop of any kind. -/
def forStatement (c : Context) : Parser Tree := do
  let start := (← token).start
  take
  let t ← token
  let awaits := t.isWord "await"
  if awaits then
    if !c.inAsync then note t.start "await outside an async function"
    take
  expectMark "("
  let first ← token
  if first.isMarkAmong [";", ")"] then rule (.forRest start awaits false []) c
  else if ← atHeadDeclaration then
    let declaration ← rule (.variableDeclaration true) c.withoutIn
    if (← token).isWordAmong ["in", "of"] then rule (.forEachRest start awaits declaration) c
    else rule (.forRest start awaits (first.isWord "const") [declaration]) c
  else if ← atUsing true then
    let declaration ← rule (.usingDeclaration true) c.withoutIn
    if (← token).isWordAmong ["in", "of"] then
      if (← token).isWord "in" then note first.start "a loop over names cannot take resources"
      rule (.forEachRest start awaits declaration) c
    else rule (.forRest start awaits false [declaration]) c
  else
    let asyncOf := first.isWord "async" && !first.escaped && (← ahead 1).isWord "of"
    let head ← rule .expression c.withoutIn
    if (← token).isWordAmong ["in", "of"] then
      let head ← target head
      if asyncOf ∧ !awaits then note head.start "the head of the loop is ambiguous"
      rule (.forEachRest start awaits head) c
    else rule (.forRest start awaits false [head]) c

/-! ## Statements by their first word -/

/-- A branch, with or without an alternative. -/
def ifStatement (c : Context) : Parser Tree := do
  let start := (← token).start
  take
  let test ← inParentheses .expression c.plain
  let whenTrue ← rule (.statement .single) c
  let whenFalse ← if ← eatWord "else" then do pure [← rule (.statement .single) c] else pure []
  return .other start (test :: whenTrue :: whenFalse)

/-- A loop that runs its body first. -/
def doStatement (c : Context) : Parser Tree := do
  let start := (← token).start
  take
  let body ← rule (.statement .single) c
  expectWord "while"
  let test ← inParentheses .expression c.plain
  discard (eatMark ";")
  return .other start [body, test]

/-- A word, an expression in parentheses, and a body. -/
def headedStatement (c : Context) : Parser Tree := do
  let start := (← token).start
  take
  let head ← inParentheses .expression c.plain
  return .other start [head, ← rule (.statement .single) c]

/-- A jump, perhaps to a label. -/
def jumpStatement (c : Context) : Parser Tree := do
  let start := (← token).start
  take
  let t ← token
  if !t.isMark ";" ∧ !t.allowsSemicolonInsertion then
    discard (bindingName c)
  semicolon
  return .other start []

/-- The end of a function. -/
def returnStatement (c : Context) : Parser Tree := do
  let start := (← token).start
  take
  let t ← token
  let value ← if t.isMark ";" ∨ t.allowsSemicolonInsertion then pure []
    else do pure [← rule .expression c.plain]
  semicolon
  if !c.inFunction then note start "return outside a function"
  return .other start value

/-- Something thrown, on the same line. -/
def throwStatement (c : Context) : Parser Tree := do
  let start := (← token).start
  take
  let t ← token
  if !t.isEnd ∧ t.onNewLine then note start "a line must not end behind throw"
  let value ← rule .expression c.plain
  semicolon
  return .other start [value]

/-- A block whose failures are caught. -/
def tryStatement (c : Context) : Parser Tree := do
  let start := (← token).start
  take
  let body ← rule .block c
  let stop := (← previous).stop
  let handler ← if ← eatWord "catch" then do
      let parameter ← if ← atMark "(" then do pure [← inParentheses .bindingTarget c] else pure []
      pure (parameter ++ [← rule .block c])
    else pure []
  let final ← if ← eatWord "finally" then do pure [← rule .block c] else pure []
  if handler.isEmpty ∧ final.isEmpty then note stop "a try needs a catch or a finally"
  return .other start (body :: handler ++ final)

/-- A choice among cases. -/
def switchStatement (c : Context) : Parser Tree := do
  let start := (← token).start
  take
  let subject ← inParentheses .expression c.plain
  return .other start (subject :: (← bracketed "\x7b" "\x7d" .switchItem c))

/-- A case with its statements. -/
def switchItem (c : Context) : Parser Tree := do
  let t ← token
  if t.isMark "\x7d" then return listEnd
  else if t.isWordAmong ["case", "default"] then
    take
    let test ← if t.isWord "case" then do pure [← rule .expression c.plain] else pure []
    expectMark ":"
    return .other t.start (test ++ (← items .caseItem c))
  else unexpected

/-- A statement of a case, where nothing says when a resource ends. -/
def caseItem (c : Context) : Parser Tree := do
  let t ← token
  if t.isEnd ∨ t.isMark "\x7d" ∨ t.isWordAmong ["case", "default"] then return listEnd
  else
    let takesResource ← atUsing false
    let statement ← rule (.statement .list) c
    if takesResource then note t.start "a case cannot take resources"
    return statement

/-- An expression as a statement, or a label and what it labels. -/
def expressionStatement (c : Context) : Parser Tree := do
  let e ← rule .expression c.plain
  match e.role with
  | .identifier _ =>
    if ← eatMark ":" then return .other e.start [← rule (.statement .single) c]
    else
      semicolon
      return e
  | _ =>
    semicolon
    return e

/-- A declared function, which may stand alone if it is a plain one. -/
def functionStatement (place : StatementPlace) (c : Context) : Parser Tree := do
  let t ← token
  let after ← ahead 1
  let declaration ← rule (.functionDeclaration true) c
  if place = .single ∧ (t.isWord "async" ∨ after.isMark "*") then
    note t.start "an async function or a generator cannot stand alone"
  return declaration

/-- A declared class behind its decorators. -/
def classStatement (place : StatementPlace) (start : Nat) (decorators : List Tree) (c : Context) :
    Parser Tree := do
  let declaration ← decoratedClass start decorators c
  if place = .single then note start "a class cannot stand alone"
  return declaration

/-- A class or an export behind decorators. -/
def decoratedStatement (place : StatementPlace) (c : Context) : Parser Tree := do
  let start := (← token).start
  let decorators ← items .decoratorItem c
  let t ← token
  if t.isWord "export" then rule (.exportDeclaration t.start decorators) c
  else classStatement place start decorators c

/-- A declaration that cannot stand alone. -/
def listDeclaration (place : StatementPlace) (nt : Nonterminal) (c : Context) : Parser Tree := do
  let t ← token
  let declaration ← rule nt c
  if place = .single then note t.start "a declaration cannot stand alone"
  return declaration

/-- Resources, where they are declared, or an expression. -/
def usingStatement (place : StatementPlace) (c : Context) : Parser Tree := do
  if ← atUsing false then listDeclaration place (.usingDeclaration false) c else expressionStatement c

/-- A statement that starts with a word. -/
def wordStatement (place : StatementPlace) (c : Context) (t : Token) (name : String) : Parser Tree := do
  match name with
  | "if" => ifStatement c
  | "do" => doStatement c
  | "while" => headedStatement c
  | "with" => headedStatement c
  | "for" => rule .forStatement c
  | "break" => jumpStatement c
  | "continue" => jumpStatement c
  | "switch" => switchStatement c
  | "throw" => throwStatement c
  | "try" => tryStatement c
  | "return" => returnStatement c
  | "debugger" =>
    take
    semicolon
    return .other t.start []
  | "var" => rule (.variableDeclaration false) c
  | "const" => listDeclaration place (.variableDeclaration false) c
  | "class" => classStatement place t.start [] c
  | "function" => functionStatement place c
  | "export" => rule (.exportDeclaration t.start []) c
  | "import" =>
    if (← ahead 1).isMarkAmong ["(", "."] then expressionStatement c
    else rule .importDeclaration c
  | "let" => if t.escaped then expressionStatement c else letStatement place c
  | "async" => if ← atFunction then functionStatement place c else expressionStatement c
  | "using" => usingStatement place c
  | "await" => usingStatement place c
  | _ => expressionStatement c

/-- A statement. -/
def statement (place : StatementPlace) (c : Context) : Parser Tree := do
  let c := c.plain
  let t ← token
  match t.kind with
  | .mark text =>
    if text = "\x7b" then rule .block c
    else if text = ";" then
      skip
      return .other t.start []
    else if text = "@" then decoratedStatement place c
    else expressionStatement c
  | .word name => wordStatement place c t name
  | _ => expressionStatement c

end ModuleDiscovery.Script.Grammar
