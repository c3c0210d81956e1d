import ModuleDiscovery.Script.Grammar.Expression

/-!
# Functions and patterns

What declares names, and what holds statements without being one.
-/

namespace ModuleDiscovery.Script.Grammar

/-! ## Patterns -/

/-- A name, or a pattern in brackets or braces. -/
def bindingTarget (c : Context) : Parser Tree := do
  let t ← token
  if t.isMark "[" then
    return .node .pattern t.start (← bracketed "[" "]" .arrayBindingItem c.plain)
  else if t.isMark "\x7b" then
    return .node .pattern t.start (← bracketed "\x7b" "\x7d" .objectBindingItem c.plain)
  else bindingName c

/-- The default behind a pattern, if there is one. -/
def withDefault (c : Context) (pattern : Tree) : Parser Tree := do
  if ← eatMark "=" then
    return .node .patternDefault pattern.start [pattern, ← rule .assignment c.plain]
  else return pattern

/-- A name or a pattern, perhaps with a default. -/
def bindingElement (c : Context) : Parser Tree := do
  withDefault c (← rule .bindingTarget c)

/-- A pattern that takes the rest, which has to be the last one.  In an object it is a
name. -/
def restElement (c : Context) (closing : String) (inObject : Bool) : Parser Tree := do
  let t ← token
  expectMark "..."
  let inner ← rule .bindingElement c
  if inner.role = .patternDefault then note inner.start "a rest element must not have a default"
  let comma ← token
  if comma.isMark "," then
    skip
    if ← atMark closing then note comma.start "a rest element must not have a comma behind it"
    else fail t.start "a rest element must be last"
  else if !comma.isEnd ∧ comma.kind ≠ .invalid then separator closing
  match inner.role with
  | .binding _ => return .node .rest t.start [inner]
  | _ =>
    if inObject then fail inner.start "the rest of an object must be a name"
    else return .node .rest t.start [inner]

/-- An item of a pattern in brackets. -/
def arrayBindingItem (c : Context) : Parser Tree := do
  let t ← token
  if t.isMark "]" then return listEnd
  else if t.isMark "," then
    skip
    return .leaf .hole t.start
  else if t.isMark "..." then restElement c "]" false
  else
    let element ← rule .bindingElement c
    separator "]"
    return element

/-- A property in a pattern in braces. -/
def bindingProperty (c : Context) : Parser Tree := do
  let name ← token
  let key ← rule .propertyName c
  if ← eatMark ":" then
    return .node .pattern name.start [key, ← rule .bindingElement c]
  else
    match name.word? with
    | some text =>
      if name.isIdentifier then
        withDefault c (.leaf (.binding text) name.start)
      else fail (← token).start "expected :"
    | none => fail (← token).start "expected :"

/-- An item of a pattern in braces. -/
def objectBindingItem (c : Context) : Parser Tree := do
  let t ← token
  if t.isMark "\x7d" then return listEnd
  else if t.isMark "..." then restElement c "\x7d" true
  else
    let property ← bindingProperty c
    separator "\x7d"
    return property

/-! ## Functions -/

/-- A parameter.  No decorators and no modifiers may stand in front of it. -/
def parameterItem (c : Context) : Parser Tree := do
  if ← atMark ")" then return listEnd
  else
    let decorators ← items .decoratorItem c
    noteAll "a parameter must not have decorators" decorators
    let found ← rule (.modifiers false []) c
    refuse (fun _ => false) found.children
    let parameter ← if ← atMark "..." then restElement c ")" false
      else do
        let element ← rule .bindingElement c
        separator ")"
        pure element
    return if decorators.isEmpty then parameter else .other parameter.start (decorators ++ [parameter])

/-- Parameters in parentheses. -/
def parameters (c : Context) : Parser Tree := do
  let start := (← token).start
  return .other start (← bracketed "(" ")" .parameterItem c.plain)

/-- Statements in braces that make up a function. -/
def functionBody (c : Context) : Parser Tree := do
  let start := (← token).start
  return .other start (← bracketed "\x7b" "\x7d" .blockItem { c.plain with inFunction := true })

/-- The parameters and the body of a function that starts at `start`. -/
def functionRest (start : Nat) (form : FunctionForm) (c : Context) : Parser Tree := do
  let c := c.within form
  let parameters ← rule .parameters c
  if ← atMark "\x7b" then return .node .function start [parameters, ← rule .functionBody c]
  else fail start "a function needs a body"

/-- The words and the mark a function starts with. -/
def functionForm : Parser FunctionForm := do
  let async ← eatWord "async"
  expectWord "function"
  let generator ← eatMark "*"
  return ⟨async, generator⟩

/-- A function in an expression, perhaps with a name. -/
def functionExpression (c : Context) : Parser Tree := do
  let start := (← token).start
  let form ← functionForm
  if (← token).isIdentifier then
    discard (bindingName (c.within form))
  rule (.functionRest start form) c

/-- A declared function.  Only a default export may go without a name. -/
def functionDeclaration (needsName : Bool) (c : Context) : Parser Tree := do
  let start := (← token).start
  let form ← functionForm
  let t ← token
  if t.isIdentifier then
    let name ← bindingName c
    return .node .declaration start [name, ← rule (.functionRest start form) c]
  else
    if needsName then
      if t.isMark "(" then note t.start "a function needs a name"
      else if t.word?.isSome then fail t.start "a function needs a name"
    rule (.functionRest start form) c

end ModuleDiscovery.Script.Grammar
