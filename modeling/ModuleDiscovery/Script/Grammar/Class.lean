import ModuleDiscovery.Script.Grammar.Function

/-!
# Classes

A class with what it extends, its members and its decorators.  Which names a member
must not have is checked once the member has been read.
-/

namespace ModuleDiscovery.Script.Grammar

/-! ## Decorators -/

/-- Whether an expression is a name with properties behind it. -/
def isDotted : Tree → Bool
  | .node (.identifier _) _ _ => true
  | .node (.member false) _ [object] => isDotted object
  | _ => false

/-- Whether an expression may be a decorator: a dotted name, which may be called once, or
anything in parentheses. -/
def isDecorator : Tree → Bool
  | .node .parenthesized _ _ => true
  | .node (.call false) _ (callee :: _) => isDotted callee
  | t => isDotted t

/-- A decorator; anything else ends the list of decorators. -/
def decoratorItem (c : Context) : Parser Tree := do
  let t ← token
  if ← eatMark "@" then
    let e ← rule .leftHandSide { c with inDecorator := true }
    if !isDecorator e then note e.start "the expression cannot be a decorator"
    return .other t.start [e]
  else return listEnd

/-! ## Heritage -/

/-- Something that a class extends. -/
def superclass (c : Context) : Parser Tree := do
  let e ← rule .leftHandSide c
  return .other e.start (e :: (← typeArguments? c))

/-- A comma and something else that a class extends. -/
def superclassItem (c : Context) : Parser Tree := do
  if ← eatMark "," then rule .superclass c else return listEnd

/-- Something that a class implements. -/
def implemented (c : Context) : Parser Tree := do
  let t ← token
  dottedName c
  return .other t.start (← typeArguments? c)

/-- A comma and something else that a class implements. -/
def implementedItem (c : Context) : Parser Tree := do
  if ← eatMark "," then rule .implemented c else return listEnd

/-- What a class extends and implements.  Each word may stand once, `extends` before
`implements`. -/
def heritage (seen : List String) (c : Context) : Parser Tree := do
  let t ← token
  if t.isWord "extends" then
    if !seen.isEmpty then note t.start "extends must stand once, and first"
    take
    let first ← rule .superclass c
    let others ← items .superclassItem c
    let more ← rule (.heritage ("extends" :: seen)) c
    return .other t.start (first :: others ++ more.children)
  else if t.isWord "implements" then
    if seen.contains "implements" then note t.start "implements must stand once"
    take
    let first ← rule .implemented c
    let others ← items .implementedItem c
    let more ← rule (.heritage ("implements" :: seen)) c
    return .other t.start (first :: others ++ more.children)
  else return .other t.start []

/-- A class from the word `class` on. -/
def classTail (start : Nat) (decorators : List Tree) (c : Context) : Parser Tree := do
  expectWord "class"
  let t ← token
  let name ← if t.isIdentifier ∧ !t.isWord "implements" then do pure [← bindingName c] else pure []
  let heritage ← rule (.heritage []) c
  let body ← bracketed "\x7b" "\x7d" .classItem c.plain
  return .node .declaration start (name ++ [.other start (decorators ++ heritage :: body)])

/-! ## Members -/

/-- A block that runs when its class is made. -/
def staticBlock (start : Nat) (c : Context) : Parser Tree := do
  take
  let c := { c with inAsync := true, inGenerator := false, inFunction := false }
  return .other start (← bracketed "\x7b" "\x7d" .blockItem c)

/-- The name of a member of a class. -/
def memberKey (c : Context) : Parser Tree := do
  let t ← token
  match t.kind with
  | .privateName name =>
    if name = "constructor" then note t.start "a private member must not be named constructor"
    skip
    return .leaf (.privateKey name) t.start
  | _ => rule .propertyName c

/-- What the check of a name has to know of a member. -/
structure MemberForm where
  /-- It belongs to the class and not to its objects. -/
  isStatic : Bool
  /-- It holds a value. -/
  isField : Bool
  /-- It is no plain method: it waits, gives many values, or stands for a value. -/
  isSpecial : Bool

/-- Notes a member whose name means something else: `prototype` in a class, and
`constructor` unless it is a plain method. -/
def checkKey (form : MemberForm) (key : Tree) : Parser Unit := do
  match key.role with
  | .key name =>
    if form.isStatic ∧ name = "prototype" then note key.start "the name prototype is taken"
    if name = "constructor" ∧ (form.isField ∨ (!form.isStatic ∧ form.isSpecial)) then
      note key.start "the name constructor is taken"
  | _ => return ()

/-- The modifiers that no member may have. -/
def neverOnMembers : List String := ["const", "default", "export", "in", "out"]

/-- Whether a modifier may stand in front of a method. -/
def allowedOnMethod (name : String) : Bool :=
  !neverOnMembers.contains name

/-- Whether a modifier may stand in front of a member that no function is. -/
def allowedOnValue (name : String) : Bool :=
  allowedOnMethod name && name ≠ "async"

/-- Whether the constructor stands here. -/
def atConstructor : Parser Bool := do
  let t ← token
  match t.kind with
  | .word name => return name = "constructor"
  | .string value _ => return value = "constructor" && (← ahead 1).isMark "("
  | _ => return false

/-- Ends a field: at a semicolon, or where one can be inserted. -/
def fieldEnd : Parser Unit := do
  let t ← token
  if t.isMark ";" then skip
  else if !t.allowsSemicolonInsertion then fail t.start "expected a semicolon"

/-- A method or a field behind its modifiers. -/
def methodOrField (found : List Tree) (c : Context) : Parser (List Tree) := do
  let isStatic := hasModifier "static" found
  let async := hasModifier "async" found
  let generator ← eatMark "*"
  let key ← memberKey c
  let question ← token
  let optional ← eatMark "?"
  if generator ∨ (← token).isMarkAmong ["(", "<"] then
    let function ← method ⟨async, generator⟩ c
    checkKey ⟨isStatic, false, async || generator⟩ key
    refuse allowedOnMethod found
    return [key, function]
  else
    let definite ← eatMark "!"
    if optional ∧ (definite ∨ hasModifier "accessor" found) then
      note question.start "the member cannot be optional"
    let value ← if ← eatMark "=" then do
        pure [← rule .expression { c.plain with inAsync := false, inGenerator := false }]
      else pure []
    fieldEnd
    checkKey ⟨isStatic, true, false⟩ key
    refuse allowedOnValue found
    return key :: value

/-- A member of a class, behind its decorators and modifiers. -/
def classMember (start : Nat) (decorators found : List Tree) (c : Context) : Parser Tree := do
  let t ← token
  if t.isWord "static" ∧ (← ahead 1).isMark "\x7b" then
    noteAll "a block must not have decorators" decorators
    refuse (fun _ => false) found
    staticBlock start c
  else if ← atAccessor then
    let parts ← accessor (memberKey c) c
    parts.head?.forM (checkKey ⟨hasModifier "static" found, false, true⟩)
    refuse allowedOnValue found
    return .other start (decorators ++ parts)
  else if !hasModifier "static" found ∧ (← atConstructor) then
    let key ← rule .propertyName c
    let function ← method ⟨hasModifier "async" found, false⟩ c
    checkKey ⟨false, false, hasModifier "async" found⟩ key
    refuse allowedOnMethod found
    return .other start (decorators ++ [key, function])
  else if ← atIndex then
    let parts ← index c
    refuse allowedOnValue found
    return .other start (decorators ++ [parts])
  else return .other start (decorators ++ (← methodOrField found c))

/-- An item in the body of a class. -/
def classItem (c : Context) : Parser Tree := do
  let t ← token
  if t.isMark "\x7d" then return listEnd
  else if t.isMark ";" then
    skip
    return .other t.start []
  else
    let decorators ← items .decoratorItem c
    let found ← rule (.modifiers true []) c
    classMember t.start decorators found.children c

end ModuleDiscovery.Script.Grammar
