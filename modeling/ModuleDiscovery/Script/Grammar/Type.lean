import ModuleDiscovery.Script.Grammar.Modifier

/-!
# Types

Types have no meaning in a script, but they are read where one may be meant: behind
`as`, among what a class extends, and in interfaces.  A type gives no specifiers of its
own; only the expressions in brackets inside it may.
-/

namespace ModuleDiscovery.Script.Grammar

/-! ## Lists in angle brackets -/

/-- Whether an angle bracket opens here. -/
def atAngle : Parser Bool := do
  return (← token).isMarkAmong ["<", "<<", "<=", "<<="]

/-- Items between angle brackets. -/
def inAngles (item : Nonterminal) (c : Context) : Parser (List Tree) := do
  splitAngle
  expectMark "<"
  let found ← items item c
  splitAngle
  expectMark ">"
  return found

/-- Types between angle brackets, if they come. -/
def typeArguments? (c : Context) : Parser (List Tree) := do
  if ← atAngle then
    let start := (← token).start
    let found ← inAngles .typeItem c
    if found.isEmpty then note start "a list of types must not be empty"
    return found
  else return []

/-- Names of types between angle brackets, if they come. -/
def typeParameters? (c : Context) : Parser (List Tree) := do
  if ← atAngle then inAngles .typeParameterItem c else return []

/-- A name that stands for a type, with a bound and a default. -/
def typeParameterItem (c : Context) : Parser Tree := do
  splitAngle
  let t ← token
  if t.isMark ">" then return listEnd
  else
    let found ← rule (.modifiers true []) c
    refuse ["const", "in", "out"].contains found.children
    let name ← bindingName c
    let bound ← if ← eatWord "extends" then do pure [← rule (.type true) c] else pure []
    let default_ ← if ← eatMark "=" then do pure [← rule (.type true) c] else pure []
    splitAngle
    separator ">"
    return .other t.start (name :: bound ++ default_)

/-- A type in a list between angle brackets. -/
def typeItem (c : Context) : Parser Tree := do
  splitAngle
  if ← atMark ">" then return listEnd
  else
    let t ← rule (.type true) c
    splitAngle
    separator ">"
    return t

/-- An item of a tuple, which may have a name, be missing, or stand for many. -/
def tupleItem (c : Context) : Parser Tree := do
  if ← atMark "]" then return listEnd
  else
    discard (eatMark "...")
    let t ← token
    let after ← ahead 1
    if t.word?.isSome then
      if after.isMark ":" ∨ (after.isMark "?" ∧ (← ahead 2).isMark ":") then
        skip
        discard (eatMark "?")
        skip
    let type ← rule (.type true) c
    discard (eatMark "?")
    separator "]"
    return type

/-! ## Functions and operators -/

/-- How likely the parenthesis here opens the parameters of a type of functions. -/
def typeParametersLikely : Parser Likelihood := do
  let first ← ahead 1
  if first.isMarkAmong [")", "..."] then return .yes
  else if first.isIdentifier ∨ first.isWord "this" then
    let second ← ahead 2
    if second.isMark ")" then return .ofBool ((← ahead 3).isMark "=>")
    else return .ofBool (second.isMarkAmong [":", ",", "?", "="])
  else if first.isMarkAmong ["[", "\x7b"] then return .maybe
  else return .no

/-- Whether a type of functions starts here. -/
def atTypeFunction : Parser Bool := do
  let t ← token
  if t.isMark "<" ∨ t.isWord "new" then return true
  else if t.isWord "abstract" then return (← ahead 1).isWord "new"
  else return false

/-- What a function gives: a type, or a statement on the type of something. -/
def typeResult (c : Context) : Parser Tree := do
  let t ← token
  let after ← ahead 1
  if t.isIdentifier ∧ after.isWord "is" ∧ !after.onNewLine then
    skip
    take
    rule (.type true) c
  else rule (.type true) c

/-- A type of functions or of what makes objects. -/
def typeFunction (c : Context) : Parser Tree := do
  let t ← token
  discard (eatWord "abstract")
  discard (eatWord "new")
  let names ← typeParameters? c
  let parameters ← rule .parameters c
  expectMark "=>"
  return .other t.start (names ++ [parameters, ← typeResult c])

/-- A type.  Where `conditional` does not hold, `extends` does not belong to it. -/
def type (conditional : Bool) (c : Context) : Parser Tree := do
  if ← atTypeFunction then rule .typeFunction c
  else
    let left ← rule (.typeJoined "|") c
    let t ← token
    if conditional ∧ t.isWord "extends" ∧ !t.onNewLine then
      take
      let bound ← rule (.type false) c
      expectMark "?"
      let whenTrue ← rule (.type true) c
      expectMark ":"
      return .other left.start [left, bound, whenTrue, ← rule (.type true) c]
    else return left

/-- What stands between two operators. -/
def typeJoinedOperand (operator : String) (c : Context) : Parser Tree :=
  if operator = "|" then rule (.typeJoined "&") c else rule .typeOperand c

/-- Types with an operator between them, which may also stand in front of the first. -/
def typeJoined (operator : String) (c : Context) : Parser Tree := do
  discard (eatMark operator)
  let first ← typeJoinedOperand operator c
  let more ← items (.typeJoinedItem operator) c
  return .other first.start (first :: more)

/-- An operator and the type behind it. -/
def typeJoinedItem (operator : String) (c : Context) : Parser Tree := do
  if ← eatMark operator then typeJoinedOperand operator c else return listEnd

/-! ## Names -/

/-- Names with points between them. -/
def dottedName (c : Context) : Parser Unit := do
  anyName
  discard (items .dottedItem c)

/-- A point and the name behind it. -/
def dottedItem (_ : Context) : Parser Tree := do
  let t ← token
  if ← eatMark "." then
    anyName
    return .other t.start []
  else return listEnd

/-- A dotted name with types behind it. -/
def typeReference (c : Context) : Parser Tree := do
  let t ← token
  dottedName c
  return .other t.start (← if (← token).onNewLine then pure [] else typeArguments? c)

/-- A type that another module exports. -/
def importType (c : Context) : Parser Tree := do
  let t ← token
  take
  expectMark "("
  let source ← rule (.type true) c
  expectMark ")"
  if ← eatMark "." then dottedName c
  return .other t.start (source :: (← if (← token).onNewLine then pure [] else typeArguments? c))

/-! ## Members -/

/-- A colon and a type, if they come. -/
def annotation? (c : Context) : Parser (List Tree) := do
  if ← eatMark ":" then return [← rule (.type true) c] else return []

/-- Ends a member: at a comma or a semicolon, or where one can be inserted. -/
def memberEnd : Parser Unit := do
  if !(← eatMark ",") then semicolon

/-- Parameters and what comes out. -/
def signature (c : Context) : Parser (List Tree) := do
  let names ← typeParameters? c
  let parameters ← rule .parameters c
  let result ← if ← eatMark ":" then do pure [← typeResult c] else pure []
  return names ++ parameters :: result

/-- Whether an index stands in the brackets here, and not the name of a member. -/
def atIndex : Parser Bool := do
  if !(← atMark "[") then return false
  else
    let first ← ahead 1
    if first.isMarkAmong ["...", "]"] then return true
    else if first.isWordAmong modifierWords ∧ (← ahead 2).isIdentifier then return true
    else if !first.isIdentifier then return false
    else
      let second ← ahead 2
      if second.isMark "?" then return (← ahead 3).isMarkAmong [":", ",", "]"]
      else return second.isMarkAmong [":", ","]

/-- The name and the type of an index. -/
def indexItem (c : Context) : Parser Tree := do
  let t ← token
  if t.isMark "]" then return listEnd
  else
    discard (bindingName c)
    expectMark ":"
    let type ← rule (.type true) c
    separator "]"
    return type

/-- An index and the type of what it gives. -/
def index (c : Context) : Parser Tree := do
  let t ← token
  let indices ← bracketed "[" "]" .indexItem c
  if indices.length ≠ 1 then note t.start "one index must stand in brackets"
  expectMark ":"
  let result ← rule (.type true) c
  memberEnd
  return .other t.start (indices ++ [result])

/-- A member of an interface. -/
def typeMemberItem (c : Context) : Parser Tree := do
  let t ← token
  if t.isMark "\x7d" then return listEnd
  else
    let called ← if t.isWord "new" then do pure ((← ahead 1).isMarkAmong ["(", "<"]) else
      pure (t.isMarkAmong ["(", "<"])
    if called then
      discard (eatWord "new")
      let parts ← signature c
      memberEnd
      return .other t.start parts
    else
      discard (rule (.modifiers false []) c)
      if ← atIndex then index c
      else
        if ← atAccessor then take
        let key ← rule .propertyName c
        discard (eatMark "?")
        let parts ← if (← token).isMarkAmong ["(", "<"] then signature c else annotation? c
        memberEnd
        return .other t.start (key :: parts)

/-- Whether the braces here map the names of one type to types. -/
def atMapped : Parser Bool := do
  let first ← ahead 1
  if first.isMarkAmong ["+", "-"] then return (← ahead 2).isWord "readonly"
  else
    let n := if first.isWord "readonly" then 2 else 1
    return (← ahead n).isMark "[" && (← ahead (n + 1)).isIdentifier && (← ahead (n + 2)).isWord "in"

/-- A sign in front of a word or a mark of a mapped type. -/
def mappedSign : Parser Unit := do
  if (← token).isMarkAmong ["+", "-"] then skip

/-- A mapped type. -/
def mappedType (c : Context) : Parser Tree := do
  let t ← token
  expectMark "\x7b"
  mappedSign
  discard (eatWord "readonly")
  expectMark "["
  discard (bindingName c)
  expectWord "in"
  let names ← rule (.type true) c
  let renamed ← if ← eatWord "as" then do pure [← rule (.type true) c] else pure []
  expectMark "]"
  mappedSign
  discard (eatMark "?")
  let result ← annotation? c
  if ← atMark ";" then skip
  expectMark "\x7d"
  return .other t.start (names :: renamed ++ result)

/-! ## Operands -/

/-- A type inside a template, up to its closing brace. -/
def typeSubstitution (c : Context) : Parser Tree := do
  let t ← rule (.type true) c
  if ← atMark "\x7d" then .rereadTemplate (.pure t) else return t

/-- A further type in a template; the last piece of the template ends them. -/
def typeSubstitutionItem (c : Context) : Parser Tree := do
  match (← token).kind with
  | .template .tail _ =>
    skip
    return listEnd
  | .template .middle _ =>
    skip
    typeSubstitution c
  | _ => unexpected

/-- What a type starts with. -/
def typeHead (c : Context) : Parser Tree := do
  let t ← token
  match t.kind with
  | .string _ _ | .number | .template .whole _ =>
    skip
    return .other t.start []
  | .template .head _ =>
    skip
    let first ← typeSubstitution c
    return .other t.start (first :: (← items .typeSubstitutionItem c))
  | .mark text =>
    if text = "[" then return .other t.start (← bracketed "[" "]" .tupleItem c)
    else if text = "\x7b" then
      if ← atMapped then mappedType c
      else return .other t.start (← bracketed "\x7b" "\x7d" .typeMemberItem c)
    else if text = "(" then
      match ← typeParametersLikely with
      | .yes => rule .typeFunction c
      | .maybe =>
        match ← attempt .typeFunction c with
        | some function => return function
        | none => inParentheses (.type true) c
      | .no => inParentheses (.type true) c
    else if text = "-" then
      skip
      if (← token).kind = .number then
        skip
        return .other t.start []
      else unexpected
    else unexpected
  | .word name =>
    if name = "import" then importType c
    else if name = "typeof" then
      take
      if (← token).isWord "import" then importType c else typeReference c
    else if name = "asserts" ∧ (← ahead 1).word?.isSome ∧ !(← ahead 1).onNewLine then
      take
      skip
      if ← eatWord "is" then rule (.type true) c else return .other t.start []
    else typeReference c
  | _ => unexpected

/-- Brackets behind a type: an array of it, or the type of a member. -/
def typePostfix (left : Tree) (c : Context) : Parser Tree := do
  let t ← token
  if t.isMark "[" ∧ !t.onNewLine then
    skip
    if ← eatMark "]" then rule (.typePostfix left) c
    else
      let name ← rule (.type true) c
      expectMark "]"
      rule (.typePostfix (.other left.start [left, name])) c
  else return left

/-- A type with the words before it that change it. -/
def typeOperand (c : Context) : Parser Tree := do
  let t ← token
  if t.isWordAmong ["keyof", "readonly", "unique"] then
    take
    rule .typeOperand c
  else if t.isWord "infer" then
    take
    let name ← bindingName c
    let bound ← if ← eatWord "extends" then do pure [← rule (.type false) c] else pure []
    return .other t.start (name :: bound)
  else rule (.typePostfix (← typeHead c)) c

/-! ## Interfaces -/

/-- An interface from its word on. -/
def interfaceTail (start : Nat) (c : Context) : Parser Tree := do
  expectWord "interface"
  let name ← bindingName c
  let names ← typeParameters? c
  let heritage ← rule (.heritage []) c
  let members ← bracketed "\x7b" "\x7d" .typeMemberItem c
  return .other start (name :: names ++ heritage :: members)

end ModuleDiscovery.Script.Grammar
