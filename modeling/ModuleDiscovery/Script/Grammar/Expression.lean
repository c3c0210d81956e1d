import ModuleDiscovery.Script.Grammar.Type

/-!
# Expressions

From the comma operator down to names and literals.  An arrow function is told from
an expression in parentheses by a few tokens ahead where that is enough; where it is
not, its head is tried first.
-/

namespace ModuleDiscovery.Script.Grammar

/-! ## Sequences -/

/-- Expressions with commas between them. -/
def expression (c : Context) : Parser Tree := do
  let c := { c with inDecorator := false }
  let first ← rule .assignment c
  if ← atMark "," then
    let rest ← items .sequenceItem c
    return .other first.start (first :: rest)
  else return first

/-- A comma and the expression behind it. -/
def sequenceItem (c : Context) : Parser Tree := do
  if ← eatMark "," then rule .assignment c else return listEnd

/-! ## Assignments -/

/-- Whether a token is a word or a literal on the same line, as what an operator
applies to would be, and no operator itself. -/
def isOperandOnLine (t : Token) : Bool :=
  !t.onNewLine && !t.isWordAmong ["in", "instanceof"] &&
    match t.kind with
    | .word _ | .string _ _ | .number => true
    | _ => false

/-- Whether the current token is the operator `yield`. -/
def atYield (c : Context) : Parser Bool := do
  if (← token).isWord "yield" then
    if c.inGenerator then return true else return isOperandOnLine (← ahead 1)
  else return false

/-- Whether the current token is the operator `await`. -/
def atAwait (c : Context) : Parser Bool := do
  if (← token).isWord "await" then
    if c.inAsync then return true
    else
      let t ← ahead 1
      return isOperandOnLine t && !t.isWord "of"
  else return false

/-- Whether nothing that `yield` could apply to stands here. -/
def endsYield (t : Token) : Bool :=
  t.isEnd || t.isMarkAmong ["\x7d", "]", ")", ":", ";", ","]

/-- `yield`, with or without an operand. -/
def yieldExpression (c : Context) : Parser Tree := do
  let start := (← token).start
  if !c.inGenerator then note start "yield outside a generator"
  take
  let c := { c with inGenerator := true }
  let t ← token
  if t.onNewLine then return .other start []
  else if t.isMark "*" then
    skip
    return .other start [← rule .assignment c]
  else if endsYield t then return .other start []
  else return .other start [← rule .assignment c]

/-- Looks at what stands behind the first name in a parenthesis, which is `n` tokens
ahead. -/
def parametersLikelyBehind (n : Nat) : Parser Likelihood := do
  let t ← ahead n
  if t.isMark ":" then return .yes
  else if t.isMark "?" then return .ofBool ((← ahead (n + 1)).isMarkAmong [":", ",", "=", ")"])
  else if t.isMarkAmong [",", "=", ")"] then return .maybe
  else return .no

/-- Looks at what stands behind an opening parenthesis, which is `n` tokens ahead. -/
def parametersLikely (n : Nat) : Parser Likelihood := do
  let t ← ahead (n + 1)
  let after ← ahead (n + 2)
  if t.isMark ")" then return .ofBool (after.isMarkAmong ["=>", ":", "\x7b"])
  else if t.isMarkAmong ["[", "\x7b"] then return .maybe
  else if t.isMark "..." then
    return if after.isPlainName then .yes else if after.isLiteral then .no else .maybe
  else if t.isWordAmong modifierWords ∧ !t.isWord "async" ∧ after.isIdentifier then
    return .ofBool (!after.isWord "as")
  else if t.isIdentifier ∨ t.isWord "this" then parametersLikelyBehind (n + 2)
  else return .no

/-- Looks whether an arrow function with parentheses starts here. -/
def arrowLikely : Parser Likelihood := do
  let t ← token
  if t.isMark "(" then parametersLikely 0
  else if t.isWord "async" then
    let after ← ahead 1
    if after.onNewLine ∨ !after.isMark "(" then return .no else parametersLikely 1
  else return .no

/-- Whether an arrow function with the word `async` and a bare parameter starts here. -/
def atAsyncArrow (c : Context) : Parser Bool := do
  if (← token).isWord "async" then
    let name ← ahead 1
    return !name.onNewLine && isReference c name && (← ahead 2).isMark "=>"
  else return false

/-- The parameters of an arrow function, up to and with its arrow. -/
def arrowHead (c : Context) : Parser Tree := do
  let async ← eatWord "async"
  let parameters ← rule .parameters { c with inAsync := c.inAsync || async }
  arrow
  return parameters
where
  /-- The arrow, on the line of the parameters. -/
  arrow : Parser Unit := do
    let t ← token
    if t.isMark "=>" ∧ t.onNewLine then note t.start "a line must not end before an arrow"
    expectMark "=>"

/-- The body of an arrow function: statements in braces, or an expression. -/
def arrowBody (async : Bool) (start : Nat) (parameters : Tree) (c : Context) : Parser Tree := do
  let c := { c with inAsync := async, inGenerator := false }
  let body ← if ← atMark "\x7b" then rule .functionBody { c with allowsIn := true }
    else rule .assignment c
  return .other start [parameters, body]

/-- An arrow function, if one starts here. -/
def arrowFunction? (c : Context) : Parser (Option Tree) := do
  let t ← token
  match ← arrowLikely with
  | .yes => do
    let parameters ← rule .arrowHead c
    return some (← rule (.arrowBody (t.isWord "async") t.start parameters) c)
  | .maybe => do
    match ← attempt .arrowHead c with
    | some parameters => return some (← rule (.arrowBody (t.isWord "async") t.start parameters) c)
    | none => asyncArrow? t
  | .no => asyncArrow? t
where
  /-- An arrow function with the word `async` and a bare parameter. -/
  asyncArrow? (t : Token) : Parser (Option Tree) := do
    if ← atAsyncArrow c then
      take
      let name ← bindingName c
      arrowHead.arrow
      return some (← rule (.arrowBody true t.start name) c)
    else return none

/-- Notes what is wrong with a target, and stops where that is fatal. -/
def checkTarget : List Tree.TargetFault → Parser Unit
  | [] => return ()
  | ⟨fault, stops⟩ :: rest => do
    if stops then .fail fault
    else
      note fault.offset fault.text
      checkTarget rest

/-- The target of an assignment that an expression is. -/
def target (t : Tree) : Parser Tree := do
  checkTarget t.targetFaults
  return t.asPattern

/-- The target that an expression is if it is no pattern. -/
def simpleTarget (t : Tree) : Parser Tree := do
  checkTarget t.simpleTargetFaults
  return t

/-- An assignment, a conditional, an arrow function or `yield`. -/
def assignment (c : Context) : Parser Tree := do
  if ← atYield c then yieldExpression c
  else
    match ← arrowFunction? c with
    | some t => return t
    | none =>
      let left ← rule (.binary 0) c
      let t ← token
      match left.role with
      | .identifier name =>
        if t.isMark "=>" then
          arrowHead.arrow
          rule (.arrowBody false left.start (.leaf (.binding name) left.start)) c
        else assignmentRest c left t
      | _ => assignmentRest c left t
where
  /-- What may come behind the left side of an assignment. -/
  assignmentRest (c : Context) (left : Tree) (t : Token) : Parser Tree := do
    if t.isAssignment then
      let left ← target left
      skip
      let right ← rule .assignment c
      return .node (.assignment (t.isMark "=")) left.start [left, right]
    else rule (.conditionalRest left) c

/-- A question mark and two branches, if they come. -/
def conditionalRest (left : Tree) (c : Context) : Parser Tree := do
  if ← eatMark "?" then
    let whenTrue ← rule .assignment { c with allowsIn := true }
    expectMark ":"
    let whenFalse ← rule .assignment c
    return .other left.start [left, whenTrue, whenFalse]
  else return left

/-! ## Operators -/

/-- How tightly comparisons bind. -/
def comparison : Nat := 8

/-- A private name and the operator `in`, which asks for the member of that name. -/
def privateIn (start : Nat) (c : Context) : Parser Tree := do
  skip
  expectWord "in"
  let right ← rule (.binary comparison) c
  if right.role = .privateIn then fail right.start "a private name cannot be asked for its members"
  else return .node .privateIn start [right]

/-- An operand and the operators behind it that bind more tightly than `least`. -/
def binary (least : Nat) (c : Context) : Parser Tree := do
  let t ← token
  match t.kind with
  | .privateName _ => do
    let left ← if c.allowsIn then privateIn t.start c else unexpected
    rule (.binaryRest least left) c
  | _ => do
    let left ← rule .unary c
    rule (.binaryRest least left) c

/-- The tree of a binary operator.  `??` must not be mixed with `||` and `&&`. -/
def combine (operator : Token) (left right : Tree) : Parser Tree := do
  if operator.isMark "??" then
    if right.role = .logical false ∨ left.role = .logical false then
      note left.start "mixed logical operators need parentheses"
    return .node (.logical true) left.start [left, right]
  else if operator.isMarkAmong ["||", "&&"] then
    return .node (.logical false) left.start [left, right]
  else return .other left.start [left, right]

/-- A type behind `as` or `satisfies`, which no script may have. -/
def typed (left : Tree) (c : Context) : Parser Tree := do
  take
  let type ← rule (.type true) c
  note left.start "a type stands in a script"
  return .other left.start [left, type]

/-- Operators behind an operand. -/
def binaryRest (least : Nat) (left : Tree) (c : Context) : Parser Tree := do
  let t ← token
  match t.binaryPrecedence? with
  | none =>
    if t.isWordAmong ["as", "satisfies"] ∧ !t.onNewLine ∧ least < comparison then
      rule (.binaryRest least (← typed left c)) c
    else return left
  | some precedence =>
    let stops := if precedence = 12 then precedence < least else precedence ≤ least
    if stops ∨ (t.isWord "in" ∧ !c.allowsIn) then return left
    else
      take
      let right ← rule (.binary precedence) c
      rule (.binaryRest least (← combine t left right)) c

/-- Whether a token is an operator before its operand. -/
def isUnaryOperator (t : Token) : Bool :=
  t.isMarkAmong ["+", "-", "~", "!"] || t.isWordAmong ["typeof", "void", "delete"]

/-- An operand with operators before it.  Only an operand without any may be raised to
a power. -/
def unary (c : Context) : Parser Tree := do
  let t ← token
  let prefixed := isUnaryOperator t || (← atAwait c)
  let operand ← rule .simpleUnary c
  if prefixed then
    if ← atMark "**" then note t.start "an operand of a power needs parentheses"
  return operand

/-- An operand with operators before it. -/
def simpleUnary (c : Context) : Parser Tree := do
  let t ← token
  if isUnaryOperator t then
    take
    return .other t.start [← rule .simpleUnary c]
  else if ← atAwait c then
    if !c.inAsync then note t.start "await outside an async function"
    take
    return .other t.start [← rule .simpleUnary { c with inAsync := true }]
  else rule .update c

/-- An operand that is counted up or down, or not. -/
def update (c : Context) : Parser Tree := do
  let t ← token
  if t.isMarkAmong ["++", "--"] then
    skip
    let operand ← rule .unary c
    return .other t.start [← simpleTarget operand]
  else
    let operand ← rule .leftHandSide c
    let t ← token
    if t.isMarkAmong ["++", "--"] ∧ !t.onNewLine then
      skip
      return .other operand.start [← simpleTarget operand]
    else return operand

/-! ## Properties and calls -/

/-- What can stand on the left of an assignment, and calls. -/
def leftHandSide (c : Context) : Parser Tree := do
  let head ← rule .memberHead c
  let left ← rule (.memberRest true head) c
  rule (.callRest left) c

/-- A name behind a point. -/
def memberName : Parser Unit := do
  let t ← token
  match t.kind with
  | .word _ | .privateName _ => skip
  | _ => unexpected

/-- Whether a token can come behind the mark that starts an optional chain, when that is
not a call. -/
def continuesChain (t : Token) : Bool :=
  t.isMark "[" || t.startsTemplate ||
    match t.kind with
    | .word _ | .privateName _ => true
    | _ => false

/-- Properties and templates behind something. -/
def memberRest (mayChain : Bool) (left : Tree) (c : Context) : Parser Tree := do
  let t ← token
  if t.isMark "." then
    skip
    memberName
    rule (.memberRest mayChain (.node (.member left.isChained) left.start [left])) c
  else if t.isMark "?." ∧ mayChain then
    let after ← ahead 1
    if continuesChain after then
      skip
      if after.isMark "[" then
        let key ← computed
        rule (.memberRest mayChain (.node (.member true) left.start [left, key])) c
      else if after.startsTemplate then tagged true after.start
      else
        memberName
        rule (.memberRest mayChain (.node (.member true) left.start [left])) c
    else return left
  else if t.isMark "[" ∧ !c.inDecorator then
    let key ← computed
    rule (.memberRest mayChain (.node (.member left.isChained) left.start [left, key])) c
  else if t.startsTemplate then tagged left.isChained t.start
  else return left
where
  /-- An expression in brackets. -/
  computed : Parser Tree := do
    expectMark "["
    let key ← rule .expression c.plain
    expectMark "]"
    return key
  /-- A template that what stands on the left gets to see. -/
  tagged (chained : Bool) (start : Nat) : Parser Tree := do
    let parts ← rule (.template true start) c
    if chained then note start "a template must not follow an optional chain"
    rule (.memberRest mayChain (.other left.start [left, parts])) c

/-- Calls behind something. -/
def callRest (left : Tree) (c : Context) : Parser Tree := do
  let t ← token
  if t.isMark "?." then
    skip
    if ← atMark "(" then call true else fail t.start "an optional chain must go on"
  else if t.isMark "(" then call left.isChained
  else return left
where
  /-- The arguments and what comes behind them. -/
  call (chained : Bool) : Parser Tree := do
    let arguments ← rule .arguments c
    let call := Tree.node (.call chained) left.start (left :: arguments.children)
    let left ← rule (.memberRest true call) c
    rule (.callRest left) c

/-- The arguments of a call. -/
def arguments (c : Context) : Parser Tree := do
  let start := (← token).start
  return .other start (← bracketed "(" ")" .argumentItem c.plain)

/-- Three points and what they spread. -/
def spreadElement (c : Context) : Parser Tree := do
  let start := (← token).start
  expectMark "..."
  return .node .spread start [← rule .assignment c]

/-- One argument. -/
def argumentItem (c : Context) : Parser Tree := do
  if ← atMark ")" then return listEnd
  else
    let t ← if ← atMark "..." then spreadElement c else rule .assignment c
    separator ")"
    return t

/-- `new` and what it makes. -/
def newExpression (c : Context) : Parser Tree := do
  let start := (← token).start
  take
  if ← eatMark "." then
    if ← eatWord "target" then return .other start []
    else
      skip
      fail start "only new.target may follow new"
  else
    let head ← rule .memberHead c
    let callee ← rule (.memberRest false head) c
    if callee.role = .importCall then note head.start "an import cannot be made new"
    let t ← token
    if t.isMark "?." then fail t.start "an optional chain cannot be made new"
    else
      let arguments ← if t.isMark "(" then rule .arguments c else pure (.other start [])
      return .other start (callee :: arguments.children)

/-- `import` as an expression: a call, or what can be asked of it. -/
def importExpression (c : Context) : Parser Tree := do
  let start := (← token).start
  take
  if ← eatMark "." then
    if ← eatWord "meta" then return .other start []
    else if ← eatWord "source" then call start
    else if ← eatWord "defer" then call start
    else
      skip
      fail start "unknown property of import"
  else if ← atMark "(" then call start
  else unexpected
where
  /-- The arguments of an import: a specifier and perhaps options. -/
  call (start : Nat) : Parser Tree := do
    let c := c.plain
    expectMark "("
    if ← eatMark ")" then fail start "an import needs a specifier"
    else
      let specifier ← rule .assignment c
      let options ← options c
      discard (eatMark ",")
      if ← eatMark ")" then return .node .importCall start (specifier :: options)
      else fail start "an import has at most two arguments"
  /-- A comma and options, if they come. -/
  options (c : Context) : Parser (List Tree) := do
    if ← eatMark "," then
      if ← atMark ")" then return []
      else return [← rule .assignment c]
    else return []

/-! ## What expressions start with -/

/-- Whether a function expression starts here. -/
def atFunction : Parser Bool := do
  let t ← token
  if t.isWord "function" then return true
  else if t.isWord "async" then
    let after ← ahead 1
    return after.isWord "function" && !after.onNewLine
  else return false

/-- A class behind its decorators.  Words may stand in front of it that change what it
is. -/
def decoratedClass (start : Nat) (decorators : List Tree) (c : Context) : Parser Tree := do
  let found ← rule (.modifiers false []) c
  if (← token).isWord "class" then
    let class_ ← rule (.classTail start decorators) c
    refuse ["abstract", "declare"].contains found.children
    return class_
  else unexpected

/-- Names, literals, and whatever has a beginning of its own. -/
def memberHead (c : Context) : Parser Tree := do
  let t ← token
  match t.kind with
  | .word name =>
    if name = "this" ∨ name = "null" ∨ name = "true" ∨ name = "false" then
      take
      return .other t.start []
    else if name = "new" then newExpression c
    else if name = "import" then importExpression c
    else if name = "super" then
      take
      if !(← token).isMarkAmong [".", "[", "("] then note t.start "super cannot stand alone"
      return .other t.start []
    else if name = "class" then rule (.classTail t.start []) c
    else if ← atFunction then rule .functionExpression c
    else if t.isIdentifier then
      checkName c t
      skip
      return .leaf (.identifier name) t.start
    else unexpected
  | .string value _ =>
    skip
    return .leaf (.string value) t.start
  | .number =>
    skip
    return .other t.start []
  | .template _ _ => if t.startsTemplate then rule (.template false t.start) c else unexpected
  | .mark text =>
    if text = "(" then parenthesized t.start
    else if text = "[" then array t.start
    else if text = "\x7b" then object t.start
    else if text = "/" ∨ text = "/=" then regex t.start
    else if text = "@" then
      let decorators ← items .decoratorItem c
      decoratedClass t.start decorators c
    else unexpected
  | _ => unexpected
where
  /-- A regular expression. -/
  regex (start : Nat) : Parser Tree := do
    .rereadRegex (.pure ())
    match (← token).kind with
    | .regex flags =>
      skip
      if 'u' ∈ flags ∧ 'v' ∈ flags then note start "the flags u and v exclude each other"
      return .other start []
    | _ => unexpected
  /-- The offset of the token before the current one, if that is a comma. -/
  trailingComma : Parser (Option Nat) := do
    let last ← previous
    return if last.isMark "," then some last.start else none
  /-- An array. -/
  array (start : Nat) : Parser Tree := do
    expectMark "["
    let found ← items .arrayItem c.plain
    let comma ← trailingComma
    expectMark "]"
    return .node (.array comma) start found
  /-- An object. -/
  object (start : Nat) : Parser Tree := do
    expectMark "\x7b"
    let found ← items .objectItem c.plain
    let comma ← trailingComma
    expectMark "\x7d"
    return .node (.object comma) start found
  /-- An expression in parentheses. -/
  parenthesized (start : Nat) : Parser Tree := do
    expectMark "("
    let found ← items .parenthesizedItem c.plain
    let last ← previous
    match found with
    | [] => fail start "parentheses must hold an expression"
    | _ =>
      if last.isMark "," then fail last.start "a comma must not end an expression"
      else
        let inner := match found with
          | [inner] => inner
          | found => .other ((found.map Tree.start).headD start) found
        expectMark ")"
        return .node .parenthesized start [inner]

/-- An expression inside parentheses and the comma behind it. -/
def parenthesizedItem (c : Context) : Parser Tree := do
  if ← atMark ")" then return listEnd
  else
    let t ← rule .assignment c
    separator ")"
    return t

/-- An item of an array; nothing may stand before a comma. -/
def arrayItem (c : Context) : Parser Tree := do
  let t ← token
  if t.isMark "]" then return listEnd
  else if t.isMark "," then
    skip
    return .leaf .hole t.start
  else
    let item ← if t.isMark "..." then spreadElement c else rule .assignment c
    separator "]"
    return item

/-! ## Templates -/

/-- Notes malformed escapes in a template that no function gets to see. -/
def checkEscapes (tagged : Bool) (t : Token) : Parser Unit := do
  match t.kind with
  | .template _ wellFormed =>
    if !wellFormed ∧ !tagged then note (t.start + 1) "invalid escape sequence"
  | _ => return ()

/-- An expression in a template, up to its closing brace. -/
def substitution (c : Context) : Parser Tree := do
  let t ← rule .expression c.plain
  if ← atMark "\x7d" then .rereadTemplate (.pure t) else return t

/-- A template with its substitutions. -/
def template (tagged : Bool) (start : Nat) (c : Context) : Parser Tree := do
  let t ← token
  checkEscapes tagged t
  skip
  match t.kind with
  | .template .whole _ => return .other start []
  | _ =>
    let first ← substitution c
    let rest ← items (.substitutionItem tagged) c
    return .other start (first :: rest)

/-- A further substitution; the last piece of the template ends them. -/
def substitutionItem (tagged : Bool) (c : Context) : Parser Tree := do
  let t ← token
  match t.kind with
  | .template .tail _ =>
    checkEscapes tagged t
    skip
    return listEnd
  | .template .middle _ =>
    checkEscapes tagged t
    skip
    substitution c
  | _ => unexpected

/-! ## Objects -/

/-- The name of a property: a word, a literal, or an expression in brackets. -/
def propertyName (c : Context) : Parser Tree := do
  let t ← token
  match t.kind with
  | .word name =>
    skip
    return .leaf (.key name) t.start
  | .string value _ =>
    skip
    return .leaf (.key value) t.start
  | .number =>
    skip
    return .other t.start []
  | .mark text =>
    if text = "[" then
      skip
      let key ← rule .assignment c.plain
      expectMark "]"
      return .other t.start [key]
    else unexpected
  | _ => unexpected

/-- A function that is written behind the name of a property. -/
def method (form : FunctionForm) (c : Context) : Parser Tree := do
  let t ← token
  rule (.functionRest t.start form) c

/-- Notes parameters that the function behind `get` or `set` must not have: the one has
none, the other has one and takes no rest. -/
def checkAccessor (sets : Bool) (function : Tree) : Parser Unit :=
  match function.children with
  | parameters :: _ =>
    if !sets then
      if parameters.children.isEmpty then return ()
      else note parameters.start "what gives a value must have no parameters"
    else
      match parameters.children.find? (·.role = .rest) with
      | some rest => note rest.start "what takes a value must not take a rest"
      | none =>
        if parameters.children.length = 1 then return ()
        else note parameters.start "what takes a value must have one parameter"
  | [] => return ()

/-- The name and the function behind `get` or `set`. -/
def accessor (key : Parser Tree) (c : Context) : Parser (List Tree) := do
  let sets := (← token).isWord "set"
  take
  let name ← key
  let function ← method ⟨false, false⟩ c
  checkAccessor sets function
  return [name, function]

/-- A property of an object. -/
def property (c : Context) : Parser Tree := do
  let t ← token
  let found := (← rule (.modifiers false []) c).children
  if ← atAccessor then
    let parts ← accessor (rule .propertyName c) c
    refuse (fun _ => false) found
    return .node .keyed t.start parts
  else
    let generator ← eatMark "*"
    let name ← token
    let key ← rule .propertyName c
    if generator ∨ (← token).isMarkAmong ["(", "<"] then
      let function ← method ⟨hasModifier "async" found, generator⟩ c
      refuse ["async"].contains found
      return .node .keyed t.start [key, function]
    else
      refuse (fun _ => false) found
      if isReference c name ∧ !(← atMark ":") then
        if ← eatMark "=" then
          return .node .shorthandDefault t.start [← rule .assignment c.plain]
        else return .leaf .shorthand t.start
      else
        expectMark ":"
        return .node .keyed t.start [key, ← rule .assignment c.plain]

/-- An item of an object. -/
def objectItem (c : Context) : Parser Tree := do
  if ← atMark "\x7d" then return listEnd
  else
    let t ← if ← atMark "..." then spreadElement c else property c
    separator "\x7d"
    return t

end ModuleDiscovery.Script.Grammar
