import ModuleDiscovery.Script.Lexer
import ModuleDiscovery.Script.Tree

/-!
# Parsers as data

The grammar is a finite rule for each nonterminal.  A rule is a value of `Parser`:
it looks at tokens, advances, calls other nonterminals, and ends with a result or
a failure.  Rules do not recurse; `run` does, by a bound on how deeply calls lie
inside one another.  So whatever holds of the few operations holds of the grammar.

A rule can note a fault and go on.  Of all faults of a source the first one is
reported: those of tokens come before those that were noted, and these before the
one that stopped the parser.
-/

namespace ModuleDiscovery.Script

/-- Where a statement stands. -/
inductive StatementPlace where
  /-- In a list, where declarations are allowed. -/
  | list
  /-- Alone, as the body of another statement. -/
  | single
  deriving DecidableEq, Repr

/-- What a function is, as far as its grammar depends on it. -/
structure FunctionForm where
  async : Bool
  generator : Bool
  deriving DecidableEq, Repr

/-- What the words around a place make of `in`, `yield`, `await`, `return` and `[`. -/
structure Context where
  /-- `in` is an operator. -/
  allowsIn : Bool
  /-- `yield` is an operator. -/
  inGenerator : Bool
  /-- `await` is an operator. -/
  inAsync : Bool
  /-- `return` is allowed. -/
  inFunction : Bool
  /-- The place is a decorator, which a bracket ends. -/
  inDecorator : Bool
  deriving DecidableEq, Repr

/-- The nonterminals of the grammar.  Those that extend something on their left get it
as a tree; those named as items stand in a list and say when it ends. -/
inductive Nonterminal where
  | programItem
  | blockItem
  | block
  | statement (place : StatementPlace)
  | variableDeclaration (inHead : Bool)
  | usingDeclaration (inHead : Bool)
  | declarator (checked constant : Bool)
  | declaratorItem (checked constant : Bool)
  | resource (inHead : Bool)
  | resourceItem (inHead : Bool)
  | forStatement
  | forRest (start : Nat) (awaits constant : Bool) (head : List Tree)
  | forEachRest (start : Nat) (awaits : Bool) (head : Tree)
  | switchItem
  | caseItem
  | importDeclaration
  | importItem
  | importAttributes
  | attributeItem
  | exportDeclaration (start : Nat) (decorators : List Tree)
  | exportItem
  | expression
  | sequenceItem
  | assignment
  | conditionalRest (left : Tree)
  | arrowHead
  | arrowBody (async : Bool) (start : Nat) (parameters : Tree)
  | binary (least : Nat)
  | binaryRest (least : Nat) (left : Tree)
  | unary
  | simpleUnary
  | update
  | leftHandSide
  | memberHead
  | memberRest (mayChain : Bool) (left : Tree)
  | callRest (left : Tree)
  | template (tagged : Bool) (start : Nat)
  | substitutionItem (tagged : Bool)
  | arguments
  | argumentItem
  | arrayItem
  | objectItem
  | propertyName
  | parenthesizedItem
  | modifiers (inClass : Bool) (seen : List String)
  | functionDeclaration (needsName : Bool)
  | functionExpression
  | functionRest (start : Nat) (form : FunctionForm)
  | functionBody
  | parameters
  | parameterItem
  | bindingTarget
  | bindingElement
  | arrayBindingItem
  | objectBindingItem
  | classTail (start : Nat) (decorators : List Tree)
  | heritage (seen : List String)
  | superclass
  | superclassItem
  | implemented
  | implementedItem
  | classItem
  | decoratorItem
  | type (conditional : Bool)
  | typeJoined (operator : String)
  | typeJoinedItem (operator : String)
  | typeOperand
  | typePostfix (left : Tree)
  | typeFunction
  | typeItem
  | tupleItem
  | typeParameterItem
  | typeMemberItem
  | typeSubstitutionItem
  | indexItem
  | dottedItem
  | interfaceTail (start : Nat)
  deriving Repr

/-- A rule: what to do with the tokens that come, up to a result. -/
inductive Parser (α : Type) where
  | pure (value : α)
  /-- Stops at a place. -/
  | fail (fault : Fault)
  /-- Stops at the current token, which cannot stand here. -/
  | unexpected
  /-- Looks at the token `ahead` places behind the current one. -/
  | peek (ahead : Nat) (next : Token → Parser α)
  /-- Goes on to the next token. -/
  | advance (next : Parser α)
  /-- Reads the current token again as a regular expression. -/
  | rereadRegex (next : Parser α)
  /-- Reads the current token again as the end of a substitution. -/
  | rereadTemplate (next : Parser α)
  /-- Reads the current token again as an angle bracket, if it starts with one. -/
  | rereadAngle (next : Parser α)
  /-- Looks at the token before the current one. -/
  | previous (next : Token → Parser α)
  /-- Notes a fault and goes on. -/
  | note (fault : Fault) (next : Parser α)
  | call (nt : Nonterminal) (context : Context) (next : Tree → Parser α)
  /-- Calls a nonterminal and takes everything back if it fails. -/
  | attempt (nt : Nonterminal) (context : Context) (next : Option Tree → Parser α)
  /-- Calls a nonterminal until it gives the end of a list. -/
  | many (nt : Nonterminal) (context : Context) (next : List Tree → Parser α)

namespace Parser

/-- One rule behind another. -/
def andThen {α β : Type} (p : Parser α) (f : α → Parser β) : Parser β :=
  match p with
  | pure value => f value
  | fail fault => fail fault
  | unexpected => unexpected
  | peek ahead next => peek ahead fun t => (next t).andThen f
  | advance next => advance (next.andThen f)
  | rereadRegex next => rereadRegex (next.andThen f)
  | rereadTemplate next => rereadTemplate (next.andThen f)
  | rereadAngle next => rereadAngle (next.andThen f)
  | previous next => previous fun t => (next t).andThen f
  | note fault next => note fault (next.andThen f)
  | call nt context next => call nt context fun t => (next t).andThen f
  | attempt nt context next => attempt nt context fun t => (next t).andThen f
  | many nt context next => many nt context fun ts => (next ts).andThen f

instance : Monad Parser where
  pure := Parser.pure
  bind := Parser.andThen

end Parser

/-! ## Running rules -/

/-- A parser in the middle of a source. -/
structure ParserState where
  dialect : Trivia.Dialect
  /-- The current token. -/
  token : Token
  /-- The place behind it. -/
  cursor : Cursor
  /-- The token before it. -/
  previous : Token
  /-- Faults of tokens. -/
  tokenFaults : List Fault
  /-- Faults that were noted. -/
  notes : List Fault
  /-- Offsets at which an arrow function was tried in vain. -/
  notArrows : List Nat
  /-- The first comment. -/
  comment : Option Comment

/-- A computation of the parser. -/
abbrev Parse (α : Type) := ParserState → Except Fault α × ParserState

namespace ParserState

/-- The parser before the first token. -/
def ofSource (dialect : Trivia.Dialect) (source : List Char) : ParserState :=
  let (token, cursor) := Cursor.first dialect source
  ⟨dialect, token, cursor, token, token.faults, [], [], token.comment⟩

/-- The token some places behind the current one. -/
def tokenAhead (dialect : Trivia.Dialect) (token : Token) (cursor : Cursor) : Nat → Token
  | 0 => token
  | n + 1 =>
    let (token, cursor) := cursor.next dialect
    tokenAhead dialect token cursor n

/-- Goes on to the next token. -/
def advance (s : ParserState) : ParserState :=
  let (token, cursor) := s.cursor.next s.dialect
  { s with
    token, cursor
    previous := s.token
    tokenFaults := s.tokenFaults ++ token.faults
    comment := s.comment <|> token.comment }

/-- Puts another token in the place of the current one. -/
def reread (s : ParserState) (read : Token → Cursor → Token × Cursor) : ParserState :=
  let (token, cursor) := read s.token s.cursor
  { s with token, cursor, tokenFaults := s.tokenFaults ++ token.faults }

/-- Stops at the current token.  A fault of the token itself says more than that it
cannot stand here. -/
def unexpected {α : Type} : Parse α := fun s =>
  let plain : Fault := ⟨s.token.start, "unexpected token"⟩
  if s.token.isEnd ∨ s.token.kind = .invalid then
    match s.tokenFaults.getLast? with
    | some fault => (.error fault, { s with tokenFaults := s.tokenFaults.dropLast })
    | none => (.error plain, s)
  else (.error plain, s)

end ParserState

/-- Whether a tree says that a list has ended. -/
def Tree.isListEnd (t : Tree) : Bool :=
  t.role = .listEnd

/-- Calls `step` until it gives the end of a list, at most `bound` times. -/
def collectMany (step : Parse Tree) : Nat → List Tree → Parse (List Tree)
  | 0, _, s => (.error ⟨s.token.start, "too much nesting"⟩, s)
  | bound + 1, done, s =>
    match step s with
    | (.error fault, s) => (.error fault, s)
    | (.ok t, s) => if t.isListEnd then (.ok done.reverse, s) else collectMany step bound (t :: done) s

/-- Tries `step`; if it fails, only the offset is kept at which it did. -/
def attempted (step : Parse Tree) : Parse (Option Tree) := fun s =>
  if s.notArrows.contains s.token.start then (.ok none, s)
  else
    match step s with
    | (.ok t, s) => (.ok (some t), s)
    | (.error _, after) => (.ok none, { s with notArrows := s.token.start :: after.notArrows })

/-- Runs a rule.  `descend` runs the nonterminals that it calls, and `bound` is the
greatest length of a list. -/
def runRule {α : Type} (descend : Nonterminal → Context → Parse Tree) (bound : Nat) :
    Parser α → Parse α
  | .pure value, s => (.ok value, s)
  | .fail fault, s => (.error fault, s)
  | .unexpected, s => ParserState.unexpected s
  | .peek ahead next, s =>
    runRule descend bound (next (ParserState.tokenAhead s.dialect s.token s.cursor ahead)) s
  | .advance next, s => runRule descend bound next s.advance
  | .rereadRegex next, s => runRule descend bound next (s.reread Cursor.regex)
  | .rereadTemplate next, s => runRule descend bound next (s.reread Cursor.templateTail)
  | .rereadAngle next, s => runRule descend bound next (s.reread Cursor.angle)
  | .previous next, s => runRule descend bound (next s.previous) s
  | .note fault next, s => runRule descend bound next { s with notes := s.notes ++ [fault] }
  | .call nt context next, s =>
    match descend nt context s with
    | (.ok t, s) => runRule descend bound (next t) s
    | (.error fault, s) => (.error fault, s)
  | .attempt nt context next, s =>
    match attempted (descend nt context) s with
    | (.ok t, s) => runRule descend bound (next t) s
    | (.error fault, s) => (.error fault, s)
  | .many nt context next, s =>
    match collectMany (descend nt context) bound [] s with
    | (.ok ts, s) => runRule descend bound (next ts) s
    | (.error fault, s) => (.error fault, s)

/-- Runs a nonterminal under a grammar, with calls at most `depth` inside one
another. -/
def runGrammar (grammar : Nonterminal → Context → Parser Tree) :
    Nat → Nonterminal → Context → Parse Tree
  | 0, _, _, s => (.error ⟨s.token.start, "too much nesting"⟩, s)
  | depth + 1, nt, context, s =>
    runRule (runGrammar grammar depth) depth (grammar nt context) s

end ModuleDiscovery.Script
