import ModuleDiscovery.Script.Parser

/-!
# Words for writing rules

Small rules that the grammar is made of: looking at the current token, taking it,
requiring a mark or a word, ending a statement, and calling nonterminals.
-/

namespace ModuleDiscovery.Script.Grammar

/-! ## Tokens -/

/-- The current token. -/
def token : Parser Token :=
  .peek 0 .pure

/-- A token behind the current one. -/
def ahead (n : Nat) : Parser Token :=
  .peek n .pure

/-- The token before the current one. -/
def previous : Parser Token :=
  .previous .pure

/-- Goes on to the next token. -/
def skip : Parser Unit :=
  .advance (.pure ())

/-- Notes a fault. -/
def note (offset : Nat) (text : String) : Parser Unit :=
  .note ⟨offset, text⟩ (.pure ())

/-- Notes a fault where each of some trees starts. -/
def noteAll (text : String) : List Tree → Parser Unit
  | [] => return ()
  | t :: rest => do
    note t.start text
    noteAll text rest

/-- Stops at an offset. -/
def fail {α : Type} (offset : Nat) (text : String) : Parser α :=
  .fail ⟨offset, text⟩

/-- Stops at the current token. -/
def unexpected {α : Type} : Parser α :=
  .unexpected

/-- Takes the current token as what it is, and not as a name; a word must then be
written without escapes. -/
def take : Parser Unit := do
  let t ← token
  if t.escaped then note t.start "a keyword must not contain escapes"
  skip

/-- Whether the current token is a mark. -/
def atMark (text : String) : Parser Bool := do
  return (← token).isMark text

/-- Takes a mark if it is there. -/
def eatMark (text : String) : Parser Bool := do
  if (← token).isMark text then
    skip
    return true
  else return false

/-- Takes a mark that has to be there. -/
def expectMark (text : String) : Parser Unit := do
  let t ← token
  if t.isMark text then skip else fail t.start s!"expected {text}"

/-- Takes a word if it is there. -/
def eatWord (name : String) : Parser Bool := do
  if (← token).isWord name then
    take
    return true
  else return false

/-- Takes a word that has to be there. -/
def expectWord (name : String) : Parser Unit := do
  let t ← token
  if t.isWord name then take else fail t.start s!"expected {name}"

/-- Ends a statement: at a semicolon, or where one can be inserted. -/
def semicolon : Parser Unit := do
  let t ← token
  if t.isMark ";" then skip
  else if !t.allowsSemicolonInsertion then
    fail (← previous).stop "expected a semicolon"

/-- Reads the current token again as an angle bracket, if it starts with one. -/
def splitAngle : Parser Unit :=
  .rereadAngle (.pure ())

/-- Takes a word that has to be there, as a name. -/
def anyName : Parser Unit := do
  if (← token).word?.isSome then skip else unexpected

/-- Takes a string that has to be there. -/
def stringLiteral : Parser StringLiteral := do
  let t ← token
  match t.kind with
  | .string value _ =>
    skip
    return ⟨value, t.start⟩
  | _ => unexpected

/-- What the tokens ahead say about a beginning. -/
inductive Likelihood where
  | no
  | maybe
  | yes
  deriving DecidableEq, Repr

/-- Something is so or not. -/
def Likelihood.ofBool (b : Bool) : Likelihood :=
  if b then yes else no

/-! ## Nonterminals -/

/-- Calls a nonterminal. -/
def rule (nt : Nonterminal) (c : Context) : Parser Tree :=
  .call nt c .pure

/-- Tries a nonterminal. -/
def attempt (nt : Nonterminal) (c : Context) : Parser (Option Tree) :=
  .attempt nt c .pure

/-- Calls an item until it says that the list has ended. -/
def items (nt : Nonterminal) (c : Context) : Parser (List Tree) :=
  .many nt c .pure

/-- What an item gives when its list has ended. -/
def listEnd : Tree :=
  .leaf .listEnd 0

/-- Requires a comma unless the list ends here. -/
def separator (closing : String) : Parser Unit := do
  if !(← atMark closing) then expectMark ","

/-- Items between two marks. -/
def bracketed (opening closing : String) (item : Nonterminal) (c : Context) : Parser (List Tree) := do
  expectMark opening
  let found ← items item c
  expectMark closing
  return found

/-- Something in parentheses. -/
def inParentheses (nt : Nonterminal) (c : Context) : Parser Tree := do
  expectMark "("
  let t ← rule nt c
  expectMark ")"
  return t

/-! ## Names -/

/-- Whether a word refers to something where it stands, and is neither reserved nor an
operator. -/
def isReference (c : Context) (t : Token) : Bool :=
  t.isIdentifier && !(c.inAsync && t.isWord "await") && !(c.inGenerator && t.isWord "yield")

/-- Notes a name that is an operator where it stands. -/
def checkName (c : Context) (t : Token) : Parser Unit := do
  if c.inAsync ∧ t.isWord "await" then note t.start "await cannot be a name here"
  if c.inGenerator ∧ t.isWord "yield" then note t.start "yield cannot be a name here"

/-- Takes a name that a declaration introduces. -/
def bindingName (c : Context) : Parser Tree := do
  let t ← token
  match t.word? with
  | some name =>
    if t.isIdentifier then
      checkName c t
      skip
      return .leaf (.binding name) t.start
    else unexpected
  | none => unexpected

end Grammar

/-! ## Contexts -/

namespace Context

/-- With `in` as an operator and outside a decorator. -/
def plain (c : Context) : Context :=
  { c with allowsIn := true, inDecorator := false }

/-- Without `in` as an operator. -/
def withoutIn (c : Context) : Context :=
  { c with allowsIn := false }

/-- Inside a function of the given form. -/
def within (c : Context) (form : FunctionForm) : Context :=
  { c with
    allowsIn := true
    inDecorator := false
    inAsync := form.async
    inGenerator := form.generator }

end Context

end ModuleDiscovery.Script
