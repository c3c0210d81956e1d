/-!
# Tokens of JavaScript

A token is a word, a mark, a literal, or a piece of a template.  Reserved words
are words like any other here; the grammar tells them apart.  Offsets count
bytes.
-/

namespace ModuleDiscovery.Script

/-- Something that is wrong with a source, and where. -/
structure Fault where
  offset : Nat
  text : String
  deriving DecidableEq, Repr, Inhabited

/-- A piece of a template literal, by what bounds it. -/
inductive TemplatePiece where
  /-- From one backtick to the other. -/
  | whole
  /-- From the backtick to the first `${`. -/
  | head
  /-- From a closing brace to the next `${`. -/
  | middle
  /-- From a closing brace to the backtick. -/
  | tail
  deriving DecidableEq, Repr

/-- What a token is. -/
inductive TokenKind where
  | endOfInput
  /-- Text that is no token; the fault that says why comes with it. -/
  | invalid
  | word (name : String)
  /-- A name behind `#`. -/
  | privateName (name : String)
  /-- A string, and whether all surrogates in it are paired. -/
  | string (value : String) (paired : Bool)
  | number
  | regex (flags : List Char)
  /-- A piece of a template, and whether all its escapes are well formed. -/
  | template (piece : TemplatePiece) (wellFormed : Bool)
  | mark (text : String)
  deriving DecidableEq, Repr, Inhabited

/-- A comment, by its offset and the text from there on. -/
structure Comment where
  offset : Nat
  text : List Char
  /-- Whether it ends at a line's end. -/
  single : Bool
  deriving DecidableEq, Repr

/-- A token and what surrounds it. -/
structure Token where
  kind : TokenKind
  /-- Where the token starts. -/
  start : Nat
  /-- Where the token ends. -/
  stop : Nat
  /-- Whether a line ends between this token and the one before; also true of the
  end of the input. -/
  onNewLine : Bool
  /-- Whether a word is written with escapes. -/
  escaped : Bool
  /-- The first comment before the token. -/
  comment : Option Comment
  /-- What is wrong with the token and the text before it. -/
  faults : List Fault
  deriving DecidableEq, Repr, Inhabited

namespace Token

/-- Whether this is the given mark. -/
def isMark (t : Token) (text : String) : Bool :=
  t.kind = .mark text

/-- Whether this is one of the given marks. -/
def isMarkAmong (t : Token) (texts : List String) : Bool :=
  match t.kind with
  | .mark text => texts.contains text
  | _ => false

/-- Whether this is the given word, however it is spelled. -/
def isWord (t : Token) (name : String) : Bool :=
  t.kind = .word name

/-- Whether this is one of the given words. -/
def isWordAmong (t : Token) (names : List String) : Bool :=
  match t.kind with
  | .word name => names.contains name
  | _ => false

/-- The name of a word. -/
def word? (t : Token) : Option String :=
  match t.kind with
  | .word name => some name
  | _ => none

/-- Whether the source ends here. -/
def isEnd (t : Token) : Bool :=
  t.kind = .endOfInput

/-- Whether this is a string. -/
def isString (t : Token) : Bool :=
  match t.kind with
  | .string _ _ => true
  | _ => false

/-- Whether a template starts here. -/
def startsTemplate (t : Token) : Bool :=
  match t.kind with
  | .template .whole _ | .template .head _ => true
  | _ => false

end Token

/-! ## Words -/

/-- Words that are never names. -/
def reservedWords : List String := [
  "break", "case", "catch", "class", "const", "continue", "debugger", "default", "delete", "do",
  "else", "enum", "export", "extends", "false", "finally", "for", "function", "if", "import", "in",
  "instanceof", "new", "null", "return", "super", "switch", "this", "throw", "true", "try",
  "typeof", "var", "void", "while", "with"]

/-- Words that modules reserve besides. -/
def moduleReservedWords : List String := ["await", "yield"]

/-- Words that may become reserved. -/
def futureReservedWords : List String := [
  "implements", "interface", "package", "private", "protected", "public", "static"]

/-- Words that are names but mean something in some places. -/
def contextualWords : List String := [
  "abstract", "accessor", "any", "as", "assert", "asserts", "async", "await", "bigint", "boolean",
  "constructor", "declare", "defer", "from", "get", "global", "implements", "infer", "interface",
  "intrinsic", "is", "keyof", "let", "meta", "module", "namespace", "never", "number", "object", "of",
  "out", "override", "package", "private", "protected", "public", "readonly", "require", "satisfies",
  "set", "source", "static", "string", "symbol", "target", "type", "undefined", "unique", "unknown",
  "using", "yield"]

namespace Token

/-- Whether this is a word that can be a name. -/
def isIdentifier (t : Token) : Bool :=
  match t.kind with
  | .word name => !reservedWords.contains name
  | _ => false

/-- Whether this is a name that means nothing else anywhere. -/
def isPlainName (t : Token) : Bool :=
  match t.kind with
  | .word name => !reservedWords.contains name && !contextualWords.contains name
  | _ => false

/-- Whether this is a literal. -/
def isLiteral (t : Token) : Bool :=
  match t.kind with
  | .string _ _ | .number | .regex _ => true
  | .word name => name = "null" || name = "true" || name = "false"
  | _ => false

/-- Whether a statement may end before this token without a semicolon. -/
def allowsSemicolonInsertion (t : Token) : Bool :=
  t.isEnd || t.isMark "\x7d" || t.onNewLine

/-- The marks that assign. -/
def assignmentMarks : List String := [
  "=", "+=", "-=", "*=", "/=", "%=", "**=", "<<=", ">>=", ">>>=", "&=", "|=", "^=", "&&=", "||=",
  "??="]

/-- Whether this token assigns. -/
def isAssignment (t : Token) : Bool :=
  t.isMarkAmong assignmentMarks

/-- How tightly a binary operator binds; nothing for other tokens. -/
def binaryPrecedence? (t : Token) : Option Nat :=
  match t.kind with
  | .mark text =>
    match text with
    | "??" => some 1
    | "||" => some 2
    | "&&" => some 3
    | "|" => some 4
    | "^" => some 5
    | "&" => some 6
    | "==" | "!=" | "===" | "!==" => some 7
    | "<" | ">" | "<=" | ">=" => some 8
    | "<<" | ">>" | ">>>" => some 9
    | "+" | "-" => some 10
    | "*" | "/" | "%" => some 11
    | "**" => some 12
    | _ => none
  | .word "in" | .word "instanceof" => some 8
  | _ => none

end Token

end ModuleDiscovery.Script
