import ModuleDiscovery.Script.Literal

/-!
# Cutting a source into tokens

`Cursor.next` reads one token.  Where a slash starts a regular expression, where a
brace ends a substitution and where an angle bracket stands alone only the grammar
knows, so these are read again by `Cursor.regex`, `Cursor.templateTail` and
`Cursor.angle` when it asks for that.
-/

namespace ModuleDiscovery.Script

/-- A place in a source: the text from there on and its offset. -/
structure Cursor where
  rest : List Char
  offset : Nat
  deriving DecidableEq, Repr

/-- A token without what stands in front of it. -/
structure Lexeme where
  kind : TokenKind
  rest : List Char
  stop : Nat
  escaped : Bool
  faults : List Fault
  deriving DecidableEq, Repr

namespace Lexeme

/-- A lexeme with nothing wrong. -/
def plain (kind : TokenKind) (rest : List Char) (stop : Nat) : Lexeme :=
  ⟨kind, rest, stop, false, []⟩

/-- Text that is no token. -/
def invalid (rest : List Char) (stop at_ : Nat) (text : String) : Lexeme :=
  ⟨.invalid, rest, stop, false, [⟨at_, text⟩]⟩

/-! ## Marks -/

/-- All marks, longer ones before those they start with. -/
def marks : List String := [
  ">>>=",
  "...", "===", "!==", "**=", "<<=", ">>=", ">>>", "&&=", "||=", "??=",
  "=>", "==", "!=", "<=", ">=", "&&", "||", "??", "?.", "++", "--", "+=", "-=", "*=", "/=", "%=",
  "&=", "|=", "^=", "<<", ">>", "**",
  "\x7b", "\x7d", "(", ")", "[", "]", ";", ",", "<", ">", "+", "-", "*", "/", "%", "&", "|", "^", "!",
  "~", "?", ":", "=", ".", "@"]

/-- The longest mark at the front of a text.  A question mark and a point in front of a
digit are two tokens. -/
def mark? (text : List Char) : Option String :=
  (marks.find? fun m => m.toList.isPrefixOf text).map fun m =>
    if m = "?." ∧ ((text.drop 2).head?.map Char.isDigit).getD false then "?" else m

/-! ## The lexeme at the front of a text -/

/-- A string behind its opening quote. -/
def string (start : Nat) (quote : Char) (rest : List Char) : Lexeme :=
  let s := StringText.read quote 0 (start + 1) rest
  if s.closed then
    ⟨.string (stringValue s.items) (!s.items.any Escaped.isSurrogate), s.rest, s.stop, false, s.faults⟩
  else ⟨.invalid, s.rest, s.stop, false, s.faults ++ [⟨start, "unterminated string"⟩]⟩

/-- A piece of a template; `opening` says that a backtick and not a brace opens it. -/
def template (start : Nat) (opening : Bool) (rest : List Char) : Lexeme :=
  let t := TemplateText.read false true (start + 1) rest
  match t.ending with
  | .backtick => plain (.template (if opening then .whole else .tail) t.wellFormed) t.rest t.stop
  | .substitution => plain (.template (if opening then .head else .middle) t.wellFormed) t.rest t.stop
  | .missing => invalid t.rest t.stop start "unterminated template"

/-- A number; a digit or a word may not follow directly. -/
def number (start : Nat) (text : List Char) : Lexeme :=
  let s := Numeral.span text
  let stop := start + s.length
  let rest := text.drop s.length
  if !s.complete then invalid rest stop stop "a digit is missing"
  else
    match rest with
    | c :: _ =>
      if c.isDigit ∨ isIdentifierStart c then
        let more := rest.takeWhile isIdentifierPart
        invalid (rest.drop more.length) (stop + byteLength more) stop "invalid end of a number"
      else plain .number rest stop
    | [] => plain .number rest stop

/-- A word. -/
def word (start : Nat) (text : List Char) : Lexeme :=
  let w := WordText.read true 0 start text
  ⟨.word (String.ofList w.name), w.rest, w.stop, w.escaped, w.faults⟩

/-- Whether a word starts here. -/
def startsWord : List Char → Bool
  | c :: _ => c = '\\' || isIdentifierStart c
  | [] => false

/-- A name behind a number sign. -/
def privateName (start : Nat) (rest : List Char) : Lexeme :=
  if startsWord rest then
    let w := WordText.read true 0 (start + 1) rest
    ⟨.privateName (String.ofList w.name), w.rest, w.stop, w.escaped, w.faults⟩
  else invalid rest (start + 1) (start + 1) "invalid character"

/-- Whether a number starts here. -/
def startsNumber : List Char → Bool
  | '.' :: c :: _ => c.isDigit
  | c :: _ => c.isDigit
  | [] => false

/-- The lexeme at the front of a text. -/
def next (start : Nat) (text : List Char) : Lexeme :=
  match text with
  | [] => plain .endOfInput [] start
  | c :: rest =>
    if c = '"' ∨ c = '\'' then string start c rest
    else if c = '`' then template start true rest
    else if c = '#' then privateName start rest
    else if startsWord text then word start text
    else if startsNumber text then number start text
    else
      match mark? text with
      | some m => plain (.mark m) (text.drop m.length) (start + m.length)
      | none => invalid rest (start + c.utf8Size) start "invalid character"

/-- A regular expression behind its opening slash. -/
def regex (start : Nat) (rest : List Char) : Lexeme :=
  let body := RegexText.read false false (start + 1) rest
  if body.closed then
    let flags := body.rest.takeWhile isFlagLike
    ⟨.regex flags, body.rest.drop flags.length, body.stop + flags.length, false,
      flagFaults [] body.stop flags⟩
  else invalid body.rest body.stop start "unterminated regular expression"

end Lexeme

namespace Cursor

/-- The token that a lexeme and the trivia in front of it make, and the place behind. -/
def token (trivia : Trivia) (lexeme : Lexeme) : Token × Cursor :=
  let unclosed := match trivia.unclosed with
    | some offset => [⟨offset, "unterminated comment"⟩]
    | none => []
  (⟨lexeme.kind, trivia.offset, lexeme.stop, trivia.newLine || lexeme.kind = .endOfInput,
      lexeme.escaped, trivia.comment, unclosed ++ lexeme.faults⟩,
    ⟨lexeme.rest, lexeme.stop⟩)

/-- Reads the next token. -/
def next (dialect : Trivia.Dialect) (cursor : Cursor) : Token × Cursor :=
  let trivia := Trivia.skip dialect none false none cursor.offset cursor.rest
  token trivia (Lexeme.next trivia.offset trivia.rest)

/-- Reads the first token of a source, which starts a line.  A first line that starts
with `#!` is passed over. -/
def first (dialect : Trivia.Dialect) (source : List Char) : Token × Cursor :=
  let trivia := match source with
    | '#' :: '!' :: rest => Trivia.skip dialect (some ⟨0, rest, true⟩) true none 2 rest
    | source => Trivia.skip dialect none true none 0 source
  token trivia (Lexeme.next trivia.offset trivia.rest)

/-- A token read again as another lexeme at its place. -/
def replace (t : Token) (lexeme : Lexeme) : Token × Cursor :=
  ({ t with kind := lexeme.kind, stop := lexeme.stop, faults := lexeme.faults },
    ⟨lexeme.rest, lexeme.stop⟩)

/-- Reads a slash, or a slash and an equals sign, again as the start of a regular
expression. -/
def regex (t : Token) (cursor : Cursor) : Token × Cursor :=
  let behind := if t.isMark "/=" then '=' :: cursor.rest else cursor.rest
  replace t (Lexeme.regex t.start behind)

/-- The bracket that a mark starts with, and the rest of the mark, if it is an angle
bracket. -/
def angle? (text : String) : Option (Char × List Char) :=
  match text.toList with
  | '<' :: more => some ('<', more)
  | '>' :: more => some ('>', more)
  | _ => none

/-- Reads a mark that starts with an angle bracket again as that bracket. -/
def angle (t : Token) (cursor : Cursor) : Token × Cursor :=
  match t.kind with
  | .mark text =>
    match angle? text with
    | some (bracket, more) =>
      replace t (.plain (.mark bracket.toString) (more ++ cursor.rest) (t.start + 1))
    | none => ({ t with faults := [] }, cursor)
  | _ => ({ t with faults := [] }, cursor)

/-- Reads a closing brace again as the end of a substitution. -/
def templateTail (t : Token) (cursor : Cursor) : Token × Cursor :=
  replace t (Lexeme.template t.start false cursor.rest)

end Cursor

end ModuleDiscovery.Script
