import ModuleDiscovery.Script.Token

/-!
# Between two tokens

Blanks, line ends and comments separate tokens.  `Trivia.skip` passes over them
and keeps what matters later: whether a line ended, the first comment, and a
comment that never ends.  Scripts know two more ways to write a comment that ends
with its line: from `<!--` on, and from a `-->` that nothing but comments and
blanks precede on its line.
-/

namespace ModuleDiscovery.Script

/-- Whether a character ends a line. -/
def isLineEnd (c : Char) : Bool :=
  c = '\n' || c = '\r' || c = '\u2028' || c = '\u2029'

/-- Whether a character is a blank inside a line. -/
def isSpace (c : Char) : Bool :=
  let n := c.toNat
  n = 9 || n = 0xB || n = 0xC || n = 0x20 || n = 0x85 || n = 0xA0 || n = 0x1680 ||
    (0x2000 ≤ n && n ≤ 0x200B) || n = 0x202F || n = 0x205F || n = 0x3000 || n = 0xFEFF

/-- The text in front of a token. -/
structure Trivia where
  /-- The source from the token on. -/
  rest : List Char
  /-- Where the token starts. -/
  offset : Nat
  /-- Whether a line ends in front of the token. -/
  newLine : Bool
  /-- The first comment. -/
  comment : Option Comment
  /-- Where a comment starts that never ends. -/
  unclosed : Option Nat
  deriving DecidableEq, Repr

namespace Trivia

/-- The kind of text a comment is looked for in. -/
inductive Dialect where
  | plain
  /-- Comments in the way of HTML are comments too. -/
  | html
  deriving DecidableEq, Repr

/-- Passes over blanks and comments.  `inside` is the comment that is open, and the
text read so far says whether a line has ended and what the first comment was. -/
def skip (dialect : Dialect) (inside : Option Comment) (newLine : Bool) (first : Option Comment)
    (offset : Nat) : List Char → Trivia
  | [] =>
    match inside with
    | some open_ => ⟨[], offset, newLine, first, if open_.single then none else some open_.offset⟩
    | none => ⟨[], offset, newLine, first, none⟩
  | c :: rest =>
    match inside with
    | some open_ =>
      if open_.single then
        if isLineEnd c then skip dialect none true first (offset + c.utf8Size) rest
        else skip dialect inside newLine first (offset + c.utf8Size) rest
      else
        match c, rest with
        | '*', '/' :: rest => skip dialect none newLine first (offset + 2) rest
        | c, rest => skip dialect inside (newLine || isLineEnd c) first (offset + c.utf8Size) rest
    | none =>
      if isSpace c then skip dialect none newLine first (offset + c.utf8Size) rest
      else if isLineEnd c then skip dialect none true first (offset + c.utf8Size) rest
      else
        match c, rest with
        | '/', '/' :: rest =>
          let comment : Comment := ⟨offset, rest, true⟩
          skip dialect (some comment) newLine (first <|> some comment) (offset + 2) rest
        | '/', '*' :: rest =>
          let comment : Comment := ⟨offset, rest, false⟩
          skip dialect (some comment) newLine (first <|> some comment) (offset + 2) rest
        | '<', '!' :: '-' :: '-' :: rest =>
          if dialect = .html then
            let comment : Comment := ⟨offset, rest, true⟩
            skip dialect (some comment) newLine (first <|> some comment) (offset + 4) rest
          else ⟨'<' :: '!' :: '-' :: '-' :: rest, offset, newLine, first, none⟩
        | '-', '-' :: '>' :: rest =>
          if dialect = .html ∧ newLine then
            let comment : Comment := ⟨offset, rest, true⟩
            skip dialect (some comment) newLine (first <|> some comment) (offset + 3) rest
          else ⟨'-' :: '-' :: '>' :: rest, offset, newLine, first, none⟩
        | c, rest => ⟨c :: rest, offset, newLine, first, none⟩

end Trivia

namespace Comment

/-- The text of a comment up to its end. -/
def content (comment : Comment) : List Char :=
  if comment.single then comment.text.takeWhile (!isLineEnd ·)
  else upToClosing comment.text
where
  /-- The text before `*/`. -/
  upToClosing : List Char → List Char
    | '*' :: '/' :: _ => []
    | c :: rest => c :: upToClosing rest
    | [] => []

end Comment

end ModuleDiscovery.Script
