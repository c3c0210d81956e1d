import ModuleDiscovery.Script.Escape
import ModuleDiscovery.Script.IdentifierTable

/-!
# Tokens of many characters

Strings, templates, regular expressions, words and numbers each have a reader that
goes over the text one character at a time and says where the token ends.  A
reader that meets an escape reads it ahead and then passes over its characters.
-/

namespace ModuleDiscovery.Script

/-- The number of bytes of some characters. -/
def byteLength (text : List Char) : Nat :=
  text.foldl (fun n c => n + c.utf8Size) 0

/-! ## Strings -/

/-- A string up to its closing quote. -/
structure StringText where
  items : List Escaped
  /-- The text behind the string. -/
  rest : List Char
  /-- Where that text starts. -/
  stop : Nat
  /-- Whether there is a closing quote. -/
  closed : Bool
  faults : List Fault
  deriving DecidableEq, Repr

namespace StringText

/-- Puts an item in front. -/
def cons (item : Escaped) (s : StringText) : StringText :=
  { s with items := item :: s.items }

/-- Reads a string behind its opening quote.  `pending` characters belong to an escape
that has been read. -/
def read (quote : Char) (pending offset : Nat) : List Char → StringText
  | [] => ⟨[], [], offset, false, []⟩
  | c :: rest =>
    match pending with
    | pending + 1 => read quote pending (offset + c.utf8Size) rest
    | 0 =>
      if c = quote then ⟨[], rest, offset + 1, true, []⟩
      else if c = '\n' ∨ c = '\r' then ⟨[], c :: rest, offset, false, []⟩
      else if c = '\\' ∧ rest ≠ [] then
        match Escape.read? rest with
        | some (item, length) => cons item (read quote length (offset + 1) rest)
        | none =>
          let s := read quote 0 (offset + 1) rest
          { s with faults := ⟨offset, "invalid escape sequence"⟩ :: s.faults }
      else cons (.char c) (read quote 0 (offset + c.utf8Size) rest)

end StringText

/-! ## Templates -/

/-- How a piece of a template ends. -/
inductive TemplateEnd where
  | backtick
  | substitution
  | missing
  deriving DecidableEq, Repr

/-- A piece of a template up to its end. -/
structure TemplateText where
  ending : TemplateEnd
  rest : List Char
  stop : Nat
  wellFormed : Bool
  deriving DecidableEq, Repr

/-- Reads a piece of a template behind the backtick or brace that opens it.  `skipping`
says that the character is the second one of an escape. -/
def TemplateText.read (skipping wellFormed : Bool) (offset : Nat) : List Char → TemplateText
  | [] => ⟨.missing, [], offset, wellFormed⟩
  | c :: rest =>
    if skipping then read false wellFormed (offset + c.utf8Size) rest
    else
      match c, rest with
      | '`', rest => ⟨.backtick, rest, offset + 1, wellFormed⟩
      | '$', '\x7b' :: rest => ⟨.substitution, rest, offset + 2, wellFormed⟩
      | '\\', rest => read true (wellFormed && Escape.templateAllows rest) (offset + 1) rest
      | c, rest => read false wellFormed (offset + c.utf8Size) rest

/-! ## Regular expressions -/

/-- The body of a regular expression. -/
structure RegexText where
  rest : List Char
  stop : Nat
  closed : Bool
  deriving DecidableEq, Repr

/-- Reads the body of a regular expression behind its opening slash.  A slash inside a
class does not end it, nor does one behind a backslash. -/
def RegexText.read (skipping inClass : Bool) (offset : Nat) : List Char → RegexText
  | [] => ⟨[], offset, false⟩
  | c :: rest =>
    if isLineEnd c then ⟨c :: rest, offset, false⟩
    else if skipping then read false inClass (offset + c.utf8Size) rest
    else if c = '/' ∧ !inClass then ⟨rest, offset + 1, true⟩
    else if c = '[' then read false true (offset + 1) rest
    else if c = ']' then read false false (offset + 1) rest
    else if c = '\\' then read true inClass (offset + 1) rest
    else read false inClass (offset + c.utf8Size) rest

/-- Whether a character may stand among the flags. -/
def isFlagLike (c : Char) : Bool :=
  c.isAlphanum || c = '$' || c = '_'

/-- What is wrong with the flags: each has to be known and may stand once. -/
def flagFaults (seen : List Char) (offset : Nat) : List Char → List Fault
  | [] => []
  | c :: rest =>
    let faults := flagFaults (c :: seen) (offset + 1) rest
    if c ∉ ['d', 'g', 'i', 'm', 's', 'u', 'v', 'y'] then
      ⟨offset, "unknown regular expression flag"⟩ :: faults
    else if seen.contains c then ⟨offset, "repeated regular expression flag"⟩ :: faults
    else faults

/-! ## Words -/

/-- A word up to its last character. -/
structure WordText where
  name : List Char
  escaped : Bool
  rest : List Char
  stop : Nat
  faults : List Fault
  deriving DecidableEq, Repr

/-- Whether a character fits at a place in a word. -/
def fitsWord (atStart : Bool) (c : Char) : Bool :=
  if atStart then isIdentifierStart c else isIdentifierPart c || c = '\u200C' || c = '\u200D'

/-- An escape in a word. -/
structure WordEscape where
  /-- The character it stands for, if it may stand there. -/
  char : Option Char
  /-- How many characters it takes behind its backslash. -/
  length : Nat
  /-- Where it is wrong, if it is. -/
  faultAt : Option Nat
  deriving DecidableEq, Repr

namespace WordEscape

/-- How many characters behind `\u` look like a code. -/
def attempted : List Char → Nat
  | '\x7b' :: rest => (rest.takeWhile Hex.isDigit).length + 1
  | text => ((text.take 4).takeWhile Hex.isDigit).length

/-- Reads an escape behind its backslash, at `offset`.  What is no code of a character is
wrong from there on, and a character that does not fit is wrong behind its code. -/
def read (atStart : Bool) (offset : Nat) : List Char → WordEscape
  | 'u' :: rest =>
    match Escape.unit? rest with
    | some (.char c, length) =>
      if fitsWord atStart c then ⟨some c, length + 1, none⟩
      else ⟨none, length + 1, some (offset + length + 1)⟩
    | some (_, length) => ⟨none, length + 1, some offset⟩
    | none => ⟨none, attempted rest + 1, some offset⟩
  | _ => ⟨none, 1, some offset⟩

end WordEscape

namespace WordText

/-- Puts an escape in front. -/
def consEscape (e : WordEscape) (w : WordText) : WordText :=
  { w with
    name := e.char.toList ++ w.name
    escaped := true
    faults := (e.faultAt.toList.map fun offset => ⟨offset, "invalid escape sequence"⟩) ++ w.faults }

/-- Reads a word.  `pending` characters belong to an escape that has been read. -/
def read (atStart : Bool) (pending offset : Nat) : List Char → WordText
  | [] => ⟨[], false, [], offset, []⟩
  | c :: rest =>
    match pending with
    | pending + 1 => read atStart pending (offset + c.utf8Size) rest
    | 0 =>
      if c = '\\' then
        let e := WordEscape.read atStart (offset + 1) rest
        consEscape e (read false e.length (offset + 1) rest)
      else if fitsWord atStart c then
        let w := read false 0 (offset + c.utf8Size) rest
        { w with name := c :: w.name }
      else ⟨[], false, c :: rest, offset, []⟩

end WordText

/-! ## Numbers -/

namespace Numeral

/-- A number or a beginning of one. -/
structure Span where
  /-- How many characters it has. -/
  length : Nat
  /-- Whether all digits that have to be there are. -/
  complete : Bool
  deriving DecidableEq, Repr

/-- Digits with single underscores between them.  The span ends where a digit is
missing. -/
def digits (isDigit : Char → Bool) : List Char → Span
  | c :: rest =>
    if isDigit c then
      match rest with
      | '_' :: rest => let s := digits isDigit rest; ⟨s.length + 2, s.complete⟩
      | rest =>
        let s := digits isDigit rest
        if s.length = 0 then ⟨1, true⟩ else ⟨s.length + 1, s.complete⟩
    else ⟨0, false⟩
  | [] => ⟨0, false⟩

/-- One span behind another. -/
def Span.andThen (s : Span) (text : List Char) (next : List Char → Span) : Span :=
  if s.complete then
    let t := next (text.drop s.length)
    ⟨s.length + t.length, t.complete⟩
  else s

/-- An exponent, if there is one. -/
def exponent : List Char → Span
  | e :: rest =>
    if e = 'e' ∨ e = 'E' then
      match rest with
      | '+' :: rest | '-' :: rest => let s := digits Char.isDigit rest; ⟨s.length + 2, s.complete⟩
      | rest => let s := digits Char.isDigit rest; ⟨s.length + 1, s.complete⟩
    else ⟨0, true⟩
  | [] => ⟨0, true⟩

/-- A point and the digits behind it, if there are any. -/
def fraction : List Char → Span
  | '.' :: rest =>
    match rest with
    | c :: _ =>
      if c.isDigit then let s := digits Char.isDigit rest; ⟨s.length + 1, s.complete⟩ else ⟨1, true⟩
    | [] => ⟨1, true⟩
  | _ => ⟨0, true⟩

/-- The `n` of a large integer, if it is there; then nothing may follow. -/
def suffix (text : List Char) : Span :=
  match text with
  | 'n' :: _ => ⟨1, true⟩
  | text => (fraction text).andThen text exponent

/-- A number in another base behind its two letters. -/
def inBase (isDigit : Char → Bool) (text : List Char) : Span :=
  let s := digits isDigit text
  let s := s.andThen text fun
    | 'n' :: _ => ⟨1, true⟩
    | _ => ⟨0, true⟩
  ⟨s.length + 2, s.complete⟩

/-- A number that starts with a zero and more digits: octal, unless a digit says
otherwise. -/
def leadingZero (text : List Char) : Span :=
  let whole := text.takeWhile Char.isDigit
  let s : Span := ⟨whole.length, true⟩
  if whole.all Escape.isOctal then s
  else s.andThen text fun text => (fraction text).andThen text exponent

/-- The number at the front of a text. -/
def span (text : List Char) : Span :=
  match text with
  | '.' :: _ => (fraction text).andThen text exponent
  | '0' :: c :: rest =>
    if c = 'x' ∨ c = 'X' then inBase Hex.isDigit rest
    else if c = 'o' ∨ c = 'O' then inBase Escape.isOctal rest
    else if c = 'b' ∨ c = 'B' then inBase (fun c => c = '0' || c = '1') rest
    else if c.isDigit then leadingZero text
    else (⟨1, true⟩ : Span).andThen text suffix
  | text => (digits Char.isDigit text).andThen text suffix

end Numeral

end ModuleDiscovery.Script
