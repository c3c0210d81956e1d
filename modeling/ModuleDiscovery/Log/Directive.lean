import ModuleDiscovery.Log.Line
import ModuleDiscovery.Log.Pattern
import ModuleDiscovery.Text.Alphanumeric
import ModuleDiscovery.Text.Slice

/-!
# Directives about log lines

A directive lets the lines of a target through up to a level.

    info    rove_graph=debug    rove_cli=off    rove_graph[{count}]=info    [read{path=a.*}]

A target stands for all that begin with it; without one a directive is about every
line, and without a level it lets everything through.  Square brackets name a span, a
field in braces, or both, and a field may have a value.  Only lines with such a field
are then meant.  This program works in no spans, and values are compared in spans
alone, so a directive with either is about none of its lines.

A directive is read without the blanks around it, but its parts are cut out of the text
with these blanks, at the places found without them.  Blanks in front therefore move
every part towards the front, and can leave one of its ends inside a character.
-/

namespace ModuleDiscovery

/-- A field that a line must have, and what its value is compared with. -/
structure FieldTest where
  name : String
  value : Option String
  deriving DecidableEq, Repr

/-- Lets lines through up to the level of the given rank; zero lets none through.  The
empty target is about every line. -/
structure Directive where
  target : String
  span : Option String
  field : Option FieldTest
  limit : Nat
  deriving DecidableEq, Repr

/-- Why a text is no directive. -/
inductive DirectiveError where
  | malformed
  /-- A part cannot be cut out. -/
  | uncut (cause : SliceError)
  deriving DecidableEq, Repr

namespace Directive

/-! ## Levels -/

/-- Whether two texts differ at most in the case of their ASCII letters. -/
def sameWord (a b : String) : Bool :=
  a.toList.map Char.toLower = b.toList.map Char.toLower

/-- The rank that a word sets as limit: the name of a level, `off`, or a number. -/
def limit? (word : String) : Option Nat :=
  match (Whole.parse? (Nat.pow 2 64) word.toList).filter (· ≤ 5) with
  | some rank => some rank
  | none =>
    if sameWord word "off" then some 0
    else (LogLevel.all.find? fun level => sameWord word level.name).map LogLevel.rank

/-- The limit that lets everything through. -/
def noLimit : Nat := LogLevel.trace.rank

/-- The directive about every line up to a level. -/
def upTo (limit : Nat) : Directive :=
  ⟨"", none, none, limit⟩

/-! ## Reading -/

/-- Whether a directive may begin with a character. -/
def isOpening (c : Char) : Bool :=
  isAlphanumeric c || c = '-' || c = ':' || c = '_'

/-- Splits in front of the first character that satisfies `p`. -/
def splitBefore (p : Char → Bool) (text : List Char) : List Char × List Char :=
  (text.takeWhile (!p ·), text.dropWhile (!p ·))

/-- The part of a text between two places. -/
def part (text : List Char) (front back : Nat) : Except DirectiveError String :=
  match Slice.between text front back with
  | .ok piece => .ok (String.ofList piece)
  | .error cause => .error (.uncut cause)

/-- A value is a number or a pattern.  Only a number with a plus sign is no pattern. -/
def isValue (text : List Char) : Bool :=
  Pattern.isWellFormed text ||
    match text with
    | '+' :: body =>
      let (mantissa, power) := Environment.splitFirst (fun c => c = 'e' || c = 'E') body
      let (whole, places) := Environment.splitFirst (· = '.') mantissa
      let digits := whole ++ places.getD []
      (!digits.isEmpty && digits.all Char.isDigit && (Environment.exponent? power).isSome) ||
        ["inf", "infinity", "nan"].any (sameWord (String.ofList body))
    | _ => false

/-- A field with the value between its first two equals signs. -/
def fieldTest (text : String) : Except DirectiveError FieldTest :=
  match Environment.splitFirst (· = '=') text.toList with
  | ([], none) => .error .malformed
  | (name, none) => .ok ⟨String.ofList name, none⟩
  | (name, some behind) =>
    let value := behind.takeWhile (· ≠ '=')
    if isValue value then .ok ⟨String.ofList name, some (String.ofList value)⟩
    else .error .malformed

/-- The level behind an equals sign, which is the character at `place`. -/
def limitAt (text : List Char) (place : Nat) : Except DirectiveError Nat := do
  let word ← part text (place + 1) (Slice.size text)
  if word.isEmpty then return noLimit
  match limit? word with
  | some limit => return limit
  | none => throw .malformed

/-- The limit of a directive of which `rest`, from `place` on, has not been read. -/
def limitBehind (text rest : List Char) (place : Nat) : Except DirectiveError Nat :=
  match rest with
  | [] => .ok noLimit
  | '=' :: _ => limitAt text place
  | _ => .error .malformed

/-- Reads a directive from its bracket on, which is the character at `place`. -/
def ofBracket (text : List Char) (target : String) (place : Nat) (rest : List Char) :
    Except DirectiveError Directive := do
  let (name, rest) := splitBefore (fun c => c = ']' || c = '\x7b') rest
  let ending := place + 1 + Slice.size name
  match rest with
  | ']' :: rest =>
    let span ← part text (place + 1) ending
    return ⟨target, some span, none, ← limitBehind text rest (ending + 1)⟩
  | '\x7b' :: rest =>
    let span ← part text (place + 1) ending
    let (field, rest) := splitBefore (· = '\x7d') rest
    let behind := ending + 1 + Slice.size field
    match rest with
    | '\x7d' :: rest =>
      let field ← fieldTest (← part text (ending + 1) behind)
      match rest with
      | ']' :: rest =>
        let limit ← limitBehind text rest (behind + 2)
        return ⟨target, if span.isEmpty then none else some span, some field, limit⟩
      | _ => throw .malformed
    | _ => throw .malformed
  | _ => throw .malformed

/-- The directive that a text spells.  A word alone is a level, or else a target. -/
def read (text : List Char) : Except DirectiveError Directive := do
  let (word, rest) := splitBefore (fun c => c = '=' || c = '[') (trimBlank text)
  match word, rest with
  | [], '[' :: rest => ofBracket text "" 0 rest
  | [], _ => throw .malformed
  | c :: _, rest =>
    if !isOpening c then throw .malformed
    match rest with
    | '=' :: _ =>
      let target ← part text 0 (Slice.size word)
      return ⟨target, none, none, ← limitAt text (Slice.size word)⟩
    | '[' :: rest => ofBracket text (← part text 0 (Slice.size word)) (Slice.size word) rest
    | _ =>
      match limit? (String.ofList text) with
      | some limit => return upTo limit
      | none => return ⟨String.ofList text, none, none, noLimit⟩

/-! ## Choosing -/

/-- Whether a directive is about a line.  One that names a span or a value is about
none. -/
def covers (d : Directive) (line : LogLine) : Bool :=
  d.span.isNone && d.target.toList.isPrefixOf line.target.toList &&
    match d.field with
    | none => true
    | some test => test.value.isNone && test.name ∈ line.fieldNames

/-- Whether the directive `d`, which comes later, decides about lines that both are
about.  The longer target decides, then the one that asks for a field, then the field
that comes later in the alphabet; of two that ask the same, the later does. -/
def yieldsTo (before d : Directive) : Bool :=
  if before.target.length ≠ d.target.length then before.target.length < d.target.length
  else
    match before.field, d.field with
    | none, _ => true
    | some _, none => false
    | some a, some b => !(b.name < a.name)

end Directive

end ModuleDiscovery
