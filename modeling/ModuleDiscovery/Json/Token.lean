import ModuleDiscovery.Json.Basic
import ModuleDiscovery.Text.Hex

/-!
# The words of a JSON text

A JSON text is a sequence of tokens with blanks between them.  `Token.scan` cuts
it up; it refuses control characters and lone surrogates in strings, and numbers
with superfluous zeros.  How a token is spelled is in `ModuleDiscovery.Json.Printer`.
-/

namespace ModuleDiscovery

namespace Json

/-- A word of a JSON text. -/
inductive Token where
  | openArray
  | closeArray
  | openObject
  | closeObject
  | comma
  | colon
  | scalar (value : Json)
  deriving Repr, Inhabited

/-- The character that a backslash and a letter stand for. -/
def simpleEscape? : Char → Option Char
  | '"' => some '"'
  | '\\' => some '\\'
  | '/' => some '/'
  | 'b' => some '\x08'
  | 'f' => some '\x0c'
  | 'n' => some '\n'
  | 'r' => some '\r'
  | 't' => some '\t'
  | _ => none

/-- The character of two surrogates, or `none` when they do not pair. -/
def pairSurrogates? (high low : Nat) : Option Char :=
  if 0xD800 ≤ high ∧ high < 0xDC00 ∧ 0xDC00 ≤ low ∧ low < 0xE000 then
    some (Char.ofNat (0x10000 + (high - 0xD800) * 1024 + (low - 0xDC00)))
  else none

/-- The characters of a string up to its closing quote, and the rest. -/
def scanString : List Char → Option (List Char × List Char)
  | [] => none
  | '"' :: rest => some ([], rest)
  | '\\' :: 'u' :: a :: b :: c :: d :: rest =>
    match Hex.quad? a b c d with
    | none => none
    | some unit =>
      if unit < 0xD800 ∨ 0xE000 ≤ unit then
        (scanString rest).map fun (text, rest) => (Char.ofNat unit :: text, rest)
      else
        match rest with
        | '\\' :: 'u' :: e :: f :: g :: h :: rest =>
          match (Hex.quad? e f g h).bind (pairSurrogates? unit) with
          | none => none
          | some char => (scanString rest).map fun (text, rest) => (char :: text, rest)
        | _ => none
  | '\\' :: c :: rest =>
    match simpleEscape? c with
    | none => none
    | some char => (scanString rest).map fun (text, rest) => (char :: text, rest)
  | c :: rest =>
    if c.toNat < 0x20 then none
    else (scanString rest).map fun (text, rest) => (c :: text, rest)

/-! ## Numbers -/

/-- Collects digits into a value below 2⁶⁴; the count says how many digits came
after the value was full. -/
def gatherDigits : List Char → Nat × Nat → Nat × Nat
  | [], state => state
  | c :: rest, (value, skipped) =>
    let next := value * 10 + (c.toNat - 48)
    if skipped = 0 ∧ next < Nat.pow 2 64 then gatherDigits rest (next, 0)
    else gatherDigits rest (value, skipped + 1)

/-- The digits of an exponent, held below a million. -/
private def exponentValue (digits : List Char) : Nat :=
  digits.foldl (fun value c => min 1000000 (value * 10 + (c.toNat - 48))) 0

/-- Splits an exponent off, if there is one: its value and the rest. -/
def scanExponent : List Char → Option (Option Int × List Char)
  | c :: rest =>
    if c = 'e' ∨ c = 'E' then
      let (negative, digits) :=
        match rest with
        | '-' :: digits => (true, digits)
        | '+' :: digits => (false, digits)
        | digits => (false, digits)
      let value := exponentValue (digits.takeWhile Char.isDigit)
      if (digits.takeWhile Char.isDigit).isEmpty then none
      else some (some (if negative then -(value : Int) else value), digits.dropWhile Char.isDigit)
    else some (none, c :: rest)
  | [] => some (none, [])

/-- Splits a fraction off, if there is one: its digits and the rest. -/
def scanFraction : List Char → Option (Option (List Char) × List Char)
  | '.' :: rest =>
    if (rest.takeWhile Char.isDigit).isEmpty then none
    else some (some (rest.takeWhile Char.isDigit), rest.dropWhile Char.isDigit)
  | rest => some (none, rest)

/-- The number with the given digits before and after the point.  Digits before the
point that find no room count as zeros; those behind it are tried again. -/
def numberValue (negative : Bool) (whole : List Char) (fraction : Option (List Char))
    (exponent : Option Int) : Option Json :=
  let (value, skipped) := gatherDigits whole (0, 0)
  match fraction, exponent with
  | none, none =>
    if skipped ≠ 0 then (Binary64.ofDecimalStepwise negative value skipped).map float
    else if !negative then some (int value)
    else if value = 0 then some (float (Binary64.zero true))
    else if value ≤ Nat.pow 2 63 then some (int (-(value : Int)))
    else (Binary64.ofDecimalStepwise true value 0).map float
  | fraction, exponent =>
    let places := fraction.getD []
    let (value, missed) := gatherDigits places (value, 0)
    let power : Int := skipped - ((places.length - missed : Nat) : Int) + exponent.getD 0
    (Binary64.ofDecimalStepwise negative value power).map float

/-- A number without its sign, and the rest. -/
def scanNumber (negative : Bool) (text : List Char) : Option (Json × List Char) := do
  let whole := text.takeWhile Char.isDigit
  if whole.isEmpty ∨ (whole.head? = some '0' ∧ whole.length ≠ 1) then none
  let (fraction, rest) ← scanFraction (text.dropWhile Char.isDigit)
  let (exponent, rest) ← scanExponent rest
  let value ← numberValue negative whole fraction exponent
  return (value, rest)

/-! ## Tokens -/

/-- Whether a character may stand between tokens. -/
def isBlank (c : Char) : Bool :=
  c = ' ' || c = '\n' || c = '\t' || c = '\r'

/-- The token at the front of a text that starts with no blank. -/
def Token.next : List Char → Option (Token × List Char)
  | '[' :: rest => some (openArray, rest)
  | ']' :: rest => some (closeArray, rest)
  | '\x7b' :: rest => some (openObject, rest)
  | '\x7d' :: rest => some (closeObject, rest)
  | ',' :: rest => some (comma, rest)
  | ':' :: rest => some (colon, rest)
  | '"' :: rest => (scanString rest).map fun (text, rest) => (scalar (str (String.ofList text)), rest)
  | 'n' :: 'u' :: 'l' :: 'l' :: rest => some (scalar null, rest)
  | 't' :: 'r' :: 'u' :: 'e' :: rest => some (scalar (bool true), rest)
  | 'f' :: 'a' :: 'l' :: 's' :: 'e' :: rest => some (scalar (bool false), rest)
  | '-' :: rest => (scanNumber true rest).map fun (value, rest) => (scalar value, rest)
  | text => (scanNumber false text).map fun (value, rest) => (scalar value, rest)

/-- The tokens of a text; every token takes at least one character, so the length
of the text bounds their number. -/
def Token.scanUpTo : Nat → List Char → Option (List Token)
  | 0, _ => none
  | steps + 1, text =>
    match text.dropWhile isBlank with
    | [] => some []
    | text => do
      let (token, rest) ← Token.next text
      let tokens ← Token.scanUpTo steps rest
      return token :: tokens

/-- The tokens of a text. -/
def Token.scan (text : List Char) : Option (List Token) :=
  Token.scanUpTo (text.length + 1) text

end Json

end ModuleDiscovery
