import ModuleDiscovery.Script.Trivia
import ModuleDiscovery.Text.Hex

/-!
# Escapes and the values of strings

A backslash in a string starts an escape.  `Escape.read?` reads one: what it stands
for and how much text it takes.  Two surrogates that are written with four digits
each and fit together are one escape and one character.  A string's value is made of
characters and of surrogates that were left alone, and of these each is kept as
U+FFFD with its number behind it.
-/

namespace ModuleDiscovery.Script

/-- What an escape stands for. -/
inductive Escaped where
  /-- Nothing: a line end that the string goes on behind. -/
  | nothing
  | char (c : Char)
  /-- Half of a surrogate pair. -/
  | surrogate (code : Nat)
  deriving DecidableEq, Repr

namespace Escape

/-- What a code point stands for; nothing above U+10FFFF. -/
def ofCode? (code : Nat) : Option Escaped :=
  if 0xD800 ≤ code ∧ code < 0xE000 then some (.surrogate code)
  else if code < 0x110000 then some (.char (Char.ofNat code))
  else none

/-- A code point in braces: its value and the number of characters up to and with the
closing brace. -/
def inBraces? (text : List Char) : Option (Nat × Nat) :=
  let digits := text.takeWhile Hex.isDigit
  match text.dropWhile Hex.isDigit with
  | '\x7d' :: _ =>
    if digits.isEmpty then none
    else (Hex.number? 0 digits).map fun value => (value, digits.length + 1)
  | _ => none

/-- One code behind `\u`: what it stands for and how many characters it takes. -/
def unit? : List Char → Option (Escaped × Nat)
  | '\x7b' :: rest => do
    let (code, length) ← inBraces? rest
    let value ← ofCode? code
    return (value, length + 1)
  | a :: b :: c :: d :: _ => do
    let value ← ofCode? (← Hex.quad? a b c d)
    return (value, 4)
  | _ => none

/-- The character of two surrogates that fit together. -/
def joined? (high low : Nat) : Option Char :=
  if 0xD800 ≤ high ∧ high < 0xDC00 ∧ 0xDC00 ≤ low ∧ low < 0xE000 then
    some (Char.ofNat (0x10000 + (high - 0xD800) * 1024 + (low - 0xDC00)))
  else none

/-- Two codes of four digits, with `\u` between them, that make one character. -/
def pair? : List Char → Option (Escaped × Nat)
  | a :: b :: c :: d :: '\\' :: 'u' :: e :: f :: g :: h :: _ => do
    let char ← joined? (← Hex.quad? a b c d) (← Hex.quad? e f g h)
    return (.char char, 10)
  | _ => none

/-- The text behind `\u`: what it stands for and how many characters it takes. -/
def unicode? (text : List Char) : Option (Escaped × Nat) :=
  pair? text <|> unit? text

/-- Whether a character is an octal digit. -/
def isOctal (c : Char) : Bool :=
  '0' ≤ c ∧ c ≤ '7'

/-- An octal number of at most three digits and at most 255. -/
def octal (first : Char) (rest : List Char) : Nat × Nat :=
  let limit := if first ≤ '3' then 2 else 1
  let more := (rest.take limit).takeWhile isOctal
  ((first :: more).foldl (fun value c => value * 8 + (c.toNat - 48)) 0, more.length + 1)

/-- The letters that stand for a control character behind a backslash. -/
def control? : Char → Option Char
  | 'n' => some '\n'
  | 't' => some '\t'
  | 'r' => some '\r'
  | 'b' => some '\x08'
  | 'v' => some '\x0b'
  | 'f' => some '\x0c'
  | _ => none

/-- Reads the text behind a backslash: what it stands for and how many characters it
takes. -/
def read? : List Char → Option (Escaped × Nat)
  | [] => none
  | '\r' :: '\n' :: _ => some (.nothing, 2)
  | 'x' :: a :: b :: _ => do
    let value ← Hex.number? 0 [a, b]
    return (.char (Char.ofNat value), 3)
  | 'x' :: _ => none
  | 'u' :: rest => (unicode? rest).map fun (value, length) => (value, length + 1)
  | c :: rest =>
    if isLineEnd c then some (.nothing, 1)
    else if isOctal c then
      let (value, length) := octal c rest
      some (.char (Char.ofNat value), length)
    else some (.char ((control? c).getD c), 1)

/-- Whether an escape may stand in a template: there, octal numbers may not. -/
def templateAllows (text : List Char) : Bool :=
  match text with
  | '0' :: c :: _ => !c.isDigit
  | '0' :: [] => true
  | c :: _ => !c.isDigit && (read? text).isSome
  | [] => false

end Escape

/-! ## Values -/

/-- The four lower-case digits of a code below 65536. -/
def fourDigits (code : Nat) : List Char :=
  [Hex.lowerDigit (code / 4096), Hex.lowerDigit (code / 256 % 16), Hex.lowerDigit (code / 16 % 16),
    Hex.lowerDigit (code % 16)]

/-- Whether an item is half of a pair. -/
def Escaped.isSurrogate : Escaped → Bool
  | surrogate _ => true
  | _ => false

/-- The characters of a value.  When a surrogate is left alone, it is U+FFFD and four
digits, and so is every U+FFFD. -/
def spell (marked : Bool) : Escaped → List Char
  | .nothing => []
  | .char c => if marked ∧ c = '\uFFFD' then c :: fourDigits 0xFFFD else [c]
  | .surrogate code => '\uFFFD' :: fourDigits code

/-- The value made of the given items. -/
def stringValue (items : List Escaped) : String :=
  String.ofList (items.flatMap (spell (items.any Escaped.isSurrogate)))

end ModuleDiscovery.Script
