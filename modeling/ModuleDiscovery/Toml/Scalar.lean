import ModuleDiscovery.Json.Basic
import ModuleDiscovery.Text.Hex

/-!
# Numbers, dates and times of TOML

A word that is no string is a truth value, a number, a date or a time.  Dates and
times become objects with their text, in which seconds are always given.
-/

namespace ModuleDiscovery.Toml

/-! ## Digits -/

/-- Digits without the single underscores between them. -/
def digitsOf (isDigit : Char → Bool) : List Char → Option (List Char)
  | [] => none
  | [c] => if isDigit c then some [c] else none
  | c :: '_' :: rest => if isDigit c then (digitsOf isDigit rest).map (c :: ·) else none
  | c :: rest => if isDigit c then (digitsOf isDigit rest).map (c :: ·) else none

/-- The value of digits in a base. -/
def valueOf (base : Nat) (digits : List Char) : Nat :=
  digits.foldl (fun value c => value * base + (Hex.value? c).getD 0) 0

/-- A sign at the front: whether it is a minus, and the rest. -/
def splitSign : List Char → Bool × List Char
  | '-' :: rest => (true, rest)
  | '+' :: rest => (false, rest)
  | text => (false, text)

/-! ## Whole numbers -/

/-- A whole number, if it fits in 64 bits. -/
def fitting (value : Int) : Option Json :=
  if -(Nat.pow 2 63 : Int) ≤ value ∧ value < Nat.pow 2 63 then some (.int value) else none

/-- The digits of a decimal number, which start with a zero only if it is the only
one. -/
def decimalDigits (text : List Char) : Option (List Char) :=
  match digitsOf Char.isDigit text with
  | some ('0' :: _ :: _) => none
  | digits => digits

/-- A whole number. -/
def integer? (text : List Char) : Option Json :=
  match text with
  | '0' :: 'x' :: digits => (digitsOf Hex.isDigit digits).bind fun ds => fitting (valueOf 16 ds)
  | '0' :: 'o' :: digits =>
    (digitsOf (fun c => '0' ≤ c ∧ c ≤ '7') digits).bind fun ds => fitting (valueOf 8 ds)
  | '0' :: 'b' :: digits =>
    (digitsOf (fun c => c = '0' || c = '1') digits).bind fun ds => fitting (valueOf 2 ds)
  | text =>
    let (negative, digits) := splitSign text
    (decimalDigits digits).bind fun ds =>
      fitting (if negative then -(valueOf 10 ds : Int) else valueOf 10 ds)

/-! ## Numbers with a fraction or an exponent -/

/-- Splits at the first character that satisfies `p`; the character is dropped. -/
def splitAt? (p : Char → Bool) (text : List Char) : List Char × Option (List Char) :=
  match text.dropWhile (!p ·) with
  | [] => (text, none)
  | _ :: rest => (text.takeWhile (!p ·), some rest)

/-- The value of an exponent. -/
def exponent? (text : List Char) : Option Int :=
  let (negative, digits) := splitSign text
  (digitsOf Char.isDigit digits).map fun ds =>
    let value := min 100000 (valueOf 10 ds)
    if negative then -(value : Int) else value

/-- A number with a fraction or an exponent; infinity and what is no number are null. -/
def float? (text : List Char) : Option Json := do
  let (negative, body) := splitSign text
  if body = ['i', 'n', 'f'] ∨ body = ['n', 'a', 'n'] then return .null
  let (mantissa, power) := splitAt? (fun c => c = 'e' || c = 'E') body
  let (whole, fraction) := splitAt? (· = '.') mantissa
  if power.isNone ∧ fraction.isNone then none
  let wholeDigits ← decimalDigits whole
  let places ← match fraction with
    | none => some []
    | some text => digitsOf Char.isDigit text
  let power ← match power with
    | none => some 0
    | some text => exponent? text
  let value ← Binary64.ofDecimal negative (valueOf 10 (wholeDigits ++ places)) (power - places.length)
  return .float value

/-! ## Dates and times -/

/-- A number of exactly two digits. -/
def twoDigits? : List Char → Option (Nat × List Char)
  | a :: b :: rest =>
    if a.isDigit ∧ b.isDigit then some (valueOf 10 [a, b], rest) else none
  | _ => none

/-- Two digits in front of a number below ten. -/
def padded (n : Nat) : List Char :=
  if n < 10 then '0' :: Nat.toDigits 10 n else Nat.toDigits 10 n

/-- Whether a year has a leap day. -/
def isLeap (year : Nat) : Bool :=
  year % 4 = 0 && (year % 100 ≠ 0 || year % 400 = 0)

/-- The number of days in a month. -/
def daysIn (year month : Nat) : Nat :=
  if month = 2 then (if isLeap year then 29 else 28)
  else if month = 4 ∨ month = 6 ∨ month = 9 ∨ month = 11 then 30
  else 31

/-- A date at the front of a text: its text and the rest. -/
def date? (text : List Char) : Option (List Char × List Char) := do
  let (century, rest) ← twoDigits? text
  let (yearOfCentury, rest) ← twoDigits? rest
  let '-' :: rest := rest | none
  let (month, rest) ← twoDigits? rest
  let '-' :: rest := rest | none
  let (day, rest) ← twoDigits? rest
  if month = 0 ∨ 12 < month ∨ day = 0 ∨ daysIn (century * 100 + yearOfCentury) month < day then none
  return (text.take 10, rest)

/-- Digits without zeros at the end. -/
def dropTrailingZeros (digits : List Char) : List Char :=
  (digits.reverse.dropWhile (· = '0')).reverse

/-- A fraction of a second at the front of a text, of which nine digits count. -/
def secondFraction? : List Char → Option (List Char × List Char)
  | '.' :: rest =>
    let digits := rest.takeWhile Char.isDigit
    if digits.isEmpty then none
    else
      let kept := dropTrailingZeros (digits.take 9)
      some (if kept.isEmpty then [] else '.' :: kept, rest.dropWhile Char.isDigit)
  | text => some ([], text)

/-- A time at the front of a text, written out with its seconds. -/
def time? (text : List Char) : Option (List Char × List Char) := do
  let (hour, rest) ← twoDigits? text
  let ':' :: rest := rest | none
  let (minute, rest) ← twoDigits? rest
  if 23 < hour ∨ 59 < minute then none
  let upToMinute := padded hour ++ ':' :: padded minute
  match rest with
  | ':' :: rest =>
    let (second, rest) ← twoDigits? rest
    if 60 < second then none
    let (fraction, rest) ← secondFraction? rest
    return (upToMinute ++ ':' :: padded second ++ fraction, rest)
  | rest => return (upToMinute ++ [':', '0', '0'], rest)

/-- The offset behind a time, which ends the text. -/
def offset? (text : List Char) : Option (List Char) :=
  match text with
  | [] => some []
  | ['Z'] | ['z'] => some ['Z']
  | sign :: rest => do
    if sign ≠ '+' ∧ sign ≠ '-' then none
    let (hour, rest) ← twoDigits? rest
    let ':' :: rest := rest | none
    let (minute, rest) ← twoDigits? rest
    if 23 < hour ∨ 59 < minute ∨ !rest.isEmpty then none
    let sign := if hour = 0 ∧ minute = 0 then '+' else sign
    return sign :: padded hour ++ ':' :: padded minute

/-- The text of a date, a time, or both. -/
def dateTime? (text : List Char) : Option (List Char) :=
  match date? text with
  | some (date, []) => some date
  | some (date, separator :: rest) => do
    if separator ≠ 'T' ∧ separator ≠ 't' ∧ separator ≠ ' ' then none
    let (time, rest) ← time? rest
    let offset ← offset? rest
    return date ++ 'T' :: time ++ offset
  | none =>
    match time? text with
    | some (time, []) => some time
    | _ => none

/-- The field that holds the text of a date or a time. -/
def dateTimeField : String := "$__toml_private_datetime"

/-! ## Words -/

/-- The value of a word that is no string. -/
def scalar? (text : List Char) : Option Json :=
  if text = ['t', 'r', 'u', 'e'] then some (.bool true)
  else if text = ['f', 'a', 'l', 's', 'e'] then some (.bool false)
  else
    integer? text <|> float? text <|>
      (dateTime? text).map fun text => .obj [(dateTimeField, .str (String.ofList text))]

/-- Whether a character may stand in such a word. -/
def isScalarChar (c : Char) : Bool :=
  c.isAlphanum || c = '_' || c = '-' || c = '+' || c = '.' || c = ':'

/-- The word at the front of a text, and the rest.  A date may have a blank and a time
behind it. -/
def splitScalar (text : List Char) : List Char × List Char :=
  let word := text.takeWhile isScalarChar
  match date? word, text.dropWhile isScalarChar with
  | some (_, []), ' ' :: c :: rest =>
    if c.isDigit then
      (word ++ ' ' :: (c :: rest).takeWhile isScalarChar, (c :: rest).dropWhile isScalarChar)
    else (word, ' ' :: c :: rest)
  | _, rest => (word, rest)

end ModuleDiscovery.Toml
