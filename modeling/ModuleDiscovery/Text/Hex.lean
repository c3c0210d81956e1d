/-!
# Hexadecimal digits

Digits are read in either case and written in one.
-/

namespace ModuleDiscovery

namespace Hex

/-- The value of a digit. -/
def value? (c : Char) : Option Nat :=
  if c.isDigit then some (c.toNat - 48)
  else if 'a' ≤ c ∧ c ≤ 'f' then some (c.toNat - 87)
  else if 'A' ≤ c ∧ c ≤ 'F' then some (c.toNat - 55)
  else none

/-- Whether a character is a digit. -/
def isDigit (c : Char) : Bool :=
  (value? c).isSome

/-- The number that digits continue to. -/
def number? (value : Nat) : List Char → Option Nat
  | [] => some value
  | c :: rest => (value? c).bind fun digit => number? (value * 16 + digit) rest

/-- The value of four digits. -/
def quad? (a b c d : Char) : Option Nat :=
  number? 0 [a, b, c, d]

/-- The character with the given code. -/
def char? (digits : List Char) : Option Char := do
  let code ← number? 0 digits
  if code < 0xD800 ∨ (0xE000 ≤ code ∧ code < 0x110000) then some (Char.ofNat code) else none

/-- A lower-case digit. -/
def lowerDigit (n : Nat) : Char :=
  Char.ofNat (if n < 10 then 48 + n else 87 + n)

/-- An upper-case digit. -/
def upperDigit (n : Nat) : Char :=
  Char.ofNat (if n < 10 then 48 + n else 55 + n)

end Hex

end ModuleDiscovery
