/-!
# Whole numbers in a word

A whole number is read from its digits, zeros in front included, as long as it stays
below a bound: digits that lead to the bound or beyond are refused, not wrapped.
-/

namespace ModuleDiscovery

namespace Whole

/-- The value of a digit. -/
def digitValue (c : Char) : Nat :=
  c.toNat - '0'.toNat

/-- The number a digit sequence continues to, as long as it stays below the bound. -/
def readDigits (bound value : Nat) : List Char → Option Nat
  | [] => some value
  | c :: rest =>
    if c.isDigit then
      let next := value * 10 + digitValue c
      if next < bound then readDigits bound next rest else none
    else none

/-- A number with at least one digit. -/
def ofDigits? (bound : Nat) : List Char → Option Nat
  | [] => none
  | digits => readDigits bound 0 digits

/-- A number with at least one digit and at most one plus sign. -/
def parse? (bound : Nat) : List Char → Option Nat
  | '+' :: digits => ofDigits? bound digits
  | digits => ofDigits? bound digits

end Whole

end ModuleDiscovery
