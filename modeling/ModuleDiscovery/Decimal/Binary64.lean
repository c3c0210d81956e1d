/-!
# Double-precision numbers

A finite double is a sign, a mantissa below 2⁵³ and a power of two.  Everything
here is exact arithmetic on natural numbers: `ofRatio` rounds a quotient to the
nearest double, a tie going to the even mantissa, and the two readings of a
decimal differ in how often they round.
-/

namespace ModuleDiscovery

/-- The finite number `±mantissa · 2^exponent`. -/
structure Binary64 where
  negative : Bool
  mantissa : Nat
  exponent : Int
  deriving DecidableEq, Repr, Inhabited

/-- The quotient rounded to the nearest integer, a tie to the even one. -/
def roundDiv (num den : Nat) : Nat :=
  let quotient := num / den
  let twice := 2 * (num % den)
  if twice < den then quotient
  else if den < twice then quotient + 1
  else quotient + quotient % 2

namespace Binary64

/-- The least exponent of a double. -/
def minExponent : Int := -1074

/-- The greatest exponent of a double. -/
def maxExponent : Int := 971

/-- Zero with a sign. -/
def zero (negative : Bool) : Binary64 := ⟨negative, 0, minExponent⟩

/-- Numerator and denominator of `num / den / 2^exponent`. -/
def scaled (num den : Nat) (exponent : Int) : Nat × Nat :=
  match exponent with
  | .ofNat e => (num, den * Nat.pow 2 e)
  | .negSucc e => (num * Nat.pow 2 (e + 1), den)

/-- The double nearest to `num / den`, or `none` when it is too large for one. -/
def ofRatio (negative : Bool) (num den : Nat) : Option Binary64 :=
  if num = 0 then some (zero negative)
  else
    let guess := max minExponent ((Nat.log2 num : Int) - Nat.log2 den - 53)
    let (n, d) := scaled num den guess
    let exponent := if Nat.pow 2 53 ≤ n / d then guess + 1 else guess
    let (n, d) := scaled num den exponent
    let mantissa := roundDiv n d
    let (mantissa, exponent) :=
      if mantissa = Nat.pow 2 53 then (Nat.pow 2 52, exponent + 1) else (mantissa, exponent)
    if maxExponent < exponent then none else some ⟨negative, mantissa, exponent⟩

/-- Numerator and denominator of the absolute value. -/
def ratio (x : Binary64) : Nat × Nat :=
  match x.exponent with
  | .ofNat e => (x.mantissa * Nat.pow 2 e, 1)
  | .negSucc e => (x.mantissa, Nat.pow 2 (e + 1))

/-- The double nearest to a natural number. -/
def ofNat (n : Nat) : Option Binary64 :=
  ofRatio false n 1

/-- The double nearest to `±digits · 10^exponent`. -/
def ofDecimal (negative : Bool) (digits : Nat) : Int → Option Binary64
  | .ofNat e => ofRatio negative (digits * Nat.pow 10 e) 1
  | .negSucc e => ofRatio negative digits (Nat.pow 10 (e + 1))

/-- The quotient of the double nearest to `digits` and the one nearest to
`10 ^ power`, itself rounded; `power` is at most 308. -/
private def divideByPower (negative : Bool) (x : Binary64) (power : Nat) : Option Binary64 :=
  (ofNat (Nat.pow 10 power)).bind fun p =>
    let (n, d) := x.ratio
    let (pn, pd) := p.ratio
    ofRatio negative (n * pd) (d * pn)

private def multiplyByPower (negative : Bool) (x : Binary64) (power : Nat) : Option Binary64 :=
  (ofNat (Nat.pow 10 power)).bind fun p =>
    let (n, d) := x.ratio
    let (pn, pd) := p.ratio
    ofRatio negative (n * pn) (d * pd)

/-- Reads `±digits · 10^exponent` in steps that each round: the digits, the power
of ten, and their product or quotient.  Quick readers of numbers work this way;
the result can differ from `ofDecimal` in the last place. -/
def ofDecimalStepwise (negative : Bool) (digits : Nat) (exponent : Int) : Option Binary64 :=
  (ofNat digits).bind fun x =>
    if x.mantissa = 0 then some (zero negative)
    else
      match exponent with
      | .ofNat e => if 308 < e then none else multiplyByPower negative x e
      | .negSucc e =>
        let e := e + 1
        if e ≤ 308 then divideByPower negative x e
        else if 700 < e then some (zero negative)
        else (divideByPower negative x 308).bind fun y =>
          if e - 308 ≤ 308 then divideByPower negative y (e - 308)
          else (divideByPower negative y 308).bind fun z => divideByPower negative z (e - 616)

end Binary64

end ModuleDiscovery
