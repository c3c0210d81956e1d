import ModuleDiscovery.Decimal.Binary64

/-!
# The shortest decimal of a double

A double stands for every real number that rounds to it.  Its shortest decimal
is the one with the fewest digits in that interval, and the nearest to the exact
value among those.  `shortest` finds it, and `brief` spells it, with an exponent for
large and small values.
-/

namespace ModuleDiscovery

/-- The number `digits · 10^exponent`. -/
structure Decimal where
  digits : Nat
  exponent : Int
  deriving DecidableEq, Repr

namespace Binary64

/-! ## Finding the digits -/

/-- The least `j` from `from` on with `den ≤ num · 10^j`, sought for `steps` steps. -/
private def leadingZeros (num den : Nat) : Nat → Nat → Nat
  | 0, j => j
  | steps + 1, j => if den ≤ num * Nat.pow 10 j then j else leadingZeros num den steps (j + 1)

/-- The position of the first digit of `num / den`: zero for the units. -/
def magnitude (num den : Nat) : Int :=
  if den ≤ num then ((Nat.toDigits 10 (num / den)).length : Int) - 1
  else -(leadingZeros num den 400 1 : Int)

/-- Whether `a / b < c / d`. -/
private def ratioLt (a b c d : Nat) : Bool := a * d < c * b

/-- Numerator and denominator of `digits · 10^exponent`. -/
private def decimalRatio (digits : Nat) : Int → Nat × Nat
  | .ofNat e => (digits * Nat.pow 10 e, 1)
  | .negSucc e => (digits, Nat.pow 10 (e + 1))

/-- Whether a decimal rounds to the double: it lies between the halfway points to
the two neighbours, which count when the mantissa is even. -/
def rounds (x : Binary64) (digits : Nat) (exponent : Int) : Bool :=
  let (dn, dd) := decimalRatio digits exponent
  let low := if x.mantissa = Nat.pow 2 52 ∧ minExponent < x.exponent then 1 else 2
  let (ln, ld) := (⟨false, 4 * x.mantissa - low, x.exponent - 2⟩ : Binary64).ratio
  let (hn, hd) := (⟨false, 4 * x.mantissa + 2, x.exponent - 2⟩ : Binary64).ratio
  if x.mantissa % 2 = 0 then !ratioLt dn dd ln ld && !ratioLt hn hd dn dd
  else ratioLt ln ld dn dd && ratioLt dn dd hn hd

/-- The neighbours of the value on the grid of multiples of `10^exponent`, the
nearer one first. -/
def gridNeighbours (x : Binary64) (exponent : Int) : List Nat :=
  let (n, d) := x.ratio
  let (gn, gd) := decimalRatio 1 exponent
  let below := n * gd / (d * gn)
  let nearest := roundDiv (n * gd) (d * gn)
  if nearest = below then [below, below + 1] else [below + 1, below]

/-- The first grid, from `places` digits up, on which some decimal rounds to the double. -/
private def shortestFrom (x : Binary64) (magnitude : Int) : Nat → Int → Decimal
  | 0, places => ⟨0, places⟩
  | steps + 1, places =>
    let exponent := magnitude + 1 - places
    match (x.gridNeighbours exponent).find? (x.rounds · exponent) with
    | some digits => ⟨digits, exponent⟩
    | none => shortestFrom x magnitude steps (places + 1)

/-- Drops zeros from the end of the digits. -/
private def stripZeros : Nat → Decimal → Decimal
  | 0, d => d
  | steps + 1, d =>
    if d.digits % 10 = 0 ∧ d.digits ≠ 0 then stripZeros steps ⟨d.digits / 10, d.exponent + 1⟩ else d

/-- The shortest decimal that rounds to the absolute value of a double. -/
def shortest (x : Binary64) : Decimal :=
  if x.mantissa = 0 then ⟨0, 0⟩
  else
    let (n, d) := x.ratio
    stripZeros 20 (shortestFrom x (magnitude n d) 17 1)

/-! ## Spelling them -/

/-- The decimal with a point before its last `count` digits; at least one digit
stands on either side of the point. -/
private def withPoint (digits : List Char) (count : Nat) : List Char :=
  let padded := List.replicate (count + 1 - digits.length) '0' ++ digits
  padded.take (padded.length - count) ++ '.' :: padded.drop (padded.length - count)

/-- A decimal written out, whole numbers with `.0` behind them. -/
def positional (d : Decimal) : List Char :=
  let digits := Nat.toDigits 10 d.digits
  match d.exponent with
  | .ofNat e => digits ++ List.replicate (if d.digits = 0 then 0 else e) '0' ++ ['.', '0']
  | .negSucc e => withPoint digits (e + 1)

/-- The sign of a number. -/
private def sign (x : Binary64) : List Char :=
  if x.negative then ['-'] else []

/-- An exponent with its sign and at least two digits. -/
private def exponentText (exponent : Int) : List Char :=
  let digits := Nat.toDigits 10 exponent.natAbs
  (if exponent < 0 then '-' else '+') :: List.replicate (2 - digits.length) '0' ++ digits

/-- The shortest decimal, with an exponent below 10⁻⁵ and from 10¹⁶ on. -/
def brief (x : Binary64) : String :=
  let d := x.shortest
  let digits := Nat.toDigits 10 d.digits
  let point := d.exponent + digits.length
  String.ofList <| sign x ++
    if d.digits = 0 ∨ (-5 < point ∧ point ≤ 16) then positional d
    else
      let lead := digits.take 1
      let rest := digits.drop 1
      lead ++ (if rest.isEmpty then [] else '.' :: rest) ++ 'e' :: exponentText (point - 1)

end Binary64

end ModuleDiscovery
