import ModuleDiscovery.Decimal.Binary64

/-!
# Sizes for people

A size below 1024 is given in bytes.  A larger one is brought to the largest of
`KB`, `MB` and `GB` that leaves at least one, and given with two decimal places.
The size is first rounded to a double; dividing by 1024 is then exact, and a
half in the third place goes to the even digit.
-/

namespace ModuleDiscovery

namespace Size

/-- The unit for a size and the power of 1024 it stands for. -/
def unitOf (size : Nat) : String × Nat :=
  if size < Nat.pow 1024 2 then ("KB", 1024)
  else if size < Nat.pow 1024 3 then ("MB", Nat.pow 1024 2)
  else ("GB", Nat.pow 1024 3)

/-- A size rounded to a double. -/
def rounded (size : Nat) : Nat :=
  match Binary64.ofNat size with
  | none => size
  | some x => x.ratio.1 / x.ratio.2

/-- A number of hundredths with a point before the last two digits. -/
def hundredths (n : Nat) : String :=
  let rest := n % 100
  toString (n / 100) ++ "." ++ (if rest < 10 then "0" else "") ++ toString rest

/-- A size with its unit. -/
def render (bytes : Nat) : String :=
  let size := rounded bytes
  if size < 1024 then s!"{size} B"
  else
    let (unit, power) := unitOf size
    hundredths (roundDiv (size * 100) power) ++ " " ++ unit

end Size

end ModuleDiscovery
