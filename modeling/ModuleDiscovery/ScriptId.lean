import ModuleDiscovery.Decimal.Whole
import ModuleDiscovery.Path.Basic

/-!
# Identifiers of inline scripts

A script that was handed over as text and has no file goes by `<script:N>`.  The
number is written in decimal; reading accepts one leading `+` and any number of
leading zeros, and refuses values that do not fit in 64 bits.
-/

namespace ModuleDiscovery

namespace ScriptId

/-- The text before the number. -/
def opening : List Char := ['<', 's', 'c', 'r', 'i', 'p', 't', ':']

/-- The text after the number. -/
def closing : List Char := ['>']

/-- Numbers below this bound can be read. -/
def bound : Nat := Nat.pow 2 64

/-- The identifier of the inline script with the given number. -/
def render (index : Nat) : String :=
  String.ofList (opening ++ Nat.toDigits 10 index ++ closing)

/-- The rest of a text after a given beginning. -/
def dropBeginning? : List Char → List Char → Option (List Char)
  | [], text => some text
  | _ :: _, [] => none
  | b :: beginning, c :: text => if b = c then dropBeginning? beginning text else none

/-- The text before a given end. -/
def dropEnd? (ending text : List Char) : Option (List Char) :=
  (dropBeginning? ending.reverse text.reverse).map List.reverse

/-- The number of a script identifier; `none` for any other text. -/
def parse? (text : String) : Option Nat :=
  (dropBeginning? opening text.toList).bind fun rest =>
    (dropEnd? closing rest).bind (Whole.parse? bound)

end ScriptId

/-- Whether a path is a script identifier and not a file. -/
def Path.isScriptId (p : Path) : Bool :=
  (p.text?.bind ScriptId.parse?).isSome

end ModuleDiscovery
