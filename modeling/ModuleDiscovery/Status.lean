import ModuleDiscovery.Environment.Basic

/-!
# Status lines

A program tells a person how it is getting on, in lines that start with a mark.  They
are coloured when the environment asks for it and nothing speaks against it.
-/

namespace ModuleDiscovery

/-- What a status line is about. -/
inductive Mood where
  | success
  | info
  | warning
  deriving DecidableEq, Repr

/-- A line for a person. -/
structure Status where
  mood : Mood
  message : String
  deriving DecidableEq, Repr

/-! ## Colours -/

namespace Terminal

/-- A text between two control sequences with the given numbers. -/
def styled (opening closing : Nat) (text : String) : String :=
  s!"\x1b[{opening}m" ++ text ++ s!"\x1b[{closing}m"

/-- A text in a colour. -/
def coloured (colour : Nat) (text : String) : String :=
  styled colour 39 text

/-- A text in bold. -/
def bold (text : String) : String :=
  styled 1 0 text

/-- Whether colours are wanted.  Error output is taken not to be a terminal. -/
def wantsColour (environment : Environment) : Bool :=
  !environment.isSet "NO_COLOR" && environment.isSet "FORCE_COLOR"

end Terminal

namespace Mood

/-- The mark a line starts with. -/
def mark : Mood → String
  | success => "✓"
  | info => "ℹ"
  | warning => "⚠"

/-- The number of the mark's colour. -/
def colour : Mood → Nat
  | success => 32
  | info => 34
  | warning => 33

end Mood

namespace Status

/-- The text of a line. -/
def render (coloured : Bool) (status : Status) : String :=
  let mark := status.mood.mark
  if !coloured then mark ++ " " ++ status.message ++ "\n"
  else
    let message := match status.mood with
      | .warning => Terminal.coloured Mood.warning.colour status.message
      | _ => status.message
    Terminal.bold (Terminal.coloured status.mood.colour mark) ++ " " ++ message ++ "\n"

end Status

end ModuleDiscovery
