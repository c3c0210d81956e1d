import ModuleDiscovery.Text.Position

/-!
# Specifiers

Discovery needs one thing from a parser: the specifiers that a source refers to,
in the order it refers to them.  A specifier is a string, or some other
expression that only running the program could evaluate.
-/

namespace ModuleDiscovery

/-- What a JavaScript source is parsed as. -/
inductive ParseMode where
  /-- An ES module. -/
  | module
  /-- A CommonJS script, whose `require` calls are imports too. -/
  | script
  deriving DecidableEq, Repr, Inhabited

/-- The name of a mode. -/
def ParseMode.name : ParseMode → String
  | module => "Module"
  | script => "Script"

/-- A specifier and where it stands. -/
inductive Specifier where
  | literal (value : String) (position : Position)
  | dynamic (position : Position)
  deriving DecidableEq, Repr

/-- Why a source could not be parsed. -/
structure ParseFailure where
  text : String
  location : Option Position
  deriving DecidableEq, Repr

/-- A parser, as discovery sees it. -/
abbrev SpecifierParser := String → ParseMode → Except ParseFailure (List Specifier)

end ModuleDiscovery
