import ModuleDiscovery.Status

/-!
# Log lines

A log line has a level, a message and named values.  It belongs to a target, the part
of the program it comes from, by which a reader chooses lines.
-/

namespace ModuleDiscovery

/-- How much a log line matters, the most important first. -/
inductive LogLevel where
  | error
  | warn
  | info
  | debug
  | trace
  deriving DecidableEq, Repr

namespace LogLevel

/-- All levels, the most important first. -/
def all : List LogLevel := [error, warn, info, debug, trace]

/-- How many levels have to be let through to see this one. -/
def rank : LogLevel → Nat
  | error => 1
  | warn => 2
  | info => 3
  | debug => 4
  | trace => 5

/-- The name of a level. -/
def name : LogLevel → String
  | error => "ERROR"
  | warn => "WARN"
  | info => "INFO"
  | debug => "DEBUG"
  | trace => "TRACE"

/-- The number of a level's colour. -/
def colour : LogLevel → Nat
  | error => 31
  | warn => 33
  | info => 32
  | debug => 34
  | trace => 35

/-- The name of a level with blanks in front, five characters wide. -/
def column (level : LogLevel) : String :=
  String.ofList (List.replicate (5 - level.name.length) ' ') ++ level.name

end LogLevel

/-- A log line without its time. -/
structure LogLine where
  level : LogLevel
  target : String
  message : String
  fields : List (String × String)
  deriving DecidableEq, Repr

namespace LogLine

/-- The names of the values of a line; its message is one of them. -/
def fieldNames (line : LogLine) : List String :=
  "message" :: line.fields.map Prod.fst

/-- A named value. -/
def renderField (coloured : Bool) (field : String × String) : String :=
  if coloured then
    " " ++ Terminal.styled 3 0 field.1 ++ Terminal.styled 2 0 "=" ++ field.2
  else " " ++ field.1 ++ "=" ++ field.2

/-- The text of a line at the given time. -/
def render (coloured : Bool) (time : String) (line : LogLine) : String :=
  let (time, level) :=
    if coloured then
      (Terminal.styled 2 0 time, Terminal.styled line.level.colour 0 line.level.column)
    else (time, line.level.column)
  time ++ " " ++ level ++ " " ++ line.message ++ String.join (line.fields.map (renderField coloured)) ++ "\n"

end LogLine

end ModuleDiscovery
