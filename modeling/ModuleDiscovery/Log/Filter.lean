import ModuleDiscovery.Log.Directive

/-!
# Choosing log lines

A filter is a list of directives separated by commas.  Of the directives that are about
a line one decides: the one with the longest target, and of those with one target the
one that asks for a field, or else the last.  A line that none is about is left out.
-/

namespace ModuleDiscovery

/-- The directives of a filter in their order. -/
abbrev LogFilter := List Directive

namespace LogFilter

/-- The parts of a text between its commas. -/
def splitCommas : List Char → List (List Char)
  | [] => [[]]
  | c :: rest =>
    if c = ',' then [] :: splitCommas rest
    else
      match splitCommas rest with
      | [] => [[c]]
      | part :: parts => (c :: part) :: parts

/-- The filter a text spells, in which empty parts count for nothing.  A text without
any directive lets errors through. -/
def read (text : String) : Except DirectiveError LogFilter := do
  let directives ← ((splitCommas text.toList).filter (· ≠ [])).mapM Directive.read
  return if directives.isEmpty then [Directive.upTo LogLevel.error.rank] else directives

/-- The directive that decides about a line. -/
def deciding? (filter : LogFilter) (line : LogLine) : Option Directive :=
  (filter.filter (·.covers line)).foldl (fun chosen d =>
    match chosen with
    | none => some d
    | some before => if before.yieldsTo d then some d else some before) none

/-- Whether a filter lets a line through. -/
def admits (filter : LogFilter) (line : LogLine) : Bool :=
  line.level.rank ≤ ((filter.deciding? line).map Directive.limit).getD 0

/-- The targets of this program. -/
def targets : List String := ["rove_graph", "rove_config", "rove_cli"]

/-- The filter that lets the lines of this program through up to a level. -/
def upTo (level : LogLevel) : LogFilter :=
  targets.map fun target => ⟨target, none, none, level.rank⟩

/-- The variable that holds a filter. -/
def variableName : String := "RUST_LOG"

/-- The filter of a run: flags come before the environment, which counts only when it
can be read.  A filter that cannot be cut up is the end of the run. -/
def choose (verbose quiet : Bool) (environment : Environment) : Except SliceError LogFilter :=
  if verbose then .ok (upTo .debug)
  else if quiet then .ok (upTo .error)
  else
    match environment.get? variableName with
    | none => .ok (upTo .info)
    | some text =>
      match read text with
      | .ok filter => .ok filter
      | .error .malformed => .ok (upTo .info)
      | .error (.uncut cause) => .error cause

end LogFilter

end ModuleDiscovery
