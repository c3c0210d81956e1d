import ModuleDiscovery.Event
import ModuleDiscovery.Log.Line

/-!
# Notices

While a program runs it gives notice of what it does: some notices are status lines
for a person, the others log lines.  Reads and parses stay silent.
-/

namespace ModuleDiscovery

/-- Something a program gives notice of. -/
inductive Notice where
  | discovery (event : Event)
  | mergingConfig (path : Path)
  | loadingConfig (path : Path)
  | manifestReady (count : Nat)
  | status (status : Status)
  deriving DecidableEq, Repr

/-- The log line of an event. -/
def Event.logLine? : Event → Option LogLine
  | .read _ | .parsed .. => none
  | .discoveredJavaScript name mode specifiers =>
    some ⟨.debug, "rove_graph::walker", "discovered javascript module",
      [("module", name), ("mode", mode.name), ("specifiers", toString specifiers)]⟩
  | .discoveredAsset name kind =>
    some ⟨.debug, "rove_graph::walker::traversal", "discovered asset module",
      [("module", name), ("kind", kind.name)]⟩
  | .matchedRule path kind =>
    some ⟨.trace, "rove_graph::walker::traversal", "matched module rule",
      [("path", path.text), ("kind", kind.name)]⟩
  | .alreadyVisited path =>
    some ⟨.trace, "rove_graph::walker::traversal", "already visited", [("path", path.text)]⟩
  | .entrypointAlreadyVisited path =>
    some ⟨.debug, "rove_graph::walker", "entrypoint already visited", [("path", path.text)]⟩
  | .provided specifier importer =>
    some ⟨.trace, "rove_graph::walker::traversal", "specifier provided by runtime",
      [("specifier", specifier), ("from", importer)]⟩
  | .collected count =>
    some ⟨.info, "rove_graph::build", "collected modules", [("count", toString count)]⟩

namespace Notice

/-- The log line of a notice. -/
def logLine? : Notice → Option LogLine
  | discovery event => event.logLine?
  | mergingConfig path =>
    some ⟨.debug, "rove_cli::config", "merging config file", [("path", path.text)]⟩
  | loadingConfig path =>
    some ⟨.debug, "rove_config::discovery", "loading config", [("path", path.text)]⟩
  | manifestReady count =>
    some ⟨.info, "rove_cli::commands::collect", "module manifest ready", [("count", toString count)]⟩
  | status _ => none

/-- The status line of a notice. -/
def status? : Notice → Option Status
  | status line => some line
  | _ => none

/-- The path of a read. -/
def readPath? : Notice → Option Path
  | discovery event => event.readPath?
  | _ => none

end Notice

end ModuleDiscovery
