import ModuleDiscovery.ContentKind
import ModuleDiscovery.Path.Basic
import ModuleDiscovery.Specifier

/-!
# What happens during a discovery

A discovery leaves a trace of events.  Some become log lines; others, such as
the reads and the parses, only tell what was done and in which order.
-/

namespace ModuleDiscovery

/-- Something that happened. -/
inductive Event where
  /-- A file was asked for. -/
  | read (path : Path)
  /-- The stamped source of the module at `path` was handed to the parser. -/
  | parsed (path : Path) (code : String) (mode : ParseMode)
  | discoveredJavaScript (name : String) (mode : ParseMode) (specifiers : Nat)
  | discoveredAsset (name : String) (kind : ContentKind)
  | matchedRule (path : Path) (kind : ContentKind)
  | alreadyVisited (path : Path)
  | entrypointAlreadyVisited (path : Path)
  | provided (specifier : String) (importer : String)
  | collected (count : Nat)
  deriving DecidableEq, Repr

namespace Event

/-- The path of a read. -/
def readPath? : Event → Option Path
  | read path => some path
  | _ => none

/-- The path of the module a parse was made for. -/
def parsedPath? : Event → Option Path
  | parsed path _ _ => some path
  | _ => none

/-- The mode of a parse. -/
def parseMode? : Event → Option ParseMode
  | parsed _ _ mode => some mode
  | _ => none

end Event

/-- A computation that can fail and leaves a trace of events. -/
abbrev Logged (ε α : Type) := ExceptT ε (StateM (List Event)) α

/-- Adds an event to the trace. -/
def logEvent {ε : Type} (event : Event) : Logged ε Unit :=
  modifyThe (List Event) (· ++ [event])

end ModuleDiscovery
