import ModuleDiscovery.Path.Clean
import ModuleDiscovery.ScriptId

/-!
# Module names

A module is named by the way from the module root to its file, with `..` for a
file outside the root.  An inline script is named by its identifier.

A name is text, so it shows a path that is not text with U+FFFD for what is malformed,
and does not lead back to it.
-/

namespace ModuleDiscovery

/-- The name of the module at `path` under `root`. -/
def moduleName (root path : Path) : String :=
  if path.isScriptId then path.text
  else String.ofList (Segment.toChars (Segment.relative root.clean.segments path.clean.segments))

end ModuleDiscovery
