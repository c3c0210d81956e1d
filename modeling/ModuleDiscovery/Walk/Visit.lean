import ModuleDiscovery.ModuleName
import ModuleDiscovery.SourceUrl
import ModuleDiscovery.Walk.Basic

/-!
# Walking the imports of an entrypoint

The walk is depth first and records a module before anything it imports.

## Strategy

A JavaScript module is stamped, parsed and recorded; then its specifiers are
followed one after the other.  Following a specifier means to skip it when the
platform provides it, to resolve it against the directory of the importer, to
skip it when that path has been visited, and otherwise to let the rules say what
the file is.  An asset is recorded; a JavaScript file is walked in turn.

A module is walked inside another only when its file was read and its path was
new.  So no more modules can lie inside one another than there are files, and
that number bounds the recursion.
-/

namespace ModuleDiscovery

namespace Walker

/-- The contents a JavaScript module is recorded with. -/
def javaScriptContents (mode : ParseMode) (code : String) : ModuleContents :=
  match mode with
  | .module => .esModule code
  | .script => .commonJs code

/-- The path a specifier stands for in the module at `importer`. -/
def resolve (importer : Path) (specifier : String) : Path :=
  ((importer.parent.getD "").join specifier).clean

/-- Reads the file at `path` and records it, or descends into it, as the kind of the
matching rule says. -/
def load (w : Walker) (descend : String → Path → ParseMode → Walk Unit) (path : Path)
    (kind : ContentKind) : Walk Unit := do
  Walk.log (.matchedRule path kind)
  let bytes ← Walk.perform (readLogged w.runtime path)
  match kind with
  | .esModule => descend (Utf8.decodeLossy bytes) path .module
  | .commonJs => descend (Utf8.decodeLossy bytes) path .script
  | kind => do
    let name := moduleName w.root path
    Walk.log (.discoveredAsset name kind)
    Walk.record ⟨name, .ofBytes kind bytes⟩

/-- Follows a string specifier of the module `name` at `importer`. -/
def followLiteral (w : Walker) (descend : String → Path → ParseMode → Walk Unit) (importer : Path)
    (name specifier : String) : Walk Unit := do
  if NodeCompat.isProvided w.nodeCompat w.external specifier then
    Walk.log (.provided specifier name)
  else if (ScriptId.parse? name).isSome then
    Walk.fail (.stringScriptImport name specifier)
  else
    let path := resolve importer specifier
    if ← Walk.enter path then
      match CompiledRule.find? w.rules path with
      | none => Walk.fail (.noMatchingRule name specifier (NodeCompat.isBuiltin specifier))
      | some rule => w.load descend path rule.kind
    else
      Walk.log (.alreadyVisited path)

/-- Follows one specifier. -/
def follow (w : Walker) (descend : String → Path → ParseMode → Walk Unit) (importer : Path)
    (name : String) : Specifier → Walk Unit
  | .dynamic position => do
    let s ← getThe Walk.State
    Walk.fail (.dynamicSpecifier name (some position) (register w.root s.modules))
  | .literal specifier _ => w.followLiteral descend importer name specifier

/-- Stamps, parses and records a JavaScript module, then follows its specifiers.
The first argument bounds how many modules may lie inside one another. -/
def visitModule (w : Walker) : Nat → String → Path → ParseMode → Walk Unit
  | 0, _, _, _ => throw .tooDeep
  | depth + 1, source, path, mode => do
    let name := moduleName w.root path
    let code := SourceUrl.stamp source (SourceUrl.locator path)
    let specifiers ← Walk.perform (parseLogged w.parser name path code mode)
    Walk.log (.discoveredJavaScript name mode specifiers.length)
    Walk.record ⟨name, javaScriptContents mode code⟩
    for specifier in specifiers do
      w.follow (w.visitModule depth) path name specifier

/-- The path of an entrypoint: an identifier stays as it is, anything else is made
absolute and clean. -/
def absolutize (w : Walker) (path : Path) : Except ModuleError Path :=
  if path.isScriptId then .ok path
  else if path.isAbsolute then .ok path.clean
  else
    match w.runtime.cwd with
    | .error cause => .error (.readFailure path cause)
    | .ok cwd => .ok (cwd.join path).clean

/-- How many modules can lie inside one another. -/
def depthBound (w : Walker) : Nat :=
  w.runtime.served.length + 1

/-- Walks the imports of an entrypoint, which is an ES module whatever the rules
say.  An entrypoint that was visited before is left alone. -/
def visitEntrypoint (w : Walker) (code : String) (path : Path) : Walk Unit := do
  match w.absolutize path with
  | .error e => Walk.fail e
  | .ok path =>
    if ← Walk.enter path then w.visitModule w.depthBound code path .module
    else Walk.log (.entrypointAlreadyVisited path)

end Walker

end ModuleDiscovery
