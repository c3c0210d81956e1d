import ModuleDiscovery.Walk.Visit

/-!
# Collecting the modules of a build

The modules of a build are either walked from an entrypoint or listed by hand.
`ModuleDefinition.toModule` builds a listed module, with the name and the stamp
that a walk would give it, and `WorkerModule.toDefinition?` goes back.
-/

namespace ModuleDiscovery

/-! ## Listed modules -/

/-- A path seen from the working directory. -/
def fromWorkingDirectory (runtime : Runtime) (path : Path) : Except ModuleError Path :=
  if path.isAbsolute then .ok path
  else
    match runtime.cwd with
    | .error cause => .error (.readFailure path cause)
    | .ok cwd => .ok (cwd.join path)

namespace ModuleDefinition

/-- The contents of a listed module with the given bytes. -/
def contentsOf (kind : ContentKind) (path : Path) (bytes : Bytes) : ModuleContents :=
  match kind with
  | .esModule => .esModule (SourceUrl.stamp (Utf8.decodeLossy bytes) (SourceUrl.locator path))
  | .commonJs => .commonJs (SourceUrl.stamp (Utf8.decodeLossy bytes) (SourceUrl.locator path))
  | kind => .ofBytes kind bytes

/-- The module a definition stands for.  Its file is read only when the definition
has no contents of its own. -/
def toModule (root : Path) (runtime : Runtime) (d : ModuleDefinition) :
    Logged ModuleError WorkerModule := do
  let path ← liftExcept (fromWorkingDirectory runtime d.path)
  let bytes ← match d.contents with
    | some contents => pure contents.toBytes
    | none => readLogged runtime path
  return ⟨moduleName root path, contentsOf d.kind path bytes⟩
where
  /-- A result without events. -/
  liftExcept {α : Type} (result : Except ModuleError α) : Logged ModuleError α :=
    match result with
    | .ok value => return value
    | .error e => throw e

end ModuleDefinition

/-- Contents as a definition holds them. -/
def ModuleContents.inline (contents : ModuleContents) : InlineContents :=
  match contents.bytes? with
  | some bytes => .bytes bytes
  | none => .text (contents.text?.getD "")

/-- The definition of a module, with its contents; modules that the platform
generates have none. -/
def WorkerModule.toDefinition? (root : Path) (m : WorkerModule) : Option ModuleDefinition :=
  m.kind?.map fun kind => ⟨kind, (root.join m.name).clean, some m.contents.inline⟩

/-! ## Builds -/

/-- Why the modules of a build could not be collected. -/
inductive CollectError where
  | rule (e : RuleError)
  | module (e : ModuleError)
  /-- The walk went deeper than there are files. -/
  | tooDeep
  deriving DecidableEq, Repr

/-- Where the modules of a build come from. -/
inductive ModuleSource where
  | entrypoint (code : String) (path : Path)
  | listed (definitions : List ModuleDefinition)
  deriving DecidableEq, Repr

namespace ModuleSource

/-- The entrypoint in a file. -/
def ofFile (runtime : Runtime) (path : Path) : Logged ModuleError ModuleSource := do
  match fromWorkingDirectory runtime path with
  | .error e => throw e
  | .ok path =>
    let bytes ← readLogged runtime path.clean
    return .entrypoint (Utf8.decodeLossy bytes) path.clean

end ModuleSource

/-- Runs a walk from the beginning and returns what it recorded. -/
def walkFresh (w : Walker) (code : String) (path : Path) : Logged CollectError (List WorkerModule) := do
  let (result, state) := (w.visitEntrypoint code path).run Walk.State.fresh
  modifyThe (List Event) (· ++ state.events)
  match result with
  | .ok () => return state.modules
  | .error (.failed e) => throw (.module e)
  | .error .tooDeep => throw .tooDeep

/-- The modules listed by hand, in their order. -/
def toModules (root : Path) (runtime : Runtime) (definitions : List ModuleDefinition) :
    Logged CollectError (List WorkerModule) :=
  ExceptT.adapt CollectError.module (definitions.mapM (ModuleDefinition.toModule root runtime))

/-- The modules of a build. -/
def collectModules (source : ModuleSource) (options : WalkOptions) (runtime : Runtime)
    (parser : SpecifierParser) : Logged CollectError (List WorkerModule) := do
  let modules ← match source with
    | .entrypoint code path =>
      match Walker.create options runtime parser with
      | .error e => throw (.rule e)
      | .ok walker => walkFresh walker code path
    | .listed definitions => toModules options.root.clean runtime definitions
  logEvent (.collected modules.length)
  return modules

end ModuleDiscovery
