import ModuleDiscovery.Event
import ModuleDiscovery.ModuleError
import ModuleDiscovery.NodeCompat
import ModuleDiscovery.Path.Clean
import ModuleDiscovery.Rule

/-!
# The state of a walk

A walk carries the paths it has visited, the modules it has recorded and the
trace of what it did.  The first two only ever grow.  A walk that fails keeps the
state it had reached, so that it can be looked at and even be continued.

Files are read and sources parsed in one place each, `readLogged` and `parseLogged`, so
the trace tells all of them.
-/

namespace ModuleDiscovery

/-! ## Reading and parsing -/

/-- Reads a file and leaves that in the trace. -/
def readLogged (runtime : Runtime) (path : Path) : Logged ModuleError Bytes := do
  logEvent (.read path)
  match runtime.readFile path with
  | .error cause => throw (.readFailure path cause)
  | .ok bytes => return bytes

/-- Parses the source of the module `name` at `path` and leaves that in the trace. -/
def parseLogged (parser : SpecifierParser) (name : String) (path : Path) (code : String)
    (mode : ParseMode) : Logged ModuleError (List Specifier) := do
  logEvent (.parsed path code mode)
  match parser code mode with
  | .error failure => throw (.parseFailure name failure.text failure.location)
  | .ok specifiers => return specifiers

/-! ## Walks -/

/-- What a walk is given. -/
structure WalkOptions where
  root : Path
  rules : List ModuleRule
  nodeCompat : NodeCompat
  external : List String
  deriving DecidableEq, Repr

/-- What stays the same during a walk. -/
structure Walker where
  runtime : Runtime
  parser : SpecifierParser
  root : Path
  rules : List CompiledRule
  nodeCompat : NodeCompat
  external : List String

namespace Walk

/-- What changes during a walk. -/
structure State where
  visited : List Path
  modules : List WorkerModule
  events : List Event
  deriving DecidableEq, Repr

/-- The state before anything has been visited. -/
def State.fresh : State := ⟨[], [], []⟩

/-- Why a walk stopped. -/
inductive Stop where
  | failed (e : ModuleError)
  /-- More modules lay inside one another than there are files. -/
  | tooDeep
  deriving DecidableEq, Repr

end Walk

/-- A computation of a walk. -/
abbrev Walk (α : Type) := ExceptT Walk.Stop (StateM Walk.State) α

namespace Walk

/-- Adds an event to the trace. -/
def log (event : Event) : Walk Unit :=
  modifyThe State fun s => { s with events := s.events ++ [event] }

/-- Adds a module to the record. -/
def record (m : WorkerModule) : Walk Unit :=
  modifyThe State fun s => { s with modules := s.modules ++ [m] }

/-- Stops the walk. -/
def fail {α : Type} (e : ModuleError) : Walk α :=
  throw (.failed e)

/-- Goes on with a computation that leaves events in the trace; its failure stops the walk. -/
def perform {α : Type} (x : Logged ModuleError α) : Walk α := do
  let s ← getThe State
  let (result, events) := x.run s.events
  set { s with events }
  match result with
  | .error e => fail e
  | .ok value => return value

/-- Marks a path as visited and says whether it is new. -/
def enter (path : Path) : Walk Bool := do
  let s ← getThe State
  if path ∈ s.visited then return false
  set { s with visited := s.visited ++ [path] }
  return true

end Walk

namespace Walker

/-- A walker with the given options, unless a rule cannot be compiled. -/
def create (options : WalkOptions) (runtime : Runtime) (parser : SpecifierParser) :
    Except RuleError Walker :=
  (ModuleRule.compile options.rules).map fun rules =>
    { runtime, parser, rules
      root := options.root.clean
      nodeCompat := options.nodeCompat
      external := options.external }

/-- Definitions that list modules by their kinds and paths. -/
def register (root : Path) (modules : List WorkerModule) : List ModuleDefinition :=
  modules.filterMap fun m =>
    m.kind?.map fun kind => ⟨kind, (root.join m.name).clean, none⟩

end Walker

end ModuleDiscovery
