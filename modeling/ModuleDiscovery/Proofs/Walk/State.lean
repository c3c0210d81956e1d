import ModuleDiscovery.Proofs.Run
import ModuleDiscovery.Walk.Basic

/-!
# Running the steps of a walk

A computation of a walk takes a state to a result and a state.  This file says what
each primitive does to the state, in terms of three small changes: `State.visit`,
`State.note` and `State.add`.  The reads and the parses are read off the trace.
-/

namespace ModuleDiscovery.Walk

attribute [simp] Event.readPath? Event.parsedPath?

namespace State

/-- The state with one more visited path. -/
def visit (s : State) (path : Path) : State :=
  { s with visited := s.visited ++ [path] }

/-- The state with more events in its trace. -/
def note (s : State) (events : List Event) : State :=
  { s with events := s.events ++ events }

/-- The state with one more module. -/
def add (s : State) (m : WorkerModule) : State :=
  { s with modules := s.modules ++ [m] }

/-- The paths that were read, in order. -/
def reads (s : State) : List Path :=
  s.events.filterMap Event.readPath?

/-- The paths whose sources were stamped and parsed, in order. -/
def parses (s : State) : List Path :=
  s.events.filterMap Event.parsedPath?

variable (s : State) (path : Path) (events : List Event) (m : WorkerModule)

@[simp] theorem visited_visit : (s.visit path).visited = s.visited ++ [path] := rfl
@[simp] theorem visited_note : (s.note events).visited = s.visited := rfl
@[simp] theorem visited_add : (s.add m).visited = s.visited := rfl
@[simp] theorem modules_visit : (s.visit path).modules = s.modules := rfl
@[simp] theorem modules_note : (s.note events).modules = s.modules := rfl
@[simp] theorem modules_add : (s.add m).modules = s.modules ++ [m] := rfl
@[simp] theorem reads_visit : (s.visit path).reads = s.reads := rfl
@[simp] theorem reads_add : (s.add m).reads = s.reads := rfl
@[simp] theorem parses_visit : (s.visit path).parses = s.parses := rfl
@[simp] theorem parses_add : (s.add m).parses = s.parses := rfl

@[simp] theorem reads_note :
    (s.note events).reads = s.reads ++ events.filterMap Event.readPath? := by
  simp [reads, note]

@[simp] theorem parses_note :
    (s.note events).parses = s.parses ++ events.filterMap Event.parsedPath? := by
  simp [parses, note]

theorem note_nil : s.note [] = s := by
  simp [note]

theorem note_note (more : List Event) : (s.note events).note more = s.note (events ++ more) := by
  simp [note]

end State

/-! ## Primitives -/

variable (s : State)

theorem run_fail {α : Type} (e : ModuleError) :
    (fail e : Walk α).run s = (.error (.failed e), s) := rfl

theorem run_getThe : (getThe State : Walk State).run s = (.ok s, s) := rfl

theorem run_log (event : Event) : (log event).run s = (.ok (), s.note [event]) := rfl

theorem run_record (m : WorkerModule) : (record m).run s = (.ok (), s.add m) := rfl

theorem run_enter_of_mem {path : Path} (hpath : path ∈ s.visited) :
    (enter path).run s = (.ok false, s) := by
  rw [enter, run_bind_ok s (run_getThe s), if_pos hpath]
  rfl

theorem run_enter_of_not_mem {path : Path} (hpath : path ∉ s.visited) :
    (enter path).run s = (.ok true, s.visit path) := by
  rw [enter, run_bind_ok s (run_getThe s), if_neg hpath]
  rfl

/-! ## Reads and parses -/

theorem run_perform {α : Type} (x : Logged ModuleError α) :
    (perform x).run s = ((x.run s.events).1.mapError .failed,
      { s with events := (x.run s.events).2 }) := by
  rw [perform, run_bind_ok s (run_getThe s)]
  rcases x.run s.events with ⟨result, events⟩
  cases result <;> rfl

theorem run_readLogged (runtime : Runtime) (path : Path) (events : List Event) :
    (readLogged runtime path).run events =
      ((runtime.readFile path).mapError (.readFailure path), events ++ [.read path]) := by
  have hlog : (logEvent (.read path) : Logged ModuleError Unit).run events =
      (.ok (), events ++ [.read path]) := rfl
  rw [readLogged, run_bind_ok events hlog]
  cases runtime.readFile path <;> rfl

theorem run_parseLogged (parser : SpecifierParser) (name : String) (path : Path) (code : String)
    (mode : ParseMode) (events : List Event) :
    (parseLogged parser name path code mode).run events =
      ((parser code mode).mapError fun failure =>
        .parseFailure name failure.text failure.location,
        events ++ [.parsed path code mode]) := by
  have hlog : (logEvent (.parsed path code mode) : Logged ModuleError Unit).run events =
      (.ok (), events ++ [.parsed path code mode]) := rfl
  rw [parseLogged, run_bind_ok events hlog]
  cases parser code mode <;> rfl

theorem run_read {runtime : Runtime} {path : Path} {result : Except RuntimeError Bytes}
    (hread : runtime.readFile path = result) : (perform (readLogged runtime path)).run s =
      (result.mapError fun cause => .failed (.readFailure path cause), s.note [.read path]) := by
  rw [run_perform, run_readLogged, hread]
  cases result <;> rfl

theorem run_parse {parser : SpecifierParser} {code : String} {mode : ParseMode}
    {result : Except ParseFailure (List Specifier)} (hparse : parser code mode = result)
    (name : String) (path : Path) :
    (perform (parseLogged parser name path code mode)).run s =
      (result.mapError fun failure =>
        .failed (.parseFailure name failure.text failure.location),
        s.note [.parsed path code mode]) := by
  rw [run_perform, run_parseLogged, hparse]
  cases result <;> rfl

end ModuleDiscovery.Walk
