import ModuleDiscovery.Command.Arguments
import ModuleDiscovery.Command.Check
import ModuleDiscovery.Command.Collect
import ModuleDiscovery.Log.Filter

/-!
# Runs of the program

A run carries out the request of a command line, and the program leaves an `Outcome`
behind.  `Request.wanted` lists the paths that a run asks the disk for beyond those that
are already known, so that a run on a real disk can be repeated until it knows all it
needs.
-/

namespace ModuleDiscovery

/-- What a run has done and how it ended. -/
structure Run where
  result : Except CommandError Unit
  transcript : Transcript

namespace Request

/-- The command that a request asks for. -/
def command (s : Surroundings) : Request → Command Unit
  | collect entry flags config format output => Command.collect s entry flags config format output
  | check config => Command.check s config

/-- Carries out a request. -/
def run (s : Surroundings) (request : Request) : Run :=
  let (result, transcript) := (request.command s).run Transcript.empty
  ⟨result, transcript⟩

end Request

/-- A call that a program stood in when it broke off. -/
structure Call where
  name : String
  /-- Where the call stands in the sources, if that is known. -/
  place : Option String

/-- A call with its number, four columns wide. -/
def Call.render (n : Nat) (call : Call) : String :=
  let place := (call.place.map fun place => "             at " ++ place ++ "\n").getD ""
  (if n < 10 then "   " else "  ") ++ s!"{n}: " ++ call.name ++ "\n" ++ place

namespace Run

/-! ## Output -/

/-- Zero for a run that succeeded. -/
def exitCode (run : Run) : Nat :=
  match run.result with
  | .ok () => 0
  | .error _ => 1

/-- The status lines of a run. -/
def statusText (coloured : Bool) (run : Run) : String :=
  String.join (run.transcript.notices.filterMap fun notice => notice.status?.map (Status.render coloured))

/-- Whether the status lines of a command line are coloured. -/
def colouredStatus (line : CommandLine) (environment : Environment) : Bool :=
  !line.noColour && Terminal.wantsColour environment

/-- The filter for the log lines of a command line. -/
def logFilter (line : CommandLine) (environment : Environment) : Except SliceError LogFilter :=
  LogFilter.choose line.verbose line.quiet environment

/-- The exit code of a program that has no filter for its log lines. -/
def unfilteredExitCode : Nat := 101

/-- The text of a program that has no filter for its log lines.  It breaks off on a thread
at a place, inside calls from the innermost outwards, which only its build knows; a build
that does not know the calls says how to have them. -/
def unfilteredText (e : SliceError) (thread place : String) (calls : List Call) : String :=
  let around := if calls.isEmpty then
      "note: run with `RUST_BACKTRACE=1` environment variable to display a backtrace\n"
    else "stack backtrace:\n" ++ String.join (calls.zipIdx.map fun (call, n) => call.render n) ++
      "note: Some details are omitted, run with `RUST_BACKTRACE=full` for a verbose backtrace.\n"
  s!"\nthread {thread} panicked at {place}:\n" ++ e.message ++ "\n" ++ around

/-- The text of a notice, unless it is filtered out. -/
def renderNotice (line : CommandLine) (environment : Environment) (filter : LogFilter)
    (time : String) (notice : Notice) : Option String :=
  match notice.status? with
  | some status => some (status.render (colouredStatus line environment))
  | none => (notice.logLine?.filter filter.admits).map (LogLine.render (!line.noColour) time)

/-- The status and log lines of a run in their order. -/
def errorText (line : CommandLine) (environment : Environment) (filter : LogFilter)
    (time : String) (run : Run) : String :=
  String.join (run.transcript.notices.filterMap (renderNotice line environment filter time))

end Run

/-! ## Outcomes -/

/-- What a program leaves behind. -/
structure Outcome where
  exitCode : Nat
  /-- What went to standard output. -/
  printed : String
  /-- The file that was written. -/
  written : Option (Path × Bytes)
  deriving DecidableEq, Repr

/-- The outcome of a run. -/
def Run.outcome (run : Run) : Outcome :=
  ⟨run.exitCode, run.transcript.printed, run.transcript.written⟩

/-- The outcome of a program that has no filter for its log lines. -/
def Outcome.unfiltered : Outcome :=
  ⟨Run.unfilteredExitCode, "", none⟩

/-- The outcome of the program for a command line. -/
def CommandLine.outcome (line : CommandLine) (s : Surroundings) : Outcome :=
  match Run.logFilter line s.environment with
  | .error _ => .unfiltered
  | .ok _ => (line.request.run s).outcome

namespace Request

/-! ## What a run asks for -/

/-- The configuration file that was given. -/
def given : Request → Option Path
  | collect _ _ config _ _ => config
  | check config => config

/-- The flags of a request. -/
def flags : Request → Flags
  | collect _ flags _ _ _ => flags
  | check _ => Flags.empty

/-- The files that may hold the configuration. -/
def configFiles (request : Request) (cwd : Path) : List Path :=
  match request.given with
  | some path => [cwd.join path]
  | none => [cwd.join Config.documentName, cwd.join Config.packageName]

/-- The files that a configuration names. -/
def namedFiles (s : Surroundings) (request : Request) (cwd : Path) : List Path :=
  match Config.load s.disk (Config.file? s.disk request.given cwd) s.environment request.flags cwd with
  | .ok config => (config.main.toList ++ config.modules.map ModuleDefinition.path).map cwd.join
  | .error _ => []

/-- The paths that a run looks at, as far as it can be foreseen on a disk of which only
a part is known. -/
def wanted (s : Surroundings) (request : Request) : List Path :=
  match s.disk.cwd with
  | .error _ => []
  | .ok cwd =>
    request.configFiles cwd ++ request.namedFiles s cwd ++
      (request.run s).transcript.notices.filterMap Notice.readPath?

end Request

end ModuleDiscovery
