import ModuleDiscovery.Command.Program
import ModuleDiscovery.Log.Time
import ModuleDiscovery.Script.Source

/-!
# The program

The program carries out a request on what it knows of the disk, looks at the paths that
the run asked for, and repeats the run until nothing it asks for is unknown.  Only then
does it write and print.
-/

namespace ModuleDiscovery

namespace Program

/-! ## The disk -/

/-- What is known of a disk. -/
structure Knowledge where
  cwd : Except DiskError Path
  entries : List (Path × Except DiskError Entry)
  /-- The attempt to write that failed. -/
  refused : Option (Path × DiskError)

namespace Knowledge

/-- Whether a path has been looked at. -/
def covers (k : Knowledge) (path : Path) : Bool :=
  k.entries.any (·.1 = path)

/-- What was found at a path. -/
def look (k : Knowledge) (path : Path) : Except DiskError Entry :=
  match k.entries.find? (·.1 = path) with
  | some (_, found) => found
  | none => .error .notFound

/-- The known part of the disk. -/
def disk (k : Knowledge) : Disk where
  cwd := k.cwd
  look := k.look
  refusal? path := match k.refused with
    | some (refused, cause) => if refused = path then some cause else none
    | none => none
  files := k.entries.map Prod.fst

end Knowledge

/-- The failure that the system reported. -/
def diskError : IO.Error → DiskError
  | .noFileOrDirectory .. => .notFound
  | .inappropriateType _ 20 _ => .notADirectory
  | .inappropriateType _ 21 _ => .isADirectory
  | .invalidArgument _ 36 _ => .nameTooLong
  | e => .other (toString e)

/-- Looks at a path. -/
def lookAt (path : Path) : IO (Except DiskError Entry) := do
  if 0 ∈ path.bytes then return .error .zeroInName
  try
    let bytes ← IO.FS.readBinFile path.text
    return .ok (.file bytes.toList)
  catch e =>
    match diskError e with
    | .isADirectory => return .ok .directory
    | cause => return .error cause

/-- Writes a file. -/
def writeTo (path : Path) (bytes : Bytes) : IO (Option DiskError) := do
  try
    IO.FS.writeBinFile path.text (ByteArray.mk bytes.toArray)
    return none
  catch e => return some (diskError e)

/-! ## The surroundings -/

/-- The parts of some bytes between zeros. -/
def splitZeros (bytes : Bytes) : List Bytes :=
  bytes.splitOn 0

/-- A variable written as a name, an equals sign and a value. -/
def assignment? (bytes : Bytes) : Option (String × String) := do
  let text ← Utf8.decode? bytes
  match text.toList.dropWhile (· ≠ '=') with
  | [] => none
  | _ :: value => return (String.ofList (text.toList.takeWhile (· ≠ '=')), String.ofList value)

/-- The variables of the environment. -/
def readEnvironment : IO Environment := do
  try
    let bytes ← IO.FS.readBinFile "/proc/self/environ"
    return (splitZeros bytes.toList).filterMap assignment?
  catch _ => return []

/-- The working directory. -/
def readWorkingDirectory : IO (Except DiskError Path) := do
  try
    let cwd ← IO.currentDir
    return .ok (.ofText cwd.toString)
  catch e => return .error (diskError e)

/-- The number at the front of a text. -/
def leadingNumber (text : List Char) : Nat :=
  (text.takeWhile Char.isDigit).foldl (fun n c => n * 10 + Whole.digitValue c) 0

/-- The time: when the system was started, and how long it has been up. -/
def readTime : IO String := do
  try
    let lines := (← IO.FS.lines "/proc/stat").toList
    let started := (lines.filterMap fun line => ScriptId.dropBeginning? "btime ".toList line.toList).head?
    let up := (← IO.FS.readFile "/proc/uptime").toList
    let hundredths := leadingNumber ((up.dropWhile (· ≠ '.')).drop 1)
    let seconds := leadingNumber (started.getD []) + leadingNumber up
    return LogTime.render (seconds * 1000000 + hundredths * 10000)
  catch _ => return LogTime.render 0

/-! ## Runs -/

/-- Repeats a run until it asks for nothing unknown. -/
partial def settle (environment : Environment) (request : Request) (k : Knowledge) : IO (Knowledge × Run) := do
  let s : Surroundings := ⟨k.disk, environment, Script.parse⟩
  let unknown := ((request.wanted s).filter (!k.covers ·)).eraseDups
  if unknown.isEmpty then return (k, request.run s)
  let found ← unknown.mapM fun path => do return (path, ← lookAt path)
  settle environment request { k with entries := k.entries ++ found }

/-- Carries out a request, with the file it writes. -/
def carryOut (environment : Environment) (request : Request) : IO Run := do
  let (k, run) ← settle environment request ⟨← readWorkingDirectory, [], none⟩
  match run.transcript.written with
  | none => return run
  | some (path, bytes) =>
    match ← writeTo path bytes with
    | none => return run
    | some cause =>
      let (_, run) ← settle environment request { k with refused := some (path, cause) }
      return run

/-! ## Texts -/

/-- How the program is called. -/
def usage : String :=
  "Usage: rove [-v | -q] [--no-color] <COMMAND>\n\n" ++
  "Commands:\n" ++
  "  collect [ENTRY] [--root DIR] [--node-compat MODE] [--external NAME]...\n" ++
  "          [-c FILE] [-f json|text] [-o FILE]\n" ++
  "          Collect the modules reachable from an entrypoint\n" ++
  "  check   [-c FILE]\n" ++
  "          Validate configuration\n"

/-- What is said about a command line that asks for nothing that can be done. -/
def usageMessage : UsageError → String
  | .unknownCommand => "unrecognized subcommand"
  | .unknownArgument => "unexpected argument"
  | .missingCommand => "a subcommand is required"
  | .invalidValue => "a value is missing or is not one of the possible values"
  | .refusedValue => "a value does not name a Node.js compatibility mode"
  | .superfluousValue => "a flag was given a value"
  | .conflict => "arguments cannot be used together"
  | .helpAsked | .versionAsked | .nothingAsked => ""

/-- Answers a command line that asks for nothing that can be done. -/
def answerUsage (e : UsageError) : IO UInt32 := do
  match e with
  | .helpAsked => IO.print usage
  | .versionAsked => IO.print e.printed
  | .nothingAsked => IO.eprint usage
  | e => IO.eprint s!"error: {usageMessage e}\n\n{usage}"
  return e.exitCode.toUInt32

/-- The report of an error. -/
def report (e : CommandError) : String :=
  let code := (e.code.map fun code => " " ++ code ++ "\n").getD ""
  let help := (e.help.map fun help => "\n  help: " ++ help).getD ""
  "Error:" ++ code ++ "\n  × " ++ e.message "malformed document" ++ help ++ "\n"

end Program

end ModuleDiscovery

open ModuleDiscovery Program in
/-- Carries out what the command line asks for. -/
def main (arguments : List String) : IO UInt32 := do
  match CommandLine.parse arguments with
  | .error e => answerUsage e
  | .ok line =>
    let environment ← readEnvironment
    match Run.logFilter line environment with
    | .error e =>
      IO.eprint (Run.unfilteredText e "'main'" "LogFilter.choose" [])
      return Outcome.unfiltered.exitCode.toUInt32
    | .ok filter =>
      let run ← carryOut environment line.request
      IO.eprint (run.errorText line environment filter (← readTime))
      IO.print run.outcome.printed
      if let .error e := run.result then IO.eprint (report e)
      return run.outcome.exitCode.toUInt32
