import ModuleDiscovery.Config.Layers
import ModuleDiscovery.Manifest

/-!
# Command lines

    rove [-v | -q] [--no-color] collect [ENTRY] [--root DIR] [--node-compat MODE]
      [--external NAME]... [-c FILE] [-f FORMAT] [-o FILE]
    rove [-v | -q] [--no-color] check [-c FILE]

Flags may stand before and behind the name of the command.  A value follows its option
as the next word, behind an equals sign, or behind the letter itself.  Behind `--`
every word is an entry.

Words are read from left to right, and a value is looked at only when the next word
has been recognised: that decides which of two mistakes is reported.
-/

namespace ModuleDiscovery

/-- What a program was asked for. -/
inductive Request where
  | collect (entry : Option Path) (flags : Flags) (config : Option Path) (format : ManifestFormat)
      (output : Option Path)
  | check (config : Option Path)
  deriving DecidableEq, Repr

/-- A command line that has been understood. -/
structure CommandLine where
  verbose : Bool
  quiet : Bool
  noColour : Bool
  request : Request
  deriving DecidableEq, Repr

/-- Why a command line asks for nothing that can be done. -/
inductive UsageError where
  | unknownCommand
  | unknownArgument
  | missingCommand
  /-- A value is missing or not among those that are allowed. -/
  | invalidValue
  /-- A value does not name a mode. -/
  | refusedValue
  /-- A flag that takes no value was given one. -/
  | superfluousValue
  /-- Two arguments exclude each other. -/
  | conflict
  | helpAsked
  | versionAsked
  /-- There are no arguments at all. -/
  | nothingAsked
  deriving DecidableEq, Repr

namespace UsageError

/-- Zero where the help or the version was asked for. -/
def exitCode : UsageError → Nat
  | helpAsked | versionAsked => 0
  | _ => 2

/-- What is printed besides help and reports: the version, where it was asked for. -/
def printed : UsageError → String
  | versionAsked => "rove 0.2.0\n"
  | _ => ""

end UsageError

/-! ## Words -/

namespace CommandLine

/-- A flag that every command knows. -/
inductive Flag where
  | verbose
  | quiet
  | noColour
  | help
  | version
  deriving DecidableEq, Repr

/-- A value of a command line: the entry or that of an option. -/
inductive Slot where
  | entry
  | root
  | nodeCompat
  | external
  | config
  | format
  | output
  deriving DecidableEq, Repr

/-- What a name on a command line stands for. -/
inductive Name where
  | flag (flag : Flag)
  | option (slot : Slot)
  deriving DecidableEq, Repr

/-- A place on a command line: before the command or behind one. -/
inductive Level where
  | program
  | collect
  | check
  deriving DecidableEq, Repr

/-- The long names that are known at a level. -/
def longNames : Level → List (String × Name)
  | .program => common ++ [("version", .flag .version)]
  | .collect =>
    common ++ [("root", .option .root), ("node-compat", .option .nodeCompat),
      ("external", .option .external), ("config", .option .config), ("format", .option .format),
      ("output", .option .output)]
  | .check => common ++ [("config", .option .config)]
where
  /-- The long names that are known everywhere. -/
  common : List (String × Name) :=
    [("verbose", .flag .verbose), ("quiet", .flag .quiet), ("no-color", .flag .noColour),
      ("help", .flag .help)]

/-- The letters that are known at a level. -/
def letters : Level → List (Char × Name)
  | .program => common ++ [('V', .flag .version)]
  | .collect => common ++ [('c', .option .config), ('f', .option .format), ('o', .option .output)]
  | .check => common ++ [('c', .option .config)]
where
  /-- The letters that are known everywhere. -/
  common : List (Char × Name) :=
    [('v', .flag .verbose), ('q', .flag .quiet), ('h', .flag .help)]

/-! ## Reading one level -/

/-- What has been read of a level: its flags, its values, and the value that has been
named last, which may still be missing. -/
structure Reading where
  flags : List Flag
  values : List (Slot × String)
  pending : Option (Slot × Option String)
  deriving Repr

namespace Reading

/-- A level of which nothing has been read. -/
def empty : Reading := ⟨[], [], none⟩

/-- Checks a value. -/
def checkValue (slot : Slot) (value : String) : Except UsageError Unit :=
  match slot with
  | .external => .ok ()
  | .nodeCompat => if (NodeCompat.parse? value).isSome then .ok () else .error .refusedValue
  | .format => if (ManifestFormat.parse? value).isSome then .ok () else .error .invalidValue
  | _ => if value.isEmpty then .error .invalidValue else .ok ()

/-- Takes a value.  Only external specifiers may be given more than once. -/
def take (r : Reading) (slot : Slot) (value : String) : Except UsageError Reading := do
  if slot ≠ .external ∧ r.values.any (·.1 = slot) then throw .conflict
  checkValue slot value
  return { r with values := r.values ++ [(slot, value)] }

/-- Takes the value that is pending. -/
def settle (r : Reading) : Except UsageError Reading :=
  match r.pending with
  | none => .ok r
  | some (_, none) => .error .invalidValue
  | some (slot, some value) => { r with pending := none }.take slot value

/-- Takes a flag, which may be given only once. -/
def takeFlag (r : Reading) (flag : Flag) : Except UsageError Reading := do
  let r ← r.settle
  match flag with
  | .help => throw .helpAsked
  | .version => throw .versionAsked
  | flag =>
    if flag ∈ r.flags then throw .conflict
    return { r with flags := r.flags ++ [flag] }

/-- Takes the name of an option, with its value when that stands in the same word. -/
def takeOption (r : Reading) (slot : Slot) (value : Option String) : Except UsageError Reading := do
  let r ← r.settle
  match value with
  | some value => r.take slot value
  | none => return { r with pending := some (slot, none) }

/-- Takes a word behind two hyphens. -/
def takeLong (level : Level) (r : Reading) (text : List Char) : Except UsageError Reading :=
  let name := text.takeWhile (· ≠ '=')
  let value := match text.dropWhile (· ≠ '=') with
    | [] => none
    | _ :: rest => some (String.ofList rest)
  match (longNames level).lookup (String.ofList name), value with
  | none, _ => .error .unknownArgument
  | some (.flag _), some _ => .error .superfluousValue
  | some (.flag flag), none => r.takeFlag flag
  | some (.option slot), value => r.takeOption slot value

/-- Takes the letters behind one hyphen.  An option takes what follows as its value. -/
def takeLetters (level : Level) (r : Reading) : List Char → Except UsageError Reading
  | [] => .ok r
  | c :: rest =>
    match (letters level).lookup c with
    | none => .error .unknownArgument
    | some (.flag flag) => do
      let r ← r.takeFlag flag
      takeLetters level r rest
    | some (.option slot) =>
      match rest with
      | [] => r.takeOption slot none
      | '=' :: value => r.takeOption slot (some (String.ofList value))
      | value => r.takeOption slot (some (String.ofList value))

/-- Takes a word that is no option.  Only `collect` has a place for one. -/
def takeWord (level : Level) (r : Reading) (word : String) : Except UsageError Reading := do
  if level ≠ .collect ∨ r.values.any (·.1 = .entry) ∨ r.pending.any (·.1 = .entry) then
    throw .unknownArgument
  let r ← r.settle
  return { r with pending := some (.entry, some word) }

/-- Takes the words behind the name of a command. -/
def takeAll (level : Level) : Reading → List String → Except UsageError Reading
  | r, [] => r.settle
  | r, word :: rest =>
    match word.toList with
    | ['-', '-'] => do
      let r ← rest.foldlM (takeWord level) r
      r.settle
    | '-' :: '-' :: text => do
      let r ← r.takeLong level text
      takeAll level r rest
    | '-' :: c :: text => do
      let r ← r.takeLetters level (c :: text)
      takeAll level r rest
    | _ =>
      match r.pending with
      | some (slot, none) => takeAll level { r with pending := some (slot, some word) } rest
      | _ => do
        let r ← r.takeWord level word
        takeAll level r rest

/-- Two flags that exclude each other. -/
def checkFlags (flags : List Flag) : Except UsageError Unit :=
  if .verbose ∈ flags ∧ .quiet ∈ flags then .error .conflict else .ok ()

/-! ## What was read -/

/-- The value of a slot. -/
def value? (r : Reading) (slot : Slot) : Option String :=
  r.values.lookup slot

/-- The path in a slot. -/
def path? (r : Reading) (slot : Slot) : Option Path :=
  (r.value? slot).map Path.ofText

/-- The flags that `collect` puts on top of a configuration. -/
def flagLayer (r : Reading) : Flags where
  main := r.path? .entry
  root := r.path? .root
  nodeCompat := (r.value? .nodeCompat).bind NodeCompat.parse?
  external := r.values.filterMap fun (slot, value) => if slot = .external then some value else none

/-- What the words behind `collect` ask for. -/
def collectRequest (r : Reading) : Request :=
  .collect (r.path? .entry) r.flagLayer (r.path? .config)
    (((r.value? .format).bind ManifestFormat.parse?).getD .json) (r.path? .output)

/-- What the words behind `check` ask for. -/
def checkRequest (r : Reading) : Request :=
  .check (r.path? .config)

end Reading

/-! ## The whole line -/

/-- The command line of flags before and behind a request. -/
def assemble (flags : List Flag) (request : Request) : CommandLine where
  verbose := .verbose ∈ flags
  quiet := .quiet ∈ flags
  noColour := .noColour ∈ flags
  request := request

/-- Reads the words behind the name of a command. -/
def parseCommand (level : Level) (before : List Flag) (request : Reading → Request)
    (words : List String) : Except UsageError CommandLine := do
  let r ← Reading.takeAll level .empty words
  Reading.checkFlags r.flags
  Reading.checkFlags before
  return assemble (before ++ r.flags) (request r)

/-- What is wrong with a line that asks for help on some words. -/
def helpOn : List String → UsageError
  | [] => .helpAsked
  | [name] => if name ∈ commandNames then .helpAsked else .unknownCommand
  | _ => .unknownCommand
where
  /-- The names that help can be had on. -/
  commandNames : List String := ["collect", "check", "help"]

/-- What is wrong with a line whose command stands behind `--`. -/
def escapedCommand (name : String) : UsageError :=
  if name ∈ helpOn.commandNames then .unknownArgument else .unknownCommand

/-- What is wrong with a line without a command. -/
def withoutCommand (flags : List Flag) : UsageError :=
  if flags.isEmpty then .nothingAsked else .missingCommand

/-- Reads the words from the first flag on. -/
def parseProgram : Reading → List String → Except UsageError CommandLine
  | r, [] => .error (withoutCommand r.flags)
  | r, word :: rest =>
    match word.toList with
    | ['-', '-'] =>
      match rest with
      | [] => .error (withoutCommand r.flags)
      | name :: _ => .error (escapedCommand name)
    | '-' :: '-' :: text => do
      let r ← r.takeLong .program text
      parseProgram r rest
    | '-' :: c :: text => do
      let r ← r.takeLetters .program (c :: text)
      parseProgram r rest
    | _ =>
      match word with
      | "collect" => parseCommand .collect r.flags Reading.collectRequest rest
      | "check" => parseCommand .check r.flags Reading.checkRequest rest
      | "help" => .error (helpOn rest)
      | _ => .error .unknownCommand

/-- What the words of a command line ask for. -/
def parse (words : List String) : Except UsageError CommandLine :=
  parseProgram .empty words

end CommandLine

end ModuleDiscovery
