import ModuleDiscovery.Definition
import ModuleDiscovery.Runtime
import ModuleDiscovery.Text.Position

/-!
# What can go wrong with a module

Five things stop a discovery.  Each error keeps what its message needs; `message`
puts it into words, with advice where there is any, and `code` is a stable name
for the sort of error.
-/

namespace ModuleDiscovery

/-- Why discovery stopped. -/
inductive ModuleError where
  /-- A source that is not JavaScript, with what the parser said. -/
  | parseFailure (name text : String) (location : Option Position)
  /-- An import of something else than a string, with the modules found so far. -/
  | dynamicSpecifier (name : String) (location : Option Position) (registered : List ModuleDefinition)
  /-- An import in an inline script. -/
  | stringScriptImport (name specifier : String)
  /-- An import that no rule gives a kind. -/
  | noMatchingRule (name specifier : String) (builtin : Bool)
  /-- A file that could not be read. -/
  | readFailure (path : Path) (cause : RuntimeError)
  deriving DecidableEq, Repr

namespace ModuleError

/-- A place behind a name. -/
def located (name : String) : Option Position → String
  | none => name
  | some p => s!"{name}:{p.line}:{p.column}"

/-- A definition as a line of a configuration file. -/
def listingLine (d : ModuleDefinition) : String :=
  "  \x7b type = \"" ++ d.kind.name ++ "\", path = \"" ++ d.path.text ++ "\" \x7d,"

/-- All definitions as lines of a configuration file. -/
def listing (registered : List ModuleDefinition) : String :=
  String.intercalate "\n" (registered.map listingLine)

/-- What to do about a specifier without a rule. -/
def ruleAdvice (specifier : String) (builtin : Bool) : String :=
  if builtin then
    s!"\"{specifier}\" is a Node.js built-in module. Enable Node.js compatibility " ++
      "(set `node_compat = \"v2\"` or pass `--node-compat v2`) so the runtime provides it."
  else
    s!"If \"{specifier}\" is an npm package, bundle your function with its " ++
      "dependencies first, or add a module rule whose globs match the file."

/-- The text of an error. -/
def message : ModuleError → String
  | parseFailure name text location =>
    s!"Unable to parse \"{name}\": {text}" ++
      (match location with
      | none => ""
      | some _ => s!"\n    at {located name location}")
  | dynamicSpecifier name location registered =>
    s!"Unable to resolve \"{located name location}\" dependency: " ++
      "dynamic module specifiers are unsupported.\n" ++
      "You must manually define your modules in rove.toml:\n" ++
      "modules = [\n" ++ listing registered ++ "\n  ...\n]"
  | stringScriptImport name specifier =>
    s!"Unable to resolve \"{name}\" dependency \"{specifier}\": imports are unsupported in " ++
      "inline scripts without a defined path.\n" ++
      "Pass the entrypoint as a file so relative imports can be resolved."
  | noMatchingRule name specifier builtin =>
    s!"Unable to resolve \"{name}\" dependency \"{specifier}\": no matching module rules.\n" ++
      ruleAdvice specifier builtin
  | readFailure path cause => s!"Unable to read \"{path.text}\": {cause.message}"

/-- The stable name of the sort of error. -/
def code : ModuleError → String
  | parseFailure .. => "rove::module::parse_failure"
  | dynamicSpecifier .. => "rove::module::dynamic_specifier"
  | stringScriptImport .. => "rove::module::string_script_import"
  | noMatchingRule .. => "rove::module::no_matching_rule"
  | readFailure .. => "rove::module::read_failure"

/-- Advice that is shown apart from the message. -/
def help : ModuleError → Option String
  | dynamicSpecifier .. =>
    some "list every module under `modules` in rove.toml instead of relying on discovery"
  | _ => none

end ModuleError

end ModuleDiscovery
