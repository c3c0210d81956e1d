import ModuleDiscovery.Json.Decode

/-!
# Specifiers that the platform provides

Some specifiers need no file: those of the platform's own namespaces, those that
the chosen mode of Node.js compatibility covers, and those that the caller lists
as external.  `isProvided` decides.
-/

namespace ModuleDiscovery

/-- How much of Node.js the platform provides. -/
inductive NodeCompat where
  /-- Nothing. -/
  | none
  /-- Everything that is written with `node:`. -/
  | v1
  /-- The built-in modules, with or without `node:`. -/
  | v2
  /-- Only `node:async_hooks`. -/
  | als
  deriving DecidableEq, Repr, Inhabited

namespace NodeCompat

/-- All modes in their order of declaration. -/
def all : List NodeCompat := [none, v1, v2, als]

/-- The name of a mode. -/
def name : NodeCompat → String
  | none => "none"
  | v1 => "v1"
  | v2 => "v2"
  | als => "als"

/-- The names a mode can be given by; the last mode has two. -/
def spellings : List (String × NodeCompat) :=
  [("none", none), ("v1", v1), ("v2", v2), ("als", als), ("async-context", als)]

/-- The mode with the given name. -/
def parse? (text : String) : Option NodeCompat :=
  spellings.lookup text

/-- What is said of a text that names no mode. -/
def unknownMessage (text : String) : String :=
  s!"unknown Node.js compatibility mode '{text}' (expected none, v1, v2 or als)"

/-- Reads a mode by its name. -/
def decode : Decoder NodeCompat :=
  Decoder.variant spellings

/-! ## Built-in modules -/

/-- What the specifiers of the Node.js standard library start with. -/
def nodeScheme : String := "node:"

/-- What the specifiers of the platform itself start with. -/
def platformSchemes : List String := ["cloudflare:", "workerd:"]

/-- The one module of the asynchronous-context mode. -/
def asyncContextBuiltin : String := "node:async_hooks"

/-- The modules of the Node.js standard library, without `node:`. -/
def builtins : List String := [
  "_http_agent", "_http_client", "_http_common", "_http_incoming", "_http_outgoing",
  "_http_server", "_stream_duplex", "_stream_passthrough", "_stream_readable",
  "_stream_transform", "_stream_wrap", "_stream_writable", "_tls_common", "_tls_wrap",
  "assert", "assert/strict", "async_hooks", "buffer", "child_process", "cluster", "console",
  "constants", "crypto", "dgram", "diagnostics_channel", "dns", "dns/promises", "domain",
  "events", "fs", "fs/promises", "http", "http2", "https", "inspector", "inspector/promises",
  "module", "net", "os", "path", "path/posix", "path/win32", "perf_hooks", "process",
  "punycode", "querystring", "readline", "readline/promises", "repl", "stream",
  "stream/consumers", "stream/promises", "stream/web", "string_decoder", "sys", "timers",
  "timers/promises", "tls", "trace_events", "tty", "url", "util", "util/types", "v8", "vm",
  "wasi", "worker_threads", "zlib"]

/-- Whether a text starts with another. -/
def startsWith (text beginning : String) : Bool :=
  beginning.toList.isPrefixOf text.toList

/-- A specifier without its `node:`. -/
def bareName (specifier : String) : String :=
  if startsWith specifier nodeScheme then
    String.ofList (specifier.toList.drop nodeScheme.toList.length)
  else specifier

/-- Whether a specifier names a built-in module, with or without `node:`. -/
def isBuiltin (specifier : String) : Bool :=
  builtins.contains (bareName specifier)

/-! ## The decision -/

/-- Whether a specifier belongs to the platform's own namespaces. -/
def isPlatform (specifier : String) : Bool :=
  platformSchemes.any (startsWith specifier ·)

/-- Whether a mode covers a specifier. -/
def covers : NodeCompat → String → Bool
  | none, _ => false
  | v1, specifier => startsWith specifier nodeScheme
  | v2, specifier => isBuiltin specifier
  | als, specifier => specifier = asyncContextBuiltin

/-- Whether a specifier is available without a file. -/
def isProvided (mode : NodeCompat) (external : List String) (specifier : String) : Bool :=
  isPlatform specifier || mode.covers specifier || external.contains specifier

end NodeCompat

end ModuleDiscovery
