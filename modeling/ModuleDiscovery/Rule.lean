import ModuleDiscovery.ContentKind
import ModuleDiscovery.Glob
import ModuleDiscovery.Path.Basic

/-!
# Module rules

A rule gives files that match one of its globs a kind.  Rules are tried in order
and two default rules come after the ones a user wrote.  A rule without
`fallthrough` closes its kind: later rules of that kind, the default ones among
them, are left out when the list is compiled.

A glob that starts with a slash has to match the whole path.  Any other glob has
to match some trailing run of whole segments.
-/

namespace ModuleDiscovery

/-- A rule as a user writes it. -/
structure ModuleRule where
  kind : ContentKind
  globs : List String
  fallthrough : Bool
  deriving DecidableEq, Repr

/-- A glob that cannot be read, with the kind of its rule. -/
structure RuleError where
  kind : ContentKind
  pattern : String
  cause : Glob.PatternError
  deriving DecidableEq, Repr

/-- The text of an error. -/
def RuleError.message (e : RuleError) : String :=
  s!"invalid {e.kind.name} rule pattern '{e.pattern}': {e.cause.message}"

/-- A rule whose globs have been read. -/
structure CompiledRule where
  kind : ContentKind
  patterns : List Pattern
  deriving DecidableEq, Repr

namespace ModuleRule

/-! ## Reading and writing rules -/

/-- What has been read of a rule. -/
structure Draft where
  kind : Option ContentKind
  globs : Option (List String)
  fallthrough : Option Bool

/-- Takes one field of a rule; `include` is another name of `globs`. -/
def Draft.put (draft : Draft) (key : String) (value : Json) : Except DecodeError Draft :=
  if key = "type" then do
    let kind ← ContentKind.decode value
    return { draft with kind := some kind }
  else if key = "globs" ∨ key = "include" then do
    if draft.globs.isSome then throw (.duplicateField "globs")
    let globs ← Decoder.list Decoder.string value
    return { draft with globs := some globs }
  else if key = "fallthrough" then do
    let fallthrough ← Decoder.bool value
    return { draft with fallthrough := some fallthrough }
  else return draft

/-- The rule, when nothing is missing. -/
def Draft.finish (draft : Draft) : Except DecodeError ModuleRule :=
  match draft.kind, draft.globs with
  | none, _ => .error (.missingField "type")
  | some _, none => .error (.missingField "globs")
  | some kind, some globs => .ok ⟨kind, globs, draft.fallthrough.getD false⟩

/-- Reads a rule. -/
def decode : Decoder ModuleRule
  | .obj entries => Decoder.fields ⟨none, none, none⟩ Draft.put Draft.finish entries
  | .arr items => do
    let (kind, rest) ← Decoder.nextItem ContentKind.decode items
    let some kind := kind | throw (Decoder.tooFew 0 "ModuleRule" 3)
    let (globs, rest) ← Decoder.nextItem (Decoder.list Decoder.string) rest
    let some globs := globs | throw (Decoder.tooFew 1 "ModuleRule" 3)
    let (fallthrough, rest) ← Decoder.nextItem Decoder.bool rest
    unless rest.isEmpty do throw (Decoder.tooMany items.length)
    return ⟨kind, globs, fallthrough.getD false⟩
  | found => .error (.invalidType found "struct ModuleRule")

/-- A rule as JSON. -/
def encode (rule : ModuleRule) : Json :=
  .obj [("fallthrough", .bool rule.fallthrough), ("globs", .ofStrings rule.globs),
    ("type", .str rule.kind.name)]

/-! ## Compiling -/

/-- The rules that come after those of a user. -/
def defaults : List ModuleRule :=
  [⟨.esModule, ["*.mjs"], false⟩, ⟨.commonJs, ["*.js", "*.cjs"], false⟩]

/-- Reads the globs of one rule; the first bad one is the error. -/
def compileGlobs (kind : ContentKind) : List String → Except RuleError (List Pattern)
  | [] => .ok []
  | text :: rest =>
    match Pattern.parse text with
    | .error cause => .error ⟨kind, text, cause⟩
    | .ok pattern => (compileGlobs kind rest).map (pattern :: ·)

/-- Compiles rules in order, leaving out those whose kind has been closed. -/
def compileFrom (closed : List ContentKind) : List ModuleRule → Except RuleError (List CompiledRule)
  | [] => .ok []
  | rule :: rest =>
    if rule.kind ∈ closed then compileFrom closed rest
    else do
      let patterns ← compileGlobs rule.kind rule.globs
      let compiled ← compileFrom (if rule.fallthrough then closed else rule.kind :: closed) rest
      return ⟨rule.kind, patterns⟩ :: compiled

/-- Compiles the rules of a user with the default rules behind them. -/
def compile (rules : List ModuleRule) : Except RuleError (List CompiledRule) :=
  compileFrom [] (rules ++ defaults)

end ModuleRule

namespace CompiledRule

/-! ## Matching -/

/-- Every rest of a text behind a slash, longest first, without the empty one. -/
def segmentTails : List Char → List (List Char)
  | [] => []
  | c :: rest =>
    if c = '/' ∧ rest ≠ [] then rest :: segmentTails rest else segmentTails rest

/-- Whether a pattern matches a path: the whole of it for a pattern that starts with
a slash, else some run of its last segments. -/
def patternMatches (path : List Char) (pattern : Pattern) : Bool :=
  if pattern.text.toList.head? = some '/' then pattern.matchesText path
  else (segmentTails path).any pattern.matchesText

/-- Whether some pattern of the rule matches the path. -/
def matchesPath (rule : CompiledRule) (path : Path) : Bool :=
  rule.patterns.any (patternMatches path.slashed.toList)

/-- The first rule that matches a path. -/
def find? (rules : List CompiledRule) (path : Path) : Option CompiledRule :=
  rules.find? (·.matchesPath path)

end CompiledRule

end ModuleDiscovery
