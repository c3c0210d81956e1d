import ModuleDiscovery.Script.Grammar.Basic

/-!
# Modifiers

Words in front of a member, a parameter or a class that change what it is.  A word is
a modifier only if something that can be modified comes behind it; otherwise it is a
name.  All of them are read, whether the place allows them or not, and those that it
does not allow are noted.
-/

namespace ModuleDiscovery.Script.Grammar

/-- The words that can be modifiers. -/
def modifierWords : List String := [
  "abstract", "accessor", "async", "const", "declare", "default", "export", "in", "out", "override",
  "private", "protected", "public", "readonly", "static"]

/-- The modifiers that say who may use a member; there can be only one of them. -/
def accessWords : List String := ["private", "protected", "public"]

/-- Whether a token can come behind a modifier. -/
def followsModifier (t : Token) : Bool :=
  match t.kind with
  | .mark text => text = "[" || text = "\x7b" || text = "*" || text = "..."
  | .word _ | .privateName _ | .string _ _ | .number => true
  | _ => false

/-- Whether the current token is a modifier, behind those that have been seen.  In a
class, `static` and a brace are a block of their own, and `const` may be a modifier. -/
def atModifier (inClass : Bool) (seen : List String) : Parser Bool := do
  let t ← token
  if !t.isWordAmong modifierWords then return false
  else
    let after ← ahead 1
    if t.isWord "static" then
      return !seen.contains "static" && !(inClass && after.isMark "\x7b") && followsModifier after
    else if t.isWord "const" ∧ !inClass then return false
    else return followsModifier after && !after.onNewLine

/-- Whether a modifier says again what another one has said. -/
def repeats (seen : List String) (name : String) : Bool :=
  seen.contains name || (accessWords.contains name && seen.any accessWords.contains)

/-- All modifiers that stand here. -/
def modifiers (inClass : Bool) (seen : List String) (c : Context) : Parser Tree := do
  let t ← token
  match t.word? with
  | some name =>
    if ← atModifier inClass seen then
      take
      if repeats seen name then note t.start "the modifier repeats another one"
      let more ← rule (.modifiers inClass (name :: seen)) c
      return .other t.start (.leaf (.modifier name) t.start :: more.children)
    else return .other t.start []
  | none => return .other t.start []

/-- Whether a modifier is among some. -/
def hasModifier (name : String) (found : List Tree) : Bool :=
  found.any fun m => m.modifier? = some name

/-- Notes the modifiers that are not allowed. -/
def refuse (allowed : String → Bool) (found : List Tree) : Parser Unit :=
  noteAll "the modifier cannot be used here"
    (found.filter fun m => !((m.modifier?.map allowed).getD true))

/-- Whether `get` or `set` stands here, in front of a member. -/
def atAccessor : Parser Bool := do
  if (← token).isWordAmong ["get", "set"] then return followsModifier (← ahead 1) else return false

end ModuleDiscovery.Script.Grammar
