import ModuleDiscovery.Script.Tree
import ModuleDiscovery.Specifier

/-!
# The specifiers of a syntax tree

The specifiers stand in the tree in pre-order: an expression's own one comes before
those inside its arguments.  A specifier is literal when it is a string and nothing
else; parentheses already make it dynamic.
-/

namespace ModuleDiscovery.Script

/-- A specifier and the offset of the expression that gives it. -/
inductive SpecifierSite where
  | literal (value : String) (offset : Nat)
  | dynamic (offset : Nat)
  deriving DecidableEq, Repr

namespace SpecifierSite

/-- The specifier with its line and column in a source. -/
def locate (index : LineIndex) (source : String) : SpecifierSite → Specifier
  | literal value offset => .literal value (index.position source (UInt32.ofNat offset))
  | dynamic offset => .dynamic (index.position source (UInt32.ofNat offset))

/-- The specifier that a string gives. -/
def ofString (s : StringLiteral) : SpecifierSite :=
  literal s.value s.offset

/-- The specifier that an expression gives. -/
def ofExpression (t : Tree) : SpecifierSite :=
  match t.role with
  | .string value => literal value t.start
  | _ => dynamic t.start

end SpecifierSite

namespace Tree

/-- The name a script calls to import. -/
def requireName : String := "require"

/-- The specifiers that a node gives by itself.  Calls of `require` count in scripts
only. -/
def ownSpecifiers (mode : ParseMode) (role : Role) (children : List Tree) : List SpecifierSite :=
  match role, children with
  | .importDeclaration source, _ => [.ofString source]
  | .exportNamed (some source), _ => [.ofString source]
  | .exportAll source, _ => [.ofString source]
  | .importCall, specifier :: _ => [.ofExpression specifier]
  | .call _, callee :: argument :: _ =>
    if mode = .script ∧ callee.role = .identifier requireName then [.ofExpression argument] else []
  | _, _ => []

mutual

/-- The specifiers of a tree. -/
def specifiers (mode : ParseMode) : Tree → List SpecifierSite
  | node role _ children => ownSpecifiers mode role children ++ specifiersAmong mode children

/-- The specifiers of some trees. -/
def specifiersAmong (mode : ParseMode) : List Tree → List SpecifierSite
  | [] => []
  | t :: rest => specifiers mode t ++ specifiersAmong mode rest

end

end Tree

end ModuleDiscovery.Script
