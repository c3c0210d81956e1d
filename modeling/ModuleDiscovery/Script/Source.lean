import ModuleDiscovery.Script.Collector
import ModuleDiscovery.Script.Grammar
import ModuleDiscovery.Text.Occurs

/-!
# Parsing a source

`Script.parse` turns a source into its specifiers or the first fault in it.  Both
modes accept imports and exports anywhere; they differ in `await` outside of
functions, in comments in the way of HTML, and in whether `require` imports.
-/

namespace ModuleDiscovery.Script

/-- The dialect of comments in a mode. -/
def dialectOf : ParseMode → Trivia.Dialect
  | .module => .plain
  | .script => .html

/-- The context around a whole source. -/
def outermost : ParseMode → Context
  | .module => ⟨true, false, true, false, false⟩
  | .script => ⟨true, false, false, false, false⟩

/-- How many calls may lie inside one another in a text of the given length. -/
def depthFor (length : Nat) : Nat :=
  64 * (length + 2)

/-- The statements of a source, and the parser behind them. -/
def parseProgram (mode : ParseMode) (source : String) : Except Fault (List Tree) × ParserState :=
  let depth := depthFor source.length
  collectMany (runGrammar grammar depth .programItem (outermost mode)) depth []
    (ParserState.ofSource (dialectOf mode) source.toList)

/-- The first of the default exports that is not the last one. -/
def earlierDefault? : List Nat → Option Nat
  | first :: _ :: _ => some first
  | _ => none

/-- The last default export, when a name stands for the default, too. -/
def doubledDefault? (names : List (String × Nat)) (defaults : List Nat) : Option Nat :=
  if names.any (·.1 = "default") then defaults.getLast? else none

/-- Where a module exports one thing twice, if it does. -/
def exportedTwice? (program : List Tree) : Option Nat :=
  let names := program.flatMap Tree.exportedNames
  let defaults := program.filterMap Tree.defaultExport?
  Grammar.firstRepeated? [] names <|> earlierDefault? defaults <|> doubledDefault? names defaults

/-- What is wrong with a program that has been parsed to its end. -/
def leftOver (program : List Tree) : Option Fault :=
  match Tree.firstLooseDefaultAmong? program with
  | some offset => some ⟨offset, "a property has a default outside of a pattern"⟩
  | none => (exportedTwice? program).map (⟨·, "a name is exported twice"⟩)

/-- The first fault of a source. -/
def firstFault? (result : Except Fault (List Tree)) (s : ParserState) : Option Fault :=
  (s.tokenFaults ++ s.notes).head? <|>
    match result with
    | .error fault => some fault
    | .ok program => leftOver program

/-- The text that marks another language in the first comment. -/
def foreignMark : List Char := ['@', 'f', 'l', 'o', 'w']

/-- The fault that is reported: the first comment, when it says that the source is in
another language, else the fault itself. -/
def reported (s : ParserState) (fault : Fault) : Fault :=
  match s.comment with
  | some comment =>
    if occurs foreignMark comment.content then ⟨comment.offset, "another language"⟩ else fault
  | none => fault

/-- The specifiers of a source. -/
def parse : SpecifierParser := fun source mode =>
  let (result, s) := parseProgram mode source
  let index := LineIndex.ofSource source
  match firstFault? result s, result with
  | some fault, _ =>
    let fault := reported s fault
    .error ⟨fault.text, some (index.position source (UInt32.ofNat fault.offset))⟩
  | none, .error fault =>
    .error ⟨fault.text, some (index.position source (UInt32.ofNat fault.offset))⟩
  | none, .ok program =>
    .ok ((Tree.specifiersAmong mode program).map (SpecifierSite.locate index source))

end ModuleDiscovery.Script
