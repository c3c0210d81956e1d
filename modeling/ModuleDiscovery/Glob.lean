/-!
# Glob patterns

A pattern is read once into tokens and then matched against paths.  `?` is one
character, `*` any run of characters, `[…]` one character out of a class and
`[!…]` one outside it; none of them matches a slash.  `**` as a whole component
stands for any number of directories and takes the slash behind it along.
Everything else, a backslash too, stands for itself.
-/

namespace ModuleDiscovery

namespace Glob

/-- A part of a character class. -/
inductive ClassItem where
  | single (c : Char)
  | range (low high : Char)
  deriving DecidableEq, Repr

/-- A part of a pattern. -/
inductive Token where
  | char (c : Char)
  | anyChar
  | anySequence
  | anyDirectories
  | within (items : List ClassItem)
  | except (items : List ClassItem)
  deriving DecidableEq, Repr

/-- What is wrong with a pattern. -/
inductive Fault where
  /-- Three or more stars in a row. -/
  | wildcards
  /-- Two stars that share their component with something else. -/
  | recursiveWildcards
  /-- A bracket that is not closed. -/
  | range
  deriving DecidableEq, Repr

/-- A fault and the character it was found at, counted from zero. -/
structure PatternError where
  position : Nat
  fault : Fault
  deriving DecidableEq, Repr

namespace Fault

/-- The text of a fault. -/
def message : Fault → String
  | wildcards => "wildcards are either regular `*` or recursive `**`"
  | recursiveWildcards => "recursive wildcards must form a single path component"
  | range => "invalid range pattern"

end Fault

/-- The text of an error. -/
def PatternError.message (e : PatternError) : String :=
  s!"Pattern syntax error near position {e.position}: {e.fault.message}"

/-! ## Reading a pattern -/

/-- The items of a class; `x-y` is a range. -/
def classItems : List Char → List ClassItem
  | low :: '-' :: high :: rest => .range low high :: classItems rest
  | c :: rest => .single c :: classItems rest
  | [] => []

/-- The text up to the first closing bracket, and the rest behind the bracket. -/
def splitClass : List Char → Option (List Char × List Char)
  | [] => none
  | ']' :: rest => some ([], rest)
  | c :: rest => (splitClass rest).map fun (inside, rest) => (c :: inside, rest)

/-- The class that starts behind an opening bracket, and the rest.  The first
character of a class is never its end. -/
def readClass : List Char → Option (Token × List Char)
  | '!' :: first :: rest =>
    (splitClass rest).map fun (inside, rest) => (.except (classItems (first :: inside)), rest)
  | '!' :: [] => none
  | first :: rest =>
    (splitClass rest).map fun (inside, rest) => (.within (classItems (first :: inside)), rest)
  | [] => none

/-- Adds a recursive wildcard, unless there is one already; the first two of a
pattern are both kept. -/
def pushDirectories (done : List Token) : List Token :=
  match done with
  | .anyDirectories :: _ :: _ => done
  | _ => .anyDirectories :: done

/-- Reads on at a position.  `previous` is the character before it and `done` holds
the tokens read so far, last first.  Every round takes at least one character. -/
def readFrom : Nat → Nat → Option Char → List Token → List Char → Except PatternError (List Token)
  | 0, _, _, done, _ => .ok done.reverse
  | _ + 1, _, _, done, [] => .ok done.reverse
  | steps + 1, position, previous, done, c :: rest =>
    if c = '?' then readFrom steps (position + 1) (some c) (.anyChar :: done) rest
    else if c = '*' then
      let stars := (c :: rest).takeWhile (· = '*')
      let behind := (c :: rest).dropWhile (· = '*')
      if 2 < stars.length then .error ⟨position + 2, .wildcards⟩
      else if stars.length = 2 then
        if previous = none ∨ previous = some '/' then
          match behind with
          | [] => readFrom steps (position + 2) (some '*') (pushDirectories done) []
          | '/' :: behind => readFrom steps (position + 3) (some '/') (pushDirectories done) behind
          | _ => .error ⟨position + 2, .recursiveWildcards⟩
        else .error ⟨position - 1, .recursiveWildcards⟩
      else readFrom steps (position + 1) (some c) (.anySequence :: done) rest
    else if c = '[' then
      match readClass rest with
      | none => .error ⟨position, .range⟩
      | some (token, behind) =>
        readFrom steps (position + (rest.length - behind.length) + 1) (some ']') (token :: done) behind
    else readFrom steps (position + 1) (some c) (.char c :: done) rest

/-- The tokens of a pattern. -/
def read (pattern : List Char) : Except PatternError (List Token) :=
  readFrom (pattern.length + 1) 0 none [] pattern

/-! ## Matching -/

/-- Whether a character lies in a class. -/
def inClass (items : List ClassItem) (c : Char) : Bool :=
  items.any fun
    | .single d => c = d
    | .range low high => low ≤ c ∧ c ≤ high

/-- Whether a token that stands for one character stands for this one. -/
def matchesChar : Token → Char → Bool
  | .char d, c => c = d
  | .anyChar, c => c ≠ '/'
  | .within items, c => c ≠ '/' && inClass items c
  | .except items, c => c ≠ '/' && !inClass items c
  | .anySequence, _ => false
  | .anyDirectories, _ => false

/-- Whether some rest that is reached without passing a slash satisfies `accept`. -/
def skipSequence (accept : List Char → Bool) : List Char → Bool
  | [] => accept []
  | c :: rest => accept (c :: rest) || (c ≠ '/' && skipSequence accept rest)

/-- Whether some rest behind a slash, or the empty rest at the end, satisfies `accept`. -/
def skipDirectories (accept : List Char → Bool) : List Char → Bool
  | [] => accept []
  | c :: rest => (c = '/' && accept rest) || skipDirectories accept rest

/-- Whether tokens match a whole text; this is what a pattern means. -/
def matchTokens : List Token → List Char → Bool
  | [], text => text.isEmpty
  | .anySequence :: tokens, text => skipSequence (matchTokens tokens) text
  | .anyDirectories :: tokens, text => matchTokens tokens text || skipDirectories (matchTokens tokens) text
  | token :: tokens, text =>
    match text with
    | [] => false
    | c :: rest => matchesChar token c && matchTokens tokens rest

/-! ## Matching in a table

Trying every run that a wildcard could stand for takes too long when there are many
wildcards.  A row holds for every rest of a text, from the whole text down to the
empty one, whether some tokens match it; the row of a longer pattern comes from the
row of its tail in one pass.
-/

/-- The first entry of a row, which is about the whole text. -/
def front : List Bool → Bool
  | [] => false
  | b :: _ => b

/-- The row of the empty pattern. -/
def emptyRow : List Char → List Bool
  | [] => [true]
  | _ :: rest => false :: emptyRow rest

/-- The row of a token that stands for one character. -/
def charRow (token : Token) : List Char → List Bool → List Bool
  | c :: rest, _ :: row => (matchesChar token c && front row) :: charRow token rest row
  | _, _ => [false]

/-- The row of a wildcard inside a component. -/
def sequenceRow : List Char → List Bool → List Bool
  | c :: rest, b :: row =>
    let later := sequenceRow rest row
    (b || (c ≠ '/' && front later)) :: later
  | _, row => row

/-- The row of rests that reach a match behind a later slash or at the end. -/
def behindSlashRow : List Char → List Bool → List Bool
  | c :: rest, _ :: row =>
    let later := behindSlashRow rest row
    ((c = '/' && front row) || front later) :: later
  | _, row => row

/-- The row of a pattern. -/
def matchRow : List Token → List Char → List Bool
  | [], text => emptyRow text
  | .anySequence :: tokens, text => sequenceRow text (matchRow tokens text)
  | .anyDirectories :: tokens, text =>
    List.zipWith (· || ·) (matchRow tokens text) (behindSlashRow text (matchRow tokens text))
  | token :: tokens, text => charRow token text (matchRow tokens text)

/-- A predicate on every rest of a text. -/
def rowOf (accept : List Char → Bool) : List Char → List Bool
  | [] => [accept []]
  | c :: rest => accept (c :: rest) :: rowOf accept rest

theorem front_rowOf (accept : List Char → Bool) (text : List Char) :
    front (rowOf accept text) = accept text := by
  cases text <;> rfl

theorem emptyRow_eq (text : List Char) : emptyRow text = rowOf List.isEmpty text := by
  induction text with
  | nil => rfl
  | cons c rest ih => simp [emptyRow, rowOf, ih]

theorem charRow_eq (token : Token) (accept : List Char → Bool) (text : List Char) :
    charRow token text (rowOf accept text) = rowOf (fun
      | [] => false
      | c :: rest => matchesChar token c && accept rest) text := by
  induction text with
  | nil => rfl
  | cons c rest ih => simp [charRow, rowOf, ih, front_rowOf]

theorem sequenceRow_eq (accept : List Char → Bool) (text : List Char) :
    sequenceRow text (rowOf accept text) = rowOf (skipSequence accept) text := by
  induction text with
  | nil => rfl
  | cons c rest ih => simp [sequenceRow, rowOf, ih, front_rowOf, skipSequence]

theorem behindSlashRow_eq (accept : List Char → Bool) (text : List Char) :
    behindSlashRow text (rowOf accept text) = rowOf (skipDirectories accept) text := by
  induction text with
  | nil => rfl
  | cons c rest ih => simp [behindSlashRow, rowOf, ih, front_rowOf, skipDirectories]

theorem zipWith_rowOf (accept other : List Char → Bool) (text : List Char) :
    List.zipWith (· || ·) (rowOf accept text) (rowOf other text) =
      rowOf (fun t => accept t || other t) text := by
  induction text with
  | nil => rfl
  | cons c rest ih => simp [rowOf, ih]

/-- The row of a pattern says for every rest whether the pattern matches it. -/
theorem matchRow_eq (tokens : List Token) (text : List Char) :
    matchRow tokens text = rowOf (matchTokens tokens) text := by
  induction tokens with
  | nil => rw [matchRow, emptyRow_eq]; rfl
  | cons token tokens ih =>
    cases token with
    | anySequence => rw [matchRow, ih, sequenceRow_eq]; rfl
    | anyDirectories => rw [matchRow, ih, behindSlashRow_eq, zipWith_rowOf]; rfl
    | _ =>
      change charRow _ text (matchRow tokens text) = _
      rw [ih, charRow_eq]
      exact congrArg (rowOf · text) (funext fun t => by cases t <;> rfl)

end Glob

/-- A glob pattern that has been read. -/
structure Pattern where
  text : String
  tokens : List Glob.Token
  deriving DecidableEq, Repr

namespace Pattern

/-- Reads a pattern. -/
def parse (text : String) : Except Glob.PatternError Pattern :=
  (Glob.read text.toList).map fun tokens => ⟨text, tokens⟩

/-- Whether the pattern matches a whole text. -/
def matchesText (pattern : Pattern) (text : List Char) : Bool :=
  Glob.front (Glob.matchRow pattern.tokens text)

theorem matchesText_eq (pattern : Pattern) (text : List Char) :
    pattern.matchesText text = Glob.matchTokens pattern.tokens text := by
  rw [matchesText, Glob.matchRow_eq, Glob.front_rowOf]

end Pattern

end ModuleDiscovery
