import ModuleDiscovery.Environment.Value
import ModuleDiscovery.Text.Hex

/-!
# The form of a pattern

A pattern is a regular expression: operands side by side and between bars, each with
marks behind it that repeat it.

    a.c    (?:ab|c)+    [a-z&&[^x]]*    \.mjs    (?<name>x)

An operand is a character, an escape, a class in square brackets or a group in
parentheses.  Counts in braces, classes by name, word boundaries and letters of either
case are refused.  `Pattern.isWellFormed` looks at the form alone; nothing is matched.
-/

namespace ModuleDiscovery

namespace Pattern

/-! ## Signs -/

/-- A sign of a pattern: a character as it is written, one that an escape stands for,
or an escape for an end of the text. -/
inductive Sign where
  | plain (c : Char)
  | escaped (c : Char)
  | edge
  deriving DecidableEq, Repr

/-- How many hexadecimal digits stand behind the letter of an escape. -/
def hexWidth? (letter : Char) : Option Nat :=
  if letter = 'x' then some 2
  else if letter = 'u' then some 4
  else if letter = 'U' then some 8
  else none

/-- The control character that the letter of an escape stands for. -/
def control? (letter : Char) : Option Char :=
  if letter = 'a' then some '\x07'
  else if letter = 'f' then some '\x0c'
  else if letter = 't' then some '\t'
  else if letter = 'n' then some '\n'
  else if letter = 'r' then some '\r'
  else if letter = 'v' then some '\x0b'
  else none

/-- Whether an escape may take the meaning of a character away. -/
def isEscapable (c : Char) : Bool :=
  c.toNat < 0x80 && !c.isAlphanum && c ≠ '<' && c ≠ '>'

/-- The sign of an escape, and how many characters behind its letter belong to it. -/
def escape? (letter : Char) (rest : List Char) : Option (Sign × Nat) :=
  match hexWidth? letter with
  | some width =>
    let digits := rest.take width
    if digits.length < width then none
    else (Hex.char? digits).map fun c => (.escaped c, width)
  | none =>
    if letter = 'A' ∨ letter = 'z' then some (.edge, 0)
    else
      match control? letter with
      | some c => some (.escaped c, 0)
      | none => if isEscapable letter then some (.escaped letter, 0) else none

/-- The signs of a pattern. -/
def signs? (text : List Char) : Option (List Sign) :=
  match text with
  | [] => some []
  | c :: rest =>
    if c = '\\' then
      match rest with
      | [] => none
      | letter :: rest =>
        match escape? letter rest with
        | none => none
        | some (sign, width) => (signs? (rest.drop width)).map (sign :: ·)
    else (signs? rest).map (.plain c :: ·)
  termination_by text.length
  decreasing_by all_goals (simp only [List.length_cons, List.length_drop]; omega)

/-! ## Groups -/

/-- Whether a character may begin the name of a group, or go on with it. -/
def isNameSign (first : Bool) : Sign → Bool
  | .plain c => c = '_' || c.isAlpha || (!first && (c.isDigit || c = '.' || c = '[' || c = ']'))
  | _ => false

/-- The size of a group's name with the bracket behind it. -/
def nameSize? (signs : List Sign) : Option Nat :=
  let size := (signs.takeWhile (isNameSign false)).length
  if signs.head?.any (isNameSign true) ∧ signs[size]? = some (.plain '>') then some (size + 1)
  else none

/-- Whether a sign is one of the letters that set how a group is read. -/
def isFlag (sign : Sign) : Bool :=
  sign ∈ ['m', 's', 'U', 'u', 'R', 'x', '-'].map Sign.plain

/-- How much belongs to the front of a group behind its parenthesis, and whether the
group goes on behind that. -/
def groupFront? (signs : List Sign) : Option (Nat × Bool) :=
  match signs with
  | .plain '?' :: .plain '<' :: rest => (nameSize? rest).map fun size => (size + 2, true)
  | .plain '?' :: .plain 'P' :: .plain '<' :: rest => (nameSize? rest).map fun size => (size + 3, true)
  | .plain '?' :: rest =>
    let flags := rest.takeWhile isFlag
    if flags.getLast? = some (.plain '-') then none
    else
      match rest[flags.length]? with
      | some (.plain ':') => some (flags.length + 2, true)
      | some (.plain ')') => if flags.isEmpty then none else some (flags.length + 2, false)
      | _ => none
  | _ => some (0, true)

/-! ## Classes -/

/-- How much belongs to the front of a class behind its bracket: a negation, then
hyphens, or else a closing bracket that stands for itself. -/
def classFront (signs : List Sign) : Nat :=
  let negation := if signs.head? = some (.plain '^') then 1 else 0
  let hyphens := ((signs.drop negation).takeWhile (· = .plain '-')).length
  let bracket := if hyphens = 0 ∧ signs[negation]? = some (.plain ']') then 1 else 0
  negation + hyphens + bracket

/-- Whether two signs stand between two classes. -/
def isClassOperator (a b : Sign) : Bool :=
  a = b && a ∈ ['&', '-', '~'].map Sign.plain

/-- The character of a sign. -/
def Sign.char? : Sign → Option Char
  | plain c | escaped c => some c
  | edge => none

/-- The size of a member of a class: a character, or two with a hyphen between them,
of which the second does not come before the first. -/
def memberSize? : List Sign → Option Nat
  | [] => none
  | sign :: rest => do
    let first ← sign.char?
    match rest with
    | .plain '-' :: other :: _ =>
      if other = .plain ']' ∨ other = .plain '-' then return 1
      else
        let last ← other.char?
        if first ≤ last then some 3 else none
    | _ => return 1

/-! ## Patterns -/

/-- Whether the signs finish a pattern of which so many groups and classes are open.
Among operands `repeatable` tells whether there is one in front. -/
def finish (groups classes : Nat) (repeatable : Bool) (signs : List Sign) : Bool :=
  match signs with
  | [] => groups = 0 && classes = 0
  | sign :: rest =>
    if sign = .plain '[' then
      finish groups (classes + 1) false (rest.drop (classFront rest))
    else if classes ≠ 0 then
      if sign = .plain ']' then finish groups (classes - 1) true rest
      else if rest.head?.any (isClassOperator sign) then finish groups classes false (rest.drop 1)
      else
        match memberSize? signs with
        | none => false
        | some size => finish groups classes false (rest.drop (size - 1))
    else if sign = .plain '(' then
      match groupFront? rest with
      | none => false
      | some (size, goesOn) =>
        finish (if goesOn then groups + 1 else groups) 0 false (rest.drop size)
    else if sign = .plain ')' then groups ≠ 0 && finish (groups - 1) 0 true rest
    else if sign = .plain '|' then finish groups 0 false rest
    else if sign ∈ ['?', '*', '+'].map Sign.plain then repeatable && finish groups 0 true rest
    else sign ≠ .plain '\x7b' && finish groups 0 true rest
  termination_by signs.length
  decreasing_by all_goals (simp only [List.length_cons, List.length_drop]; omega)

/-- Whether a text is a pattern. -/
def isWellFormed (text : List Char) : Bool :=
  match signs? text with
  | some signs => finish 0 0 false signs
  | none => false

end Pattern

end ModuleDiscovery
