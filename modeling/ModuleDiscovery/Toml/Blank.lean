/-!
# Blanks, comments and line ends of TOML

A line ends at a line feed, with or without a carriage return before it.  A
comment runs to the end of its line and holds no control characters but tabs.
-/

namespace ModuleDiscovery.Toml

/-- Whether a character is a blank inside a line. -/
def isBlank (c : Char) : Bool :=
  c = ' ' || c = '\t'

/-- Whether a character may stand in no comment and no string. -/
def isControl (c : Char) : Bool :=
  (c.toNat < 0x20 && c ≠ '\t') || c.toNat = 0x7F

/-- The text behind the blanks at its front. -/
def dropBlanks (text : List Char) : List Char :=
  text.dropWhile isBlank

/-- The text behind blanks, line ends and comments; nothing when a comment is
malformed. -/
def dropVoid (inComment : Bool) : List Char → Option (List Char)
  | [] => some []
  | '\n' :: rest => dropVoid false rest
  | '\r' :: '\n' :: rest => dropVoid false rest
  | c :: rest =>
    if inComment then (if isControl c then none else dropVoid true rest)
    else if isBlank c then dropVoid false rest
    else if c = '#' then dropVoid true rest
    else some (c :: rest)

/-- The text behind the end of a line on which nothing is left but blanks and perhaps a
comment. -/
def endLine (inComment : Bool) : List Char → Option (List Char)
  | [] => some []
  | '\n' :: rest => some rest
  | '\r' :: '\n' :: rest => some rest
  | c :: rest =>
    if inComment then (if isControl c then none else endLine true rest)
    else if isBlank c then endLine false rest
    else if c = '#' then endLine true rest
    else none

end ModuleDiscovery.Toml
