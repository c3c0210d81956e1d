import ModuleDiscovery.Json.Token

/-!
# Reading JSON

The tokens of a text drive a machine whose state is the stack of open arrays and
objects.  The machine makes one step per token and never looks back, so reading
what was written is one induction on the value.  Nesting deeper than 127 is
refused.
-/

namespace ModuleDiscovery

namespace Json

/-- An open array or object with what it holds so far. -/
inductive Frame where
  /-- Items in reverse. -/
  | array (items : List Json)
  /-- Fields, and the key whose value comes next. -/
  | object (fields : List (String × Json)) (key : String)
  deriving Repr, Inhabited

/-- What may come next. -/
inductive Expectation where
  /-- A value. -/
  | value
  /-- A value, or the end of the array just opened. -/
  | valueOrClose
  /-- A key. -/
  | key
  /-- A key, or the end of the object just opened. -/
  | keyOrClose
  /-- The colon after a key. -/
  | colon
  /-- A comma or the end of the innermost array or object. -/
  | commaOrClose
  deriving DecidableEq, Repr

/-- The machine between two tokens.  Fields of an object that was just opened wait
for their first key. -/
structure Machine where
  stack : List Frame
  expects : Expectation
  /-- The whole value, once it is complete. -/
  result : Option Json
  deriving Repr

namespace Machine

/-- The machine before the first token. -/
def initial : Machine := ⟨[], .value, none⟩

/-- Greatest number of arrays and objects open at once. -/
def maxDepth : Nat := 127

/-- Hands a complete value to the innermost open frame. -/
def complete (stack : List Frame) (value : Json) : Machine :=
  match stack with
  | [] => ⟨[], .commaOrClose, some value⟩
  | .array items :: rest => ⟨.array (value :: items) :: rest, .commaOrClose, none⟩
  | .object fields key :: rest => ⟨.object (insertField key value fields) key :: rest, .commaOrClose, none⟩

/-- Opens a frame, if there may be one more. -/
def push (stack : List Frame) (frame : Frame) (expects : Expectation) : Option Machine :=
  if stack.length < maxDepth then some ⟨frame :: stack, expects, none⟩ else none

/-- Takes a token where a value may start. -/
def startValue (stack : List Frame) : Token → Option Machine
  | .scalar value => some (complete stack value)
  | .openArray => push stack (.array []) .valueOrClose
  | .openObject => push stack (.object [] "") .keyOrClose
  | _ => none

/-- Takes a key. -/
def takeKey (stack : List Frame) : Token → Option Machine
  | .scalar (.str key) =>
    match stack with
    | .object fields _ :: rest => some ⟨.object fields key :: rest, .colon, none⟩
    | _ => none
  | _ => none

/-- Closes the innermost frame, if the token closes its kind. -/
def close (stack : List Frame) : Token → Option Machine
  | .closeArray =>
    match stack with
    | .array items :: rest => some (complete rest (arr items.reverse))
    | _ => none
  | .closeObject =>
    match stack with
    | .object fields _ :: rest => some (complete rest (obj fields))
    | _ => none
  | _ => none

/-- Takes a token after a complete item. -/
def afterItem (stack : List Frame) : Token → Option Machine
  | .comma =>
    match stack with
    | [] => none
    | .array _ :: _ => some ⟨stack, .value, none⟩
    | .object _ _ :: _ => some ⟨stack, .key, none⟩
  | token => close stack token

/-- One step. -/
def step (m : Machine) (token : Token) : Option Machine :=
  if m.result.isSome then none
  else
    match m.expects with
    | .value => startValue m.stack token
    | .valueOrClose =>
      match token with
      | .closeArray => close m.stack token
      | _ => startValue m.stack token
    | .key => takeKey m.stack token
    | .keyOrClose =>
      match token with
      | .closeObject => close m.stack token
      | _ => takeKey m.stack token
    | .colon =>
      match token with
      | .colon => some ⟨m.stack, .value, none⟩
      | _ => none
    | .commaOrClose => afterItem m.stack token

/-- Takes all tokens in turn. -/
def run (m : Machine) : List Token → Option Machine
  | [] => some m
  | token :: rest => (m.step token).bind (run · rest)

end Machine

/-- The value a text spells. -/
def parse? (text : String) : Option Json := do
  let tokens ← Token.scan text.toList
  let final ← Machine.initial.run tokens
  final.result

end Json

end ModuleDiscovery
