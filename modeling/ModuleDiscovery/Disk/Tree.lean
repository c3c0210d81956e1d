import ModuleDiscovery.Disk.Basic

/-!
# Disks held in memory

A tree lists the places below the root with what lies there.  A path is followed
part by part, and every part is looked for in a directory: that is why a missing
directory cannot be left again by `..`, and why a file cannot be written with a
slash behind it.

`Tree.disk` is the tree as a program sees it from a working directory.
-/

namespace ModuleDiscovery

/-- A place in a tree: the names that lead to it from the root. -/
abbrev Place := List Bytes

namespace Place

/-- The place that names lead to which are text. -/
def ofTexts (names : List String) : Place :=
  names.map Utf8.encode

/-- The path of a place. -/
def path (place : Place) : Path :=
  .ofSegments (.root :: place.map .name)

end Place

/-- Files and directories below the root. -/
structure Tree where
  entries : List (Place × Entry)
  deriving Repr

namespace Tree

/-- The tree with nothing in it. -/
def empty : Tree := ⟨[]⟩

/-! ## Looking -/

/-- What lies at a place. -/
def find? (tree : Tree) (place : Place) : Option Entry :=
  if place = [] then some .directory else tree.entries.lookup place

/-- Whether a place is a directory. -/
def isDirectory (tree : Tree) (place : Place) : Bool :=
  match tree.find? place with
  | some .directory => true
  | _ => false

/-- The bytes a name may have. -/
def maxNameSize : Nat := 255

/-- The bytes a path has to stay below. -/
def maxPathSize : Nat := 4096

/-- Follows one part of a path from a place. -/
def step (tree : Tree) (here : Place) (part : Bytes) : Except DiskError Place :=
  if ¬ tree.isDirectory here then .error .notADirectory
  else if part = [] ∨ part = [Segment.dot] then .ok here
  else if part = [Segment.dot, Segment.dot] then .ok here.dropLast
  else if maxNameSize < part.length then .error .nameTooLong
  else if (tree.find? (here ++ [part])).isNone then .error .notFound
  else .ok (here ++ [part])

/-- The place a path starts from and the parts that follow.  A working directory
that is gone leads nowhere. -/
def start (cwd : Option Place) (path : Path) : Except DiskError (Place × List Bytes) :=
  if 0 ∈ path.bytes then .error .zeroInName
  else if maxPathSize ≤ path.bytes.length then .error .nameTooLong
  else if path.bytes = [] then .error .notFound
  else if path.isAbsolute then .ok ([], (path.bytes.splitOn Segment.slash).tail)
  else
    match cwd with
    | none => .error .notFound
    | some place => .ok (place, path.bytes.splitOn Segment.slash)

/-- The place of a path. -/
def resolve (tree : Tree) (cwd : Option Place) (path : Path) : Except DiskError Place := do
  let (here, parts) ← start cwd path
  parts.foldlM tree.step here

/-- What lies at a path. -/
def look (tree : Tree) (cwd : Option Place) (path : Path) : Except DiskError Entry := do
  let place ← tree.resolve cwd path
  match tree.find? place with
  | some entry => return entry
  | none => throw .notFound

/-! ## Changing -/

/-- Puts an entry at a place, instead of what was there. -/
def put (tree : Tree) (place : Place) (entry : Entry) : Tree :=
  ⟨(place, entry) :: tree.entries.filter fun (other, _) => other ≠ place⟩

/-- Makes a directory, and before it the ones it lies in, below `here`. -/
def makeDirectories (tree : Tree) (here : Place) : List Bytes → Tree
  | [] => tree
  | name :: rest =>
    let place := here ++ [name]
    let tree := if (tree.find? place).isNone then tree.put place .directory else tree
    tree.makeDirectories place rest

/-- Puts a file at a place and makes the directories it lies in. -/
def plant (tree : Tree) (place : Place) (bytes : Bytes) : Tree :=
  (tree.makeDirectories [] place.dropLast).put place (.file bytes)

/-- Removes a place with everything below it. -/
def remove (tree : Tree) (place : Place) : Tree :=
  ⟨tree.entries.filter fun (other, _) => ¬ place.isPrefixOf other⟩

/-- The place where a file is written for a path: its last part is a name without
a slash behind it, and names no directory. -/
def target (tree : Tree) (cwd : Option Place) (path : Path) : Except DiskError Place := do
  let (here, parts) ← start cwd path
  let named := parts.reverse.dropWhile (· = [])
  match named with
  | [] => throw .isADirectory
  | last :: before =>
    let here ← before.reverse.foldlM tree.step here
    if ¬ tree.isDirectory here then throw .notADirectory
    if last = [Segment.dot] ∨ last = [Segment.dot, Segment.dot] ∨ named.length < parts.length then
      throw .isADirectory
    if maxNameSize < last.length then throw .nameTooLong
    let place := here ++ [last]
    if tree.isDirectory place then throw .isADirectory
    return place

/-- The tree after a file has been written. -/
def write (tree : Tree) (cwd : Option Place) (path : Path) (bytes : Bytes) : Except DiskError Tree := do
  let place ← tree.target cwd path
  return tree.put place (.file bytes)

/-! ## As a disk -/

/-- The place of an entry that is a file. -/
def filePlace? : Place × Entry → Option Place
  | (place, .file _) => some place
  | _ => none

/-- The tree as a program sees it; without a working directory that one is gone. -/
def disk (tree : Tree) (cwd : Option Place) : Disk where
  cwd := match cwd with
    | some place => .ok place.path
    | none => .error .notFound
  look := tree.look cwd
  refusal? path := match tree.target cwd path with
    | .ok _ => none
    | .error cause => some cause
  files := (tree.entries.filterMap filePlace?).map Place.path

end Tree

end ModuleDiscovery
