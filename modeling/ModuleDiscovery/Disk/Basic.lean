import ModuleDiscovery.Runtime

/-!
# Disks

A program asks a disk for its working directory, for what lies at a path, and
whether a file may be written there.  `Disk.runtime` is the disk as discovery
sees it, which distinguishes only missing files from other failures.
-/

namespace ModuleDiscovery

/-- Why the system refused something a program asked of a disk. -/
inductive DiskError where
  | notFound
  | notADirectory
  | isADirectory
  | nameTooLong
  | zeroInName
  /-- The bytes of a text are malformed. -/
  | malformedText
  /-- Anything else, in the words of the system. -/
  | other (text : String)
  deriving DecidableEq, Repr

/-- The text of an error, in the words of the system. -/
def DiskError.message : DiskError → String
  | notFound => "No such file or directory (os error 2)"
  | notADirectory => "Not a directory (os error 20)"
  | isADirectory => "Is a directory (os error 21)"
  | nameTooLong => "File name too long (os error 36)"
  | zeroInName => "file name contained an unexpected NUL byte"
  | malformedText => "stream did not contain valid UTF-8"
  | other text => text

/-- What lies at a path. -/
inductive Entry where
  | file (bytes : Bytes)
  | directory
  deriving DecidableEq, Repr

/-- A disk as a program sees it. -/
structure Disk where
  cwd : Except DiskError Path
  look : Path → Except DiskError Entry
  /-- Why a file cannot be written at a path, if it cannot. -/
  refusal? : Path → Option DiskError
  /-- Paths of files that can be read. -/
  files : List Path

namespace Disk

/-- Whether anything lies at a path. -/
def exists? (disk : Disk) (path : Path) : Bool :=
  (disk.look path).isOk

/-- Whether a file lies at a path. -/
def isFile (disk : Disk) (path : Path) : Bool :=
  match disk.look path with
  | .ok (.file _) => true
  | _ => false

/-- The bytes of a file. -/
def readBytes (disk : Disk) (path : Path) : Except DiskError Bytes :=
  match disk.look path with
  | .ok (.file bytes) => .ok bytes
  | .ok .directory => .error .isADirectory
  | .error cause => .error cause

/-- The text of a file, whose bytes have to be well formed. -/
def readText (disk : Disk) (path : Path) : Except DiskError String := do
  let bytes ← disk.readBytes path
  match Utf8.decode? bytes with
  | some text => return text
  | none => throw .malformedText

/-- What discovery is told about a read that failed. -/
def runtimeError (path : Path) : DiskError → RuntimeError
  | .notFound => .fileNotFound path
  | cause => .failed (path.text ++ ": " ++ cause.message)

/-- The disk as the surroundings of a discovery. -/
def runtime (disk : Disk) : Runtime where
  cwd := disk.cwd.mapError fun cause => .failed cause.message
  readFile path := (disk.readBytes path).mapError (runtimeError path)
  served := disk.files

end Disk

end ModuleDiscovery
