import DocumentStream.FilePath
import DocumentStream.Text.Utf8

/-!
The files that the program reads and writes, as a value. Files and directories stand at locations,
which are the names from the root downwards. A directory exists as soon as something stands below
it.
-/

namespace DocumentStream

/-- A place in the file system: the names on the way from the root. -/
abbrev Location := List Text

/-- A file system with a working directory and a home directory. -/
structure FileSystem where
  files : List (Location × Bytes) := []
  directories : List Location := []
  work : Location := []
  home : Location := []
  deriving Repr

/-- Why a file cannot be used. -/
inductive FileFault where
  | missing
  | notDirectory
  | isDirectory
  | nameTooLong
  | nulCharacter
  deriving DecidableEq, Repr

namespace FileFault

/-- The number of the fault among those that the system reports, and its wording. -/
def message : FileFault → String
  | .missing => "[Errno 2] No such file or directory"
  | .notDirectory => "[Errno 20] Not a directory"
  | .isDirectory => "[Errno 21] Is a directory"
  | .nameTooLong => "[Errno 36] File name too long"
  | .nulCharacter => "embedded null byte"

end FileFault

namespace FileSystem

def content? (fs : FileSystem) (place : Location) : Option Bytes := fs.files.lookup place

def isDirectoryAt (fs : FileSystem) (place : Location) : Bool :=
  place.isEmpty || fs.directories.any (place.isPrefixOf ·) ||
    fs.files.any fun file => place.isPrefixOf file.1 && place != file.1

/-- The greatest length of a name in bytes. -/
def longestName : Nat := 255

/-- The greatest length of a path in bytes. -/
def longestPath : Nat := 4095

/-- The location that steps lead to. All directories on the way have to exist, but there need not
be anything at the location itself. -/
def walk (fs : FileSystem) (place : Location) : List Text → Except FileFault Location
  | [] => .ok place
  | part :: rest =>
    if !fs.isDirectoryAt place then
      .error (if (fs.content? place).isSome then .notDirectory else .missing)
    else if longestName < (Utf8.encode part).length then .error .nameTooLong
    else if part = FilePath.parentStep then walk fs place.dropLast rest
    else walk fs (place ++ [part]) rest

def locate (fs : FileSystem) (path : FilePath) : Except FileFault Location :=
  if path.parts.any (·.contains '\x00') then .error .nulCharacter
  else if longestPath < (Utf8.encode path.text).length then .error .nameTooLong
  else fs.walk (if path.isAbsolute then [] else fs.work) path.parts

/-- Whether there is something of a kind where a path leads to. Only a name that is too long is a
fault here; any other one means that there is nothing. -/
def check (fs : FileSystem) (path : FilePath) (isThere : Location → Bool) :
    Except FileFault Bool :=
  match fs.locate path with
  | .ok place => .ok (isThere place)
  | .error .nameTooLong => .error .nameTooLong
  | .error _ => .ok false

def isFile (fs : FileSystem) (path : FilePath) : Except FileFault Bool :=
  fs.check path fun place => (fs.content? place).isSome

def exists? (fs : FileSystem) (path : FilePath) : Except FileFault Bool :=
  fs.check path fun place => (fs.content? place).isSome || fs.isDirectoryAt place

/-- The content of the file that a path leads to. -/
def read (fs : FileSystem) (path : FilePath) : Except FileFault Bytes := do
  let place ← fs.locate path
  match fs.content? place with
  | some content => return content
  | none => throw (if fs.isDirectoryAt place then .isDirectory else .missing)

/-- Puts a file at a location. One that is there already is replaced. -/
def put (fs : FileSystem) (place : Location) (content : Bytes) : FileSystem :=
  if (fs.content? place).isSome then
    { fs with
      files := fs.files.map fun file => if file.1 = place then (place, content) else file }
  else
    { fs with files := fs.files ++ [(place, content)] }

/-- The location of the file that a path leads to or that can be made there. -/
def place (fs : FileSystem) (path : FilePath) : Except FileFault Location := do
  let place ← fs.locate path
  if fs.isDirectoryAt place then throw .isDirectory
  return place

def write (fs : FileSystem) (path : FilePath) (content : Bytes) : Except FileFault FileSystem :=
  return fs.put (← fs.place path) content

/-- The location that a path would lead to if everything on the way existed. -/
def resolve (fs : FileSystem) (path : FilePath) : Location :=
  path.parts.foldl (fun place part =>
      if part = FilePath.parentStep then place.dropLast else place ++ [part])
    (if path.isAbsolute then [] else fs.work)

/-- The path from the root to where a path would lead if everything on the way existed. -/
def absolute (fs : FileSystem) (path : FilePath) : FilePath := ⟨max 1 path.slashes, fs.resolve path⟩

/-- Adds to the end of the file at a location, which is made if there is none. -/
def append (fs : FileSystem) (place : Location) (content : Bytes) : FileSystem :=
  fs.put place ((fs.content? place).getD [] ++ content)

end FileSystem

def Location.path (place : Location) : FilePath := ⟨1, place⟩

end DocumentStream
