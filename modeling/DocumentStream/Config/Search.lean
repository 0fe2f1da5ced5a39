import DocumentStream.Config

/-!
Which configuration applies: the one that is named, or the nearest one in the working directory or
above it, or one in the home directory. A project's file counts only if it has settings for this
tool, and one that cannot be made sense of is somebody else's.
-/

namespace DocumentStream.Config

/-- The names of configuration files, in the order in which they are tried. -/
def fileNames : List Text :=
  [".events2md.toml".toList, ".events2md.yaml".toList, ".events2md.yml".toList,
    ".events2md.json".toList]

def isFile (fs : FileSystem) (path : FilePath) : Except Error Bool :=
  (fs.isFile path).mapError .unreadable

def firstFile (fs : FileSystem) (directory : Location) :
    List Text → Except Error (Option FilePath)
  | [] => .ok none
  | name :: rest => do
    let path := directory.path.child name
    if ← isFile fs path then return some path else firstFile fs directory rest

/-- The project's file of a directory, if it has settings for this tool. -/
def projectIn (fs : FileSystem) (directory : Location) (readers : Readers) :
    Except Error (Option FilePath) := do
  let path := directory.path.child projectFile
  if ← isFile fs path then
    match loadSection fs path readers with
    | .ok settings => return if settings.isEmpty then none else some path
    | .error error => if error.isExpected then return none else throw error
  else
    return none

def findIn (fs : FileSystem) (directory : Location) (readers : Readers) :
    Except Error (Option FilePath) := do
  match ← firstFile fs directory fileNames with
  | some path => return some path
  | none => projectIn fs directory readers

/-- The directories from one up to the root. -/
def upwards (directory : Location) : List Location :=
  (List.range (directory.length + 1)).map fun n => directory.take (directory.length - n)

def findFirst (fs : FileSystem) (directories : List Location) (readers : Readers) :
    Except Error (Option FilePath) :=
  match directories with
  | [] => .ok none
  | directory :: rest => do
    match ← findIn fs directory readers with
    | some path => return some path
    | none => findFirst fs rest readers

/-- The nearest configuration file from a directory upwards. -/
def find (fs : FileSystem) (start : Location) (readers : Readers) :
    Except Error (Option FilePath) :=
  findFirst fs (upwards start) readers

/-- The configuration file that applies where none is named. -/
def discover (fs : FileSystem) (readers : Readers) : Except Error (Option FilePath) := do
  match ← find fs fs.work readers with
  | some path => return some path
  | none => firstFile fs fs.home fileNames

/-- The first of the given names that is not empty. -/
def named (names : List (Option Text)) : Option Text :=
  names.findSome? fun name => name.filter fun name => !name.isEmpty

/-- The configuration that applies. A name given by the user comes before one given by the
environment, and either before what can be discovered. -/
def loadApplicable (fs : FileSystem) (given environment : Option Text)
    (readers : Readers) : Except Error Entries := do
  match named [given, environment] with
  | some name => load fs (.ofText name) readers
  | none =>
    match ← discover fs readers with
    | some path => load fs path readers
    | none => return []

end DocumentStream.Config
