import DocumentStream.FileSystem
import DocumentStream.Text.Case
import DocumentStream.Text.Lines
import DocumentStream.Text.Undecodable
import DocumentStream.Value

/-!
Configuration files: mappings in one of three formats, which the suffix tells, or a section of the
file in which a project keeps the settings of its tools. How a format is read is up to the packages
for it, so the readers are parameters here.
-/

namespace DocumentStream.Config

inductive Format where
  | toml
  | yaml
  | json
  deriving DecidableEq, Repr

/-- The readers of the formats: what a text describes, if it describes anything. -/
structure Readers where
  toml : Text → Option Entries
  yaml : Text → Option Value
  json : Text → Except Text Value

/-- The suffixes of configuration files. -/
def formats : List (Text × Format) :=
  [(".toml".toList, .toml), (".yaml".toList, .yaml), (".yml".toList, .yaml),
    (".json".toList, .json)]

/-- The name of the file in which a project keeps the settings of its tools. -/
def projectFile : Text := "pyproject.toml".toList

/-- The table of that file which holds the settings of all tools. -/
def toolTable : Text := "tool".toList

/-- The table in it which holds the settings of this one. -/
def toolName : Text := "events2md".toList

/-- Why a configuration cannot be loaded. -/
inductive Error where
  | missing (path : FilePath)
  | unsupported (suffix : Text)
  | malformed (path : FilePath) (suffix detail : Text)
  | malformedProject (path : FilePath)
  | rootKind (path : FilePath) (kind : String)
  | sectionKind (path : FilePath) (kind : String)
  | toolsKind
  | undecodable (fault : Utf8.Fault)
  | unreadable (fault : FileFault)
  deriving DecidableEq, Repr

namespace Error

def message : Error → Text
  | .missing path => "Configuration file does not exist: ".toList ++ path.text
  | .unsupported suffix =>
    "Unsupported config file format: ".toList ++ suffix ++
      ". Use .json, .toml, or .yaml".toList
  | .malformed path suffix detail =>
    "Invalid ".toList ++ Text.upper (suffix.drop 1) ++ " in config file ".toList ++ path.text ++
      ':' :: ' ' :: detail
  | .malformedProject path =>
    "Invalid TOML in pyproject.toml ".toList ++ path.text ++ ": not a TOML document".toList
  | .rootKind path kind =>
    "Config file ".toList ++ path.text ++
      s!" must contain a mapping at root level, got {kind}".toList
  | .sectionKind path kind =>
    "[tool.events2md] section in ".toList ++ path.text ++ s!" must be a table, got {kind}".toList
  | .toolsKind => "tool must be a table".toList
  | .undecodable fault => fault.message
  | .unreadable fault => fault.message.toList

/-- Whether the error says that a file is not a configuration; the other errors are faults that
the loading does not expect. -/
def isExpected : Error → Bool
  | .toolsKind | .undecodable _ | .unreadable _ => false
  | _ => true

end Error

def readText (fs : FileSystem) (path : FilePath) : Except Error Text := do
  let content ← (fs.read path).mapError .unreadable
  match Utf8.fault? content, Utf8.decode content with
  | none, some text => return text
  | some fault, _ => throw (.undecodable fault)
  | none, none => return []

/-- The text of a file that is read piece by piece. A character that the end of the file cuts off
makes a piece of its own, in which it comes first. -/
def readPieces (fs : FileSystem) (path : FilePath) : Except Error Text :=
  (readText fs path).mapError fun error =>
    match error with
    | .undecodable fault =>
      .undecodable (if fault.kind = .endOfData then { fault with position := 0 } else fault)
    | error => error

def Format.readFile (fs : FileSystem) (path : FilePath) : Format → Except Error Text
  | .yaml => readPieces fs path
  | .toml | .json => readText fs path

/-- The value that a text describes in a format, or what is wrong with the text. -/
def Format.parse (readers : Readers) (text : Text) : Format → Except Text Value
  | .toml =>
    match readers.toml text with
    | some table => .ok (.map table)
    | none => .error "not a TOML document".toList
  | .yaml =>
    match readers.yaml (Text.unifyLineEnds text) with
    | some value => .ok value
    | none => .error "not a YAML document".toList
  | .json => readers.json (Text.unifyLineEnds text)

/-- The section of a project's file that holds the settings of this tool. -/
def loadSection (fs : FileSystem) (path : FilePath) (readers : Readers) :
    Except Error Entries := do
  let some table := readers.toml (← readText fs path) | throw (.malformedProject path)
  match table.get? toolTable with
  | none => return []
  | some (.map tools) =>
    match Entries.get? toolName tools with
    | none => return []
    | some (.map settings) => return settings
    | some value => throw (.sectionKind path value.kindName)
  | some _ => throw .toolsKind

/-- The configuration that a path leads to. An empty document is an empty configuration. -/
def load (fs : FileSystem) (path : FilePath) (readers : Readers) : Except Error Entries := do
  unless ← (fs.isFile path).mapError .unreadable do throw (.missing path)
  if Text.lower path.name = projectFile then
    loadSection fs path readers
  else
    let suffix := Text.lower path.suffix
    match formats.lookup suffix with
    | none => throw (.unsupported suffix)
    | some format =>
      match format.parse readers (← format.readFile fs path) with
      | .error detail => throw (.malformed path suffix detail)
      | .ok .null => return []
      | .ok (.map entries) => return entries
      | .ok value => throw (.rootKind path value.kindName)

end DocumentStream.Config
