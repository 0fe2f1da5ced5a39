import DocumentStream.Value

/-!
The failures that the library reports to its users, with all that they tell: a message, and by
kind of failure the path, the stage of the work, the option or the packages that are concerned.
Most kinds have a message of their own, which can be replaced.
-/

namespace DocumentStream

inductive FailureKind where
  | general
  | validation
  | options
  | file
  | missingFile
  | parsing
  | markup
  | rendering
  | output
  | dependency
  deriving DecidableEq, Repr

namespace FailureKind

/-- The wider kind that a kind belongs to. All kinds belong to the general one in the end. -/
def wider? : FailureKind → Option FailureKind
  | .general => none
  | .options => some .validation
  | .missingFile => some .file
  | .markup => some .parsing
  | .output => some .rendering
  | _ => some .general

/-- A kind and the kinds it belongs to, ever wider. -/
def lineage (kind : FailureKind) : List FailureKind :=
  match kind.wider? with
  | none => [kind]
  | some .general => [kind, .general]
  | some wider => [kind, wider, .general]

end FailureKind

/-- A package that is missing, with the versions that would do. -/
structure MissingPackage where
  name : Text
  versions : Text := []
  deriving DecidableEq, Repr

inductive Failure where
  | general (message : Text)
  | validation (message : Text) (parameter : Option Text) (value : Value)
  | options (renderer expected received : Text) (message : Option Text)
  | file (message : Text) (path : Option Text)
  | missingFile (path : Text) (message : Option Text)
  | parsing (message : Text) (stage : Option Text)
  | markup (message markup : Text)
  | rendering (message : Text) (stage : Option Text)
  | output (path : Text) (message : Option Text)
  | dependency (feature : Text) (packages : List MissingPackage) (install : Text)
    (message : Option Text)
  deriving Repr

namespace MissingPackage

def label (p : MissingPackage) : Text := '\'' :: (p.name ++ p.versions) ++ ['\'']

/-- The package as a word of a command. -/
def word (p : MissingPackage) : Text :=
  if p.versions.isEmpty then p.name else '"' :: (p.name ++ p.versions) ++ ['"']

/-- What to say where packages are missing: which ones, and the command that installs them. -/
def advice (feature : Text) (packages : List MissingPackage) (install : Text) : Text :=
  feature ++ " requires the following packages: ".toList ++
    Text.join [',', ' '] (packages.map label) ++ "\nInstall with: ".toList ++
    if install.isEmpty then
      "pip install --upgrade ".toList ++ Text.join [' '] (packages.map word)
    else
      install

end MissingPackage

namespace Failure

def kind : Failure → FailureKind
  | .general _ => .general
  | .validation .. => .validation
  | .options .. => .options
  | .file .. => .file
  | .missingFile .. => .missingFile
  | .parsing .. => .parsing
  | .markup .. => .markup
  | .rendering .. => .rendering
  | .output .. => .output
  | .dependency .. => .dependency

def message : Failure → Text
  | .general message | .validation message .. | .file message _ | .parsing message _
  | .markup message _ | .rendering message _ => message
  | .options renderer expected received message =>
    message.getD (renderer ++ " expected options of type '".toList ++ expected ++
      "' but received '".toList ++ received ++ "'.".toList)
  | .missingFile path message => message.getD ("File not found: ".toList ++ path)
  | .output path message => message.getD ("Failed to write output file: ".toList ++ path)
  | .dependency feature packages install message =>
    message.getD (MissingPackage.advice feature packages install)

/-- The stage of the work in which parsing or rendering failed. -/
def stage? : Failure → Option Text
  | .parsing _ stage | .rendering _ stage => stage
  | .markup .. => some "raw_markup".toList
  | .output .. => some "file_write".toList
  | _ => none

def path? : Failure → Option Text
  | .file _ path => path
  | .missingFile path _ | .output path _ => some path
  | _ => none

def parameter? : Failure → Option Text
  | .validation _ parameter _ => parameter
  | .options .. => some "options".toList
  | _ => none

def parameterValue : Failure → Value
  | .validation _ _ value => value
  | .options _ _ received _ => .str received
  | _ => .null

end Failure

/-- A failure together with the wording of the error that caused it, if there was one. -/
structure FailureReport where
  failure : Failure
  cause : Option Text := none
  deriving Repr

end DocumentStream
