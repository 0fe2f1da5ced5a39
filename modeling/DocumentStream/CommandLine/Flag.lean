import DocumentStream.Log
import DocumentStream.Options
import DocumentStream.Text.Quoted

/-!
The flags that the command line understands, and what can be wrong with a command line.
-/

namespace DocumentStream.CommandLine

/-- The flags of the command line. -/
inductive Flag where
  | help
  | output
  | config
  | noEscape
  | noTablePipeEscape
  | unhandledMacros
  | preview
  | logLevel
  | logFile
  | trace
  | version
  deriving DecidableEq, Repr

namespace Flag

/-- All flags, in the order in which they are listed. -/
def all : List Flag :=
  [.help, .output, .config, .noEscape, .noTablePipeEscape, .unhandledMacros, .preview, .logLevel,
    .logFile, .trace, .version]

/-- The name of a flag, which is written behind two dashes. -/
def name : Flag → Text
  | .help => "help".toList
  | .output => "out".toList
  | .config => "config".toList
  | .noEscape => "no-escape".toList
  | .noTablePipeEscape => "no-table-pipe-escape".toList
  | .unhandledMacros => "unhandled-macros".toList
  | .preview => "preview".toList
  | .logLevel => "log-level".toList
  | .logFile => "log-file".toList
  | .trace => "trace".toList
  | .version => "version".toList

/-- The letter that stands for a flag behind a single dash. -/
def letter? : Flag → Option Char
  | .help => some 'h'
  | .output => some 'o'
  | _ => none

def ofName? (name : Text) : Option Flag := all.find? fun flag => flag.name == name

def ofLetter? (letter : Char) : Option Flag := all.find? fun flag => flag.letter? == some letter

def long (flag : Flag) : Text := '-' :: '-' :: flag.name

/-- All spellings of a flag, as messages show them. -/
def label (flag : Flag) : Text :=
  match flag.letter? with
  | some letter => ['-', letter, '/'] ++ flag.long
  | none => flag.long

def takesValue : Flag → Bool
  | .output | .config | .unhandledMacros | .logLevel | .logFile => true
  | _ => false

/-- The values that a flag allows, if they are few. -/
def choices : Flag → List Text
  | .unhandledMacros => MacroMode.all.map MacroMode.label
  | .logLevel => LogLevel.all.map LogLevel.label
  | _ => []

end Flag

/-- What is wrong with a command line. -/
inductive Error where
  | ambiguous (word : Text) (candidates : List Flag)
  | missingValue (flag : Flag)
  | unwantedValue (flag : Flag) (value : Text)
  | invalidChoice (flag : Flag) (value : Text)
  | missingInput
  | unrecognized (words : List Text)
  deriving DecidableEq, Repr

namespace Error

def aboutFlag (flag : Flag) (text : Text) : Text :=
  "argument ".toList ++ flag.label ++ ':' :: ' ' :: text

def message : Error → Text
  | .ambiguous word candidates =>
    "ambiguous option: ".toList ++ word ++ " could match ".toList ++
      Text.join [',', ' '] (candidates.map Flag.long)
  | .missingValue flag => aboutFlag flag "expected one argument".toList
  | .unwantedValue flag value =>
    aboutFlag flag ("ignored explicit argument ".toList ++ Text.quoted value)
  | .invalidChoice flag value =>
    aboutFlag flag ("invalid choice: ".toList ++ Text.quoted value ++ " (choose from ".toList ++
      Text.join [',', ' '] (flag.choices.map Text.quoted) ++ [')'])
  | .missingInput => "the following arguments are required: input".toList
  | .unrecognized words => "unrecognized arguments: ".toList ++ Text.join [' '] words

end Error

end DocumentStream.CommandLine
