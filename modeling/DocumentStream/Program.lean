import DocumentStream.CommandLine
import DocumentStream.Config.Search
import DocumentStream.Conversion
import DocumentStream.Display
import DocumentStream.Logger

/-!
The program: it renders one stored event stream as its command line asks, writes the Markdown to a
file or shows it, and says with its status what became of it. Failures that come from the input are
reported in a line of their own; what nobody expects ends the program as a fault.
-/

namespace DocumentStream.Program

/-- What the status of the program says. -/
inductive Status where
  | success
  | notRendered
  | invalidUse
  | noStream
  deriving DecidableEq, Repr

def Status.code : Status → Nat
  | .success => 0
  | .notRendered => 1
  | .invalidUse => 2
  | .noStream => 3

/-- What ends the program without being reported. -/
inductive Fault where
  | logging (error : LogError)
  | config (error : Config.Error)
  | options (error : OptionsError)
  | conversion (error : ConversionError)
  deriving Repr

def Fault.message : Fault → Text
  | .logging error => error.message
  | .config error => error.message
  | .options error => error.message
  | .conversion (.source (.system fault)) => fault.message.toList
  | .conversion (.source _) => "the source is not UTF-8".toList
  | .conversion (.stream error) => error.message
  | .conversion (.rendering _) => "a field has a value of the wrong kind".toList
  | .conversion (.output error) => error.message

/-- How the program ends. -/
inductive Ending where
  | status (status : Status)
  | fault (fault : Fault)
  deriving Repr

/-- What the program is run in: the readers of configuration files, the files, its input, the
configuration that the environment names, the stamp of traced log records, and the package that
formats Markdown if there is one. -/
structure Surroundings where
  readers : Config.Readers
  files : FileSystem := {}
  input : Text := []
  /-- The input as the bytes that come in, where it is not known to be text. -/
  inputBytes : Option Bytes := none
  config : Option Text := none
  stamp : LogStamp := ⟨[], []⟩
  formatter : Option (Markdown → Markdown) := none

/-- What the program has written so far, and its logger. -/
structure Session where
  output : Text := []
  journal : Journal := {}

/-- A part of the program. It may be the last one. -/
abbrev Action := EStateM Ending Session

namespace Action

def quit {α : Type} (status : Status) : Action α := throw (.status status)

/-- Ends the program with a line on the error stream. -/
def refuse {α : Type} (line : Text) : Action α := do
  modify fun s => { s with journal := s.journal.writeError (line ++ ['\n']) }
  quit .invalidUse

def log (level : LogLevel) (message : Text) : Action Unit :=
  modify fun s =>
    { s with
      journal := s.journal.log (LogRecord.ofLevel "events2md.cli".toList level message) }

/-- Ends the program with a message in the log. -/
def fail {α : Type} (status : Status) (message : Text) : Action α := do
  log .error message
  quit status

def print (text : Text) : Action Unit := modify fun s => { s with output := s.output ++ text }

/-- Runs a part of a conversion and keeps its log. -/
def convert {α : Type} (conversion : Conversion α) (failed : ConversionError → Action α) :
    Action α := do
  match conversion.run [] with
  | .ok a records =>
    modify fun s => { s with journal := s.journal.logAll records }
    return a
  | .error error records =>
    modify fun s => { s with journal := s.journal.logAll records }
    failed error

end Action

/-- The name and the version of the program. -/
def title : Text := "events2md 0.1.0".toList

def usage : Text :=
  "usage: events2md".toList ++
    CommandLine.Flag.all.flatMap (fun flag =>
      " [".toList ++ flag.label ++ (if flag.takesValue then " VALUE".toList else []) ++ [']']) ++
    " input".toList

/-- Sets up the logging that the command line asks for. -/
def startLog (settings : CommandLine.Settings) : Action Unit := do
  let journal := (← get).journal
  match (Journal.configure (.str settings.logLevel.label) settings.logFile settings.trace).run
    journal with
  | .ok () journal => modify fun s => { s with journal }
  | .error error journal =>
    modify fun s => { s with journal }
    throw (.fault (.logging error))

/-- Ends the program because of a configuration. -/
def refuseConfig {α : Type} (error : Config.Error) : Action α :=
  match error with
  | .toolsKind | .unreadable _ => throw (.fault (.config error))
  | _ => .refuse ("Error: ".toList ++ error.message)

def refuseOptions {α : Type} (error : OptionsError) : Action α :=
  match error with
  | .keyKind => throw (.fault (.options error))
  | _ => .refuse ("Error: ".toList ++ error.message)

/-- The options of the rendering, from the configuration and the command line. -/
def chooseOptions (surroundings : Surroundings) (settings : CommandLine.Settings) :
    Action Options := do
  match Config.loadApplicable (← get).journal.files settings.config surroundings.config
    surroundings.readers with
  | .error error => refuseConfig error
  | .ok config =>
    match settings.options config with
    | .error error => refuseOptions error
    | .ok options => return options

/-- Reports a failed rendering, if the input is at fault. -/
def reportRendering {α : Type} (error : ConversionError) : Action α :=
  match error with
  | .source source =>
    match source.failure? with
    | some failure => .fail .noStream failure.message
    | none => throw (.fault (.conversion error))
  | .stream stream =>
    match stream.failure? with
    | some failure => .fail .noStream failure.message
    | none => throw (.fault (.conversion error))
  | .rendering (.rendering rendering) =>
    .fail .notRendered ("Rendering failed: ".toList ++ rendering.message)
  | _ => throw (.fault (.conversion error))

/-- The input of the program as a source of text. All line ends become line feeds when bytes are
decoded. -/
def Surroundings.inputSource (surroundings : Surroundings) : Source :=
  match surroundings.inputBytes with
  | none => .textStream surroundings.input
  | some content =>
    match Utf8.decode content with
    | some text => .textStream (Text.unifyLineEnds text)
    | none => .byteStream content

/-- The source that the command line names. A lone dash is the input of the program. -/
def Surroundings.source (surroundings : Surroundings) (input : Text) : Source :=
  if input = ['-'] then surroundings.inputSource else .text input

/-- The Markdown of the stream that the command line names. -/
def renderInput (surroundings : Surroundings) (input : Text) (options : Options) :
    Action Markdown := do
  let source := surroundings.source input
  let start := Renderer.start options .plain .plain .buffer
  let files := (← get).journal.files
  let text ← .convert (Conversion.ofSource start files source) reportRendering
  let variant := Conversion.ofSource start files source Conversion.otherStandIn
  return { text, isEncodable := variant.gives text }

def writeFile (name : Text) (markdown : Markdown) : Action Unit := do
  match (Output.file (.ofText name)).write (← get).journal.files markdown with
  | .ok (.files files) =>
    modify fun s => { s with journal.files := files }
    .log .info ("Wrote ".toList ++ name)
  | .ok _ => pure ()
  | .error error =>
    match error.failure? with
    | some failure => .fail .notRendered failure.message
    | none => throw (.fault (.conversion (.output error)))

def display (surroundings : Surroundings) (preview : Bool) (markdown : Markdown) : Action Unit :=
  match Display.renderWith surroundings.formatter preview markdown with
  | .ok shown =>
    if shown.isEncodable then .print shown.text
    else throw (.fault (.conversion (.output .unencodable)))
  | .error failure => .fail .notRendered failure.message

/-- Renders the input as the command line asks. -/
def convert (surroundings : Surroundings) (input : Text) (settings : CommandLine.Settings) :
    Action Unit := do
  startLog settings
  let options ← chooseOptions surroundings settings
  let markdown ← renderInput surroundings input options
  match settings.output.filter fun name => !name.isEmpty with
  | some name => writeFile name markdown
  | none => display surroundings settings.preview markdown

/-- What the program does for a command line. -/
def perform (surroundings : Surroundings) (arguments : List Text) : Action Unit :=
  match CommandLine.parse arguments with
  | .error error => .refuse ("events2md: error: ".toList ++ error.message)
  | .ok .help => .print (usage ++ ['\n'])
  | .ok .version => .print (title ++ ['\n'])
  | .ok (.convert input settings) => convert surroundings input settings

/-- The places of the files that a command line and its surroundings can lead to. -/
def places (surroundings : Surroundings) (arguments : List Text) : List Location :=
  let fs := surroundings.files
  let named := match CommandLine.parse arguments with
    | .ok (.convert input settings) =>
      some input :: [settings.output, settings.config, settings.logFile, surroundings.config]
    | _ => []
  let inDirectory (names : List Text) (directory : Location) : List Location :=
    names.map fun name => directory ++ [name]
  named.filterMap (fun name => name.map fun name => fs.resolve (.ofText name)) ++
    (Config.upwards fs.work).flatMap (inDirectory (Config.fileNames ++ [Config.projectFile])) ++
    inDirectory Config.fileNames fs.home

/-- Runs the program: how it ends, and what it leaves behind. -/
def run (surroundings : Surroundings) (arguments : List Text) : Ending × Session :=
  let start : Session :=
    { journal := { files := surroundings.files, stamp := surroundings.stamp } }
  match (perform surroundings arguments).run start with
  | .ok () s => (.status .success, s)
  | .error ending s => (ending, s)

end DocumentStream.Program
