import DocumentStream.FileSystem
import DocumentStream.Log
import DocumentStream.Text.Case
import DocumentStream.Value.Literal

/-!
The logger of the program. It passes records on to its handlers. Configuring it replaces the
handlers that an earlier configuration installed and leaves those of others alone.
-/

namespace DocumentStream

/-- How a handler writes records: briefly, or with the time and the place in the program. -/
inductive LogStyle where
  | brief
  | traced
  deriving DecidableEq, Repr

/-- What a traced record is marked with: its time and its place in the program. -/
structure LogStamp where
  time : Text
  place : Text
  deriving Repr

/-- The name of the logger, below which all records of the program are made. -/
def programLogger : Text := "events2md".toList

def LogRecord.line (stamp : LogStamp) (record : LogRecord) : LogStyle → Text
  | .brief => programLogger ++ ':' :: ' ' :: record.text
  | .traced =>
    '[' :: stamp.time ++ "] [".toList ++ LogLevel.severityLabel record.severity ++
      "] [".toList ++ record.source ++ ':' :: stamp.place ++ "] ".toList ++ record.message

/-- What becomes of the records: they go to the error stream, to the end of a file, or to a
handler that somebody else installed, which keeps them to itself. -/
inductive LogHandler where
  | errors (style : LogStyle)
  | file (place : Location) (style : LogStyle)
  | foreign (owner : Text)
  deriving DecidableEq, Repr

/-- Whether the handler was installed by somebody else. -/
def LogHandler.isForeign : LogHandler → Bool
  | .foreign _ => true
  | _ => false

/-- The level of a logger as it was given: a severity, or a truth value that stands for one. -/
inductive Threshold where
  | severity (n : Int)
  | flag (b : Bool)
  deriving DecidableEq, Repr

namespace Threshold

def least : Threshold → Int
  | .severity n => n
  | .flag b => b.toNat

def ofLevel (level : LogLevel) : Threshold := .severity level.severity

def lowerTo (level : LogLevel) (threshold : Threshold) : Threshold :=
  if level.severity < threshold.least then ofLevel level else threshold

end Threshold

/-- A logger. Level zero leaves the decision to the surroundings. -/
structure Logger where
  level : Threshold := .severity 0
  handlers : List LogHandler := []
  deriving Repr

/-- The logger with what it writes to. -/
structure Journal where
  logger : Logger := {}
  errors : Text := []
  files : FileSystem := {}
  stamp : LogStamp := ⟨[], []⟩

/-- Why a logger cannot be configured. -/
inductive LogError where
  | unknownLevel (level : Value)
  | nulCharacter
  deriving Repr

namespace LogError

def message : LogError → Text
  | .unknownLevel level =>
    "Unknown log level ".toList ++ level.literal ++ "; expected one of ".toList ++
      Text.join [',', ' '] (LogLevel.all.map LogLevel.label)
  | .nulCharacter => FileFault.nulCharacter.message.toList

end LogError

namespace Journal

/-- The severity from which on records are kept where no level is set. -/
def defaultSeverity : Int := LogLevel.warning.severity

/-- Whether records of a source reach the logger of the program. -/
def isOfProgram (source : Text) : Bool :=
  match Text.after? programLogger source with
  | some rest => rest.isEmpty || rest.head? == some '.'
  | none => false

def writeError (j : Journal) (text : Text) : Journal := { j with errors := j.errors ++ text }

def handle (record : LogRecord) (j : Journal) : LogHandler → Journal
  | .errors style => j.writeError (record.line j.stamp style ++ ['\n'])
  | .file place style =>
    { j with
      files := j.files.append place (Utf8.encode (record.line j.stamp style ++ ['\n'])) }
  | .foreign _ => j

/-- Shows the bare message of a record that no handler takes, if it is severe enough. -/
def lastResort (record : LogRecord) (j : Journal) : Journal :=
  if defaultSeverity ≤ record.severity then j.writeError (record.message ++ ['\n']) else j

/-- The least severity that is logged. -/
def threshold (j : Journal) : Int :=
  if j.logger.level.least = 0 then defaultSeverity else j.logger.level.least

/-- Logs a record. Records without any severity are never logged. -/
def log (record : LogRecord) (j : Journal) : Journal :=
  if record.severity ≤ 0 then j
  else if !isOfProgram record.source then lastResort record j
  else if record.severity < j.threshold then j
  else if j.logger.handlers.isEmpty then lastResort record j
  else j.logger.handlers.foldl (handle record) j

def logAll (records : List LogRecord) (j : Journal) : Journal :=
  records.foldl (fun j record => j.log record) j

/-- The threshold that a value stands for: a number is one itself, and a name in any letter case
is that of the level. -/
def thresholdOf : Value → Except LogError Threshold
  | .int n => .ok (.severity n)
  | .bool b => .ok (.flag b)
  | value =>
    match LogLevel.all.find? fun level => level.label == Text.upper value.display with
    | some level => .ok (.ofLevel level)
    | none => .error (.unknownLevel value)

/-- Installs a handler behind those that are there. -/
def install (handler : LogHandler) (j : Journal) : Journal :=
  { j with logger.handlers := j.logger.handlers ++ [handler] }

/-- Begins to log to the file that a name leads to. A file that cannot be opened is reported and
left out. -/
def openFile (name : Text) (style : LogStyle) : EStateM LogError Journal Unit := do
  let files := (← get).files
  let path := files.absolute (.ofText name)
  let report (level : LogLevel) (message : Text) : EStateM LogError Journal Unit :=
    modify (log (LogRecord.ofLevel programLogger level message))
  match files.place path with
  | .ok place =>
    modify fun j => { j with files := files.append place [] }
    modify (install (.file place style))
    report .debug ("Logging to file: ".toList ++ name)
  | .error .nulCharacter => throw .nulCharacter
  | .error fault =>
    report .warning ("Could not open log file ".toList ++ name ++ ':' :: ' ' ::
      fault.message.toList ++ ':' :: ' ' :: Text.quoted path.text)

/-- Configures the logger: its level, and besides the error stream a file if one is named. Tracing
lowers the level so far that everything is logged. -/
def configure (level : Value) (file : Option Text) (trace : Bool) :
    EStateM LogError Journal Unit := do
  let threshold ← match thresholdOf level with
    | .ok threshold => pure threshold
    | .error error => throw error
  let style : LogStyle := if trace then .traced else .brief
  modify fun j =>
    { j with
      logger.handlers := j.logger.handlers.filter LogHandler.isForeign
      logger.level := if trace then threshold.lowerTo .debug else threshold }
  modify (install (.errors style))
  match file.filter fun name => !name.isEmpty with
  | some name => openFile name style
  | none => pure ()

end Journal

end DocumentStream
