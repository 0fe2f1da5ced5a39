import DocumentStream.Text

/-!
Records of a log: who reports what, and how much it matters.
-/

namespace DocumentStream

inductive LogLevel where
  | debug
  | info
  | warning
  | error
  | critical
  deriving DecidableEq, Repr

namespace LogLevel

/-- All named levels, from the least to the most severe. -/
def all : List LogLevel := [.debug, .info, .warning, .error, .critical]

def severity : LogLevel → Int
  | .debug => 10
  | .info => 20
  | .warning => 30
  | .error => 40
  | .critical => 50

def label : LogLevel → Text
  | .debug => "DEBUG".toList
  | .info => "INFO".toList
  | .warning => "WARNING".toList
  | .error => "ERROR".toList
  | .critical => "CRITICAL".toList

/-- The name that is shown for a severity, which need not be that of a named level. -/
def severityLabel (severity : Int) : Text :=
  match all.find? fun level => level.severity == severity with
  | some level => level.label
  | none => "Level ".toList ++ Text.ofInt severity

end LogLevel

structure LogRecord where
  source : Text
  severity : Int
  message : Text
  deriving DecidableEq, Repr

namespace LogRecord

def ofLevel (source : Text) (level : LogLevel) (message : Text) : LogRecord :=
  ⟨source, level.severity, message⟩

def text (record : LogRecord) : Text :=
  LogLevel.severityLabel record.severity ++ ':' :: ' ' :: record.message

end LogRecord

end DocumentStream
