import DocumentStream.Failure
import DocumentStream.FileSystem
import DocumentStream.Text.Lines

/-!
Where a stored event stream comes from: a text that is the stream itself or else the path of a
file, a path, or an open stream of characters or bytes.
-/

namespace DocumentStream

/-- A source of text. -/
inductive Source where
  | text (text : Text)
  | path (path : FilePath)
  | textStream (text : Text)
  | byteStream (content : Bytes)
  deriving Repr

/-- Why a source gives no text. -/
inductive SourceError where
  | notFound (path : FilePath)
  | unreadable (path : FilePath)
  | system (fault : FileFault)
  | notUtf8
  deriving Repr

/-- The failure to report if the source itself is at fault. -/
def SourceError.failure? : SourceError → Option Failure
  | .notFound path => some (.missingFile path.text none)
  | .unreadable path =>
    some (.file ("Cannot read event stream: ".toList ++ path.text) (some path.text))
  | .system _ | .notUtf8 => none

def Bytes.text (content : Bytes) : Except SourceError Text :=
  match Utf8.decode content with
  | some text => .ok text
  | none => .error .notUtf8

namespace Source

/-- Reads a text file. All its line ends become line feeds. -/
def readFile (fs : FileSystem) (path : FilePath) : Except SourceError Text := do
  unless ← (fs.exists? path).mapError .system do throw (.notFound path)
  match fs.read path with
  | .error _ => throw (.unreadable path)
  | .ok content => return Text.unifyLineEnds (← content.text)

/-- Whether a text is taken for a stream itself: its first character that is not blank opens a
list. -/
def isStream (text : Text) : Bool := (Text.trimStart text).head? == some '['

def read (fs : FileSystem) : Source → Except SourceError Text
  | .text given => if isStream given then .ok given else readFile fs (.ofText given)
  | .path given => readFile fs given
  | .textStream content => .ok content
  | .byteStream content => content.text

end Source

end DocumentStream
