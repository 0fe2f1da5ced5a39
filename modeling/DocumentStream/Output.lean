import DocumentStream.Failure
import DocumentStream.FileSystem

/-!
Where rendered text goes: to a file, which holds it in UTF-8, or to an open stream of characters or
bytes. A stream that is neither for certain says in its mode whether it takes bytes.
-/

namespace DocumentStream

/-- Rendered text. It cannot be encoded if an unpaired surrogate has got into it, for which some
character stands in the text. -/
structure Markdown where
  text : Text
  isEncodable : Bool := true
  deriving Repr

/-- What is known of an open stream. -/
inductive StreamKind where
  | characters
  | bytes
  | declared (mode : Value)
  deriving Repr

def StreamKind.isBinary : StreamKind → Bool
  | .characters => false
  | .bytes => true
  | .declared (.str mode) => mode.contains 'b'
  | .declared _ => false

/-- A target of rendered text. Anything without a way to write to it is unusable. -/
inductive Output where
  | file (path : FilePath)
  | stream (kind : StreamKind)
  | unusable (kind : String)
  deriving Repr

/-- What a target has received: the files are as given now, or a stream got characters or bytes. -/
inductive Delivery where
  | files (fs : FileSystem)
  | characters (text : Text)
  | bytes (content : Bytes)
  deriving Repr

/-- Why a target receives nothing. -/
inductive OutputError where
  | unwritable (path : FilePath)
  | nulCharacter
  | unencodable
  | unusable (kind : String)
  deriving Repr

namespace OutputError

/-- The failure to report if the file cannot be written. -/
def failure? : OutputError → Option Failure
  | .unwritable path => some (.output path.text none)
  | .nulCharacter | .unencodable | .unusable _ => none

def message : OutputError → Text
  | .unwritable path => (Failure.output path.text none).message
  | .nulCharacter => FileFault.nulCharacter.message.toList
  | .unencodable => "surrogates not allowed".toList
  | .unusable kind => s!"Unsupported output type: <class '{kind}'>".toList

end OutputError

/-- Writes to a target, all or nothing. The place of a file is looked up before the text is
encoded. -/
def Output.write (fs : FileSystem) (markdown : Markdown) : Output → Except OutputError Delivery
  | .file path =>
    match fs.write path (Utf8.encode markdown.text) with
    | .ok fs => if markdown.isEncodable then .ok (.files fs) else .error .unencodable
    | .error .nulCharacter => .error .nulCharacter
    | .error _ => .error (.unwritable path)
  | .stream kind =>
    if kind.isBinary then
      if markdown.isEncodable then .ok (.bytes (Utf8.encode markdown.text))
      else .error .unencodable
    else
      .ok (.characters markdown.text)
  | .unusable kind => .error (.unusable kind)

end DocumentStream
