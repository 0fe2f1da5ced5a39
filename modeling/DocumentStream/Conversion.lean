import DocumentStream.Event.Message
import DocumentStream.Output
import DocumentStream.Renderer
import DocumentStream.Source

/-!
Conversions of whole documents: from events or from a stored stream to Markdown, and on to a
target. Nothing is written before everything has been rendered.
-/

namespace DocumentStream

/-- Why a conversion fails. -/
inductive ConversionError where
  | source (error : SourceError)
  | stream (error : StreamError)
  | rendering (fault : RenderFault)
  | output (error : OutputError)
  deriving Repr

/-- A conversion with the log that it keeps. -/
abbrev Conversion := EStateM ConversionError (List LogRecord)

namespace Conversion

def ofExcept {α ε : Type} (wrap : ε → ConversionError) : Except ε α → Conversion α
  | .ok a => pure a
  | .error error => throw (wrap error)

/-- The Markdown of an event stream, rendered by a new renderer. -/
def ofEvents (start : Renderer) (events : List Event) : Conversion Text := fun log =>
  match (TrackedRendering.textOf events).run { renderer := start } with
  | .ok text s => .ok text (log ++ s.renderer.log)
  | .error fault s => .error (.rendering fault) (log ++ s.renderer.log)

/-- The Markdown of a stored event stream. -/
def ofSource (start : Renderer) (fs : FileSystem) (source : Source)
    (standIn : Char := '\ufffd') : Conversion Text := do
  let stored ← ofExcept .source (source.read fs)
  let events ← ofExcept .stream (readEvents stored standIn)
  ofEvents start events

/-- Another character that stands for unpaired surrogates. None has got into a text that is the same
with it. -/
def otherStandIn : Char := '\ufffc'

/-- Whether a conversion gives a certain text. -/
def gives (conversion : Conversion Text) (text : Text) : Bool :=
  match conversion.run [] with
  | .ok result _ => result == text
  | .error _ _ => false

def deliver (fs : FileSystem) (target : Output) (markdown : Markdown) : Conversion Delivery :=
  ofExcept .output (target.write fs markdown)

/-- Writes Markdown to a target and records how much it was. -/
def deliverReporting (fs : FileSystem) (target : Output) (markdown : Markdown) :
    Conversion Delivery := do
  let delivery ← deliver fs target markdown
  modify fun log =>
    log ++ [LogRecord.ofLevel "events2md.api".toList .debug
      ("Wrote ".toList ++ Text.ofNat markdown.text.length ++ " characters of Markdown".toList)]
  return delivery

end Conversion

end DocumentStream
