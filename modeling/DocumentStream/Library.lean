import DocumentStream.Conversion
import DocumentStream.Options.Given

/-!
What the library offers to other programs: rendering events or a stored stream to Markdown that is
returned or goes to a target, and writing what a renderer of any kind makes of events to a target.
-/

namespace DocumentStream

/-- What a call can change: the files, what an open stream has received, be it characters or bytes,
and the log. -/
structure Outside where
  files : FileSystem := {}
  characters : Text := []
  bytes : Bytes := []
  log : List LogRecord := []

/-- What there is after a delivery. -/
def Outside.receive (s : Outside) : Delivery → Outside
  | .files files => { s with files }
  | .characters text => { s with characters := s.characters ++ text }
  | .bytes content => { s with bytes := s.bytes ++ content }

/-- Why a call fails: what is passed as options is of the wrong kind, or the conversion fails. -/
inductive CallError where
  | options (failure : Failure)
  | conversion (error : ConversionError)
  deriving Repr

/-- A call of the library. -/
abbrev LibraryCall := EStateM CallError Outside

namespace LibraryCall

/-- The options that are passed. -/
def checkOptions (given : Options.Given) : LibraryCall Options :=
  match given.check with
  | .ok options => pure options
  | .error failure => throw (.options failure)

/-- Runs a part of a conversion and keeps its log. -/
def convert {α : Type} (conversion : Conversion α) : LibraryCall α := fun s =>
  match conversion.run s.log with
  | .ok a log => .ok a { s with log }
  | .error error log => .error (.conversion error) { s with log }

/-- Writes Markdown to a target. -/
def deliver (target : Output) (markdown : Markdown) : LibraryCall Unit := do
  let delivery ← convert (Conversion.deliverReporting (← get).files target markdown)
  modify fun s => s.receive delivery

/-- Renders events with a new renderer. Without a target the Markdown is returned. A stream with
unpaired surrogates is given twice, with one and with another character in their place. -/
def renderEvents (given : Options.Given) (linkTarget imageTarget : Option Serializer)
    (target : Option Output) (events : List Event) (variant : List Event := events) :
    LibraryCall (Option Text) := do
  let options ← checkOptions given
  let start := Renderer.start options (linkTarget.getD .plain) (imageTarget.getD .plain) .buffer
  let text ← convert (Conversion.ofEvents start events)
  match target with
  | none => return some text
  | some target =>
    deliver target { text, isEncodable := (Conversion.ofEvents start variant).gives text }
    return none

/-- Renders a stored stream with a new renderer. The options are looked at once the stream is
read. -/
def renderStored (source : Source) (given : Options.Given)
    (linkTarget imageTarget : Option Serializer) (target : Option Output) :
    LibraryCall (Option Text) := do
  let stored ← convert (.ofExcept .source (source.read (← get).files))
  let events ← convert (.ofExcept .stream (readEvents stored))
  let variant ← convert (.ofExcept .stream (readEvents stored Conversion.otherStandIn))
  renderEvents given linkTarget imageTarget target events variant

end LibraryCall

/-- Writes what a renderer makes of events to a target. The renderer may be of any kind, with a
state and with faults of its own. -/
def renderTo {ρ ε : Type} (render : List Event → EStateM ε ρ Markdown) (target : Output)
    (events : List Event) : EStateM (ε ⊕ OutputError) (ρ × Outside) Unit := fun (renderer, s) =>
  match (render events).run renderer with
  | .error fault renderer => .error (.inl fault) (renderer, s)
  | .ok markdown renderer =>
    match target.write s.files markdown with
    | .error error => .error (.inr error) (renderer, s)
    | .ok delivery => .ok () (renderer, s.receive delivery)

end DocumentStream
