import DocumentStream.Event.Record
import DocumentStream.Json.Printer
import DocumentStream.Json.Reader

/-!
Stored event streams: JSON arrays with one record for each event.
-/

namespace DocumentStream

/-- Why a text is not a stored event stream. -/
inductive StreamError where
  | json (error : Json.SyntaxError)
  | notList (kind : String)
  | record (error : RecordError)
  deriving Repr

/-- The event stream that a text holds, with a character that stands for unpaired surrogates. -/
def readEvents (text : Text) (standIn : Char := '\ufffd') : Except StreamError (List Event) := do
  match ← (Json.read text standIn).mapError .json with
  | .list items => (items.mapM Event.ofValue).mapError .record
  | value => throw (.notList value.kindName)

/-- The text that an event stream is stored as, with the given indent of its JSON. -/
def writeEvents (indent : Option Int) (events : List Event) : Except FieldFault Text :=
  Json.write indent (.list (events.map Event.toValue))

end DocumentStream
