import DocumentStream.Event.Stream
import DocumentStream.Failure

/-!
How errors in stored event streams are reported. Most of them belong to a stage of the reading. The
faults inside the record of a reference belong to none: they are reported as what they are, a value
out of range or of the wrong kind.
-/

namespace DocumentStream

namespace ReferenceFault

def message : ReferenceFault → Text
  | .bases kind => s!"'{kind}' object is not iterable".toList
  | .type value => value.literal ++ " is not a valid ResourceType".toList
  | .parameters fault => fault.message.toList

/-- Whether the fault is a value out of range; otherwise it is one of the wrong kind. -/
def isOutOfRange : ReferenceFault → Bool
  | .type _ => true
  | .parameters (.notPair ..) => true
  | _ => false

end ReferenceFault

namespace RecordError

def message : RecordError → Text
  | .notRecord kind => s!"Event must be a JSON object, got {kind}".toList
  | .unknownEvent name => "Unknown event type: ".toList ++ name.literal
  | .invalidReference value => "Invalid resource reference: ".toList ++ value.literal
  | .invalidFields name error =>
    "Invalid fields for ".toList ++ name ++ ':' :: ' ' :: (error.message name).toList
  | .reference fault => fault.message

/-- The stage of the reading that the error belongs to, if any. -/
def stage? : RecordError → Option String
  | .notRecord _ | .unknownEvent _ | .invalidFields .. => some "event"
  | .invalidReference _ => some "reference"
  | .reference _ => none

/-- The failure to report, unless the fault lies inside a reference. -/
def failure? (error : RecordError) : Option Failure :=
  error.stage?.map fun stage => .parsing error.message (some stage.toList)

end RecordError

namespace StreamError

def message : StreamError → Text
  | .json error => "Invalid JSON event stream: ".toList ++ error.message.toList
  | .notList kind => s!"Event stream must be a JSON array, got {kind}".toList
  | .record error => error.message

/-- The stage of the reading that the error belongs to, if any. -/
def stage? : StreamError → Option String
  | .json _ | .notList _ => some "json"
  | .record error => error.stage?

/-- The failure to report, unless the fault lies inside a reference. -/
def failure? (error : StreamError) : Option Failure :=
  error.stage?.map fun stage => .parsing error.message (some stage.toList)

end StreamError

end DocumentStream
