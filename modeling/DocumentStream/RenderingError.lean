import DocumentStream.Failure
import DocumentStream.Value.Literal

/-!
What can go wrong while events are rendered. An event may not fit the constructs that are open,
and the value of a field may be one that its use is not defined for.
-/

namespace DocumentStream

/-- Why an event does not fit what came before it, or cannot be rendered at all. -/
inductive RenderingError where
  | unsupportedEvent (name : Text)
  | noEnclosingBlock (event : Text)
  | noOpenScope
  | noOpenDocument
  | noOpenList
  | itemOutsideList
  | outsideTable (event : Text)
  | cellOutsideRow
  | abbreviationOutsideDocument
  | unhandledMacro (id : Value)
  deriving Repr

namespace RenderingError

def message : RenderingError → Text
  | .unsupportedEvent name => "Unsupported event type: ".toList ++ name
  | .noEnclosingBlock event => event ++ " has no enclosing block to apply to".toList
  | .noOpenScope => "Cannot close a scope that was never opened".toList
  | .noOpenDocument => "EndDocument without BeginDocument".toList
  | .noOpenList => "EndList without BeginList".toList
  | .itemOutsideList => "List item outside of a list".toList
  | .outsideTable event => event ++ " outside of a table".toList
  | .cellOutsideRow => "Table cell outside of a table row".toList
  | .abbreviationOutsideDocument => "Abbreviation outside of a document".toList
  | .unhandledMacro id => "No Markdown rendering for macro '".toList ++ id.display ++ ['\'']

/-- The part of the rendering that the error comes from. -/
def stage : RenderingError → String
  | .unsupportedEvent _ => "dispatch"
  | .noEnclosingBlock _ => "block_state"
  | .noOpenScope => "printer_stack"
  | .noOpenDocument => "document"
  | .noOpenList | .itemOutsideList => "list"
  | .outsideTable _ | .cellOutsideRow => "table"
  | .abbreviationOutsideDocument => "abbreviation"
  | .unhandledMacro _ => "macro"

def failure (error : RenderingError) : Failure :=
  .rendering error.message (some error.stage.toList)

end RenderingError

/-- Why rendering stops: an event does not fit, the value of a field cannot be used, or the text
is asked for although the sink does not keep it. -/
inductive RenderFault where
  | rendering (error : RenderingError)
  | field (fault : FieldFault)
  | unreadableSink
  deriving Repr

end DocumentStream
