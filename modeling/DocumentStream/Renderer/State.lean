import DocumentStream.Abbreviation
import DocumentStream.Event
import DocumentStream.Log
import DocumentStream.Options
import DocumentStream.Printer
import DocumentStream.Reference.Markup
import DocumentStream.RenderingError

/-!
The state of a renderer and the ways in which it writes. The document's printer lies at the bottom
of a stack. A construct that has to see its whole content first pushes a printer that captures the
content, and takes the captured text when it ends.
-/

namespace DocumentStream

/-- A renderer between two events. All stacks have their innermost member first. -/
structure Renderer where
  options : Options := {}
  linkTarget : Serializer := .plain
  imageTarget : Serializer := .plain
  /-- The printer of the document, which is never taken off. -/
  document : Printer := {}
  /-- The printers that capture the content of open headings, links and cells. -/
  captures : List Printer := []
  /-- Whether a block has been rendered, so that the next one has to be set off from it. -/
  hasBlock : Bool := false
  listStyles : List ListKind := []
  /-- The depth of the quotation that was opened last. -/
  previousQuotationDepth : Int := 0
  /-- The finished cells of the open tables, row by row. -/
  tables : List (List (List Text)) := []
  /-- The abbreviations met so far in the open documents. -/
  abbreviations : List (List Abbreviation) := []
  log : List LogRecord := []

/-- A step of rendering. What a step did before it failed stays done. -/
abbrev Rendering := EStateM RenderFault Renderer

namespace Renderer

/-- A new renderer that writes to a sink of the given kind. -/
def start (options : Options) (linkTarget imageTarget : Serializer) (sink : SinkKind) :
    Renderer where
  options
  linkTarget
  imageTarget
  document := { sink, escapes := options.escapeSpecial.isTruthy }

/-- The printer that currently receives output. -/
def printer (r : Renderer) : Printer := r.captures.head?.getD r.document

/-- The renderer with another printer in the place of the current one. -/
def withPrinter (r : Renderer) (printer : Printer) : Renderer :=
  match r.captures with
  | [] => { r with document := printer }
  | _ :: outer => { r with captures := printer :: outer }

/-- The printer for the content of a construct. A table cell escapes bars if the options ask for
it, and whatever is opened inside the cell goes on doing so. -/
def capture (r : Renderer) (inCell : Bool) : Printer where
  escapes := r.options.escapeSpecial.isTruthy
  escapesPipes := inCell && r.options.tablePipeEscape.isTruthy

end Renderer

namespace Rendering

/-- Fails because the event does not fit. -/
def fail {α : Type} (error : RenderingError) : Rendering α := throw (.rendering error)

/-- A result that hangs on the values of fields. -/
def ofField {α : Type} : Except FieldFault α → Rendering α
  | .ok a => pure a
  | .error fault => throw (.field fault)

def report (level : LogLevel) (message : Text) : Rendering Unit :=
  modify fun r =>
    { r with
      log := r.log ++ [LogRecord.ofLevel "events2md.renderers.markdown".toList level message] }

def onPrinter (act : Printer → Except FieldFault Printer) : Rendering Unit := do
  let printer ← ofField (act (← get).printer)
  modify fun r => r.withPrinter printer

def print (markup : Text) : Rendering Unit := onPrinter fun p => p.print markup

/-- Holds document text back until it can be escaped. -/
def printText (text : Value) : Rendering Unit := onPrinter fun p => .ok (p.delay text)

/-- Writes the document text that is held back. -/
def flush : Rendering Unit := onPrinter fun p => p.flush

/-- Sets a block off from what was rendered before, if anything was. -/
def printEmptyLine : Rendering Unit := do
  if (← get).hasBlock then
    print ['\n', '\n']
  else
    modify fun r => { r with hasBlock := true }

/-- Lets the text after a block marker count as the start of a line. -/
def startLineContent : Rendering Unit := onPrinter fun p => .ok (p.setLineStart true)

/-- Pushes a printer that captures the content of a construct. -/
def openScope (printer : Printer) : Rendering Unit :=
  modify fun r => { r with captures := printer :: r.captures }

/-- Takes the current printer off the stack and gives the text that it captured. -/
def closeScope : Rendering Text := do
  match (← get).captures with
  | [] => fail .noOpenScope
  | printer :: outer =>
    modify fun r => { r with captures := outer }
    return (← ofField printer.flush).written

end Rendering

end DocumentStream
