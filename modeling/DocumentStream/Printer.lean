import DocumentStream.Escape
import DocumentStream.Value

/-!
Printers keep markup and document text apart. Markup is written as it is; document text is held
back until the next markup and escaped then as one piece, because what has to be escaped depends on
the neighbouring characters and on whether the piece starts a line.
-/

namespace DocumentStream

/-- Where a printer writes to: a buffer that can be read back, or a stream that cannot. -/
inductive SinkKind where
  | buffer
  | stream
  deriving DecidableEq, Repr

/-- A printer, with the text written so far and the document text still held back. -/
structure Printer where
  sink : SinkKind := .buffer
  escapes : Bool := true
  escapesPipes : Bool := false
  written : Text := []
  pending : List Value := []
  /-- Whether the text written next starts a line, as far as the text written so far tells. -/
  lineStart : Bool := true
  deriving Repr

namespace Printer

/-- The concatenation of values that are all texts. -/
def joinTexts? : List Value → Option Text
  | [] => some []
  | .str text :: rest => (joinTexts? rest).map (text ++ ·)
  | _ :: _ => none

/-- Writes a text as it is. An empty one leaves no trace. -/
def write (p : Printer) (text : Text) : Printer :=
  if text.isEmpty then p
  else { p with written := p.written ++ text, lineStart := Text.endsLine text }

/-- Holds document text back. -/
def delay (p : Printer) (text : Value) : Printer := { p with pending := p.pending ++ [text] }

/-- Escapes and writes the text held back. -/
def flush (p : Printer) : Except FieldFault Printer :=
  if p.pending.isEmpty then
    .ok p
  else
    match joinTexts? p.pending with
    | none => .error .wrongKind
    | some text =>
      let shown := if p.escapes then Escape.text text p.lineStart p.escapesPipes else text
      .ok ({ p with pending := [] }.write shown)

/-- Writes markup after the text held back. -/
def print (p : Printer) (markup : Text) : Except FieldFault Printer :=
  return (← p.flush).write markup

/-- Whether the next character starts a line; text held back stands before it. -/
def isOnNewLine (p : Printer) : Bool := p.pending.isEmpty && p.lineStart

/-- Declares whether the next text starts a line. -/
def setLineStart (p : Printer) (lineStart : Bool) : Printer := { p with lineStart }

/-- The text written so far, if the sink keeps it. -/
def text? (p : Printer) : Option Text :=
  match p.sink with
  | .buffer => some p.written
  | .stream => none

end Printer

end DocumentStream
