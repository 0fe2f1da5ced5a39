import DocumentStream.Text
import DocumentStream.Text.Alphanumeric
import DocumentStream.Text.Digit

/-!
Escaping document text, so that Markdown does not read it as syntax. Some characters are escaped
wherever they stand, an underscore unless it stands inside a word, and the characters that open a
block only at the start of a line.
-/

namespace DocumentStream.Escape

/-- The characters that are escaped wherever they stand. A bar splits the cells of a table, so it
counts among them on request. -/
def isSpecial (pipes : Bool) (c : Char) : Bool :=
  c == '\\' || c == '\x60' || c == '*' || c == '[' || c == ']' || (pipes && c == '|')

/-- The characters that are escaped as the first one of a line. -/
def opensBlock (c : Char) : Bool := c == '#' || c == '>' || c == '+' || c == '-' || c == '='

def charsFrom (pipes lineStart : Bool) (before : Option Char) : Text → Text
  | [] => []
  | c :: rest =>
    let insideWord := before.any Text.isAlphanumeric && rest.head?.any Text.isAlphanumeric
    let escaped := isSpecial pipes c || (c == '_' && !insideWord) || (lineStart && opensBlock c)
    (if escaped then ['\\', c] else [c]) ++ charsFrom pipes false (some c) rest

/-- Escapes the full stop of an ordered list marker: a number at the front with a full stop after
it that white space or the end follows. -/
def listMarker (text : Text) : Text :=
  let number := text.takeWhile Text.isDecimalDigit
  match text.dropWhile Text.isDecimalDigit with
  | '.' :: rest =>
    if !number.isEmpty && rest.head?.all Text.isBlank then number ++ '\\' :: '.' :: rest else text
  | _ => text

/-- A text escaped for its place: at the start of a line or not, in a table cell or not. -/
def text (text : Text) (lineStart pipes : Bool) : Text :=
  let escaped := charsFrom pipes lineStart none text
  if lineStart then listMarker escaped else escaped

end DocumentStream.Escape
