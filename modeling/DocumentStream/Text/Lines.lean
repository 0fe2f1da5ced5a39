import DocumentStream.Text

/-!
Line ends in code and in files. Code is cut at line feeds, each taken together with a carriage
return before it; a text file is read with every kind of line end turned into a line feed.
-/

namespace DocumentStream.Text

/-- The lines of a piece of code. A line ends at a line feed, and a carriage return before the line
feed belongs to the line end. There is always one line. -/
def codeLines : Text → List Text
  | [] => [[]]
  | '\r' :: '\n' :: rest => [] :: codeLines rest
  | c :: rest =>
    if c = '\n' then
      [] :: codeLines rest
    else
      match codeLines rest with
      | [] => [[c]]
      | line :: lines => (c :: line) :: lines

/-- The lines without the empty ones at the end; the first line always stays. -/
def dropEmptyTail : List Text → List Text
  | [] => []
  | line :: rest =>
    match dropEmptyTail rest with
    | [[]] => [line]
    | lines => line :: lines

/-- Line feeds without the carriage returns that mark them. -/
def plainLineEnds : Text → Text
  | [] => []
  | '\r' :: '\n' :: rest => '\n' :: plainLineEnds rest
  | c :: rest => c :: plainLineEnds rest

/-- Every line end, be it a line feed, a carriage return or both in a row, as a line feed. -/
def unifyLineEnds : Text → Text
  | [] => []
  | '\r' :: '\n' :: rest => '\n' :: unifyLineEnds rest
  | c :: rest => (if c = '\r' then '\n' else c) :: unifyLineEnds rest

end DocumentStream.Text
