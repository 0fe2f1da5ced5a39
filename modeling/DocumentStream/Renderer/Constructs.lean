import DocumentStream.Nesting
import DocumentStream.Renderer.Leaves
import DocumentStream.Table

/-!
Constructs as Markdown: what is written when they open and when they close.
-/

namespace DocumentStream.Rendering

/-- Markup repeated as often as a heading level says, which has to be an integer. -/
def timesLevel (level : Value) (markup : Text) : Rendering Text :=
  match level.numeric? with
  | some (.int n) => pure (Text.times n markup)
  | _ => throw (.field .wrongKind)

/-- How a heading level compares with an integer. -/
def compareLevel? (level : Value) (n : Int) : Option Ordering :=
  level.numeric?.bind (·.compareInt? n)

/-- Opens a heading. Below the second level its mark stands before the text. -/
def openHeading (level : Value) : Rendering Unit := do
  printEmptyLine
  if level.numeric?.isNone then throw (.field .wrongKind)
  if compareLevel? level 2 = some .gt then
    print ((← timesLevel level ['=']) ++ [' '])
  let r ← get
  openScope (r.capture r.printer.escapesPipes)

/-- Closes a heading. The first two levels underline the text, the others repeat their mark. -/
def closeHeading (level : Value) : Rendering Unit := do
  let heading ← closeScope
  print heading
  if compareLevel? level 1 = some .eq then
    print ('\n' :: List.replicate heading.length '=')
  else if compareLevel? level 2 = some .eq then
    print ('\n' :: List.replicate heading.length '-')
  else
    print (' ' :: (← timesLevel level ['=']))

def itemMarker : ListKind → Text
  | .bulleted => ['*', ' ']
  | .numbered => ['1', '.', ' ']

/-- Opens a list. One inside another list begins on a line of its own. -/
def openList (nesting : Nesting) (kind : ListKind) : Rendering Unit := do
  if nesting.listDepth = 1 then printEmptyLine else print ['\n']
  modify fun r => { r with listStyles := kind :: r.listStyles }

def closeList : Rendering Unit := do
  match (← get).listStyles with
  | [] => fail .noOpenList
  | _ :: outer =>
    modify fun r => { r with listStyles := outer }
    flush

/-- Opens an item: a line with the marker, indented below the items of the outer lists. -/
def openItem (nesting : Nesting) : Rendering Unit := do
  match (← get).listStyles with
  | [] => fail .itemOutsideList
  | style :: _ =>
    if 0 < nesting.listItem then print ['\n']
    print (Text.times (nesting.listDepth - 1) indent ++ itemMarker style)
    startLineContent

def openTerm (nesting : Nesting) : Rendering Unit := do
  printEmptyLine
  print (Text.times (nesting.definitionDepth - 1) indent)
  startLineContent

def openDescription (nesting : Nesting) : Rendering Unit := do
  if 0 < nesting.definitionItem then print ['\n']
  print (Text.times (nesting.definitionDepth - 1) indent ++ [':', ' ', ' ', ' '])
  startLineContent

def openQuotation (nesting : Nesting) : Rendering Unit := do
  unless nesting.isInQuotationLine do printEmptyLine
  modify fun r => { r with previousQuotationDepth := nesting.quotationDepth }

/-- The empty line between two lines of a quotation. Its marks are one fewer than those of the
quotation that was opened last, and at least one. -/
def quotationSeparator (previousDepth : Int) : Text :=
  '\n' :: '>' :: Text.times (previousDepth - 2) [' ', '>'] ++ ['\n']

def openQuotationLine (nesting : Nesting) : Rendering Unit := do
  if 0 < nesting.quotationLine then
    print (quotationSeparator (← get).previousQuotationDepth)
  print (Text.times nesting.quotationDepth ['>', ' '])
  startLineContent

/-- The rows of the innermost table, for an event of the given name. -/
def currentRows (event : String) : Rendering (List (List Text)) := do
  match (← get).tables with
  | [] => fail (.outsideTable event.toList)
  | rows :: _ => return rows

/-- Replaces the rows of the innermost table. -/
def setRows (rows : List (List Text)) : Rendering Unit :=
  modify fun r => { r with tables := rows :: r.tables.tail }

/-- Closes a cell, which goes to the end of the last row. -/
def closeCell : Rendering Unit := do
  let text ← closeScope
  let rows ← currentRows "EndTableCell"
  match rows.getLast? with
  | none => fail .cellOutsideRow
  | some row => setRows (rows.dropLast ++ [row ++ [text]])

/-- Closes a table: now that all cells are known it is laid out. -/
def closeTable : Rendering Unit := do
  let rows ← currentRows "EndTable"
  modify fun r => { r with tables := r.tables.tail }
  print (Table.format rows)

def definitionLine (abbreviation : Abbreviation) : Text :=
  '*' :: '[' :: abbreviation.key ++ ']' :: ':' :: ' ' :: abbreviation.title

/-- Closes a document with the definitions of its abbreviations. -/
def closeDocument : Rendering Unit := do
  match (← get).abbreviations with
  | [] => fail .noOpenDocument
  | scope :: outer =>
    modify fun r => { r with abbreviations := outer }
    unless scope.isEmpty do
      printEmptyLine
      print (Text.join ['\n'] (scope.map definitionLine))
    flush

def formatStart : Format → Text
  | .bold => ['*', '*']
  | .italic => ['_']
  | .strikeout => ['~', '~']
  | .underline => ['_', '_']
  | .superscript => ['<', 's', 'u', 'p', '>']
  | .subscript => ['<', 's', 'u', 'b', '>']
  | .monospace => [codeMark]
  | .plain => []

def formatEnd : Format → Text
  | .superscript => ['<', '/', 's', 'u', 'p', '>']
  | .subscript => ['<', '/', 's', 'u', 'b', '>']
  | format => formatStart format

/-- Opens a link. Its label starts a line if the link does. -/
def openLink : Rendering Unit := do
  let r ← get
  openScope ((r.capture r.printer.escapesPipes).setLineStart r.printer.isOnNewLine)

/-- Closes a link, now that it is known whether its label is empty. -/
def closeLink (reference : Reference) : Rendering Unit := do
  let label ← closeScope
  print (← ofField (reference.link (← get).linkTarget label))

def openConstruct (nesting : Nesting) : Construct → Rendering Unit
  | .document _ => modify fun r => { r with abbreviations := [] :: r.abbreviations }
  | .paragraph _ => printEmptyLine
  | .heading level _ _ => openHeading level
  | .list kind _ => openList nesting kind
  | .listItem => openItem nesting
  | .definitionList _ => pure ()
  | .term => openTerm nesting
  | .description => openDescription nesting
  | .quotation _ => openQuotation nesting
  | .quotationLine => openQuotationLine nesting
  | .table _ => do
    printEmptyLine
    modify fun r => { r with tables := [] :: r.tables }
  | .row _ => do
    let rows ← currentRows "BeginTableRow"
    setRows (rows ++ [[]])
  | .cell .. => do openScope ((← get).capture true)
  | .format style _ => print (formatStart style)
  | .link .. => openLink

def closeConstruct : Construct → Rendering Unit
  | .document _ => closeDocument
  | .paragraph _ | .listItem | .definitionList _ | .quotation _ | .row _ => pure ()
  | .heading level _ _ => closeHeading level
  | .list .. => closeList
  | .term | .description | .quotationLine => flush
  | .table _ => closeTable
  | .cell .. => closeCell
  | .format style _ => print (formatEnd style)
  | .link reference _ _ => closeLink reference

end DocumentStream.Rendering
