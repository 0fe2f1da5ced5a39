import DocumentStream.Text.Lines
import DocumentStream.Toml.Inline

/-!
Reading TOML documents. Headers open tables, and each line below one sets a key in the table. A
table can be opened only once, a key set only once, and a value that was written in one piece is
closed to later additions.
-/

namespace DocumentStream.Toml

/-- What has been read of a document: its data, the table that lines go to, the paths of tables
that cannot be opened again, those that this holds of from the next header on, and the paths of
values that nothing can be added to. -/
structure Document where
  data : Entries := []
  header : List Text := []
  opened : List (List Text) := []
  pending : List (List Text) := []
  closed : List (List Text) := []

namespace Document

def openTable (d : Document) (path : List Text) : Option Document := do
  let opened := d.pending ++ d.opened
  if opened.contains path || covers d.closed path then none
  let data ← alter true some path d.data
  return { d with data, header := path, opened := path :: opened, pending := [] }

/-- Adds a table to a list of tables. -/
def appendTable (name : Text) (table : Entries) : Option Entries :=
  match table.get? name with
  | none => some (table.insert (.str name) (.list [.map []]))
  | some (.list items) => some (table.insert (.str name) (.list (items ++ [.map []])))
  | some _ => none

/-- Opens a further table of a list of tables. What was said of the previous one is forgotten. -/
def openListTable (d : Document) (path : List Text) : Option Document := do
  let opened := d.pending ++ d.opened
  if covers d.closed path then none
  let data ← alter true (appendTable (path.getLast?.getD [])) path.dropLast d.data
  let apart (other : List Text) : Bool := !path.isPrefixOf other
  return {
    data
    header := path
    opened := path :: opened.filter apart
    pending := []
    closed := d.closed.filter apart }

/-- The tables that a dotted key names on the way to its last part. -/
def tablesOf (header path : List Text) : List (List Text) :=
  (List.range (path.length - 1)).map fun n => header ++ path.take (n + 1)

/-- Sets a key in the current table. -/
def set (d : Document) (path : List Text) (value : Value) : Option Document := do
  let tables := tablesOf d.header path
  if tables.any d.opened.contains then none
  let place := d.header ++ path.dropLast
  if covers d.closed place then none
  let data ← alter true (setNew (path.getLast?.getD []) value) place d.data
  let closed := match value with
    | .map _ | .list _ => (d.header ++ path) :: d.closed
    | _ => d.closed
  return { d with data, closed, pending := tables ++ d.pending }

end Document

/-- The header of a table and what it does. -/
def header (d : Document) : Text → Option (Document × Text)
  | '[' :: rest => do
    let (path, rest) ← key rest.length.succ (skipBlank rest)
    match rest with
    | ']' :: ']' :: rest => return (← d.openListTable path, rest)
    | _ => none
  | text => do
    let (path, rest) ← key text.length.succ (skipBlank text)
    match rest with
    | ']' :: rest => return (← d.openTable path, rest)
    | _ => none

/-- One statement at the front of a line, which may be empty. -/
def statement (d : Document) (text : Text) : Option (Document × Text) :=
  match text with
  | [] => some (d, [])
  | c :: rest =>
    if c = '\n' ∨ c = '#' then
      some (d, text)
    else if c = '[' then
      header d rest
    else do
      let (path, value, rest) ← pair (2 * text.length + 2) text
      return (← d.set path value, rest)

/-- The statements of a document, each with a line of its own. -/
def statements : (fuel : Nat) → Document → Text → Option Document
  | 0, _, _ => none
  | fuel + 1, d, text => do
    let (d, rest) ← statement d (skipBlank text)
    match ← skipComment (skipBlank rest) with
    | [] => return d
    | '\n' :: rest => statements fuel d rest
    | _ => none

def read (text : Text) : Option Entries :=
  let text := Text.plainLineEnds text
  (statements text.length.succ {} text).map (·.data)

end DocumentStream.Toml
