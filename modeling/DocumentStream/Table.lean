import DocumentStream.Text

/-!
The layout of tables. Every cell is centred in the width of the widest cell of its column, and a
row of dashes follows the first row. A row that is shorter than others has its own cells only.
-/

namespace DocumentStream.Table

/-- The column widths after a further row. -/
def widen : List Nat → List Text → List Nat
  | widths, [] => widths
  | [], cell :: row => cell.length :: widen [] row
  | width :: widths, cell :: row => max width cell.length :: widen widths row

def widths (rows : List (List Text)) : List Nat := rows.foldl widen []

/-- A cell of the given width with the bar after it. Of an odd amount of space the larger part
comes last. -/
def cellText (width : Nat) (cell : Text) : Text :=
  let before := (width - cell.length) / 2
  let after := width - cell.length - before
  ' ' :: List.replicate before ' ' ++ cell ++ List.replicate after ' ' ++ [' ', '|']

def dashes (width : Nat) : Text := ' ' :: List.replicate width '-' ++ [' ', '|']

def rowLine (widths : List Nat) (row : List Text) : Text :=
  '|' :: (widths.zipWith cellText row).flatten

/-- The line between a first row with as many cells and the rest. -/
def separatorLine (widths : List Nat) (row : List Text) : Text :=
  '|' :: ((widths.take row.length).map dashes).flatten

def lines (rows : List (List Text)) : List Text :=
  match rows with
  | [] => []
  | first :: rest =>
    let widths := widths rows
    rowLine widths first :: separatorLine widths first :: rest.map (rowLine widths)

/-- A table, without a line feed at the end. -/
def format (rows : List (List Text)) : Text := Text.join ['\n'] (lines rows)

end DocumentStream.Table
