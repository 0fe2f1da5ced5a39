import DocumentStream.Proofs.TableLayout
import Mathlib.Data.List.Induction

/-!
The geometry of tables. Every column is as wide as its longest cell, so the bars of all lines stand
in the same places however many cells the rows have, and between them each cell stands as it is, in
the middle of its column. The widths can be counted cell by cell at the places of the cells, and no
place is missed.
-/

namespace DocumentStream.Table

/-- The number of columns, which is the length of the longest row. -/
def columnCount (rows : List (List Text)) : Nat := (rows.map List.length).foldr max 0

/-- The length of the longest cell in a column. -/
def columnWidth (rows : List (List Text)) (j : Nat) : Nat :=
  ((rows.filterMap (·[j]?)).map List.length).foldr max 0

/-- The widths after a further cell at a place in its row, if there is a width at that place. -/
def countCell? (widths : List Nat) (entry : Text × Nat) : Option (List Nat) :=
  widths[entry.2]?.map fun width => widths.set entry.2 (max width entry.1.length)

def countRow? (widths : List Nat) (row : List Text) : Option (List Nat) :=
  row.zipIdx.foldlM countCell? widths

/-- The widths, counted row by row and cell by cell from widths of zero for all columns. -/
def countedWidths? (rows : List (List Text)) : Option (List Nat) :=
  rows.foldlM countRow? (List.replicate (columnCount rows) 0)

/-- How much is written in front of a cell in its column, as an integer. -/
def paddingBefore (width : Nat) (cell : Text) : Int := (width - cell.length : Int) / 2

/-- How much is written behind it. -/
def paddingAfter (width : Nat) (cell : Text) : Int :=
  (width - cell.length : Int) - paddingBefore width cell

/-- What stands between two bars: a text of the length of a cell, with paddings around it. -/
def filled (fill : Char) (width : Nat) (cell shown : Text) : Text :=
  ' ' :: Text.times (paddingBefore width cell) [fill] ++ shown ++
    Text.times (paddingAfter width cell) [fill] ++ [' ']

/-- The place of the bar in front of a column. -/
def barOffset (rows : List (List Text)) (j : Nat) : Nat :=
  (List.range j).foldl (fun offset i => offset + (columnWidth rows i + 3)) 0

/-- What a line has in a column, between the bars. -/
def column (rows : List (List Text)) (j : Nat) (line : Text) : Text :=
  (line.drop (barOffset rows j + 1)).take (columnWidth rows j + 2)

/-- Whether a line of so many cells ends with its last column, and has bars around all columns. -/
def LinesUp (rows : List (List Text)) (count : Nat) (text : Text) : Prop :=
  text.length = 1 + barOffset rows count ∧ ∀ j ≤ count, text[barOffset rows j]? = some '|'

section

variable {rows : List (List Text)} {row : List Text} {cell : Text} {known : List Nat} {j : Nat}

theorem columnWidth_cons (row : List Text) (rows : List (List Text)) (j : Nat) :
    columnWidth (row :: rows) j = max ((row.map List.length).getD j 0) (columnWidth rows j) := by
  rw [columnWidth, columnWidth, List.getD_eq_getElem?_getD, List.getElem?_map, List.filterMap_cons]
  cases row[j]? with
  | none => exact (Nat.zero_max _).symm
  | some cell => rfl

theorem getD_widen (widths : List Nat) (row : List Text) (j : Nat) :
    (widen widths row).getD j 0 = max (widths.getD j 0) ((row.map List.length).getD j 0) := by
  fun_induction widen widths row generalizing j with
  | case1 widths => simp
  | case2 cell row ih =>
    cases j with
    | zero => simp
    | succ j => simpa using ih j
  | case3 width widths cell row ih =>
    cases j with
    | zero => simp
    | succ j => simpa using ih j

/-- Every row leaves each width as the greatest of those met so far. -/
theorem getD_foldl_widen (rows : List (List Text)) (widths : List Nat) (j : Nat) :
    (rows.foldl widen widths).getD j 0 = max (widths.getD j 0) (columnWidth rows j) := by
  induction rows generalizing widths with
  | nil => exact (Nat.max_zero _).symm
  | cons row rest ih =>
    rw [List.foldl_cons, ih, getD_widen, columnWidth_cons, Nat.max_assoc]

theorem length_foldl_widen (rows : List (List Text)) (widths : List Nat) :
    (rows.foldl widen widths).length = max widths.length (columnCount rows) := by
  induction rows generalizing widths with
  | nil => exact (Nat.max_zero _).symm
  | cons row rest ih =>
    rw [List.foldl_cons, ih, length_widen, Nat.max_assoc]
    rfl

/-- Whether the widths are begun with none or with zeros makes no difference. -/
theorem foldl_widen_replicate {n : Nat} (h : n ≤ columnCount rows) :
    rows.foldl widen (List.replicate n 0) =
      (List.range (columnCount rows)).map (columnWidth rows) := by
  apply List.ext_getElem
  · rw [length_foldl_widen, List.length_replicate, Nat.max_eq_right h, List.length_map,
      List.length_range]
  · intro j hj hj'
    have hzero : (List.replicate n 0).getD j 0 = 0 := by
      rw [List.getD_eq_getElem?_getD, List.getElem?_replicate]
      split <;> rfl
    rw [List.getElem_eq_getD 0, getD_foldl_widen, hzero, Nat.zero_max, List.getElem_map,
      List.getElem_range]

theorem widths_eq (rows : List (List Text)) :
    widths rows = (List.range (columnCount rows)).map (columnWidth rows) :=
  foldl_widen_replicate (Nat.zero_le _)

/-- A row has all its cells counted if there are as many widths. The places before the row's are
those of the cells that were counted already. -/
theorem foldlM_countCell? (front : List Nat) (h : row.length ≤ known.length) :
    (row.zipIdx front.length).foldlM countCell? (front ++ known) =
      some (front ++ widen known row) := by
  induction row generalizing front known with
  | nil => rw [widen]; rfl
  | cons cell row ih =>
    cases known with
    | nil => simp at h
    | cons width known =>
      simp only [List.length_cons, Nat.add_le_add_iff_right] at h
      have hcell : countCell? (front ++ width :: known) (cell, front.length) =
          some (front ++ [max width cell.length] ++ known) := by
        simp [countCell?]
      have hrest := ih (front ++ [max width cell.length]) h
      rw [List.length_append, List.length_singleton] at hrest
      rw [List.zipIdx_cons, List.foldlM_cons, hcell, Option.bind_eq_bind, Option.bind_some, hrest,
        widen, List.append_assoc, List.singleton_append]

theorem countRow?_eq (h : row.length ≤ known.length) :
    countRow? known row = some (widen known row) :=
  foldlM_countCell? [] h

theorem length_le_columnCount (h : row ∈ rows) : row.length ≤ columnCount rows := by
  have hrow := length_le_widths h
  rwa [widths_eq, List.length_map, List.length_range] at hrow

/-- Every place that is looked up has a width. -/
theorem countedWidths?_eq (rows : List (List Text)) :
    countedWidths? rows = some (widths rows) := by
  have hcount : ∀ (rest : List (List Text)) (known : List Nat),
      (∀ row ∈ rest, row.length ≤ known.length) →
      rest.foldlM countRow? known = some (rest.foldl widen known) := by
    intro rest
    induction rest with
    | nil => intro known _; rfl
    | cons row rest ih =>
      intro known h
      rw [List.forall_mem_cons] at h
      rw [List.foldlM_cons, countRow?_eq h.1, Option.bind_eq_bind, Option.bind_some,
        List.foldl_cons]
      refine ih _ fun next hnext => ?_
      rw [length_widen]
      exact Nat.le_trans (h.2 next hnext) (Nat.le_max_left _ _)
  rw [countedWidths?, hcount rows, foldl_widen_replicate (Nat.le_refl _), widths_eq]
  intro row hrow
  rw [List.length_replicate]
  exact length_le_columnCount hrow

theorem length_le_columnWidth (hrow : row ∈ rows) (hcell : row[j]? = some cell) :
    cell.length ≤ columnWidth rows j := by
  obtain ⟨before, after, rfl⟩ := List.append_of_mem hrow
  induction before with
  | nil =>
    rw [List.nil_append, columnWidth_cons, List.getD_eq_getElem?_getD, List.getElem?_map, hcell]
    exact Nat.le_max_left _ _
  | cons other before ih =>
    rw [List.cons_append, columnWidth_cons]
    exact Nat.le_trans (ih (List.mem_append_right _ List.mem_cons_self)) (Nat.le_max_right _ _)

/-- Around a cell that is not longer than its column stand paddings that differ by one at most, of
which the one behind is not the shorter one. -/
theorem padding_spec (h : cell.length ≤ columnWidth rows j) :
    0 ≤ paddingBefore (columnWidth rows j) cell ∧
      paddingBefore (columnWidth rows j) cell ≤ paddingAfter (columnWidth rows j) cell ∧
      paddingAfter (columnWidth rows j) cell ≤ paddingBefore (columnWidth rows j) cell + 1 ∧
      paddingBefore (columnWidth rows j) cell + cell.length +
        paddingAfter (columnWidth rows j) cell = columnWidth rows j := by
  simp only [paddingAfter, paddingBefore]
  omega

theorem padded_eq_filled {width : Nat} (h : cell.length ≤ width) :
    padded width cell = filled ' ' width cell cell := by
  have hbefore : (paddingBefore width cell).toNat = (width - cell.length) / 2 := by
    simp only [paddingBefore]
    omega
  have hafter : (paddingAfter width cell).toNat =
      width - cell.length - (width - cell.length) / 2 := by
    simp only [paddingAfter, paddingBefore]
    omega
  simp only [padded, filled, Text.times, hbefore, hafter, List.flatten_replicate_singleton]

theorem dashed_eq_filled {width : Nat} (h : cell.length ≤ width) :
    dashed width = filled '-' width cell (List.replicate cell.length '-') := by
  have hwidth : width = (paddingBefore width cell).toNat + cell.length +
      (paddingAfter width cell).toNat := by
    simp only [paddingAfter, paddingBefore]
    omega
  rw [filled, Text.times, Text.times, List.flatten_replicate_singleton,
    List.flatten_replicate_singleton, List.cons_append, List.replicate_append_replicate,
    List.cons_append, List.replicate_append_replicate, ← hwidth, dashed]

theorem length_padded {width : Nat} (h : cell.length ≤ width) :
    (padded width cell).length = width + 2 := by
  simp only [padded, List.length_append, List.length_cons, List.length_replicate, List.length_nil]
  omega

theorem barOffset_succ (rows : List (List Text)) (j : Nat) :
    barOffset rows (j + 1) = barOffset rows j + (columnWidth rows j + 3) := by
  rw [barOffset, List.range_succ, List.foldl_append]
  rfl

/-- A line of parts has a bar in front of each part as well as one behind it. -/
theorem bars_eq (parts : List Text) :
    '|' :: parts.flatMap (· ++ ['|']) = parts.flatMap ('|' :: ·) ++ ['|'] := by
  induction parts with
  | nil => rfl
  | cons part rest ih =>
    rw [List.flatMap_cons, List.flatMap_cons, List.append_assoc, List.singleton_append, ih]
    simp

/-- Parts that are as long as their columns reach to the place of the next bar. -/
theorem length_flatMap_bar {parts : List Text}
    (h : ∀ i part, parts[i]? = some part → part.length = columnWidth rows i + 2) :
    (parts.flatMap ('|' :: ·)).length = barOffset rows parts.length := by
  induction parts using List.reverseRecOn with
  | nil => rfl
  | append_singleton parts part ih =>
    have hpart := h parts.length part List.getElem?_concat_length
    have hfront := ih fun i other hother =>
      h i other (by rwa [List.getElem?_append_left (List.getElem?_eq_some_iff.mp hother).1])
    rw [List.flatMap_append, List.length_append, hfront, List.length_append,
      List.length_singleton, barOffset_succ, List.flatMap_singleton, List.length_cons, hpart]

/-- A line that is put together from such parts lines up, and has them in its columns. -/
theorem linesUp_of_parts {parts : List Text}
    (h : ∀ i part, parts[i]? = some part → part.length = columnWidth rows i + 2) :
    LinesUp rows parts.length ('|' :: parts.flatMap (· ++ ['|'])) ∧
      ∀ i part, parts[i]? = some part →
        column rows i ('|' :: parts.flatMap (· ++ ['|'])) = part := by
  have hdrop : ∀ i ≤ parts.length, ('|' :: parts.flatMap (· ++ ['|'])).drop (barOffset rows i) =
      (parts.drop i).flatMap ('|' :: ·) ++ ['|'] := by
    intro i hi
    have hfront : ((parts.take i).flatMap ('|' :: ·)).length = barOffset rows i := by
      rw [length_flatMap_bar, List.length_take, Nat.min_eq_left hi]
      intro n part hpart
      rw [List.getElem?_take] at hpart
      split at hpart
      · exact h n part hpart
      · cases hpart
    have hparts : parts.flatMap ('|' :: ·) =
        (parts.take i).flatMap ('|' :: ·) ++ (parts.drop i).flatMap ('|' :: ·) := by
      rw [← List.flatMap_append, List.take_append_drop]
    rw [bars_eq, hparts, List.append_assoc, ← hfront, List.drop_left]
  refine ⟨⟨?_, ?_⟩, ?_⟩
  · rw [bars_eq, List.length_append, length_flatMap_bar h, List.length_singleton, Nat.add_comm]
  · intro i hi
    rw [← List.head?_drop, hdrop i hi]
    cases parts.drop i <;> rfl
  · intro i part hpart
    have hi := (List.getElem?_eq_some_iff.mp hpart).1
    have hrest : parts.drop i = part :: parts.drop (i + 1) := by
      rw [List.drop_eq_getElem_cons hi, (List.getElem?_eq_some_iff.mp hpart).2]
    rw [column, ← List.drop_drop, hdrop i (Nat.le_of_lt hi), hrest, List.flatMap_cons,
      List.append_assoc, List.cons_append, List.drop_one, List.tail_cons, ← h i part hpart,
      List.take_left]

theorem getElem?_widths (h : j < columnCount rows) :
    (widths rows)[j]? = some (columnWidth rows j) := by
  rw [widths_eq, List.getElem?_map, List.getElem?_range h, Option.map_some]

theorem getElem?_zipWith_padded (hrow : row ∈ rows) (i : Nat) :
    ((widths rows).zipWith padded row)[i]? = row[i]?.map (padded (columnWidth rows i)) := by
  rw [List.getElem?_zipWith]
  cases hcell : row[i]? with
  | none => cases (widths rows)[i]? <;> rfl
  | some cell =>
    have hi := (List.getElem?_eq_some_iff.mp hcell).1
    rw [getElem?_widths (Nat.lt_of_lt_of_le hi (length_le_columnCount hrow))]
    rfl

/-- The line of a row lines up, and has the cells of the row in its columns. -/
theorem linesUp_rowLine (hrow : row ∈ rows) :
    LinesUp rows row.length (rowLine (widths rows) row) ∧
      ∀ i cell, row[i]? = some cell →
        column rows i (rowLine (widths rows) row) = filled ' ' (columnWidth rows i) cell cell := by
  have hparts : ∀ i part, ((widths rows).zipWith padded row)[i]? = some part →
      part.length = columnWidth rows i + 2 := by
    intro i part hpart
    rw [getElem?_zipWith_padded hrow, Option.map_eq_some_iff] at hpart
    obtain ⟨cell, hcell, rfl⟩ := hpart
    exact length_padded (length_le_columnWidth hrow hcell)
  have hcount : ((widths rows).zipWith padded row).length = row.length := by
    rw [List.length_zipWith, Nat.min_eq_right (length_le_widths hrow)]
  obtain ⟨hline, hcolumns⟩ := linesUp_of_parts hparts
  rw [hcount, ← rowLine_eq] at hline
  refine ⟨hline, fun i cell hcell => ?_⟩
  rw [rowLine_eq, hcolumns i (padded (columnWidth rows i) cell)
    (by rw [getElem?_zipWith_padded hrow, hcell, Option.map_some]),
    padded_eq_filled (length_le_columnWidth hrow hcell)]

/-- The dashes behind a row line up as the row does, and fill its columns. -/
theorem linesUp_separatorLine (hrow : row ∈ rows) :
    LinesUp rows row.length (separatorLine (widths rows) row) ∧
      ∀ i < row.length,
        column rows i (separatorLine (widths rows) row) = dashed (columnWidth rows i) := by
  have hpart : ∀ i < row.length, (((widths rows).take row.length).map dashed)[i]? =
      some (dashed (columnWidth rows i)) := by
    intro i hi
    rw [List.getElem?_map, List.getElem?_take_of_lt hi,
      getElem?_widths (Nat.lt_of_lt_of_le hi (length_le_columnCount hrow)), Option.map_some]
  have hcount : (((widths rows).take row.length).map dashed).length = row.length := by
    rw [List.length_map, List.length_take, Nat.min_eq_left (length_le_widths hrow)]
  have hparts : ∀ i part, (((widths rows).take row.length).map dashed)[i]? = some part →
      part.length = columnWidth rows i + 2 := by
    intro i part h
    have hi := (List.getElem?_eq_some_iff.mp h).1
    rw [hcount] at hi
    rw [hpart i hi] at h
    obtain rfl := Option.some.inj h
    simp [dashed]
  obtain ⟨hline, hcolumns⟩ := linesUp_of_parts hparts
  rw [hcount, ← separatorLine_eq] at hline
  refine ⟨hline, fun i hi => ?_⟩
  rw [separatorLine_eq, hcolumns i _ (hpart i hi)]

end

/-- A table has one line for each row, and a line of dashes behind the first. All lines line up.
Each cell stands in its column with paddings around it that differ by one at most, and the dashes
fill the columns of the first row. The widths that this takes are the lengths of the longest cells,
and counting them misses no place. -/
theorem format_geometry {first : List Text} {rest : List (List Text)}
    (h : ∀ row ∈ first :: rest, ∀ cell ∈ row, '\n' ∉ cell) :
    let rows := first :: rest
    countedWidths? rows = some ((List.range (columnCount rows)).map (columnWidth rows)) ∧
    (∀ row ∈ rows, ∀ (j : Nat) (cell : Text), row[j]? = some cell →
      0 ≤ paddingBefore (columnWidth rows j) cell ∧
      paddingBefore (columnWidth rows j) cell ≤ paddingAfter (columnWidth rows j) cell ∧
      paddingAfter (columnWidth rows j) cell ≤ paddingBefore (columnWidth rows j) cell + 1 ∧
      paddingBefore (columnWidth rows j) cell + cell.length +
        paddingAfter (columnWidth rows j) cell = columnWidth rows j) ∧
    ∃ (line : List Text → Text) (separator : Text),
      Text.splitAtChar '\n' (format rows) = line first :: separator :: rest.map line ∧
      (∀ row ∈ rows, LinesUp rows row.length (line row) ∧
        ∀ (j : Nat) (cell : Text), row[j]? = some cell →
          column rows j (line row) = filled ' ' (columnWidth rows j) cell cell) ∧
      LinesUp rows first.length separator ∧
      ∀ (j : Nat) (cell : Text), first[j]? = some cell →
        column rows j separator =
          filled '-' (columnWidth rows j) cell (List.replicate cell.length '-') ∧
        column rows j separator = ' ' :: List.replicate (columnWidth rows j) '-' ++ [' '] := by
  intro rows
  have hfirst : first ∈ rows := List.mem_cons_self
  obtain ⟨hseparator, hdashes⟩ := linesUp_separatorLine hfirst
  refine ⟨(countedWidths?_eq rows).trans (congrArg some (widths_eq rows)), ?_,
    rowLine (widths rows), separatorLine (widths rows) first, splitAtChar_format h,
    fun row hrow => linesUp_rowLine hrow, hseparator, ?_⟩
  · intro row hrow j cell hcell
    exact padding_spec (length_le_columnWidth hrow hcell)
  · intro j cell hcell
    have hj := (List.getElem?_eq_some_iff.mp hcell).1
    refine ⟨?_, hdashes j hj⟩
    rw [hdashes j hj, dashed_eq_filled (length_le_columnWidth hfirst hcell)]

theorem format_geometry_ragged :
    let rows : List (List Text) := [["Name".toList], [], [[], "abc".toList]]
    (∀ row ∈ rows, ∀ cell ∈ row, '\n' ∉ cell) ∧
    ∃ (line : List Text → Text) (separator : Text),
      Text.splitAtChar '\n' (format rows) =
        [line ["Name".toList], separator, line [], line [[], "abc".toList]] ∧
      LinesUp rows 1 separator ∧ LinesUp rows 2 (line [[], "abc".toList]) := by
  intro rows
  have hcells : ∀ row ∈ rows, ∀ cell ∈ row, '\n' ∉ cell := by decide
  obtain ⟨-, -, line, separator, hlines, hrows, hseparator, -⟩ := format_geometry hcells
  exact ⟨hcells, line, separator, hlines, hseparator,
    (hrows [[], "abc".toList] (by simp)).1⟩

example : format [["Name".toList], [], [[], "abc".toList]] =
    "| Name |\n| ---- |\n|\n|      | abc |".toList := by
  decide

end DocumentStream.Table
