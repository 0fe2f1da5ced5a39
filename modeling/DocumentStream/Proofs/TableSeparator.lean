import DocumentStream.Proofs.TableGeometry

/-!
The separator of a table. In each column it has as many dashes as the column is wide, and a column
is as wide as its longest cell. So there are dashes in all columns exactly if no column of the first
row is empty throughout.
-/

namespace DocumentStream.Table

variable {rows : List (List Text)} {row : List Text} {j : Nat}

theorem getD_length_pos_iff :
    0 < (row.map List.length).getD j 0 ↔ ∃ cell, row[j]? = some cell ∧ cell ≠ [] := by
  rw [List.getD_eq_getElem?_getD, List.getElem?_map]
  cases row[j]? with
  | none => simp
  | some cell => simp [List.length_pos_iff]

/-- A column takes room if one of its cells does. -/
theorem columnWidth_pos_iff :
    0 < columnWidth rows j ↔ ∃ row ∈ rows, ∃ cell, row[j]? = some cell ∧ cell ≠ [] := by
  induction rows with
  | nil => simp [columnWidth]
  | cons row rest ih =>
    have hmax : ∀ m n : Nat, 0 < max m n ↔ 0 < m ∨ 0 < n := by omega
    rw [columnWidth_cons, hmax, getD_length_pos_iff, ih]
    simp only [List.mem_cons, exists_eq_or_imp]

theorem dash_mem_dashed_iff (width : Nat) : '-' ∈ dashed width ↔ 0 < width := by
  simp [dashed, Nat.pos_iff_ne_zero]

/-- The part of the separator in each column of the first row. -/
theorem getElem?_separator {first : List Text} {rest : List (List Text)} {part : Text}
    (h : (((widths (first :: rest)).take first.length).map dashed)[j]? = some part) :
    j < first.length ∧ part = dashed (columnWidth (first :: rest) j) := by
  have hj : j < first.length := by
    have hlength := (List.getElem?_eq_some_iff.mp h).1
    rw [List.length_map, List.length_take] at hlength
    omega
  have hcount : j < columnCount (first :: rest) :=
    Nat.lt_of_lt_of_le hj (length_le_columnCount List.mem_cons_self)
  rw [List.getElem?_map, List.getElem?_take_of_lt hj, getElem?_widths hcount] at h
  exact ⟨hj, (Option.some.inj h).symm⟩

/-- The second line of a table has a part for each cell of the first row, which is nothing but the
dashes of its column. All of them have dashes exactly if each of these columns has a cell that is
not empty. -/
theorem dash_mem_separator_iff {first : List Text} {rest : List (List Text)}
    (h : ∀ row ∈ first :: rest, ∀ cell ∈ row, '\n' ∉ cell) :
    let rows := first :: rest
    ∃ separator parts, (Text.splitAtChar '\n' (format rows))[1]? = some separator ∧
      splitBars separator = [] :: parts ++ [[]] ∧ parts.length = first.length ∧
      (∀ (j : Nat) (part : Text), parts[j]? = some part →
        part = ' ' :: List.replicate (columnWidth rows j) '-' ++ [' ']) ∧
      ((∀ part ∈ parts, '-' ∈ part) ↔
        ∀ j < first.length, ∃ row ∈ rows, ∃ cell, row[j]? = some cell ∧ cell ≠ []) := by
  intro rows
  have hwidths : first.length ≤ (widths rows).length := length_le_widths List.mem_cons_self
  have hlength : (((widths rows).take first.length).map dashed).length = first.length := by
    rw [List.length_map, List.length_take, Nat.min_eq_left hwidths]
  refine ⟨separatorLine (widths rows) first, ((widths rows).take first.length).map dashed, ?_,
    splitBars_separatorLine_eq _ _, hlength, fun j part hpart => (getElem?_separator hpart).2, ?_⟩
  · rw [splitAtChar_format h]
    rfl
  · constructor
    · intro hdashes j hj
      rw [← hlength] at hj
      have hpart := List.getElem?_eq_getElem hj
      have hmem := hdashes _ (List.getElem_mem hj)
      rw [(getElem?_separator hpart).2, dash_mem_dashed_iff] at hmem
      exact columnWidth_pos_iff.mp hmem
    · intro hcells part hmem
      obtain ⟨j, hpart⟩ := List.getElem?_of_mem hmem
      obtain ⟨hj, rfl⟩ := getElem?_separator hpart
      rw [dash_mem_dashed_iff]
      exact columnWidth_pos_iff.mpr (hcells j hj)

/-- A cell of the second row that fills a column whose head is empty. -/
theorem dash_mem_separator_empty_head :
    let rows : List (List Text) := [["Name".toList, []], [[], "9".toList, "x".toList]]
    (∀ row ∈ rows, ∀ cell ∈ row, '\n' ∉ cell) ∧
    ∃ separator parts, (Text.splitAtChar '\n' (format rows))[1]? = some separator ∧
      splitBars separator = [] :: parts ++ [[]] ∧ parts.length = 2 ∧
      ∀ part ∈ parts, '-' ∈ part := by
  intro rows
  have hrows : ∀ row ∈ rows, ∀ cell ∈ row, '\n' ∉ cell := by decide
  obtain ⟨separator, parts, hline, hparts, hlength, -, hdashes⟩ := dash_mem_separator_iff hrows
  refine ⟨hrows, separator, parts, hline, hparts, hlength, hdashes.mpr ?_⟩
  intro j hj
  have hcases : j = 0 ∨ j = 1 := by
    simp only [List.length_cons, List.length_nil] at hj
    omega
  rcases hcases with rfl | rfl
  · exact ⟨_, List.mem_cons_self, "Name".toList, rfl, by decide⟩
  · exact ⟨_, List.mem_cons_of_mem _ List.mem_cons_self, "9".toList, rfl, by decide⟩

/-- A column that is empty throughout has no dash in the separator. -/
theorem separator_of_empty_column :
    let rows : List (List Text) := [[['a'], []], [['b'], []]]
    (∀ row ∈ rows, ∀ cell ∈ row, '\n' ∉ cell) ∧
    ∃ separator, (Text.splitAtChar '\n' (format rows))[1]? = some separator ∧
      splitBars separator = [[], [' ', '-', ' '], [' ', ' '], []] ∧ '-' ∉ [' ', ' '] := by
  exact ⟨by decide, "| - |  |".toList, by decide, by decide, by decide⟩

end DocumentStream.Table
