import DocumentStream.Escape
import DocumentStream.Proofs.Splitting
import DocumentStream.Table

/-!
The layout of tables, read back. A line is split at its bars, where a bar behind a backslash does
not count. If no cell holds a bar that counts, nor ends in a backslash that would hide the bar
behind it, the parts of a row are its cells, with spaces around them. Escaped text is such a cell.
-/

namespace DocumentStream

/-- The parts of a line between its bars. A backslash hides the character behind it. -/
def splitBars : Text → List Text
  | [] => [[]]
  | '\\' :: c :: rest => (splitBars rest).modifyHead fun part => '\\' :: c :: part
  | c :: rest =>
    if c = '|' then [] :: splitBars rest else (splitBars rest).modifyHead fun part => c :: part

/-- A text without the spaces at both ends. -/
def stripSpaces (text : Text) : Text :=
  ((text.dropWhile (· == ' ')).reverse.dropWhile (· == ' ')).reverse

/-- A text that keeps its place between two bars: every bar and every backslash in it has a
backslash of its own in front. -/
inductive Barless : Text → Prop
  | nil : Barless []
  | plain {c : Char} {rest : Text} (hbar : c ≠ '|') (hbackslash : c ≠ '\\')
      (hrest : Barless rest) : Barless (c :: rest)
  | escaped (c : Char) {rest : Text} (hrest : Barless rest) : Barless ('\\' :: c :: rest)

theorem splitBars_cons {c : Char} (hc : c ≠ '\\') (rest : Text) :
    splitBars (c :: rest) =
      if c = '|' then [] :: splitBars rest
      else (splitBars rest).modifyHead fun part => c :: part := by
  cases rest <;> simp [splitBars, hc]

namespace Barless

variable {first second : Text}

theorem append (hfirst : Barless first) (hsecond : Barless second) : Barless (first ++ second) := by
  induction hfirst with
  | nil => exact hsecond
  | plain hbar hbackslash hrest ih => exact .plain hbar hbackslash ih
  | escaped c hrest ih => exact .escaped c ih

theorem of_forall {text : Text} (h : ∀ c ∈ text, c ≠ '|' ∧ c ≠ '\\') : Barless text := by
  induction text with
  | nil => exact .nil
  | cons c rest ih =>
    rw [List.forall_mem_cons] at h
    exact .plain h.1.1 h.1.2 (ih h.2)

/-- What stands behind characters that are no backslashes. -/
theorem of_append (hfirst : ∀ c ∈ first, c ≠ '\\') (h : Barless (first ++ second)) :
    Barless second := by
  induction first with
  | nil => exact h
  | cons c rest ih =>
    rw [List.forall_mem_cons] at hfirst
    obtain ⟨tail, htail⟩ : ∃ tail, rest ++ second = tail := ⟨_, rfl⟩
    rw [List.cons_append, htail] at h
    cases h with
    | plain hbar hbackslash hrest =>
      rw [← htail] at hrest
      exact ih hfirst.2 hrest
    | escaped c hrest => exact absurd rfl hfirst.1

theorem splitBars_append (hfirst : Barless first) (rest : Text) :
    splitBars (first ++ rest) = (splitBars rest).modifyHead (first ++ ·) := by
  induction hfirst with
  | nil => cases h : splitBars rest <;> simp [h]
  | plain hbar hbackslash hrest ih =>
    rw [List.cons_append, splitBars_cons hbackslash, if_neg hbar, ih, List.modifyHead_modifyHead]
    rfl
  | escaped c hrest ih =>
    rw [List.cons_append, List.cons_append, splitBars, ih, List.modifyHead_modifyHead]
    rfl

/-- Such a text is found again in front of a bar. -/
theorem splitBars_append_bar (hfirst : Barless first) (rest : Text) :
    splitBars (first ++ '|' :: rest) = first :: splitBars rest := by
  rw [hfirst.splitBars_append, splitBars_cons (by decide), if_pos rfl, List.modifyHead_cons,
    List.append_nil]

end Barless

/-- The parts of a line that was put together from them, each with a bar behind it. -/
theorem splitBars_line {parts : List Text} (h : ∀ part ∈ parts, Barless part) :
    splitBars ('|' :: parts.flatMap (· ++ ['|'])) = [] :: parts ++ [[]] := by
  rw [splitBars_cons (by decide), if_pos rfl, List.cons_append]
  congr 1
  induction parts with
  | nil => rfl
  | cons part rest ih =>
    rw [List.forall_mem_cons] at h
    rw [List.flatMap_cons, List.append_assoc, List.singleton_append,
      h.1.splitBars_append_bar, ih h.2, List.cons_append]

theorem barless_replicate {c : Char} (hbar : c ≠ '|') (hbackslash : c ≠ '\\') (n : Nat) :
    Barless (List.replicate n c) := by
  apply Barless.of_forall
  intro other hother
  rw [(List.mem_replicate.mp hother).2]
  exact ⟨hbar, hbackslash⟩

/-- Spaces at both ends make no difference. -/
theorem stripSpaces_padded (text : Text) (n m : Nat) :
    stripSpaces (List.replicate n ' ' ++ text ++ List.replicate m ' ') = stripSpaces text := by
  have hspaces : ∀ k, ∀ c ∈ List.replicate k ' ', (c == ' ') = true := by
    intro k c hc
    rw [(List.mem_replicate.mp hc).2]
    rfl
  have hnone : ∀ k, (List.replicate k ' ').dropWhile (· == ' ') = [] := by simp
  unfold stripSpaces
  rw [List.append_assoc, List.dropWhile_append_of_pos (hspaces n), List.dropWhile_append, hnone]
  split
  · rename_i hempty
    rw [List.isEmpty_iff.mp hempty]
  · rw [List.reverse_append, List.reverse_replicate, List.dropWhile_append_of_pos (hspaces m)]

namespace Escape

theorem barless_charsFrom (lineStart : Bool) (before : Option Char) (text : Text) :
    Barless (charsFrom true lineStart before text) := by
  induction text generalizing lineStart before with
  | nil => exact .nil
  | cons c rest ih =>
    rw [charsFrom]
    split
    · exact .escaped c (ih false (some c))
    · rename_i hplain
      have hspecial : isSpecial true c = false := by simp_all
      have hbar : c ≠ '|' := by
        rintro rfl
        exact absurd hspecial (by decide)
      have hbackslash : c ≠ '\\' := by
        rintro rfl
        exact absurd hspecial (by decide)
      exact .plain hbar hbackslash (ih false (some c))

theorem barless_listMarker {text : Text} (h : Barless text) : Barless (listMarker text) := by
  unfold listMarker
  dsimp only
  split
  · rename_i rest hrest
    split
    · have hdigits : ∀ c ∈ text.takeWhile Text.isDecimalDigit, c ≠ '|' ∧ c ≠ '\\' := by
        intro c hc
        have hdigit : Text.isDecimalDigit c = true :=
          List.all_eq_true.mp List.all_takeWhile c hc
        constructor
        · rintro rfl
          exact absurd hdigit (by decide)
        · rintro rfl
          exact absurd hdigit (by decide)
      rw [← List.takeWhile_append_dropWhile (p := Text.isDecimalDigit) (l := text), hrest] at h
      have hdot := Barless.of_append (fun c hc => (hdigits c hc).2) h
      have htail : Barless rest := by
        cases hdot with
        | plain hbar hbackslash htail => exact htail
      exact (Barless.of_forall hdigits).append (.escaped '.' htail)
    · exact h
  · exact h

/-- Text that is escaped for a cell keeps its place in the row. -/
theorem barless_text (text : Text) (lineStart : Bool) :
    Barless (Escape.text text lineStart true) := by
  have hchars := barless_charsFrom lineStart none text
  unfold Escape.text
  dsimp only
  split
  · exact barless_listMarker hchars
  · exact hchars

end Escape

namespace Table

/-- A cell between its spaces, without the bar behind it. -/
def padded (width : Nat) (cell : Text) : Text :=
  let before := (width - cell.length) / 2
  let after := width - cell.length - before
  ' ' :: List.replicate before ' ' ++ cell ++ List.replicate after ' ' ++ [' ']

theorem stripSpaces_padded (width : Nat) (cell : Text) :
    stripSpaces (padded width cell) = stripSpaces cell := by
  have hfront : ∀ n, ' ' :: List.replicate n ' ' = List.replicate (n + 1) ' ' := fun n =>
    List.replicate_succ.symm
  have hback : ∀ n, List.replicate n ' ' ++ [' '] = List.replicate (n + 1) ' ' := fun n =>
    List.replicate_succ'.symm
  unfold padded
  dsimp only
  rw [List.append_assoc, hback, hfront, DocumentStream.stripSpaces_padded]

theorem barless_padded (width : Nat) {cell : Text} (h : Barless cell) :
    Barless (padded width cell) := by
  have hspaces := barless_replicate (c := ' ') (by decide) (by decide)
  exact ((Barless.append (.plain (by decide) (by decide) (hspaces _)) h).append (hspaces _)).append
    (hspaces 1)

theorem rowLine_eq (widths : List Nat) (row : List Text) :
    rowLine widths row = '|' :: (widths.zipWith padded row).flatMap (· ++ ['|']) := by
  rw [rowLine, List.flatMap_def, List.map_zipWith]
  congr 3
  funext width cell
  simp [cellText, padded]

theorem length_widen (widths : List Nat) (row : List Text) :
    (widen widths row).length = max widths.length row.length := by
  fun_induction widen widths row with
  | case1 widths => simp
  | case2 cell row ih => simp [ih]
  | case3 width widths cell row ih => simp [ih, Nat.succ_max_succ]

/-- There is a width for each cell of each row. -/
theorem length_le_widths {rows : List (List Text)} {row : List Text} (h : row ∈ rows) :
    row.length ≤ (widths rows).length := by
  have hmono : ∀ (rows : List (List Text)) (first : List Nat),
      first.length ≤ (rows.foldl widen first).length := by
    intro rows
    induction rows with
    | nil => intro first; exact Nat.le_refl _
    | cons next rest ih =>
      intro first
      have hnext := ih (widen first next)
      rw [length_widen] at hnext
      exact Nat.le_trans (Nat.le_max_left _ _) hnext
  obtain ⟨before, after, rfl⟩ := List.append_of_mem h
  rw [widths, List.foldl_append, List.foldl_cons]
  have hrow := hmono after (widen (before.foldl widen []) row)
  rw [length_widen] at hrow
  exact Nat.le_trans (Nat.le_max_right _ _) hrow

theorem map_stripSpaces_zipWith {widths : List Nat} {row : List Text}
    (h : row.length ≤ widths.length) :
    (widths.zipWith padded row).map stripSpaces = row.map stripSpaces := by
  induction row generalizing widths with
  | nil => simp
  | cons cell row ih =>
    cases widths with
    | nil => simp at h
    | cons width widths =>
      simp only [List.length_cons, Nat.add_le_add_iff_right] at h
      rw [List.zipWith_cons_cons, List.map_cons, List.map_cons, stripSpaces_padded, ih h]

theorem exists_of_mem_zipWith {widths : List Nat} {row : List Text} {part : Text}
    (h : part ∈ widths.zipWith padded row) : ∃ width, ∃ cell ∈ row, part = padded width cell := by
  induction row generalizing widths with
  | nil => simp at h
  | cons cell row ih =>
    cases widths with
    | nil => simp at h
    | cons width widths =>
      rw [List.zipWith_cons_cons] at h
      rcases List.mem_cons.mp h with rfl | hrest
      · exact ⟨width, cell, List.mem_cons_self, rfl⟩
      · obtain ⟨other, text, htext, rfl⟩ := ih hrest
        exact ⟨other, text, List.mem_cons_of_mem _ htext, rfl⟩

/-- The parts of a row are its cells between their spaces. -/
theorem splitBars_rowLine (widths : List Nat) {row : List Text}
    (h : ∀ cell ∈ row, Barless cell) :
    splitBars (rowLine widths row) = [] :: widths.zipWith padded row ++ [[]] := by
  rw [rowLine_eq]
  apply splitBars_line
  intro part hpart
  obtain ⟨width, cell, hcell, rfl⟩ := exists_of_mem_zipWith hpart
  exact barless_padded width (h cell hcell)

theorem not_mem_rowLine (widths : List Nat) {row : List Text} (h : ∀ cell ∈ row, '\n' ∉ cell) :
    '\n' ∉ rowLine widths row := by
  intro hline
  rw [rowLine_eq, List.mem_cons, List.mem_flatMap] at hline
  rcases hline with hbar | ⟨part, hpart, hmem⟩
  · exact absurd hbar (by decide)
  · obtain ⟨width, cell, hcell, rfl⟩ := exists_of_mem_zipWith hpart
    have hcases : '\n' ∈ cell := by simpa [padded] using hmem
    exact h cell hcell hcases

theorem not_mem_separatorLine (widths : List Nat) (row : List Text) :
    '\n' ∉ separatorLine widths row := by
  intro hline
  rw [separatorLine, List.mem_cons, List.mem_flatten] at hline
  rcases hline with hbar | ⟨part, hpart, hmem⟩
  · exact absurd hbar (by decide)
  · obtain ⟨width, -, rfl⟩ := List.mem_map.mp hpart
    simp [dashes] at hmem

/-- The dashes of a column, without the bar behind them. -/
def dashed (width : Nat) : Text := ' ' :: List.replicate width '-' ++ [' ']

theorem separatorLine_eq (widths : List Nat) (row : List Text) :
    separatorLine widths row =
      '|' :: ((widths.take row.length).map dashed).flatMap (· ++ ['|']) := by
  rw [separatorLine, List.flatMap_def, List.map_map]
  congr 3
  funext width
  simp [dashes, dashed]

/-- The parts of the line of dashes are those of its columns. -/
theorem splitBars_separatorLine_eq (widths : List Nat) (row : List Text) :
    splitBars (separatorLine widths row) =
      [] :: (widths.take row.length).map dashed ++ [[]] := by
  have hparts : ∀ text ∈ (widths.take row.length).map dashed, Barless text := by
    intro text htext
    obtain ⟨width, -, rfl⟩ := List.mem_map.mp htext
    have hdashes : Barless (List.replicate width '-') :=
      barless_replicate (by decide) (by decide) width
    exact (Barless.plain (by decide) (by decide) hdashes).append
      (.plain (by decide) (by decide) .nil)
  rw [separatorLine_eq, splitBars_line hparts]

/-- They are as many as the cells of the first row. -/
theorem splitBars_separatorLine {widths : List Nat} {row : List Text}
    (h : row.length ≤ widths.length) :
    ∃ parts, splitBars (separatorLine widths row) = [] :: parts ++ [[]] ∧
      parts.length = row.length := by
  refine ⟨_, splitBars_separatorLine_eq widths row, ?_⟩
  rw [List.length_map, List.length_take, Nat.min_eq_left h]

/-- The lines of a table: one for each row, and the dashes behind the first. -/
theorem splitAtChar_format {first : List Text} {rest : List (List Text)}
    (h : ∀ row ∈ first :: rest, ∀ cell ∈ row, '\n' ∉ cell) :
    Text.splitAtChar '\n' (format (first :: rest)) =
      rowLine (widths (first :: rest)) first :: separatorLine (widths (first :: rest)) first ::
        rest.map (rowLine (widths (first :: rest))) := by
  have hrow : ∀ row ∈ first :: rest, '\n' ∉ rowLine (widths (first :: rest)) row :=
    fun row hmem => not_mem_rowLine _ (h row hmem)
  apply Text.splitAtChar_join
  · exact List.cons_ne_nil _ _
  · rw [List.forall_mem_cons] at hrow
    simp only [lines, List.forall_mem_cons, List.forall_mem_map]
    exact ⟨hrow.1, not_mem_separatorLine _ _, hrow.2⟩

end Table

end DocumentStream
