import DocumentStream.Text

/-!
Joining texts and splitting what was joined.
-/

namespace DocumentStream.Text

variable {separator : Char}

theorem join_cons (separator first : Text) (rest : List Text) :
    join separator (first :: rest) = first ++ rest.flatMap (separator ++ ·) := by
  unfold join
  induction rest generalizing first with
  | nil => simp
  | cons second rest ih =>
    rw [List.intercalate_cons_cons, ih, List.flatMap_cons]
    simp only [List.append_assoc]

/-- Texts with a separator in front of each. -/
theorem flatMap_append_eq_join (separator : Text) {texts : List Text} (hne : texts ≠ []) :
    texts.flatMap (separator ++ ·) = separator ++ join separator texts := by
  obtain ⟨first, rest, rfl⟩ := List.exists_cons_of_ne_nil hne
  rw [join_cons, List.flatMap_cons, List.append_assoc]

theorem join_cons_of_ne_nil (separator first : Text) {rest : List Text} (hrest : rest ≠ []) :
    join separator (first :: rest) = first ++ (separator ++ join separator rest) := by
  rw [join_cons, flatMap_append_eq_join separator hrest]

/-- Repeating a text adds no characters. -/
theorem not_mem_times {c : Char} {count : Int} {text : Text} (h : c ∉ text) :
    c ∉ times count text := by
  intro hmem
  obtain ⟨piece, hpiece, hc⟩ := List.mem_flatten.mp hmem
  rw [(List.mem_replicate.mp hpiece).2] at hc
  exact h hc

theorem splitAtChar_eq_splitOn (separator : Char) (text : Text) :
    splitAtChar separator text = text.splitOn separator := by
  induction text with
  | nil => rfl
  | cons c rest ih =>
    rw [splitAtChar, ih, List.splitOn, List.splitOn, List.splitOnP_cons_eq_if_modifyHead]
    by_cases hc : c = separator
    · simp [hc]
    · obtain ⟨piece, pieces, hpieces⟩ :=
        List.exists_cons_of_ne_nil (List.splitOnP_ne_nil (· == separator) rest)
      simp [hc, hpieces]

/-- Joined texts are found again by splitting, if the separator occurs in none of them. -/
theorem splitAtChar_join {texts : List Text} (hne : texts ≠ [])
    (h : ∀ text ∈ texts, separator ∉ text) :
    splitAtChar separator (join [separator] texts) = texts := by
  rw [splitAtChar_eq_splitOn]
  exact List.splitOn_intercalate separator h hne

theorem exists_splitAtChar_eq_cons (separator : Char) (text : Text) :
    ∃ piece pieces, splitAtChar separator text = piece :: pieces := by
  rw [splitAtChar_eq_splitOn]
  exact List.exists_cons_of_ne_nil (List.splitOnP_ne_nil _ text)

theorem not_mem_of_mem_splitAtChar {text piece : Text}
    (h : piece ∈ splitAtChar separator text) : separator ∉ piece := by
  induction text generalizing piece with
  | nil =>
    rw [splitAtChar, List.mem_singleton] at h
    subst h
    exact List.not_mem_nil
  | cons c rest ih =>
    obtain ⟨first, pieces, hpieces⟩ := exists_splitAtChar_eq_cons separator rest
    rw [hpieces] at ih
    by_cases hc : c = separator
    · rw [splitAtChar, if_pos hc, hpieces] at h
      rcases List.mem_cons.mp h with rfl | hmem
      · exact List.not_mem_nil
      · exact ih hmem
    · rw [splitAtChar, if_neg hc, hpieces] at h
      rcases List.mem_cons.mp h with rfl | hmem
      · intro hmem
        rcases List.mem_cons.mp hmem with heq | hmem
        · exact hc heq.symm
        · exact ih List.mem_cons_self hmem
      · exact ih (List.mem_cons_of_mem _ hmem)

theorem join_splitAtChar (separator : Char) (text : Text) :
    join [separator] (splitAtChar separator text) = text := by
  rw [splitAtChar_eq_splitOn]
  exact List.intercalate_splitOn _

/-- What holds no separator belongs to the first piece of what follows it. -/
theorem splitAtChar_append {first rest piece : Text} {pieces : List Text}
    (hfirst : separator ∉ first) (hrest : splitAtChar separator rest = piece :: pieces) :
    splitAtChar separator (first ++ rest) = (first ++ piece) :: pieces := by
  induction first with
  | nil => exact hrest
  | cons c first ih =>
    obtain ⟨hc, hlater⟩ : c ≠ separator ∧ separator ∉ first := by
      simpa [eq_comm] using hfirst
    simp [splitAtChar, hc, ih hlater]

theorem splitAtChar_append_cons (first rest : Text) :
    splitAtChar separator (first ++ separator :: rest) =
      splitAtChar separator first ++ splitAtChar separator rest := by
  induction first with
  | nil => simp [splitAtChar]
  | cons c first ih =>
    obtain ⟨piece, pieces, hpieces⟩ := exists_splitAtChar_eq_cons separator first
    by_cases hc : c = separator
    · simp [splitAtChar, hc, ih]
    · simp [splitAtChar, hc, ih, hpieces]

/-- Joined texts split into the pieces of all of them. -/
theorem splitAtChar_join_eq_flatMap {texts : List Text} (hne : texts ≠ []) :
    splitAtChar separator (join [separator] texts) = texts.flatMap (splitAtChar separator) := by
  obtain ⟨first, rest, rfl⟩ := List.exists_cons_of_ne_nil hne
  induction rest generalizing first with
  | nil => simp [join]
  | cons second rest ih =>
    have hjoin : join [separator] (first :: second :: rest) =
        first ++ separator :: join [separator] (second :: rest) := by
      simp [join, List.intercalate_cons_cons]
    rw [hjoin, splitAtChar_append_cons, ih second (List.cons_ne_nil _ _)]
    rfl

/-- A run of characters of one kind ends at the first character of another kind. -/
theorem takeWhile_run {isIn : Char → Bool} {run rest : Text} (hrun : ∀ c ∈ run, isIn c = true)
    (hrest : rest.head?.any isIn = false) : (run ++ rest).takeWhile isIn = run := by
  rw [List.takeWhile_append_of_pos hrun]
  cases rest with
  | nil => rw [List.takeWhile_nil, List.append_nil]
  | cons c rest =>
    have hc : ¬ isIn c = true := ne_true_of_eq_false hrest
    rw [List.takeWhile_cons_of_neg hc, List.append_nil]

theorem dropWhile_run {isIn : Char → Bool} {run rest : Text} (hrun : ∀ c ∈ run, isIn c = true)
    (hrest : rest.head?.any isIn = false) : (run ++ rest).dropWhile isIn = rest := by
  have hparts := List.takeWhile_append_dropWhile (p := isIn) (l := run ++ rest)
  rw [takeWhile_run hrun hrest] at hparts
  exact List.append_cancel_left hparts

section

variable {mark : Char} {front : Text}

theorem ne_of_not_mem (h : mark ∉ front) : ∀ c ∈ front, (c != mark) = true := by
  intro c hc
  rw [bne_iff_ne]
  rintro rfl
  exact h hc

/-- The text in front of the first mark. -/
theorem takeWhile_append_mark (h : mark ∉ front) (rest : Text) :
    (front ++ mark :: rest).takeWhile (· != mark) = front :=
  takeWhile_run (ne_of_not_mem h) (by simp)

theorem dropWhile_append_mark (h : mark ∉ front) (rest : Text) :
    (front ++ mark :: rest).dropWhile (· != mark) = mark :: rest :=
  dropWhile_run (ne_of_not_mem h) (by simp)

end

end DocumentStream.Text
