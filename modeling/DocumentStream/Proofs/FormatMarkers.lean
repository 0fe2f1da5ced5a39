import DocumentStream.Proofs.EscapedMarks
import DocumentStream.Renderer.Constructs

/-!
The markers of formats in escaped text. What stands in an escaped text without a backslash stands in
the text itself, so a marker is live there only if its characters are among those that escaping
passes over. Those of bold, italic, underlined and monospaced text are escaped, except for an
underscore inside a word. Tildes and tags are not, so the markers of struck out, raised and lowered
text are live wherever the text has them.
-/

namespace DocumentStream.Escape

/-- Whether a marker stands in a text behind so many marks. What is in front of it ends with a whole
mark, so that no backslash hides its first character. -/
def IsLiveAt (marker text : Text) (n : Nat) : Prop :=
  ∃ front back marks, text = front ++ marker ++ back ∧ marks? front = some marks ∧
    marks.length = n

/-- Whether an underscore stands at a place of a text, between two letters or digits. -/
def IsInsideWord (text : Text) (n : Nat) : Prop :=
  ∃ front left right back, text = front ++ left :: '_' :: right :: back ∧ front.length + 1 = n ∧
    Text.isAlphanumeric left = true ∧ Text.isAlphanumeric right = true

/-- What is read as marks was written by them. -/
theorem eq_flatMap_of_marks? {text : Text} {marks : List Mark} (h : marks? text = some marks) :
    text = marks.flatMap Mark.text ∧ Mark.bare '\\' ∉ marks := by
  fun_induction marks? text generalizing marks with
  | case1 =>
    obtain rfl := Option.some.inj h
    exact ⟨rfl, List.not_mem_nil⟩
  | case2 => cases h
  | case3 c rest ih =>
    obtain ⟨others, hothers, rfl⟩ := Option.map_eq_some_iff.mp h
    obtain ⟨htext, hbare⟩ := ih hothers
    refine ⟨?_, by simp [hbare]⟩
    rw [List.flatMap_cons, ← htext]
    rfl
  | case4 c rest hlone hpair ih =>
    obtain ⟨others, hothers, rfl⟩ := Option.map_eq_some_iff.mp h
    obtain ⟨htext, hbare⟩ := ih hothers
    have hc : c ≠ '\\' := by
      rintro rfl
      cases rest with
      | nil => exact hlone rfl rfl
      | cons d rest => exact hpair d rest rfl rfl
    refine ⟨?_, by simp [hbare, hc.symm]⟩
    rw [List.flatMap_cons, ← htext]
    rfl

/-- Characters other than backslashes are marks by themselves. -/
theorem marks?_append {marker : Text} (h : '\\' ∉ marker) (rest : Text) :
    marks? (marker ++ rest) = (marks? rest).map (marker.map Mark.bare ++ ·) := by
  have hbare : Mark.bare '\\' ∉ marker.map Mark.bare := by simpa using h
  have hread := marks?_flatMap_append hbare rest
  rwa [List.flatMap_map, show marker.flatMap (fun c => (Mark.bare c).text) = marker from
    List.flatMap_singleton' marker] at hread

/-- Marks that are no escaped ones are the characters that they show. -/
theorem eq_map_bare {marks : List Mark} (h : ∀ c, Mark.escaped c ∉ marks) :
    marks = (marks.map Mark.char).map Mark.bare := by
  induction marks with
  | nil => rfl
  | cons mark marks ih =>
    have hrest := ih fun c hc => h c (List.mem_cons_of_mem _ hc)
    cases mark with
    | bare c => rw [List.map_cons, List.map_cons, ← hrest, Mark.char]
    | escaped c => exact absurd List.mem_cons_self (h c)

variable {marker text : Text} {lineStart pipes : Bool} {n : Nat}

/-- The characters of a live marker are marks of the escaped text, none of them behind a
backslash. -/
theorem exists_marks_of_isLiveAt (hmarker : '\\' ∉ marker)
    (h : IsLiveAt marker (Escape.text text lineStart pipes) n) :
    ∃ front back : List Mark, front.length = n ∧
      (front ++ (marker.map Mark.bare ++ back)).map Mark.char = text ∧
      Guarded pipes none (front ++ (marker.map Mark.bare ++ back)) := by
  obtain ⟨before, after, front, htext, hfront, hlength⟩ := h
  obtain ⟨marks, hwritten, hshown, hguarded⟩ := exists_marks text lineStart pipes
  obtain ⟨rfl, hbare⟩ := eq_flatMap_of_marks? hfront
  have hread := marks?_text hwritten hguarded
  rw [htext, List.append_assoc, marks?_flatMap_append hbare, marks?_append hmarker,
    Option.map_map, Option.map_eq_some_iff] at hread
  obtain ⟨back, -, rfl⟩ := hread
  exact ⟨front, back, hlength, hshown, hguarded⟩

theorem prefix_of_isLiveAt (hmarker : '\\' ∉ marker)
    (h : IsLiveAt marker (Escape.text text lineStart pipes) n) : marker <+: text.drop n := by
  obtain ⟨front, back, rfl, rfl, -⟩ := exists_marks_of_isLiveAt hmarker h
  have hchars : (marker.map Mark.bare).map Mark.char = marker := by
    rw [List.map_map]
    exact List.map_id marker
  rw [List.map_append, List.drop_left' (List.length_map _), List.map_append, hchars]
  exact List.prefix_append _ _

/-- A marker of characters that are never escaped, the first one not even at the start of a line,
is live wherever it stands in the text. -/
theorem isLiveAt_of_prefix (hne : marker ≠ []) (hwithin : ∀ c ∈ marker, c ∉ escapedWithin)
    (hfirst : marker.head?.any opensBlock = false) (h : marker <+: text.drop n) :
    IsLiveAt marker (Escape.text text lineStart pipes) n := by
  obtain ⟨marks, hwritten, rfl, hguarded, hspared⟩ := exists_spared_marks text lineStart pipes
  have hshown : ((marks.drop n).take marker.length).map Mark.char = marker := by
    rw [List.map_take, List.map_drop]
    exact (List.prefix_iff_eq_take.mp h).symm
  have hlength : n ≤ marks.length := by
    refine Nat.le_of_not_lt fun hshort => ?_
    rw [List.drop_eq_nil_of_le (by rw [List.length_map]; omega), List.prefix_nil] at h
    exact hne h
  have hplain : ∀ c, Mark.escaped c ∉ (marks.drop n).take marker.length := by
    intro c hc
    obtain ⟨i, hi⟩ := List.getElem?_of_mem hc
    have hchar : marker[i]? = some c := by
      rw [← hshown, List.getElem?_map, hi]
      rfl
    rw [List.getElem?_take_of_lt (List.getElem?_eq_some_iff.mp hchar).1, List.getElem?_drop] at hi
    rcases hspared _ c hi with hmem | ⟨hzero, -, hopens⟩
    · exact hwithin c (List.mem_of_getElem? hchar) hmem
    · obtain rfl : i = 0 := by omega
      rw [List.head?_eq_getElem?, hchar, Option.any_some, hopens] at hfirst
      cases hfirst
  have hmarks : marks = marks.take n ++ (marker.map Mark.bare ++
      (marks.drop n).drop marker.length) := by
    rw [← hshown, ← eq_map_bare hplain, hshown, List.take_append_drop, List.take_append_drop]
  have hbare : Mark.bare '\\' ∉ marks.take n := fun hmem =>
    hguarded.bare_backslash_not_mem (List.mem_of_mem_take hmem)
  refine ⟨(marks.take n).flatMap Mark.text,
    ((marks.drop n).drop marker.length).flatMap Mark.text, marks.take n, ?_, ?_, ?_⟩
  · refine hwritten.trans ((congrArg (List.flatMap Mark.text) hmarks).trans ?_)
    rw [List.flatMap_append, List.flatMap_append, List.flatMap_map, List.append_assoc]
    congr 2
    exact List.flatMap_singleton' marker
  · have hread := marks?_flatMap_append hbare []
    rwa [List.append_nil, marks?, Option.map_some, List.append_nil] at hread
  · rw [List.length_take, Nat.min_eq_left hlength]

/-- A live underscore stands inside a word. -/
theorem isInsideWord_of_isLiveAt (h : IsLiveAt ['_'] (Escape.text text lineStart pipes) n) :
    IsInsideWord text n := by
  obtain ⟨front, back, rfl, rfl, hguarded⟩ := exists_marks_of_isLiveAt (by decide) h
  obtain ⟨hbefore, hafter⟩ := hguarded.harmless.2 rfl
  rw [Option.or_none, Option.any_eq_true] at hbefore
  rw [Option.any_eq_true] at hafter
  obtain ⟨left, hleft, hleft'⟩ := hbefore
  obtain ⟨right, hright, hright'⟩ := hafter
  obtain ⟨mark, hmark, rfl⟩ := Option.map_eq_some_iff.mp hleft
  obtain ⟨next, hnext, rfl⟩ := Option.map_eq_some_iff.mp hright
  obtain ⟨front, rfl⟩ := List.getLast?_eq_some_iff.mp hmark
  obtain ⟨back, rfl⟩ := List.head?_eq_some_iff.mp hnext
  refine ⟨front.map Mark.char, mark.char, next.char, back.map Mark.char, ?_, ?_, hleft', hright'⟩
  · simp [Mark.char]
  · simp

/-- No two underscores are live side by side. -/
theorem not_isLiveAt_underline : ¬ IsLiveAt ['_', '_'] (Escape.text text lineStart pipes) n := by
  intro h
  obtain ⟨front, back, -, -, hguarded⟩ := exists_marks_of_isLiveAt (by decide) h
  have hunderscore : Text.isAlphanumeric '_' = true := (hguarded.harmless.2 rfl).2
  exact absurd hunderscore (by decide)

/-- A marker that begins with a special character is never live. -/
theorem not_isLiveAt_of_isSpecial {c : Char} {rest : Text} (hmarker : '\\' ∉ c :: rest)
    (hc : isSpecial pipes c = true) :
    ¬ IsLiveAt (c :: rest) (Escape.text text lineStart pipes) n := by
  intro h
  obtain ⟨front, back, -, -, hguarded⟩ := exists_marks_of_isLiveAt hmarker h
  rw [List.map_cons, List.cons_append] at hguarded
  rw [hguarded.harmless.1] at hc
  cases hc

section

variable {style : Format}

/-- Escaping passes over all characters of the markers of these formats. -/
theorem passesOver_marker (hstyle : style ∈ [Format.strikeout, .superscript, .subscript])
    (hmarker : marker = Rendering.formatStart style ∨ marker = Rendering.formatEnd style) :
    marker ≠ [] ∧ marker ≠ ['_'] ∧ '\\' ∉ marker ∧ (∀ c ∈ marker, c ∉ escapedWithin) ∧
      marker.head?.any opensBlock = false := by
  simp only [List.mem_cons, List.not_mem_nil, or_false] at hstyle
  rcases hstyle with rfl | rfl | rfl <;> rcases hmarker with rfl | rfl <;>
    simp [Rendering.formatStart, Rendering.formatEnd, escapedWithin, opensBlock]

/-- The markers of the other formats are live at most as an underscore inside a word. -/
theorem isInsideWord_of_marker (hstyle : style ≠ .plain)
    (hother : style ∉ [Format.strikeout, .superscript, .subscript])
    (hmarker : marker = Rendering.formatStart style ∨ marker = Rendering.formatEnd style)
    (h : IsLiveAt marker (Escape.text text lineStart pipes) n) :
    marker = ['_'] ∧ IsInsideWord text n := by
  have hsame : marker = Rendering.formatStart style := by
    rcases hmarker with hstart | hend
    · exact hstart
    · cases style with
      | superscript | subscript => simp at hother
      | _ => exact hend
  subst hsame
  cases style with
  | bold => exact absurd h (not_isLiveAt_of_isSpecial (by decide) (by rfl))
  | italic => exact ⟨rfl, isInsideWord_of_isLiveAt h⟩
  | underline => exact absurd h not_isLiveAt_underline
  | monospace => exact absurd h (not_isLiveAt_of_isSpecial (by decide) (by rfl))
  | strikeout | superscript | subscript => simp at hother
  | plain => exact absurd rfl hstyle

/-- The markers of struck out, raised and lowered text are live in an escaped text exactly where the
text has them. So a format other than the plain one can be imitated, apart from an underscore inside
a word, only if it is one of these three and the text has its marker. -/
theorem isLiveAt_marker_iff (hstyle : style ≠ .plain)
    (hmarker : marker = Rendering.formatStart style ∨ marker = Rendering.formatEnd style)
    (text : Text) (lineStart pipes : Bool) :
    (style ∈ [Format.strikeout, .superscript, .subscript] → ∀ n,
      (IsLiveAt marker (Escape.text text lineStart pipes) n ↔ marker <+: text.drop n)) ∧
    ((∀ n, IsLiveAt marker (Escape.text text lineStart pipes) n →
        marker = ['_'] ∧ IsInsideWord text n) ↔
      (style ∈ [Format.strikeout, .superscript, .subscript] → ¬ marker <:+: text)) := by
  have hlive (hpassed : style ∈ [Format.strikeout, .superscript, .subscript]) (n : Nat) :
      IsLiveAt marker (Escape.text text lineStart pipes) n ↔ marker <+: text.drop n := by
    obtain ⟨hne, -, hbackslash, hwithin, hfirst⟩ := passesOver_marker hpassed hmarker
    exact ⟨prefix_of_isLiveAt hbackslash, isLiveAt_of_prefix hne hwithin hfirst⟩
  refine ⟨hlive, ?_, ?_⟩
  · rintro hinside hpassed ⟨front, back, rfl⟩
    obtain ⟨-, hother, -⟩ := passesOver_marker hpassed hmarker
    have hprefix : marker <+: (front ++ marker ++ back).drop front.length := by
      rw [List.append_assoc, List.drop_left]
      exact List.prefix_append _ _
    exact hother (hinside _ ((hlive hpassed _).mpr hprefix)).1
  · intro habsent n h
    by_cases hpassed : style ∈ [Format.strikeout, .superscript, .subscript]
    · obtain ⟨back, hback⟩ := (hlive hpassed n).mp h
      refine absurd ⟨text.take n, back, ?_⟩ (habsent hpassed)
      rw [List.append_assoc, hback, List.take_append_drop]
    · exact isInsideWord_of_marker hstyle hpassed hmarker h

/-- A tag that opens raised text is live in the middle of a word, and one that lacks its end is
not. -/
theorem isLiveAt_marker_tags :
    let text : Text := "2<sup>nd</sup".toList
    Format.superscript ≠ .plain ∧
      IsLiveAt "<sup>".toList (Escape.text text true false) 1 ∧
      ∀ n, ¬ IsLiveAt "</sup>".toList (Escape.text text true false) n := by
  intro text
  have hstyle : Format.superscript ≠ .plain := by decide
  have hpassed : Format.superscript ∈ [Format.strikeout, .superscript, .subscript] := by simp
  have hstart := isLiveAt_marker_iff hstyle (Or.inl (rfl : "<sup>".toList = _)) text true false
  have hend := isLiveAt_marker_iff hstyle (Or.inr (rfl : "</sup>".toList = _)) text true false
  refine ⟨hstyle, (hstart.1 hpassed 1).mpr ⟨"nd</sup".toList, rfl⟩, fun n h => ?_⟩
  have habsent : ¬ "</sup>".toList <:+: text := fun hinfix =>
    absurd hinfix.sublist (by decide)
  have hunderscore := (hend.2.mpr (fun _ => habsent) n h).1
  exact absurd hunderscore (by decide)

/-- Text between tildes is struck out. -/
theorem isLiveAt_tildes :
    let escaped := Escape.text "~~a~~".toList false false
    IsLiveAt (Rendering.formatStart .strikeout) escaped 0 ∧
      IsLiveAt (Rendering.formatEnd .strikeout) escaped 3 ∧
      Rendering.formatStart .strikeout ≠ ['_'] := by
  exact ⟨⟨[], "a~~".toList, [], rfl, rfl, rfl⟩,
    ⟨"~~a".toList, [], _, rfl, rfl, rfl⟩, by decide⟩

end

end DocumentStream.Escape
