import DocumentStream.Proofs.Escaping

/-!
Escaped text is read back mark by mark, from left to right: a backslash makes one mark with the
character behind it, and any other character is a mark of its own. The marks of an escaped text show
the text, and what stands among them without a backslash is no syntax where it stands. Since no mark
is left unfinished, whatever is written behind an escaped text is read as if it stood alone.
-/

namespace DocumentStream.Escape

/-- A piece of an escaped text: a character that stands for itself, or one behind a backslash. -/
inductive Mark where
  | bare (c : Char)
  | escaped (c : Char)
  deriving DecidableEq, Repr

namespace Mark

/-- The character that a mark shows. -/
def char : Mark → Char
  | bare c | escaped c => c

/-- How a mark is written. -/
def text : Mark → Text
  | bare c => [c]
  | escaped c => ['\\', c]

end Mark

/-- The marks of a text. There are none of a text that ends with a lone backslash. -/
def marks? : Text → Option (List Mark)
  | [] => some []
  | ['\\'] => none
  | '\\' :: c :: rest => (marks? rest).map (.escaped c :: ·)
  | c :: rest => (marks? rest).map (.bare c :: ·)

theorem marks?_backslash (c : Char) (rest : Text) :
    marks? ('\\' :: c :: rest) = (marks? rest).map (.escaped c :: ·) := rfl

theorem marks?_cons {c : Char} (hc : c ≠ '\\') (rest : Text) :
    marks? (c :: rest) = (marks? rest).map (.bare c :: ·) := by
  rw [marks?]
  · rintro rfl
    exact absurd rfl hc
  · rintro _ _ rfl
    exact absurd rfl hc

/-- Marks are read as they were written, whatever stands behind them. -/
theorem marks?_flatMap_append {marks : List Mark} (h : Mark.bare '\\' ∉ marks) (rest : Text) :
    marks? (marks.flatMap Mark.text ++ rest) = (marks? rest).map (marks ++ ·) := by
  induction marks with
  | nil => exact Option.map_id'.symm
  | cons mark marks ih =>
    rw [List.mem_cons, not_or] at h
    rw [List.flatMap_cons, List.append_assoc]
    cases mark with
    | bare c =>
      have hc : c ≠ '\\' := by
        rintro rfl
        exact h.1 rfl
      rw [Mark.text, List.cons_append, marks?_cons hc, List.nil_append, ih h.2, Option.map_map]
      rfl
    | escaped c =>
      rw [Mark.text, List.cons_append, List.cons_append, marks?_backslash, List.nil_append, ih h.2,
        Option.map_map]
      rfl

/-- Whether a character is no syntax between the ones beside it. -/
def Harmless (pipes : Bool) (before : Option Char) (c : Char) (after : Option Char) : Prop :=
  isSpecial pipes c = false ∧
    (c = '_' → before.any Text.isAlphanumeric = true ∧ after.any Text.isAlphanumeric = true)

/-- Whether all characters without a backslash are harmless where they stand. -/
def Guarded (pipes : Bool) : Option Char → List Mark → Prop
  | _, [] => True
  | before, .bare c :: rest =>
    Harmless pipes before c (rest.head?.map Mark.char) ∧ Guarded pipes (some c) rest
  | _, .escaped c :: rest => Guarded pipes (some c) rest

namespace Guarded

variable {pipes : Bool} {before : Option Char} {marks : List Mark}

theorem harmless {front back : List Mark} {c : Char}
    (h : Guarded pipes before (front ++ .bare c :: back)) :
    Harmless pipes ((front.getLast?.map Mark.char).or before) c (back.head?.map Mark.char) := by
  induction front generalizing before with
  | nil => exact h.1
  | cons mark front ih =>
    have hrest : Guarded pipes (some mark.char) (front ++ .bare c :: back) := by
      cases mark with
      | bare d => exact h.2
      | escaped d => exact h
    have hlast : (((mark :: front).getLast?.map Mark.char).or before) =
        (front.getLast?.map Mark.char).or (some mark.char) := by
      rw [List.getLast?_cons]
      cases front.getLast? <;> rfl
    rw [hlast]
    exact ih hrest

theorem bare_backslash_not_mem (h : Guarded pipes before marks) : Mark.bare '\\' ∉ marks := by
  intro hmem
  obtain ⟨front, back, rfl⟩ := List.append_of_mem hmem
  exact absurd h.harmless.1 (by simp [isSpecial])

/-- Digits stand without backslashes. -/
theorem digits {number : Text} (hnumber : ∀ c ∈ number, Text.isDecimalDigit c = true)
    (hmarks : ∀ before, Guarded pipes before marks) :
    Guarded pipes before (number.map Mark.bare ++ marks) := by
  induction number generalizing before with
  | nil => exact hmarks before
  | cons c number ih =>
    rw [List.forall_mem_cons] at hnumber
    have hc := not_mem_escapable Text.isDecimalDigit (by decide) hnumber.1
    simp only [escapable, List.mem_cons, List.not_mem_nil, or_false, not_or] at hc
    refine ⟨⟨by simp [isSpecial, hc], fun hunderscore => ?_⟩, ih hnumber.2⟩
    exact absurd hunderscore hc.2.2.2.2.2.2.1

end Guarded

variable {pipes lineStart : Bool}

/-- The characters that are escaped elsewhere than at the start of a line, and the full stop of a
list marker. -/
def escapedWithin : Text := ['\\', '\x60', '*', '[', ']', '|', '_', '.']

theorem mem_escapedWithin_of_isSpecial {c : Char} (h : isSpecial pipes c = true) :
    c ∈ escapedWithin := by
  simp only [isSpecial, Bool.or_eq_true, Bool.and_eq_true, beq_iff_eq] at h
  rcases h with ((((rfl | rfl) | rfl) | rfl) | rfl) | ⟨-, rfl⟩ <;> decide

/-- Whether no character has a backslash without need: only the first one of a line may have it for
opening a block. -/
def Spared (lineStart : Bool) (marks : List Mark) : Prop :=
  ∀ n c, marks[n]? = some (.escaped c) →
    c ∈ escapedWithin ∨ n = 0 ∧ lineStart = true ∧ opensBlock c = true

namespace Spared

variable {marks : List Mark}

theorem cons_bare (h : Spared false marks) (c : Char) : Spared lineStart (.bare c :: marks) := by
  intro n d hd
  cases n with
  | zero => simp at hd
  | succ n =>
    rcases h n d hd with hmem | ⟨-, hstart, -⟩
    · exact Or.inl hmem
    · cases hstart

theorem cons_escaped (h : Spared false marks) {c : Char}
    (hc : c ∈ escapedWithin ∨ lineStart = true ∧ opensBlock c = true) :
    Spared lineStart (.escaped c :: marks) := by
  intro n d hd
  cases n with
  | zero =>
    obtain rfl : c = d := by simpa using hd
    exact hc.imp id fun hstart => ⟨rfl, hstart⟩
  | succ n =>
    rcases h n d hd with hmem | ⟨-, hstart, -⟩
    · exact Or.inl hmem
    · cases hstart

theorem append_bare (h : Spared false marks) (number : Text) :
    Spared false (number.map Mark.bare ++ marks) := by
  induction number with
  | nil => exact h
  | cons c number ih => exact ih.cons_bare c

theorem of_false (h : Spared false marks) : Spared lineStart marks := by
  intro n c hc
  rcases h n c hc with hmem | ⟨-, hstart, -⟩
  · exact Or.inl hmem
  · cases hstart

end Spared

/-- Escaping writes one mark for each character. -/
theorem exists_marks_charsFrom (pipes lineStart : Bool) (before : Option Char) (text : Text) :
    ∃ marks : List Mark, charsFrom pipes lineStart before text = marks.flatMap Mark.text ∧
      marks.map Mark.char = text ∧ Guarded pipes before marks ∧ Spared lineStart marks := by
  induction text generalizing lineStart before with
  | nil => exact ⟨[], rfl, rfl, trivial, by simp [Spared]⟩
  | cons c text ih =>
    obtain ⟨marks, hwritten, hshown, hguarded, hspared⟩ := ih false (some c)
    have hnext : text.head? = marks.head?.map Mark.char := by rw [← hshown, List.head?_map]
    rw [charsFrom, hwritten, hnext]
    split
    · rename_i hescaped
      simp only [Bool.or_eq_true, Bool.and_eq_true, beq_iff_eq] at hescaped
      have hc : c ∈ escapedWithin ∨ lineStart = true ∧ opensBlock c = true := by
        rcases hescaped with (hspecial | ⟨rfl, -⟩) | hopens
        · exact Or.inl (mem_escapedWithin_of_isSpecial hspecial)
        · exact Or.inl (by decide)
        · exact Or.inr hopens
      exact ⟨.escaped c :: marks, rfl, by rw [List.map_cons, hshown]; rfl, hguarded,
        hspared.cons_escaped hc⟩
    · rename_i hescaped
      simp only [Bool.or_eq_true, Bool.and_eq_true, Bool.not_eq_true', beq_iff_eq, not_or,
        not_and, Bool.not_eq_true, Bool.not_eq_false] at hescaped
      refine ⟨.bare c :: marks, rfl, by rw [List.map_cons, hshown]; rfl, ⟨?_, hguarded⟩,
        hspared.cons_bare c⟩
      exact ⟨hescaped.1.1, hescaped.1.2⟩

/-- The full stop of a list marker is one more character behind a backslash. -/
theorem exists_marks_listMarker (text : Text) :
    ∃ marks : List Mark,
      listMarker (charsFrom pipes lineStart none text) = marks.flatMap Mark.text ∧
        marks.map Mark.char = text ∧ Guarded pipes none marks ∧ Spared lineStart marks := by
  by_cases hstarts : startsList (charsFrom pipes lineStart none text) = true
  · obtain ⟨number, rest, rfl, hnumber, hrest⟩ := exists_digits text
    have htext := hstarts
    rw [startsList_charsFrom, startsList_append_digits hnumber hrest] at htext
    simp only [Bool.and_eq_true, beq_iff_eq, Bool.not_eq_true', List.isEmpty_eq_false_iff] at htext
    obtain ⟨after, rfl⟩ : ∃ after, rest = '.' :: after := by
      cases rest with
      | nil => cases htext.1.2
      | cons c after =>
        obtain rfl : c = '.' := Option.some.inj htext.1.2
        exact ⟨after, rfl⟩
    obtain ⟨marks, hwritten, hshown, hguarded, hspared⟩ :=
      exists_marks_charsFrom pipes false (some '.') after
    have hdot : ('.' : Char) ∉ escapable := by decide
    have hcut : ('.' :: marks.flatMap Mark.text : Text).head?.any Text.isDecimalDigit = false := rfl
    rw [charsFrom_append_digits hnumber, charsFrom_cons_of_not_mem hdot, hwritten] at hstarts ⊢
    refine ⟨number.map .bare ++ .escaped '.' :: marks, ?_, ?_, ?_, ?_⟩
    · rw [listMarker_append_digits hnumber hcut, if_pos hstarts, List.flatMap_append,
        List.flatMap_cons, List.flatMap_map]
      simp [Mark.text]
    · simp [Function.comp_def, Mark.char, hshown]
    · exact .digits hnumber fun _ => hguarded
    · have hstop : Spared false (.escaped '.' :: marks) :=
        hspared.cons_escaped (Or.inl (by decide))
      exact (hstop.append_bare number).of_false
  · rw [listMarker_eq, if_neg hstarts]
    exact exists_marks_charsFrom pipes lineStart none text

theorem exists_spared_marks (text : Text) (lineStart pipes : Bool) :
    ∃ marks : List Mark, Escape.text text lineStart pipes = marks.flatMap Mark.text ∧
      marks.map Mark.char = text ∧ Guarded pipes none marks ∧ Spared lineStart marks := by
  cases lineStart with
  | false => exact exists_marks_charsFrom pipes false none text
  | true => exact exists_marks_listMarker text

theorem exists_marks (text : Text) (lineStart pipes : Bool) :
    ∃ marks : List Mark, Escape.text text lineStart pipes = marks.flatMap Mark.text ∧
      marks.map Mark.char = text ∧ Guarded pipes none marks := by
  obtain ⟨marks, hwritten, hshown, hguarded, -⟩ := exists_spared_marks text lineStart pipes
  exact ⟨marks, hwritten, hshown, hguarded⟩

theorem marks?_text {text : Text} {marks : List Mark} {lineStart pipes : Bool}
    (h : Escape.text text lineStart pipes = marks.flatMap Mark.text)
    (hguarded : Guarded pipes none marks) :
    marks? (Escape.text text lineStart pipes) = some marks := by
  have hread := marks?_flatMap_append hguarded.bare_backslash_not_mem []
  rwa [← h, List.append_nil, marks?, Option.map_some, List.append_nil] at hread

/-- A text that begins with a number, a full stop and white space or the end begins like a list. -/
theorem startsList_of_number {number rest : Text} (hne : number ≠ [])
    (hnumber : ∀ c ∈ number, Text.isDecimalDigit c = true)
    (hrest : rest.head?.all Text.isBlank = true) : startsList (number ++ '.' :: rest) = true := by
  rw [startsList_append_digits hnumber (by rfl)]
  simp [hne, hrest]

/-- An escaped text reads as the text it was, with no live syntax in it. Where it starts a line it
begins neither with a character that opens a block nor with a list marker. Different texts are never
escaped to the same one, and what is written behind an escaped text is read as if it stood alone. -/
theorem exists_marks?_text (text : Text) (lineStart pipes : Bool) :
    (∃ marks, marks? (Escape.text text lineStart pipes) = some marks ∧
      marks.map Mark.char = text ∧
      (∀ before c after, marks = before ++ .bare c :: after →
        c ∉ ['\\', '\x60', '*', '[', ']'] ∧ (pipes = true → c ≠ '|') ∧
          (c = '_' → ∃ left right, before.getLast?.map Mark.char = some left ∧
            after.head?.map Mark.char = some right ∧
            Text.isAlphanumeric left = true ∧ Text.isAlphanumeric right = true)) ∧
      ∀ markup, marks? (Escape.text text lineStart pipes ++ markup) =
        (marks? markup).map (marks ++ ·)) ∧
    (lineStart = true →
      (∀ c ∈ (Escape.text text lineStart pipes).head?, c ∉ ['#', '>', '+', '-', '=']) ∧
      ∀ number rest, Escape.text text lineStart pipes = number ++ '.' :: rest → number ≠ [] →
        (∀ c ∈ number, Text.isDecimalDigit c = true) → rest.head?.all Text.isBlank = false) ∧
    ∀ other lineStart' pipes',
      Escape.text other lineStart' pipes' = Escape.text text lineStart pipes → other = text := by
  obtain ⟨marks, hwritten, hshown, hguarded⟩ := exists_marks text lineStart pipes
  have hmarks := marks?_text hwritten hguarded
  refine ⟨⟨marks, hmarks, hshown, ?_, ?_⟩, ?_, ?_⟩
  · rintro before c after rfl
    obtain ⟨hspecial, hunderscore⟩ := hguarded.harmless
    simp only [isSpecial, Bool.or_eq_false_iff, beq_eq_false_iff_ne, Bool.and_eq_false_imp]
      at hspecial
    refine ⟨by simp [hspecial], hspecial.2, fun hc => ?_⟩
    rw [Option.or_none, Option.any_eq_true, Option.any_eq_true] at hunderscore
    obtain ⟨⟨left, hleft, hleft'⟩, right, hright, hright'⟩ := hunderscore hc
    exact ⟨left, right, hleft, hright, hleft', hright'⟩
  · intro markup
    rw [hwritten, marks?_flatMap_append hguarded.bare_backslash_not_mem]
  · rintro rfl
    refine ⟨?_, ?_⟩
    · intro c hc
      have hopens : (Escape.text text true pipes).head?.any opensBlock = false :=
        any_head?_text text
      rw [Option.mem_def.mp hc, Option.any_some] at hopens
      simpa [opensBlock, and_assoc] using hopens
    · intro number rest heq hne hnumber
      rw [Bool.eq_false_iff]
      intro hblank
      have hstarts := startsList_of_number hne hnumber hblank
      rw [← heq, startsList_text] at hstarts
      exact absurd hstarts Bool.false_ne_true
  · intro other lineStart' pipes' hsame
    obtain ⟨others, hwritten', hshown', hguarded'⟩ := exists_marks other lineStart' pipes'
    have hothers := marks?_text hwritten' hguarded'
    rw [hsame, hmarks] at hothers
    rw [← hshown, ← hshown', Option.some.inj hothers]

end DocumentStream.Escape
