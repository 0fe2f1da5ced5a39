import DocumentStream.Proofs.Writing

/-!
Rendered text in pieces. A piece is markup, which stands as it is, or document text, which is
escaped once, as at the start of a line or within one. A draft does what a printer does and keeps
the pieces apart, so that what it holds does not depend on whether and how document text is
escaped. A printer shows a draft if what it wrote are the pieces of the draft, behind a text that
was there before.
-/

namespace DocumentStream

namespace Escape

variable {pipes : Bool}

theorem getLast?_charsFrom (lineStart : Bool) (before : Option Char) (text : Text) :
    (charsFrom pipes lineStart before text).getLast? = text.getLast? := by
  induction text generalizing lineStart before with
  | nil => rfl
  | cons c rest ih =>
    rw [charsFrom, List.getLast?_append, ih, List.getLast?_cons]
    split <;> cases rest.getLast? <;> rfl

theorem getLast?_listMarker (text : Text) : (listMarker text).getLast? = text.getLast? := by
  unfold listMarker
  dsimp only
  split
  · rename_i rest hrest
    split
    · calc
        (text.takeWhile Text.isDecimalDigit ++ '\\' :: '.' :: rest).getLast? =
            (text.takeWhile Text.isDecimalDigit ++ '.' :: rest).getLast? := by
          simp only [List.getLast?_append, List.getLast?_cons_cons]
        _ = text.getLast? := by rw [← hrest, List.takeWhile_append_dropWhile]
    · rfl
  · rfl

/-- A text that is escaped ends as it did before. -/
theorem getLast?_text (text : Text) (lineStart : Bool) :
    (Escape.text text lineStart pipes).getLast? = text.getLast? := by
  unfold Escape.text
  dsimp only
  split
  · rw [getLast?_listMarker, getLast?_charsFrom]
  · exact getLast?_charsFrom _ _ _

theorem mem_charsFrom {pipes lineStart : Bool} {before : Option Char} {text : Text} {c : Char}
    (h : c ∈ charsFrom pipes lineStart before text) : c = '\\' ∨ c ∈ text := by
  induction text generalizing lineStart before with
  | nil => simp [charsFrom] at h
  | cons first rest ih =>
    rw [charsFrom] at h
    rcases List.mem_append.mp h with hfirst | hrest
    · split at hfirst
      · simp only [List.mem_cons, List.not_mem_nil, or_false] at hfirst ⊢
        rcases hfirst with rfl | rfl
        · exact Or.inl rfl
        · exact Or.inr (Or.inl rfl)
      · exact Or.inr (List.mem_cons.mpr (Or.inl (List.mem_singleton.mp hfirst)))
    · rcases ih hrest with hbackslash | hmem
      · exact Or.inl hbackslash
      · exact Or.inr (List.mem_cons_of_mem first hmem)

theorem mem_listMarker {text : Text} {c : Char} (h : c ∈ listMarker text) :
    c = '\\' ∨ c ∈ text := by
  unfold listMarker at h
  dsimp only at h
  split at h
  · rename_i rest hrest
    split at h
    · rw [← List.takeWhile_append_dropWhile (p := Text.isDecimalDigit) (l := text), hrest]
      simp only [List.mem_append, List.mem_cons] at h ⊢
      rcases h with hmem | hmem | hmem
      · exact Or.inr (Or.inl hmem)
      · exact Or.inl hmem
      · exact Or.inr (Or.inr hmem)
    · exact Or.inr h
  · exact Or.inr h

/-- Escaping adds no characters but backslashes. -/
theorem mem_text {text : Text} {lineStart pipes : Bool} {c : Char}
    (h : c ∈ Escape.text text lineStart pipes) : c = '\\' ∨ c ∈ text := by
  unfold Escape.text at h
  dsimp only at h
  split at h
  · rcases mem_listMarker h with hbackslash | hmem
    · exact Or.inl hbackslash
    · exact mem_charsFrom hmem
  · exact mem_charsFrom h

end Escape

/-- A part of a rendered text. -/
inductive Piece where
  | markup (text : Text)
  | document (text : Text) (lineStart : Bool)
  deriving DecidableEq, Repr

namespace Piece

/-- The text of a piece before anything is escaped. -/
def text : Piece → Text
  | .markup text | .document text _ => text

/-- What of a piece is text of the document. -/
def documentText : Piece → Text
  | .markup _ => []
  | .document text _ => text

/-- A piece as a printer writes it that escapes document text, and bars in it, or not. -/
def shown (escapes pipes : Bool) : Piece → Text
  | .markup text => text
  | .document text lineStart => if escapes then Escape.text text lineStart pipes else text

theorem getLast?_shown (escapes pipes : Bool) (piece : Piece) :
    (piece.shown escapes pipes).getLast? = piece.text.getLast? := by
  cases piece with
  | markup text => rfl
  | document text lineStart =>
    simp only [shown, Piece.text]
    split
    · exact Escape.getLast?_text text lineStart
    · rfl

theorem getLast?_flatMap_shown (escapes pipes : Bool) (pieces : List Piece) :
    (pieces.flatMap (shown escapes pipes)).getLast? = (pieces.flatMap Piece.text).getLast? := by
  induction pieces with
  | nil => rfl
  | cons piece rest ih =>
    simp only [List.flatMap_cons, List.getLast?_append, ih, getLast?_shown]

theorem isEmpty_flatMap_shown (escapes pipes : Bool) (pieces : List Piece) :
    (pieces.flatMap (shown escapes pipes)).isEmpty = (pieces.flatMap Piece.text).isEmpty := by
  rw [Bool.eq_iff_iff, List.isEmpty_iff, List.isEmpty_iff, ← List.getLast?_eq_none_iff,
    ← List.getLast?_eq_none_iff, getLast?_flatMap_shown]

theorem endsLine_flatMap_shown (escapes pipes : Bool) (pieces : List Piece) :
    Text.endsLine (pieces.flatMap (shown escapes pipes)) =
      Text.endsLine (pieces.flatMap Piece.text) := by
  rw [Text.endsLine, getLast?_flatMap_shown, Text.endsLine]

end Piece

/-- A printer that keeps the pieces of what it wrote. -/
structure Draft where
  pieces : List Piece := []
  pending : List Value := []
  lineStart : Bool := true

namespace Draft

/-- The draft after pieces are written. -/
def write (d : Draft) (pieces : List Piece) : Draft :=
  let text := pieces.flatMap Piece.text
  { d with
    pieces := d.pieces ++ pieces
    lineStart := if text.isEmpty then d.lineStart else Text.endsLine text }

/-- The text held back, as one piece. -/
def heldText (d : Draft) : Text := d.pending.flatMap fun value => value.text?.getD []

/-- The draft after the text held back is written. -/
def settled (d : Draft) : Draft :=
  if d.pending.isEmpty then d
  else { d with pending := [] }.write [.document d.heldText d.lineStart]

/-- The draft after markup is written. -/
def printed (d : Draft) (markup : Text) : Draft := d.settled.write [.markup markup]

/-- The draft after a value is held back. -/
def delay (d : Draft) (value : Value) : Draft := { d with pending := d.pending ++ [value] }

/-- Whether the next character starts a line. -/
def isOnNewLine (d : Draft) : Bool := d.pending.isEmpty && d.lineStart

/-- The draft after a link is written whose label has a draft of its own. -/
def linked (d label : Draft) (target : Text) : Draft :=
  let pieces := label.settled.pieces
  d.settled.write
    (if (pieces.flatMap Piece.text).isEmpty then [.markup (['[', '['] ++ target ++ [']', ']'])]
    else .markup ['['] :: pieces ++ [.markup (']' :: '(' :: target ++ [')'])])

/-- The text of a draft as it is written in the end. -/
def shown (d : Draft) (escapes pipes : Bool) : Text :=
  d.settled.pieces.flatMap (Piece.shown escapes pipes)

/-- What of a draft is text of the document. -/
def documentText (d : Draft) : Text := d.settled.pieces.flatMap Piece.documentText

theorem settled_pending (d : Draft) : d.settled.pending = [] := by
  unfold settled
  split
  · rename_i h
    exact List.isEmpty_iff.mp h
  · rfl

end Draft

namespace Printer

/-- Whether a printer wrote the pieces of a draft behind a past, and is in the state of the
draft. -/
structure Shows (past : Text) (d : Draft) (p : Printer) : Prop where
  written : p.written = past ++ d.pieces.flatMap (Piece.shown p.escapes p.escapesPipes)
  pending : p.pending = d.pending
  lineStart : p.lineStart = d.lineStart

theorem settings_eq_iff {p q : Printer} :
    p.settings = q.settings ↔
      p.sink = q.sink ∧ p.escapes = q.escapes ∧ p.escapesPipes = q.escapesPipes := by
  simp [settings]

namespace Shows

variable {past : Text} {d : Draft} {p : Printer}

/-- Writing pieces as the printer shows them. -/
theorem write (h : p.Shows past d) {text : Text} {pieces : List Piece}
    (htext : pieces.flatMap (Piece.shown p.escapes p.escapesPipes) = text) :
    (p.write text).Shows past (d.write pieces) := by
  have hempty : (pieces.flatMap Piece.text).isEmpty = text.isEmpty := by
    rw [← htext, Piece.isEmpty_flatMap_shown]
  have hends : Text.endsLine (pieces.flatMap Piece.text) = Text.endsLine text := by
    rw [← htext, Piece.endsLine_flatMap_shown]
  have hwritten : p.written ++ text =
      past ++ (d.pieces ++ pieces).flatMap (Piece.shown p.escapes p.escapesPipes) := by
    rw [h.written, List.flatMap_append, htext, List.append_assoc]
  cases hcase : text.isEmpty with
  | true =>
    rw [List.isEmpty_iff.mp hcase, List.append_nil] at hwritten
    simp only [Printer.write, hcase, if_true]
    exact ⟨hwritten, h.pending, by simp [Draft.write, hempty, hcase, h.lineStart]⟩
  | false =>
    simp only [Printer.write, hcase, Bool.false_eq_true, if_false]
    exact ⟨hwritten, h.pending, by simp [Draft.write, hempty, hcase, hends]⟩

theorem settled (h : p.Shows past d) : p.settled.Shows past d.settled := by
  unfold Printer.settled Draft.settled
  rw [h.pending]
  split
  · exact h
  · have hheld : p.heldText = d.heldText := by rw [Printer.heldText, h.pending, Draft.heldText]
    have hcleared : ({ p with pending := [] } : Printer).Shows past { d with pending := [] } :=
      ⟨h.written, rfl, h.lineStart⟩
    refine hcleared.write ?_
    simp [Piece.shown, hheld, h.lineStart]

theorem printed (h : p.Shows past d) (markup : Text) :
    (p.settled.write markup).Shows past (d.printed markup) :=
  h.settled.write (by simp [Piece.shown])

theorem delay (h : p.Shows past d) (value : Value) : (p.delay value).Shows past (d.delay value) :=
  ⟨h.written, congrArg (· ++ [value]) h.pending, h.lineStart⟩

theorem isOnNewLine_eq (h : p.Shows past d) : p.isOnNewLine = d.isOnNewLine := by
  rw [Printer.isOnNewLine, h.pending, h.lineStart, Draft.isOnNewLine]

/-- What a printer wrote in the end is its past and the text of the draft. -/
theorem written_settled (h : p.Shows past d) :
    p.settled.written = past ++ d.shown p.escapes p.escapesPipes := by
  obtain ⟨-, hescapes, hpipes⟩ := settings_eq_iff.mp p.settled_settings
  rw [h.settled.written, hescapes, hpipes, Draft.shown]

end Shows

end Printer

end DocumentStream
