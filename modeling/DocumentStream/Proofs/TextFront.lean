import DocumentStream.Proofs.Escaping
import DocumentStream.Proofs.BlockSeparation
import DocumentStream.Proofs.Splitting

/-!
What an event adds to the beginning of a text. Escaping never changes whether a text begins with a
line feed. An event that writes to the current printer begins with a line feed where it sets itself
off from something before it: a block from an earlier block, a nested list from its item, an item, a
description or a line of a quotation from the one before it. It does so whether or not anything of
the other one is to be seen.
-/

namespace DocumentStream

/-- Whether a text begins with a line feed, if there is any text. -/
def Text.startsLine? (text : Text) : Option Bool := text.head?.map (· == '\n')

namespace Text

theorem startsLine?_cons (c : Char) (text : Text) :
    startsLine? (c :: text) = some (c == '\n') := rfl

theorem startsLine?_append (first second : Text) :
    startsLine? (first ++ second) = (startsLine? first).or (startsLine? second) := by
  cases first <;> rfl

theorem startsLine?_eq_none_iff {text : Text} : startsLine? text = none ↔ text = [] := by
  cases text <;> simp [startsLine?]

theorem startsLine?_times (count : Int) (text : Text) :
    startsLine? (times count text) = if 0 < count then startsLine? text else none := by
  cases hcount : count.toNat with
  | zero =>
    rw [times, hcount, if_neg (by omega)]
    rfl
  | succ n =>
    rw [times, hcount, if_pos (by omega), List.replicate_succ, List.flatten_cons,
      startsLine?_append]
    cases text with
    | nil => simp [startsLine?]
    | cons c text => rfl

end Text

/-- Escaping puts no line feed at the front of a text and takes none away from it. -/
theorem Escape.startsLine?_text (text : Text) (lineStart pipes : Bool) :
    Text.startsLine? (Escape.text text lineStart pipes) = Text.startsLine? text := by
  have hchars : Text.startsLine? (charsFrom pipes lineStart none text) = Text.startsLine? text := by
    cases text with
    | nil => rfl
    | cons c rest =>
      rcases charsFrom_cons c none rest with heq | ⟨hc, heq⟩
      · rw [heq]
        rfl
      · have hother : (c == '\n') = false := by
          rw [beq_eq_false_iff_ne]
          rintro rfl
          exact absurd hc (by decide)
        rw [heq, Text.startsLine?_cons, Text.startsLine?_cons, hother]
        rfl
  cases lineStart with
  | false => exact hchars
  | true => exact (congrArg (Option.map (· == '\n')) (head?_listMarker _)).trans hchars

namespace Printer

/-- Whether what a printer wrote and holds back begins with a line feed, if there is anything. -/
def front? (p : Printer) : Option Bool := Text.startsLine? (p.written ++ p.heldText)

theorem front?_of_pending_eq_nil {p : Printer} (h : p.pending = []) :
    p.front? = Text.startsLine? p.written := by
  rw [front?, heldText_of_pending_eq_nil h, List.append_nil]

theorem startsLine?_written_settled (p : Printer) :
    Text.startsLine? p.settled.written = p.front? := by
  rw [written_settled, front?, Text.startsLine?_append, Text.startsLine?_append]
  split
  · rw [Escape.startsLine?_text]
  · rfl

theorem front?_settled (p : Printer) : p.settled.front? = p.front? := by
  rw [front?_of_pending_eq_nil p.settled_pending, startsLine?_written_settled]

theorem front?_settled_write (p : Printer) (markup : Text) :
    (p.settled.write markup).front? = p.front?.or (Text.startsLine? markup) := by
  have hpending : (p.settled.write markup).pending = [] := by
    rw [write_pending, settled_pending]
  rw [front?_of_pending_eq_nil hpending, written_write, Text.startsLine?_append,
    startsLine?_written_settled]

theorem front?_delay (p : Printer) (value : Value) :
    (p.delay value).front? = p.front?.or (Text.startsLine? (value.text?.getD [])) := by
  rw [front?, heldText_delay, ← List.append_assoc, Text.startsLine?_append]
  rfl

theorem front?_eq_none_iff {p : Printer} :
    p.front? = none ↔ p.written = [] ∧ p.heldText = [] := by
  rw [front?, Text.startsLine?_eq_none_iff, List.append_eq_nil_iff]

end Printer

namespace Renderer

/-- Whether what the current printer wrote and holds back begins with a line feed. -/
def front? (r : Renderer) : Option Bool := r.printer.front?

/-- How a block begins that is set off from what came before, if anything did. -/
def separator? (r : Renderer) : Option Bool := if r.hasBlock then some true else none

@[simp] theorem front?_withPrinter (r : Renderer) (p : Printer) :
    (r.withPrinter p).front? = p.front? := by
  rw [front?, printer_withPrinter]

@[simp] theorem front?_printed (r : Renderer) (markup : Text) :
    (r.printed markup).front? = r.front?.or (Text.startsLine? markup) := by
  rw [printed, front?_withPrinter, Printer.front?_settled_write]
  rfl

@[simp] theorem front?_held (r : Renderer) (value : Value) :
    (r.held value).front? = r.front?.or (Text.startsLine? (value.text?.getD [])) := by
  rw [held, front?_withPrinter, Printer.front?_delay]
  rfl

@[simp] theorem front?_settled (r : Renderer) : r.settled.front? = r.front? := by
  rw [settled, front?_withPrinter, Printer.front?_settled]
  rfl

@[simp] theorem front?_lineStarted (r : Renderer) : r.lineStarted.front? = r.front? := by
  rw [lineStarted, front?_withPrinter]
  rfl

@[simp] theorem front?_setOff (r : Renderer) : r.setOff.front? = r.front?.or r.separator? := by
  unfold setOff separator?
  cases r.hasBlock with
  | true => simp [Text.startsLine?]
  | false => exact (Option.or_none).symm

@[simp] theorem front?_setOffIn (r : Renderer) (nesting : Nesting) :
    (r.setOffIn nesting).front? =
      r.front?.or (if nesting.isInLine then none else r.separator?) := by
  unfold setOffIn
  split
  · exact Option.or_none.symm
  · exact front?_setOff r

@[simp] theorem front?_headingMarked (r : Renderer) (level : Value) :
    (r.headingMarked level).front? =
      r.front?.or (if 2 < level.level then some false else none) := by
  unfold headingMarked
  split
  · rename_i hlevel
    rw [front?_printed, Text.startsLine?_append, Text.startsLine?_times, if_pos (by omega)]
    rfl
  · exact Option.or_none.symm

@[simp] theorem front?_separated (r : Renderer) (index : Int) :
    (r.separated index).front? = r.front?.or (if 0 < index then some true else none) := by
  unfold separated
  split
  · exact front?_printed r _
  · exact Option.or_none.symm

/-- Whether what the opening of a construct writes begins with a line feed, if it writes anything.
The bracket of a link counts as written there. -/
def opening? (r : Renderer) (nesting : Nesting) : Construct → Option Bool
  | .document _ | .definitionList _ | .row _ | .cell .. => none
  | .paragraph _ | .table _ => r.separator?
  | .heading level _ _ => r.separator?.or (if 2 < level.level then some false else none)
  | .list .. => if nesting.listDepth = 1 then r.separator? else some true
  | .listItem => some (decide (0 < nesting.listItem))
  | .term => r.separator?.or (if 1 < nesting.definitionDepth then some false else none)
  | .description => some (decide (0 < nesting.definitionItem))
  | .quotation _ => if nesting.isInQuotationLine then none else r.separator?
  | .quotationLine =>
    if 0 < nesting.quotationLine then some true
    else if 0 < nesting.quotationDepth then some false else none
  | .format style _ => if style = .plain then none else some false
  | .link .. => some false

/-- Whether what the closing of a construct writes, but for what was captured in it, begins with a
line feed, if it writes anything. -/
def closing? (r : Renderer) : Construct → Option Bool
  | .document _ =>
    if (r.abbreviations.head?.getD []).isEmpty then none else r.separator?.or (some false)
  | .heading level _ _ => some (decide (level.level = 1 ∨ level.level = 2))
  | .table _ => if (r.tables.head?.getD []).isEmpty then none else some false
  | .format style _ => if style = .plain then none else some false
  | _ => none

/-- Whether what a leaf writes begins with a line feed, if it writes anything. -/
def leaf? (r : Renderer) (nesting : Nesting) : Leaf → Option Bool
  | .word text => Text.startsLine? (text.text?.getD [])
  | .space | .lineBreak | .image .. => some false
  | .symbol symbol =>
    if (Rendering.symbolMarkup? symbol).isSome then some false
    else Text.startsLine? (symbol.text?.getD [])
  | .rawText text _ =>
    match Abbreviation.ofRawText? (text.text?.getD []) with
    | some abbreviation => Text.startsLine? abbreviation.key
    | none =>
      (if nesting.isInLine then none else r.separator?).or (Text.startsLine? (text.text?.getD []))
  | .call id content isInline parameters =>
    let separator := if isInline.isTruthy || nesting.isInLine then none else r.separator?
    if Rendering.isCode id then
      if isInline.isTruthy then some false
      else separator.or (Text.startsLine? (codeBlock (content.text?.getD []) parameters))
    else if r.options.unhandledMacroMode = .wiki then separator.or (some false)
    else none
  | .rule _ => r.separator?.or (some false)

theorem startsLine?_formatStart (style : Format) :
    Text.startsLine? (Rendering.formatStart style) =
      if style = .plain then none else some false := by
  cases style <;> rfl

theorem startsLine?_formatEnd (style : Format) :
    Text.startsLine? (Rendering.formatEnd style) =
      if style = .plain then none else some false := by
  cases style <;> rfl

/-- A line of its own for an item begins with a line feed unless it is the first. -/
theorem front?_marked (r : Renderer) (index depth : Int) {marker : Text}
    (hmarker : Text.startsLine? marker = some false) :
    ((r.separated index).printed (Text.times depth Rendering.indent ++ marker)).lineStarted.front? =
      r.front?.or (some (decide (0 < index))) := by
  have hindent : (Text.startsLine? (Text.times depth Rendering.indent ++ marker)) = some false := by
    rw [Text.startsLine?_append, Text.startsLine?_times, hmarker]
    split <;> rfl
  rw [front?_lineStarted, front?_printed, front?_separated, hindent, Option.or_assoc]
  by_cases hindex : 0 < index <;> simp [hindex]

/-- What a construct that captures nothing writes when it opens. -/
theorem front?_opened {r : Renderer} (nesting : Nesting) {construct : Construct}
    (hadmits : r.AdmitsOpening construct) (hcaptured : construct.kind.isCaptured = false) :
    (r.opened nesting construct).front? = r.front?.or (r.opening? nesting construct) := by
  cases construct with
  | heading _ _ _ | cell _ _ | link _ _ _ => exact absurd hcaptured Bool.false_ne_true.symm
  | document _ | definitionList _ | row _ => exact Option.or_none.symm
  | paragraph parameters => exact front?_setOff r
  | table parameters => exact front?_setOff r
  | list kind parameters =>
    simp only [opened, opening?]
    split
    · exact front?_setOff r
    · exact front?_printed r _
  | listItem =>
    obtain ⟨style, styles, hstyles⟩ := List.exists_cons_of_ne_nil hadmits
    simp only [opened, hstyles, opening?]
    exact front?_marked r _ _ (by cases style <;> rfl)
  | term =>
    have hdepth : 0 < nesting.definitionDepth - 1 ↔ 1 < nesting.definitionDepth := by omega
    simp only [opened, opening?, front?_lineStarted, front?_printed, front?_setOff,
      Text.startsLine?_times, hdepth, Option.or_assoc]
    rfl
  | description => exact front?_marked r _ _ rfl
  | quotation parameters =>
    simp only [opened, opening?]
    cases nesting.isInQuotationLine with
    | true => exact Option.or_none.symm
    | false => exact front?_setOff r
  | quotationLine =>
    simp only [opened, opening?]
    split
    · rw [front?_lineStarted, front?_printed, front?_printed, Option.or_assoc]
      rfl
    · rw [front?_lineStarted, front?_printed, Text.startsLine?_times]
      rfl
  | format style parameters => rw [opened, front?_printed, startsLine?_formatStart]; rfl

theorem startsLine?_join {first : Text} {rest : List Text} (separator : Text)
    (hfirst : Text.startsLine? first = some false) :
    Text.startsLine? (Text.join separator (first :: rest)) = some false := by
  rw [Text.join_cons, Text.startsLine?_append, hfirst]
  rfl

theorem startsLine?_format (rows : List (List Text)) :
    Text.startsLine? (Table.format rows) = if rows.isEmpty then none else some false := by
  cases rows with
  | nil => rfl
  | cons row rows => exact startsLine?_join _ rfl

theorem startsLine?_image {serialize : Serializer} {reference : Reference} {alt : Value}
    {markup : Text} (h : reference.image serialize alt = .ok markup) :
    Text.startsLine? markup = some false := by
  unfold Reference.image at h
  cases htarget : serialize reference with
  | error fault =>
    rw [htarget] at h
    cases h
  | ok target =>
    rw [htarget] at h
    cases alt <;> cases h <;> rfl

theorem startsLine?_link {serialize : Serializer} {reference : Reference} {label : Text}
    {markup : Text} (h : reference.link serialize label = .ok markup) :
    Text.startsLine? markup = some false := by
  unfold Reference.link at h
  cases htarget : serialize reference with
  | error fault =>
    rw [htarget] at h
    cases h
  | ok target =>
    rw [htarget] at h
    cases label <;> cases h <;> rfl

theorem startsLine?_symbolMarkup {symbol : Value} {markup : Text}
    (h : Rendering.symbolMarkup? symbol = some markup) :
    Text.startsLine? markup = some false := by
  unfold Rendering.symbolMarkup? at h
  split at h <;> cases h <;> rfl

/-- What is written outside of lines is set off first. -/
theorem front?_setOffIn_printed (r : Renderer) (nesting : Nesting) (markup : Text) :
    ((r.setOffIn nesting).printed markup).front? =
      r.front?.or
        ((if nesting.isInLine then none else r.separator?).or (Text.startsLine? markup)) := by
  rw [front?_printed, front?_setOffIn, Option.or_assoc]

@[simp] theorem front?_defined (r : Renderer) (abbreviation : Abbreviation) :
    (r.defined abbreviation).front? = r.front? := by
  unfold defined
  split
  · rfl
  · split <;> rfl

@[simp] theorem front?_passedOver (r : Renderer) (text : Text) :
    (r.passedOver text).front? = r.front? := by
  unfold passedOver
  split
  · split <;> rfl
  · rfl

theorem separator?_passedOver (r : Renderer) (text : Text) :
    (r.passedOver text).separator? = r.separator? := by
  rw [separator?, hasBlock_passedOver, separator?]

/-- What a construct that captures nothing writes when it closes. -/
theorem front?_closed (r : Renderer) {construct : Construct}
    (hcaptured : construct.kind.isCaptured = false) :
    (r.closed construct).front? = r.front?.or (r.closing? construct) := by
  cases construct with
  | heading _ _ _ | cell _ _ | link _ _ _ => exact absurd hcaptured Bool.false_ne_true.symm
  | paragraph _ | listItem | definitionList _ | quotation _ | row _ => exact Option.or_none.symm
  | document parameters =>
    let left : Renderer := { r with abbreviations := r.abbreviations.tail }
    simp only [closed, closing?]
    split
    · rename_i hscope
      rw [hscope, List.isEmpty_nil, if_pos rfl, Option.or_none]
      exact front?_settled left
    · rename_i hscope
      have hfilled : (r.abbreviations.head?.getD []).isEmpty = false := by
        simpa [List.isEmpty_eq_false_iff] using hscope
      obtain ⟨first, rest, hcons⟩ := List.exists_cons_of_ne_nil
        (List.isEmpty_eq_false_iff.mp hfilled)
      have hdefinitions : Text.startsLine? (Text.join ['\n']
          ((r.abbreviations.head?.getD []).map Rendering.definitionLine)) = some false := by
        rw [hcons]
        exact startsLine?_join _ rfl
      rw [if_neg (by simp [hfilled]), front?_settled, front?_printed, front?_setOff, hdefinitions,
        Option.or_assoc]
      rfl
  | list kind parameters => exact (front?_settled _).trans Option.or_none.symm
  | term | description | quotationLine => exact (front?_settled r).trans Option.or_none.symm
  | table parameters =>
    rw [closed, closing?, front?_printed, startsLine?_format]
    rfl
  | format style parameters => rw [closed, front?_printed, startsLine?_formatEnd]; rfl

theorem front?_coded (r : Renderer) (nesting : Nesting) (content isInline : Value)
    (parameters : Parameters) :
    (r.coded nesting content isInline parameters).front? =
      r.front?.or
        (if isInline.isTruthy then some false
        else (if isInline.isTruthy || nesting.isInLine then none else r.separator?).or
          (Text.startsLine? (codeBlock (content.text?.getD []) parameters))) := by
  unfold coded
  cases isInline.isTruthy with
  | true => exact front?_printed r _
  | false => exact front?_setOffIn_printed r nesting _

theorem front?_called (r : Renderer) (nesting : Nesting) {id content : Value} (isInline : Value)
    {entries : Entries} (hid : id.isText = true) (hcontent : content.isOptionalText = true)
    (hentries : Entries.areTexts entries = true) :
    (r.called nesting id content isInline (some entries)).front? =
      r.front?.or
        (if r.options.unhandledMacroMode = .wiki then
          (if isInline.isTruthy || nesting.isInLine then none else r.separator?).or (some false)
        else none) := by
  obtain ⟨call, hcall⟩ := Rendering.exists_macroCall hid hcontent hentries
  have hmarkup : Text.startsLine? call.text = some false := by
    unfold MacroCall.text
    split <;> rfl
  simp only [called, Option.getD_some, hcall]
  cases r.options.unhandledMacroMode with
  | refuse => exact Option.or_none.symm
  | drop => exact Option.or_none.symm
  | wiki =>
    cases isInline.isTruthy with
    | true =>
      simp only [if_true, front?_printed, hmarkup]
      rfl
    | false =>
      simp only [Bool.false_eq_true, if_false, front?_setOffIn_printed, hmarkup]
      rfl

/-- What a leaf writes. -/
theorem front?_shown {r : Renderer} (hr : r.Steady) (nesting : Nesting) {l : Leaf}
    (hl : l.isWellTyped = true) : (r.shown nesting l).front? = r.front?.or (r.leaf? nesting l) := by
  cases l with
  | word text => exact front?_held r text
  | space => exact front?_held r _
  | lineBreak => exact front?_printed r _
  | symbol value =>
    simp only [shown, leaf?]
    cases hmarkup : Rendering.symbolMarkup? value with
    | some markup =>
      rw [front?_printed, startsLine?_symbolMarkup hmarkup]
      rfl
    | none => exact front?_held r value
  | rawText value markup =>
    simp only [Leaf.isWellTyped, Bool.and_eq_true] at hl
    obtain ⟨text, rfl⟩ := Value.exists_text_of_isText hl.1
    simp only [shown, leaf?, Value.text?, Option.getD_some]
    cases Abbreviation.ofRawText? text with
    | some abbreviation => rw [front?_printed, front?_defined]
    | none =>
      dsimp only
      rw [front?_setOffIn_printed, front?_passedOver, separator?_passedOver]
  | image reference alt isFreeStanding parameters =>
    simp only [Leaf.isWellTyped, Bool.and_eq_true] at hl
    obtain ⟨⟨⟨hreference, halt⟩, -⟩, hparameters⟩ := hl
    obtain ⟨entries, rfl, hentries⟩ := Parameters.exists_entries_of_areTexts hparameters
    obtain ⟨markup, hmarkup⟩ := Rendering.exists_image hr.imageTarget hreference
      (Rendering.alternative_isOptionalText halt hentries)
    simp only [shown, leaf?, hmarkup]
    rw [front?_printed, startsLine?_image hmarkup]
  | call id content isInline parameters =>
    simp only [Leaf.isWellTyped, Bool.and_eq_true] at hl
    obtain ⟨⟨⟨hid, hcontent⟩, -⟩, hparameters⟩ := hl
    obtain ⟨entries, rfl, hentries⟩ := Parameters.exists_entries_of_areTexts hparameters
    simp only [shown, leaf?]
    cases Rendering.isCode id with
    | true => exact front?_coded r nesting content isInline (some entries)
    | false => exact front?_called r nesting isInline hid hcontent hentries
  | rule parameters =>
    rw [shown, leaf?, front?_printed, front?_setOff, Option.or_assoc]
    rfl

end Renderer

end DocumentStream
