import DocumentStream.Proofs.BlockComposition

/-!
Where blocks are set off. The events of a stream alone say which of them begin a block, namely by
the constructs around them and by the abbreviations of the open documents. A renderer notes that a
block was begun and writes an empty line in front of every later one. Inline content leaves no such
note, so that the first block of a stream follows it without an empty line.
-/

namespace DocumentStream

/-- What of a stream decides where blocks begin. -/
structure BlockContext where
  opened : OpenConstructs := []
  /-- Of each open document, innermost first, whether an abbreviation was met in it. -/
  defines : List Bool := []

namespace BlockContext

def isInLine (c : BlockContext) : Bool := c.opened.any ConstructKind.isLine

/-- The context after an event. -/
def after (c : BlockContext) : Event → BlockContext
  | .opening construct =>
    { opened := construct.kind :: c.opened
      defines := if construct.kind = .document then false :: c.defines else c.defines }
  | .closing construct =>
    { opened := c.opened.tail
      defines := if construct.kind = .document then c.defines.tail else c.defines }
  | .leaf l =>
    { c with
      defines := if l.isAbbreviation then c.defines.modifyHead fun _ => true else c.defines }
  | .foreign _ => c

/-- The context at the end of some events. -/
def of (events : List Event) : BlockContext := events.foldl after {}

/-- Whether a construct that opens begins a block. -/
def beginsConstruct (c : BlockContext) : Construct → Bool
  | .paragraph _ | .heading .. | .term | .table _ => true
  | .list .. => decide (.list ∉ c.opened)
  | .quotation _ => decide (.quotationLine ∉ c.opened)
  | _ => false

/-- Whether a leaf is a block. Outside of lines that is so of raw text and of macros, unless the
text defines an abbreviation or the macro is an inline one or leaves no markup. -/
def beginsLeaf (mode : MacroMode) (c : BlockContext) : Leaf → Bool
  | .rule _ => true
  | .rawText text markup => !c.isInLine && !(Leaf.rawText text markup).isAbbreviation
  | .call id _ isInline _ =>
    !c.isInLine && !isInline.isTruthy && (Rendering.isCode id || decide (mode = .wiki))
  | _ => false

/-- Whether an event begins a block. A document that closes begins the block of its definitions, if
there are any. -/
def begins (mode : MacroMode) (c : BlockContext) : Event → Bool
  | .opening construct => c.beginsConstruct construct
  | .closing construct => decide (construct.kind = .document) && c.defines.head?.getD false
  | .leaf l => c.beginsLeaf mode l
  | .foreign _ => false

/-- Whether one of some events begins a block. -/
def beginsAny (mode : MacroMode) (c : BlockContext) : List Event → Bool
  | [] => false
  | e :: rest => c.begins mode e || (c.after e).beginsAny mode rest

theorem opened_after {c : BlockContext} {e : Event} {next : OpenConstructs}
    (h : OpenConstructs.step? none c.opened e = some next) : (c.after e).opened = next := by
  cases e with
  | opening construct => exact (OpenConstructs.step?_opening_eq_some_iff.mp h).2
  | closing construct =>
    simp only [after, OpenConstructs.step?_closing_eq_some_iff.mp h, List.tail_cons]
  | leaf l => exact Option.some.inj h
  | foreign name => exact Option.some.inj h

/-- What begins a block defines no abbreviation. -/
theorem isAbbreviation_of_begins {c : BlockContext} {mode : MacroMode} {e : Event}
    (h : c.begins mode e = true) : e.isAbbreviation = false := by
  cases e with
  | leaf l =>
    cases l with
    | rawText text markup =>
      simp only [begins, beginsLeaf, Bool.and_eq_true, Bool.not_eq_true'] at h
      exact h.2
    | _ => rfl
  | _ => rfl

/-- A macro that is to be refused begins no block. -/
theorem mode_ne_refuse_of_begins {c : BlockContext} {mode : MacroMode} {e : Event}
    (h : c.begins mode e = true) (he : e.isUnhandled = true) : mode ≠ .refuse := by
  rintro rfl
  cases e with
  | leaf l => cases l <;> simp_all [begins, beginsLeaf, Event.isUnhandled, Leaf.isUnhandled]
  | _ => simp [Event.isUnhandled] at he

end BlockContext

namespace Printer

theorem written_write (p : Printer) (text : Text) :
    (p.write text).written = p.written ++ text := by
  unfold write
  split
  · rename_i hempty
    rw [List.isEmpty_iff.mp hempty, List.append_nil]
  · rfl

theorem settled_eq_self {p : Printer} (h : p.pending = []) : p.settled = p := by
  rw [settled, h]
  rfl

theorem heldText_of_pending_eq_nil {p : Printer} (h : p.pending = []) : p.heldText = [] := by
  rw [heldText, h]
  rfl

theorem heldText_delay (p : Printer) (value : Value) :
    (p.delay value).heldText = p.heldText ++ value.text?.getD [] := by
  simp [heldText, Printer.delay]

/-- Writing what is held back adds it in the form that its place asks for. -/
theorem written_settled (p : Printer) :
    p.settled.written =
      p.written ++ if p.escapes then Escape.text p.heldText p.lineStart p.escapesPipes
        else p.heldText := by
  unfold settled
  split
  · rename_i hpending
    rw [heldText_of_pending_eq_nil (List.isEmpty_iff.mp hpending)]
    cases p.lineStart <;> cases p.escapes <;> exact (List.append_nil _).symm
  · exact written_write _ _

theorem written_prefix_settled (p : Printer) : p.written <+: p.settled.written := by
  rw [written_settled]
  exact List.prefix_append _ _

end Printer

namespace Renderer

variable {r : Renderer}

@[simp] theorem hasBlock_withPrinter (r : Renderer) (p : Printer) :
    (r.withPrinter p).hasBlock = r.hasBlock := by
  unfold withPrinter
  split <;> rfl

@[simp] theorem hasBlock_printed (r : Renderer) (markup : Text) :
    (r.printed markup).hasBlock = r.hasBlock := hasBlock_withPrinter r _

@[simp] theorem hasBlock_held (r : Renderer) (value : Value) :
    (r.held value).hasBlock = r.hasBlock := hasBlock_withPrinter r _

@[simp] theorem hasBlock_settled (r : Renderer) : r.settled.hasBlock = r.hasBlock :=
  hasBlock_withPrinter r _

@[simp] theorem hasBlock_lineStarted (r : Renderer) : r.lineStarted.hasBlock = r.hasBlock :=
  hasBlock_withPrinter r _

@[simp] theorem hasBlock_setOff (r : Renderer) : r.setOff.hasBlock = true := by
  unfold setOff
  split
  · rename_i hblock
    rw [hasBlock_printed, hblock]
  · rfl

@[simp] theorem hasBlock_setOffIn (r : Renderer) (nesting : Nesting) :
    (r.setOffIn nesting).hasBlock = (r.hasBlock || !nesting.isInLine) := by
  unfold setOffIn
  cases nesting.isInLine <;> simp

@[simp] theorem hasBlock_headingMarked (r : Renderer) (level : Value) :
    (r.headingMarked level).hasBlock = r.hasBlock := by
  unfold headingMarked
  split <;> simp

@[simp] theorem hasBlock_separated (r : Renderer) (index : Int) :
    (r.separated index).hasBlock = r.hasBlock := by
  unfold separated
  split <;> simp

@[simp] theorem hasBlock_released (r : Renderer) : r.released.hasBlock = r.hasBlock := rfl

@[simp] theorem hasBlock_captured (r : Renderer) (p : Printer) :
    (r.captured p).hasBlock = r.hasBlock := rfl

@[simp] theorem hasBlock_passedOver (r : Renderer) (text : Text) :
    (r.passedOver text).hasBlock = r.hasBlock := by
  unfold passedOver
  split
  · split <;> rfl
  · rfl

@[simp] theorem hasBlock_defined (r : Renderer) (abbreviation : Abbreviation) :
    (r.defined abbreviation).hasBlock = r.hasBlock := by
  unfold defined
  split
  · rfl
  · split <;> rfl

/-- A construct is noted as a block just when it is set off. -/
theorem hasBlock_opened (r : Renderer) (nesting : Nesting) (construct : Construct) :
    (r.opened nesting construct).hasBlock = (r.hasBlock || construct.setsOff nesting) := by
  cases construct with
  | list kind parameters =>
    simp only [opened, Construct.setsOff]
    split <;> simp_all
  | listItem =>
    simp only [opened, Construct.setsOff]
    split <;> simp
  | quotation parameters =>
    simp only [opened, Construct.setsOff]
    cases nesting.isInQuotationLine <;> simp
  | quotationLine =>
    simp only [opened, Construct.setsOff]
    split <;> simp
  | _ => simp [opened, Construct.setsOff]

theorem hasBlock_closed (r : Renderer) (construct : Construct) :
    (r.closed construct).hasBlock =
      (r.hasBlock || (decide (construct.kind = .document) &&
        !(r.abbreviations.head?.getD []).isEmpty)) := by
  cases construct with
  | document parameters =>
    simp only [closed, Construct.kind]
    split <;> simp_all
  | link reference isFreeStanding parameters =>
    simp only [closed, Construct.kind]
    split <;> simp
  | _ => simp [closed, Construct.kind]

/-- A leaf is noted as a block just when it is one. -/
theorem hasBlock_shown {nesting : Nesting} {c : BlockContext}
    (hline : nesting.isInLine = c.isInLine) {l : Leaf} (hl : l.isWellTyped = true) :
    (r.shown nesting l).hasBlock =
      (r.hasBlock || c.beginsLeaf r.options.unhandledMacroMode l) := by
  cases l with
  | symbol value =>
    simp only [shown, BlockContext.beginsLeaf]
    split <;> simp
  | rawText value markup =>
    simp only [Leaf.isWellTyped, Bool.and_eq_true] at hl
    obtain ⟨text, rfl⟩ := Value.exists_text_of_isText hl.1
    simp only [shown, BlockContext.beginsLeaf, Leaf.isAbbreviation]
    cases Abbreviation.ofRawText? text <;> simp [hline]
  | image reference alt isFreeStanding parameters =>
    simp only [shown, BlockContext.beginsLeaf]
    split <;> simp
  | call id content isInline parameters =>
    simp only [Leaf.isWellTyped, Bool.and_eq_true] at hl
    obtain ⟨⟨⟨hid, hcontent⟩, -⟩, hparameters⟩ := hl
    obtain ⟨entries, rfl, hentries⟩ := Parameters.exists_entries_of_areTexts hparameters
    obtain ⟨call, hcall⟩ := Rendering.exists_macroCall hid hcontent hentries
    simp only [shown, BlockContext.beginsLeaf]
    cases hcode : Rendering.isCode id with
    | true =>
      simp only [coded, if_true]
      cases isInline.isTruthy <;> simp [hline]
    | false =>
      simp only [called, Bool.false_eq_true, if_false, Option.getD_some, hcall]
      cases hmode : r.options.unhandledMacroMode with
      | refuse => simp
      | drop => simp [logged]
      | wiki => cases isInline.isTruthy <;> simp [hline]
  | _ => simp [shown, BlockContext.beginsLeaf]

/-- What is written at the beginning of a block after it was set off. -/
def blockStart (r : Renderer) (nesting : Nesting) : Event → Text
  | .opening (.heading level _ _) =>
    if 2 < level.level then Text.times level.level ['='] ++ [' '] else []
  | .opening .term => Text.times (nesting.definitionDepth - 1) Rendering.indent
  | .closing (.document _) =>
    Text.join ['\n'] ((r.abbreviations.head?.getD []).map Rendering.definitionLine)
  | .leaf (.rule _) => ['-', '-', '-']
  | .leaf (.rawText text _) => text.text?.getD []
  | .leaf (.call id content _ parameters) =>
    if Rendering.isCode id then codeBlock (content.text?.getD []) parameters
    else
      match MacroCall.ofFields id (parameters.getD []) content with
      | .ok call => call.text
      | .error _ => []
  | _ => []

theorem Writes.captures_eq_nil {s : Renderer} (h : Writes r s) (hcaptures : r.captures = []) :
    s.captures = [] := by
  have hlength := h.length_captures
  rw [hcaptures] at hlength
  exact List.length_eq_zero_iff.mp hlength

theorem capturedText_withPrinter (r : Renderer) (p : Printer) :
    (r.withPrinter p).capturedText = p.settled.written := by
  cases h : r.captures <;> simp [capturedText, withPrinter, printer, h]

theorem capturedText_printed (r : Renderer) (markup : Text) :
    (r.printed markup).capturedText = r.capturedText ++ markup := by
  have hpending : (r.printer.settled.write markup).pending = [] := by
    rw [Printer.write_pending, Printer.settled_pending]
  rw [printed, capturedText_withPrinter, Printer.settled_eq_self hpending, Printer.written_write,
    capturedText]

theorem capturedText_settled (r : Renderer) : r.settled.capturedText = r.capturedText := by
  rw [settled, capturedText_withPrinter, Printer.settled_eq_self r.printer.settled_pending,
    capturedText]

theorem capturedText_setOff (r : Renderer) :
    r.setOff.capturedText = r.capturedText ++ if r.hasBlock then ['\n', '\n'] else [] := by
  unfold setOff
  cases r.hasBlock with
  | true => exact capturedText_printed r _
  | false => exact (List.append_nil _).symm

theorem printer_eq_document (hcaptures : r.captures = []) : r.printer = r.document := by
  rw [printer, hcaptures]
  rfl

/-- Where nothing is captured, the current printer holds the text of the document. -/
theorem output_eq_capturedText (hcaptures : r.captures = []) : r.output = r.capturedText := by
  rw [output, capturedText, printer_eq_document hcaptures]

theorem output_printed (hcaptures : r.captures = []) (markup : Text) :
    (r.printed markup).output = r.output ++ markup := by
  have hprinted := (Writes.printed r markup).captures_eq_nil hcaptures
  rw [output_eq_capturedText hprinted, capturedText_printed, output_eq_capturedText hcaptures]

theorem output_setOff (hcaptures : r.captures = []) :
    r.setOff.output = r.output ++ if r.hasBlock then ['\n', '\n'] else [] := by
  have hset := (Writes.setOff r).captures_eq_nil hcaptures
  rw [output_eq_capturedText hset, capturedText_setOff, output_eq_capturedText hcaptures]

theorem output_settled (hcaptures : r.captures = []) : r.settled.output = r.output := by
  have hsettled := (Writes.settled r).captures_eq_nil hcaptures
  rw [output_eq_capturedText hsettled, capturedText_settled, output_eq_capturedText hcaptures]

/-- Where nothing is captured, what is written goes to the document. -/
theorem document_printed (hcaptures : r.captures = []) (markup : Text) :
    (r.printed markup).document = r.document.settled.write markup := by
  simp [printed, withPrinter, printer, hcaptures]

theorem output_lineStarted (hcaptures : r.captures = []) (hpending : r.document.pending = []) :
    r.lineStarted.output = r.output := by
  have hdocument : r.lineStarted.document = r.document.setLineStart true := by
    simp [lineStarted, withPrinter, printer, hcaptures]
  have hsame : (r.document.setLineStart true).pending = [] := hpending
  rw [output, hdocument, Printer.settled_eq_self hsame, output, Printer.settled_eq_self hpending]
  rfl

/-- A construct that is set off writes nothing else than the beginning of its block. -/
theorem output_opened (hcaptures : r.captures = []) {nesting : Nesting} {construct : Construct}
    (hsetsOff : construct.setsOff nesting = true) :
    (r.opened nesting construct).output =
      r.setOff.output ++ r.blockStart nesting (.opening construct) := by
  have hset := (Writes.setOff r).captures_eq_nil hcaptures
  cases construct with
  | heading level id parameters =>
    change (r.setOff.headingMarked level).output = _
    simp only [headingMarked, blockStart]
    split
    · exact output_printed hset _
    · exact (List.append_nil _).symm
  | list kind parameters =>
    have hdepth : nesting.listDepth = 1 := by simpa [Construct.setsOff] using hsetsOff
    simp only [opened, hdepth, if_true]
    exact (List.append_nil _).symm
  | term =>
    have hprinted := (Writes.printed r.setOff
      (Text.times (nesting.definitionDepth - 1) Rendering.indent)).captures_eq_nil hset
    have hpending : (r.setOff.printed
        (Text.times (nesting.definitionDepth - 1) Rendering.indent)).document.pending = [] := by
      rw [document_printed hset, Printer.write_pending, Printer.settled_pending]
    simp only [opened, output_lineStarted hprinted hpending, output_printed hset, blockStart]
  | quotation parameters =>
    have houtside : nesting.isInQuotationLine = false := by
      simpa [Construct.setsOff] using hsetsOff
    simp only [opened, houtside, Bool.false_eq_true, if_false]
    exact (List.append_nil _).symm
  | paragraph _ | table _ => exact (List.append_nil _).symm
  | _ => simp [Construct.setsOff] at hsetsOff

/-- A document that has definitions writes them as a block when it closes. -/
theorem output_closed_document (hcaptures : r.captures = []) (nesting : Nesting)
    (parameters : Parameters) (hscope : (r.abbreviations.head?.getD []).isEmpty = false) :
    (r.closed (.document parameters)).output =
      r.setOff.output ++ r.blockStart nesting (.closing (.document parameters)) := by
  let left : Renderer := { r with abbreviations := r.abbreviations.tail }
  let definitions := r.blockStart nesting (.closing (.document parameters))
  have hset : left.setOff.captures = [] := (Writes.setOff left).captures_eq_nil hcaptures
  have hprinted := (Writes.printed left.setOff definitions).captures_eq_nil hset
  have houtput : left.setOff.output = r.setOff.output := by
    rw [output_setOff hcaptures, output_setOff (r := left) hcaptures]
    rfl
  rw [← houtput, ← output_printed hset, ← output_settled hprinted]
  simp only [closed, definitions, blockStart]
  split
  · rename_i hnil
    rw [hnil] at hscope
    cases hscope
  · rfl

/-- A leaf that is a block writes nothing else. -/
theorem output_shown (hcaptures : r.captures = []) {nesting : Nesting} {c : BlockContext}
    (hline : nesting.isInLine = c.isInLine) {l : Leaf} (hl : l.isWellTyped = true)
    (hbegins : c.beginsLeaf r.options.unhandledMacroMode l = true) :
    (r.shown nesting l).output = r.setOff.output ++ r.blockStart nesting (.leaf l) := by
  have hset := (Writes.setOff r).captures_eq_nil hcaptures
  cases l with
  | rawText value markup =>
    simp only [Leaf.isWellTyped, Bool.and_eq_true] at hl
    obtain ⟨text, rfl⟩ := Value.exists_text_of_isText hl.1
    have hbegins : c.isInLine = false ∧ Abbreviation.ofRawText? text = none := by
      simpa [BlockContext.beginsLeaf, Leaf.isAbbreviation] using hbegins
    have hpassed := (Writes.passedOver r text).captures_eq_nil hcaptures
    have hset' := (Writes.setOff (r.passedOver text)).captures_eq_nil hpassed
    simp only [shown, hbegins.2, setOffIn, hline, hbegins.1, Bool.false_eq_true, if_false]
    rw [output_printed hset', output_setOff hpassed, output_passedOver, hasBlock_passedOver,
      output_setOff hcaptures]
    rfl
  | call id content isInline parameters =>
    simp only [Leaf.isWellTyped, Bool.and_eq_true] at hl
    obtain ⟨⟨⟨hid, hcontent⟩, -⟩, hparameters⟩ := hl
    obtain ⟨entries, rfl, hentries⟩ := Parameters.exists_entries_of_areTexts hparameters
    obtain ⟨call, hcall⟩ := Rendering.exists_macroCall hid hcontent hentries
    simp only [BlockContext.beginsLeaf, Bool.and_eq_true, Bool.or_eq_true, Bool.not_eq_true',
      decide_eq_true_eq] at hbegins
    obtain ⟨⟨hblock, hinline⟩, hmode⟩ := hbegins
    cases hcode : Rendering.isCode id with
    | true =>
      simp only [shown, hcode, coded, hinline, setOffIn, hline, hblock, blockStart, if_true,
        Bool.false_eq_true, if_false]
      exact output_printed hset _
    | false =>
      have hwiki : r.options.unhandledMacroMode = .wiki := by simpa [hcode] using hmode
      simp only [shown, hcode, called, hwiki, hcall, hinline, setOffIn, hline, hblock, blockStart,
        Option.getD_some, Bool.false_eq_true, if_false]
      exact output_printed hset _
  | rule parameters => exact output_printed hset _
  | _ => simp [BlockContext.beginsLeaf] at hbegins

theorem abbreviations_opened (r : Renderer) (nesting : Nesting) (construct : Construct) :
    (r.opened nesting construct).abbreviations =
      if construct.kind = .document then [] :: r.abbreviations else r.abbreviations := by
  obtain ⟨w, p, hw, -, heq⟩ := exists_opened_eq_pushed r nesting construct
  rw [heq, ← hw.abbreviations]
  cases construct <;> rfl

theorem abbreviations_closed (r : Renderer) (construct : Construct) :
    (r.closed construct).abbreviations =
      if construct.kind = .document then r.abbreviations.tail else r.abbreviations := by
  rw [(writes_popped_closed r construct).abbreviations]
  cases construct <;> rfl

/-- An abbreviation is either added to those of the innermost document or known there. -/
theorem abbreviations_defined (r : Renderer) (abbreviation : Abbreviation) :
    (r.defined abbreviation).abbreviations.map (fun scope => !scope.isEmpty) =
      (r.abbreviations.map fun scope => !scope.isEmpty).modifyHead fun _ => true := by
  unfold defined
  split
  · rename_i hscopes
    rw [hscopes]
    rfl
  · rename_i scope outer hscopes
    rw [hscopes]
    split
    · simp
    · rename_i hknown
      have hscope : scope.isEmpty = false := by
        rw [List.isEmpty_eq_false_iff]
        rintro rfl
        exact hknown rfl
      simp [hscopes, hscope]

theorem abbreviations_shown (r : Renderer) (nesting : Nesting) {l : Leaf}
    (hl : l.isWellTyped = true) :
    (r.shown nesting l).abbreviations.map (fun scope => !scope.isEmpty) =
      if l.isAbbreviation then
        (r.abbreviations.map fun scope => !scope.isEmpty).modifyHead fun _ => true
      else r.abbreviations.map fun scope => !scope.isEmpty := by
  rw [(Writes.shown r nesting hl).abbreviations]
  cases l with
  | rawText value markup =>
    simp only [Leaf.isWellTyped, Bool.and_eq_true] at hl
    obtain ⟨text, rfl⟩ := Value.exists_text_of_isText hl.1
    cases habbreviation : Abbreviation.ofRawText? text with
    | none => simp [noted, Leaf.isAbbreviation, habbreviation]
    | some abbreviation =>
      simp only [noted, Leaf.isAbbreviation, habbreviation, abbreviations_defined,
        Option.isSome_some, if_true]
  | _ => rfl

end Renderer

namespace TrackedRenderer

/-- Whether a renderer and its tracker are as a stream left them that is known by its context. -/
structure InContext (base : TrackedRenderer) (c : BlockContext) (s : TrackedRenderer) : Prop where
  above : base.Above c.opened s
  defines : s.renderer.abbreviations.map (fun scope => !scope.isEmpty) = c.defines

namespace InContext

variable {base s t : TrackedRenderer} {c : BlockContext} {e : Event} {next : OpenConstructs}

theorem tracker (h : base.InContext c s) (hbase : base.tracker = {}) :
    ({} : Tracker).Above c.opened s.tracker := by
  rw [← hbase]
  exact h.above.tracker

/-- What a construct is set off by is known from the context. -/
theorem setsOff_eq (h : base.InContext c s) (hbase : base.tracker = {}) (construct : Construct) :
    construct.setsOff (s.tracker.opened construct).nesting = c.beginsConstruct construct := by
  have htracker := h.tracker hbase
  cases construct with
  | list kind parameters =>
    have hdepth := htracker.listDepth_eq
    have hopened : (s.tracker.opened (.list kind parameters)).nesting.listDepth =
        s.tracker.nesting.listDepth + 1 := rfl
    simp only [Construct.setsOff, BlockContext.beginsConstruct, hopened, hdepth, decide_eq_decide,
      ← List.count_eq_zero]
    omega
  | quotation parameters =>
    have hlines := htracker.isInQuotationLine_eq
    have hopened : (s.tracker.opened (.quotation parameters)).nesting.isInQuotationLine =
        s.tracker.nesting.isInQuotationLine := rfl
    simp only [Construct.setsOff, BlockContext.beginsConstruct, hopened, hlines, decide_not]
  | _ => rfl

theorem isInLine_eq (h : base.InContext c s) (hbase : base.tracker = {}) :
    s.tracker.nesting.isInLine = c.isInLine := (h.tracker hbase).isInLine_eq

theorem definesHead_eq (h : base.InContext c s) :
    (!(s.renderer.abbreviations.head?.getD []).isEmpty) = c.defines.head?.getD false := by
  rw [← h.defines]
  cases s.renderer.abbreviations <;> rfl

/-- The context is followed by every properly nested step. -/
theorem step (h : base.InContext c s)
    (hnested : OpenConstructs.step? none c.opened e = some next) (he : e.isWellTyped = true)
    (hstep : Step s e t) : base.InContext (c.after e) t := by
  have habove := h.above.step hnested he hstep
  have hdefines := h.defines
  cases hstep with
  | @opening construct ht hr =>
    obtain ⟨-, rfl⟩ := OpenConstructs.step?_opening_eq_some_iff.mp hnested
    refine ⟨habove, ?_⟩
    simp only [Renderer.abbreviations_opened, BlockContext.after, ← hdefines]
    split <;> rfl
  | @closing construct hr ht =>
    have hopened := OpenConstructs.step?_closing_eq_some_iff.mp hnested
    refine ⟨?_, ?_⟩
    · simp only [BlockContext.after, hopened, List.tail_cons]
      exact habove
    · simp only [Renderer.abbreviations_closed, BlockContext.after, ← hdefines]
      split
      · exact List.map_tail
      · rfl
  | @leaf l hr =>
    obtain rfl := Option.some.inj hnested
    refine ⟨habove, ?_⟩
    simp only [Renderer.abbreviations_shown _ _ he, BlockContext.after, ← hdefines]

/-- A step notes a block just when the event begins one. -/
theorem hasBlock_step (h : base.InContext c s) (hbase : base.tracker = {})
    (he : e.isWellTyped = true) (hstep : Step s e t) :
    t.renderer.hasBlock =
      (s.renderer.hasBlock || c.begins s.renderer.options.unhandledMacroMode e) := by
  cases hstep with
  | @opening construct ht hr =>
    dsimp only
    rw [Renderer.hasBlock_opened, h.setsOff_eq hbase]
    rfl
  | @closing construct hr ht =>
    dsimp only
    rw [Renderer.hasBlock_closed, h.definesHead_eq]
    rfl
  | leaf hr => exact Renderer.hasBlock_shown (h.isInLine_eq hbase) he

/-- After properly nested steps a block is noted just when one of the events began one. -/
theorem steps (h : base.InContext c s) (hbase : base.tracker = {}) {es : List Event}
    {last : OpenConstructs} (hnested : OpenConstructs.run? none c.opened es = some last)
    (hes : ∀ e ∈ es, e.isWellTyped = true) (hsteps : Steps s es t) :
    base.InContext (es.foldl BlockContext.after c) t ∧
      (es.foldl BlockContext.after c).opened = last ∧
      t.renderer.hasBlock =
        (s.renderer.hasBlock || c.beginsAny s.renderer.options.unhandledMacroMode es) := by
  induction hsteps generalizing c with
  | nil s => exact ⟨h, Option.some.inj hnested, (Bool.or_false _).symm⟩
  | @cons s u t e rest hstep hsteps ih =>
    obtain ⟨next, hnext, hrest⟩ := OpenConstructs.run?_cons_eq_some_iff.mp hnested
    have he := hes e List.mem_cons_self
    have hu := h.step hnext he hstep
    rw [← BlockContext.opened_after hnext] at hrest
    obtain ⟨hlast, hopened, hblock⟩ := ih hu hrest fun other hother => hes other
      (List.mem_cons_of_mem e hother)
    refine ⟨hlast, hopened, ?_⟩
    rw [hblock, h.hasBlock_step hbase he hstep, (hstep.keeps he).options, Bool.or_assoc]
    rfl

/-- Where nothing is captured, an event that begins a block sets it off and writes its
beginning. -/
theorem output_step (h : base.InContext c s) (hbase : base.tracker = {})
    (he : e.isWellTyped = true) (hcaptures : s.renderer.captures = [])
    (hbegins : c.begins s.renderer.options.unhandledMacroMode e = true) (hstep : Step s e t) :
    t.renderer.output = s.renderer.setOff.output ++ s.renderer.blockStart s.tracker.nesting e := by
  cases hstep with
  | @opening construct ht hr =>
    have hsetsOff := h.setsOff_eq hbase construct
    have hstart : s.renderer.blockStart (s.tracker.opened construct).nesting (.opening construct) =
        s.renderer.blockStart s.tracker.nesting (.opening construct) := by
      cases construct with
      | term => simp [Renderer.blockStart, Tracker.nesting, Tracker.opened, Tracker.enterLine]
      | _ => rfl
    rw [← hstart]
    exact Renderer.output_opened hcaptures (hsetsOff.trans hbegins)
  | @closing construct hr ht =>
    simp only [BlockContext.begins, Bool.and_eq_true, decide_eq_true_eq, ← h.definesHead_eq,
      Bool.not_eq_true'] at hbegins
    cases construct with
    | document parameters => exact Renderer.output_closed_document hcaptures _ _ hbegins.2
    | _ => simp [Construct.kind] at hbegins
  | leaf hr => exact Renderer.output_shown hcaptures (h.isInLine_eq hbase) he hbegins

end InContext

end TrackedRenderer

namespace TrackedRendering

open TrackedRenderer

/-- The exact rule for empty lines: where nothing is captured, an event that begins a block writes
one in front of the block if an earlier event began a block, and else the block stands right behind
the text so far, whatever that is. -/
theorem run_event_of_begins {options : Options} {linkTarget imageTarget : Serializer}
    (hlink : linkTarget.IsTotal) (himage : imageTarget.IsTotal) (sink : SinkKind)
    {before : List Event} {e : Event} {last : OpenConstructs}
    (hnested : OpenConstructs.run? none [] (before ++ [e]) = some last)
    (htyped : ∀ other ∈ before ++ [e], other.isWellTyped = true) {s : TrackedRenderer}
    (hrun : (events before).run (.start options linkTarget imageTarget sink) = .ok () s)
    (hcaptures : s.renderer.captures = [])
    (hbegins : (BlockContext.of before).begins options.unhandledMacroMode e = true) :
    ∃ t, (event e).run s = .ok () t ∧
      t.renderer.output = s.renderer.output ++
        (if BlockContext.beginsAny options.unhandledMacroMode {} before then ['\n', '\n']
          else []) ++
        s.renderer.blockStart s.tracker.nesting e := by
  obtain ⟨opened, hbefore, hlast⟩ := OpenConstructs.run?_append_eq_some_iff.mp hnested
  obtain ⟨next, hnext, -⟩ := OpenConstructs.run?_cons_eq_some_iff.mp hlast
  have htypedBefore : ∀ other ∈ before, other.isWellTyped = true := fun other hother =>
    htyped other (List.mem_append_left [e] hother)
  have he : e.isWellTyped = true := htyped e (List.mem_append_right before List.mem_cons_self)
  have hstart : (TrackedRenderer.start options linkTarget imageTarget sink).renderer.Steady :=
    Renderer.start_steady hlink himage options sink
  have hsteps := steps_of_run_events hstart htypedBefore hrun
  have hfirst : (TrackedRenderer.start options linkTarget imageTarget sink).InContext {}
      (.start options linkTarget imageTarget sink) :=
    ⟨Above.refl (Int.le_refl 0) fun _ => rfl, rfl⟩
  obtain ⟨hcontext, hopened, hblock⟩ := hfirst.steps rfl hbefore htypedBefore hsteps
  have hoptions : s.renderer.options = options := (hsteps.keeps htypedBefore).options
  have hmode : (BlockContext.of before).begins s.renderer.options.unhandledMacroMode e = true := by
    rw [hoptions]
    exact hbegins
  have habbreviation := BlockContext.isAbbreviation_of_begins hbegins
  rw [← hopened] at hnext
  obtain ⟨t, hstep⟩ := hcontext.above.exists_step hnext he fun h => by simp [habbreviation] at h
  have htext := hcontext.output_step rfl he hcaptures hmode hstep
  have hblock' : s.renderer.hasBlock =
      BlockContext.beginsAny options.unhandledMacroMode {} before := hblock
  refine ⟨t, ?_, ?_⟩
  · rcases run_event (hsteps.steady hstart htypedBefore) he
      (BlockContext.mode_ne_refuse_of_begins hmode) with ⟨u, hstep', hrun'⟩ | ⟨hnone, -⟩
    · rw [hrun', hstep.unique hstep']
    · exact absurd ⟨t, hstep⟩ hnone
  · rw [htext, Renderer.output_setOff hcaptures, hblock']

/-- A rule behind another one. -/
theorem run_event_of_begins_second_rule :
    let before : List Event := [.opening (.document (some [])), .leaf (.rule (some []))]
    let start := TrackedRenderer.start {} .plain .plain .buffer
    ∃ s t, (events before).run start = .ok () s ∧
      (event (.leaf (.rule (some [])))).run s = .ok () t ∧
      t.renderer.output = ['-', '-', '-', '\n', '\n', '-', '-', '-'] := by
  intro before start
  have hnested : OpenConstructs.run? none [] (before ++ [.leaf (.rule (some []))]) =
      some [.document] := rfl
  have htyped : ∀ other ∈ before ++ [.leaf (.rule (some []))], other.isWellTyped = true := by decide
  obtain ⟨t, hrun, houtput⟩ := run_event_of_begins Serializer.plain_isTotal
    Serializer.plain_isTotal .buffer hnested htyped
    (show (events before).run start = .ok () _ from rfl) rfl rfl
  exact ⟨_, t, rfl, hrun, houtput.trans rfl⟩

/-- The definitions of a document that holds nothing but an abbreviation stand right behind its
text. -/
theorem definitions_right_behind_abbreviation :
    let markup : Text := ['<', 'a', 'b', 'b', 'r', ' ', 't', 'i', 't', 'l', 'e', '=', '"', 'x', '"',
      '>', 'K', '<', '/', 'a', 'b', 'b', 'r', '>']
    let before : List Event := [.opening (.document (some [])),
      .leaf (.rawText (.str markup) (.str ['h', 't', 'm', 'l']))]
    let e : Event := .closing (.document (some []))
    OpenConstructs.run? none [] (before ++ [e]) = some [] ∧
      (∀ other ∈ before ++ [e], other.isWellTyped = true) ∧
      (BlockContext.of before).begins .wiki e = true ∧
      ∃ s t, (events before).run (.start {} .plain .plain .buffer) = .ok () s ∧
        s.renderer.captures = [] ∧ s.renderer.output = ['K'] ∧ (event e).run s = .ok () t ∧
        t.renderer.output = "K*[K]: x".toList ∧
        ¬ ∃ text, t.renderer.output = s.renderer.output ++ ['\n', '\n'] ++ text := by
  intro markup before e
  let s : TrackedRenderer := { renderer := { Renderer.start {} .plain .plain .buffer with
    abbreviations := [[⟨['K'], ['x']⟩]]
    document := { written := ['K'], lineStart := false } } }
  let t : TrackedRenderer := { renderer := { Renderer.start {} .plain .plain .buffer with
    hasBlock := true
    document := { written := "K*[K]: x".toList, lineStart := false } } }
  refine ⟨rfl, by decide, rfl, s, t, rfl, rfl, rfl, rfl, rfl, ?_⟩
  rintro ⟨text, htext⟩
  have hsecond : some '*' = some '\n' := congrArg (·[1]?) htext
  exact absurd hsecond (by decide)

end TrackedRendering

end DocumentStream
