import DocumentStream.Proofs.TypedEvents
import DocumentStream.Renderer

/-!
The ways in which a renderer writes, as functions on renderers. Writing can fail only because
something other than text is held back, so that from a renderer that holds back nothing but text
each of them succeeds, and its result is given here in full. What writing may change is the current
printer, whether a block was rendered, and the log; `Writes` says so.
-/

namespace DocumentStream

namespace Printer

/-- What a printer is set up with. -/
def settings (p : Printer) : SinkKind × Bool × Bool := (p.sink, p.escapes, p.escapesPipes)

/-- Whether nothing but text is held back. -/
def HoldsText (p : Printer) : Prop := ∀ value ∈ p.pending, value.isText = true

/-- The text held back, as one piece. -/
def heldText (p : Printer) : Text := p.pending.flatMap fun value => value.text?.getD []

/-- The printer after the text held back is escaped and written. -/
def settled (p : Printer) : Printer :=
  if p.pending.isEmpty then p
  else
    { p with pending := [] }.write
      (if p.escapes then Escape.text p.heldText p.lineStart p.escapesPipes else p.heldText)

theorem joinTexts?_eq_some {values : List Value} (h : ∀ value ∈ values, value.isText = true) :
    joinTexts? values = some (values.flatMap fun value => value.text?.getD []) := by
  induction values with
  | nil => rfl
  | cons value rest ih =>
    obtain ⟨text, rfl⟩ := Value.exists_text_of_isText (h value List.mem_cons_self)
    have hrest := ih fun other hother => h other (List.mem_cons_of_mem _ hother)
    simp [joinTexts?, hrest, Value.text?]

theorem flush_eq_ok {p : Printer} (h : p.HoldsText) : p.flush = .ok p.settled := by
  unfold flush settled
  split
  · rfl
  · rw [joinTexts?_eq_some h]
    rfl

theorem write_pending (p : Printer) (text : Text) : (p.write text).pending = p.pending := by
  unfold write
  split <;> rfl

theorem write_append (p : Printer) (first second : Text) :
    p.write (first ++ second) = (p.write first).write second := by
  by_cases hsecond : second = []
  · simp [write, hsecond]
  by_cases hfirst : first = []
  · simp [write, hfirst]
  have hline : Text.endsLine (first ++ second) = Text.endsLine second := by
    rw [Text.endsLine, Text.endsLine, List.getLast?_append,
      List.getLast?_eq_some_getLast hsecond]
    rfl
  simp [write, hfirst, hsecond, hline]

theorem settled_pending (p : Printer) : p.settled.pending = [] := by
  unfold settled
  split
  · rename_i h
    exact List.isEmpty_iff.mp h
  · rw [write_pending]

theorem holdsText_of_pending_eq_nil {p : Printer} (h : p.pending = []) : p.HoldsText := by
  intro value hvalue
  rw [h] at hvalue
  simp at hvalue

theorem HoldsText.settled (p : Printer) : p.settled.HoldsText :=
  holdsText_of_pending_eq_nil p.settled_pending

theorem HoldsText.settled_write (p : Printer) (markup : Text) :
    (p.settled.write markup).HoldsText :=
  holdsText_of_pending_eq_nil (by rw [write_pending, settled_pending])

theorem HoldsText.delay {p : Printer} (h : p.HoldsText) {value : Value}
    (hvalue : value.isText = true) : (p.delay value).HoldsText := by
  intro other hother
  rcases List.mem_append.mp hother with hold | hnew
  · exact h other hold
  · rwa [List.mem_singleton.mp hnew]

theorem write_settings (p : Printer) (text : Text) : (p.write text).settings = p.settings := by
  unfold write
  split <;> rfl

theorem settled_settings (p : Printer) : p.settled.settings = p.settings := by
  unfold settled
  split
  · rfl
  · rw [write_settings]
    rfl

end Printer

namespace Renderer

/-- All printers, the current one first and that of the document last. -/
def printers (r : Renderer) : List Printer := r.captures ++ [r.document]

/-- Whether all printers hold back nothing but text. -/
def HoldsText (r : Renderer) : Prop := ∀ p ∈ r.printers, p.HoldsText

/-- The renderer after markup is written. -/
def printed (r : Renderer) (markup : Text) : Renderer :=
  r.withPrinter (r.printer.settled.write markup)

/-- The renderer after a value is held back. -/
def held (r : Renderer) (value : Value) : Renderer := r.withPrinter (r.printer.delay value)

/-- The renderer after the text held back is written. -/
def settled (r : Renderer) : Renderer := r.withPrinter r.printer.settled

/-- The renderer after the next text is declared to start a line. -/
def lineStarted (r : Renderer) : Renderer := r.withPrinter (r.printer.setLineStart true)

/-- The renderer after a block is set off from what was rendered before. -/
def setOff (r : Renderer) : Renderer :=
  if r.hasBlock then r.printed ['\n', '\n'] else { r with hasBlock := true }

/-- The renderer after a record is added to the log. -/
def logged (r : Renderer) (level : LogLevel) (message : Text) : Renderer :=
  { r with
    log := r.log ++ [LogRecord.ofLevel "events2md.renderers.markdown".toList level message] }

/-- The renderer after a printer is pushed that captures the content of a construct. -/
def captured (r : Renderer) (printer : Printer) : Renderer :=
  { r with captures := printer :: r.captures }

/-- The text that the current printer captured. -/
def capturedText (r : Renderer) : Text := r.printer.settled.written

/-- The renderer after the current printer is taken off. -/
def released (r : Renderer) : Renderer := { r with captures := r.captures.tail }

theorem printers_eq_cons (r : Renderer) : r.printers = r.printer :: r.printers.tail := by
  cases h : r.captures <;> simp [printers, printer, h]

theorem printers_withPrinter (r : Renderer) (p : Printer) :
    (r.withPrinter p).printers = p :: r.printers.tail := by
  cases h : r.captures <;> simp [withPrinter, printers, h]

@[simp] theorem printer_withPrinter (r : Renderer) (p : Printer) :
    (r.withPrinter p).printer = p := by
  cases h : r.captures <;> simp [withPrinter, printer, h]

@[simp] theorem withPrinter_withPrinter (r : Renderer) (p q : Printer) :
    (r.withPrinter p).withPrinter q = r.withPrinter q := by
  cases h : r.captures <;> simp [withPrinter, h]

@[simp] theorem withPrinter_printer (r : Renderer) : r.withPrinter r.printer = r := by
  obtain ⟨_, _, _, _, captures⟩ := r
  cases captures <;> rfl

theorem HoldsText.printer {r : Renderer} (h : r.HoldsText) : r.printer.HoldsText := by
  apply h
  rw [printers_eq_cons]
  exact List.mem_cons_self

theorem printers_released {r : Renderer} (hcaptures : r.captures ≠ []) :
    r.released.printers = r.printers.tail := by
  obtain ⟨p, outer, hcaptures⟩ := List.exists_cons_of_ne_nil hcaptures
  simp [released, printers, hcaptures]

theorem HoldsText.tail {r : Renderer} (h : r.HoldsText) {p : Printer}
    (hp : p ∈ r.printers.tail) : p.HoldsText := h p (List.mem_of_mem_tail hp)

theorem HoldsText.captured {r : Renderer} (h : r.HoldsText) {p : Printer}
    (hp : p.pending = []) : (r.captured p).HoldsText := by
  intro q hq
  rcases List.mem_cons.mp hq with rfl | hq
  · exact Printer.holdsText_of_pending_eq_nil hp
  · exact h q hq

theorem HoldsText.released {r : Renderer} (h : r.HoldsText) (hcaptures : r.captures ≠ []) :
    r.released.HoldsText := by
  intro q hq
  rw [printers_released hcaptures] at hq
  exact h.tail hq

/-- What no event changes: the settings, how the printer of the document is set up, and that a
block was rendered. -/
structure Keeps (r s : Renderer) : Prop where
  options : s.options = r.options
  linkTarget : s.linkTarget = r.linkTarget
  imageTarget : s.imageTarget = r.imageTarget
  document : s.document.settings = r.document.settings
  hasBlock : r.hasBlock = true → s.hasBlock = true

theorem Keeps.refl (r : Renderer) : Keeps r r := ⟨rfl, rfl, rfl, rfl, fun h => h⟩

theorem Keeps.trans {r s t : Renderer} (h : Keeps r s) (h' : Keeps s t) : Keeps r t where
  options := h'.options.trans h.options
  linkTarget := h'.linkTarget.trans h.linkTarget
  imageTarget := h'.imageTarget.trans h.imageTarget
  document := h'.document.trans h.document
  hasBlock hr := h'.hasBlock (h.hasBlock hr)

theorem Keeps.withPrinter (r : Renderer) {p : Printer} (hp : p.settings = r.printer.settings) :
    Keeps r (r.withPrinter p) := by
  unfold Renderer.withPrinter
  split
  · rename_i hcaptures
    exact ⟨rfl, rfl, rfl, by simpa [printer, hcaptures] using hp, fun h => h⟩
  · exact ⟨rfl, rfl, rfl, rfl, fun h => h⟩

/-- Everything that writing leaves alone: all but the current printer, whether a block was
rendered, and the log. -/
structure Writes (r s : Renderer) : Prop where
  keeps : Keeps r s
  listStyles : s.listStyles = r.listStyles
  previousQuotationDepth : s.previousQuotationDepth = r.previousQuotationDepth
  tables : s.tables = r.tables
  abbreviations : s.abbreviations = r.abbreviations
  outer : s.printers.tail = r.printers.tail
  holdsText : r.HoldsText → s.HoldsText

namespace Writes

variable {r s t : Renderer}

theorem refl (r : Renderer) : Writes r r :=
  ⟨Keeps.refl r, rfl, rfl, rfl, rfl, rfl, fun h => h⟩

theorem trans (h : Writes r s) (h' : Writes s t) : Writes r t where
  keeps := h.keeps.trans h'.keeps
  listStyles := h'.listStyles.trans h.listStyles
  previousQuotationDepth := h'.previousQuotationDepth.trans h.previousQuotationDepth
  tables := h'.tables.trans h.tables
  abbreviations := h'.abbreviations.trans h.abbreviations
  outer := h'.outer.trans h.outer
  holdsText hr := h'.holdsText (h.holdsText hr)

theorem length_captures (h : Writes r s) : s.captures.length = r.captures.length := by
  have houter := congrArg List.length h.outer
  simpa [Renderer.printers] using houter

theorem withPrinter (r : Renderer) {p : Printer} (hp : r.HoldsText → p.HoldsText)
    (hsettings : p.settings = r.printer.settings) : Writes r (r.withPrinter p) := by
  refine ⟨Keeps.withPrinter r hsettings, ?_, ?_, ?_, ?_, ?_, ?_⟩
  · cases h : r.captures <;> simp [Renderer.withPrinter, h]
  · cases h : r.captures <;> simp [Renderer.withPrinter, h]
  · cases h : r.captures <;> simp [Renderer.withPrinter, h]
  · cases h : r.captures <;> simp [Renderer.withPrinter, h]
  · rw [printers_withPrinter, List.tail_cons]
  · intro hr q hq
    rw [printers_withPrinter] at hq
    rcases List.mem_cons.mp hq with rfl | hq
    · exact hp hr
    · exact hr.tail hq

theorem printed (r : Renderer) (markup : Text) : Writes r (r.printed markup) :=
  withPrinter r (fun _ => Printer.HoldsText.settled_write _ _)
    (by rw [Printer.write_settings, Printer.settled_settings])

theorem held (r : Renderer) {value : Value} (hvalue : value.isText = true) :
    Writes r (r.held value) :=
  withPrinter r (fun hr => hr.printer.delay hvalue) rfl

theorem settled (r : Renderer) : Writes r r.settled :=
  withPrinter r (fun _ => Printer.HoldsText.settled _) (Printer.settled_settings _)

theorem lineStarted (r : Renderer) : Writes r r.lineStarted :=
  withPrinter r (fun hr => hr.printer) rfl

theorem setOff (r : Renderer) : Writes r r.setOff := by
  unfold Renderer.setOff
  split
  · exact printed r _
  · exact ⟨⟨rfl, rfl, rfl, rfl, fun _ => rfl⟩, rfl, rfl, rfl, rfl, rfl, fun h => h⟩

theorem logged (r : Renderer) (level : LogLevel) (message : Text) :
    Writes r (r.logged level message) :=
  ⟨⟨rfl, rfl, rfl, rfl, fun h => h⟩, rfl, rfl, rfl, rfl, rfl, fun h => h⟩

end Writes

end Renderer

namespace Rendering

variable {r s : Renderer}

theorem run_bind_of_ok {α β : Type} {first : Rendering α} {next : α → Rendering β} {a : α}
    (h : first.run r = .ok a s) : (first >>= next).run r = (next a).run s := by
  rw [EStateM.run_bind, h]

theorem run_get_bind {α : Type} (next : Renderer → Rendering α) :
    (get >>= next).run r = (next r).run r := rfl

theorem run_onPrinter {act : Printer → Except FieldFault Printer} {p : Printer}
    (h : act r.printer = .ok p) : (onPrinter act).run r = .ok () (r.withPrinter p) := by
  simp [onPrinter, h, ofField]

theorem run_print (h : r.HoldsText) (markup : Text) :
    (print markup).run r = .ok () (r.printed markup) :=
  run_onPrinter (by rw [Printer.print, Printer.flush_eq_ok h.printer]; rfl)

theorem run_printText (r : Renderer) (value : Value) :
    (printText value).run r = .ok () (r.held value) :=
  run_onPrinter rfl

theorem run_flush (h : r.HoldsText) : flush.run r = .ok () r.settled :=
  run_onPrinter (Printer.flush_eq_ok h.printer)

theorem run_startLineContent (r : Renderer) :
    startLineContent.run r = .ok () r.lineStarted :=
  run_onPrinter rfl

theorem run_printEmptyLine (h : r.HoldsText) : printEmptyLine.run r = .ok () r.setOff := by
  unfold printEmptyLine Renderer.setOff
  cases hblock : r.hasBlock with
  | true => simp [hblock, run_print h]
  | false => simp [hblock]

theorem run_openScope (r : Renderer) (p : Printer) :
    (openScope p).run r = .ok () (r.captured p) := rfl

/-- Closing a scope gives its text and leaves the printers around it. -/
theorem run_closeScope (h : r.HoldsText) (hcaptures : r.captures ≠ []) :
    closeScope.run r = .ok r.capturedText r.released := by
  obtain ⟨p, outer, hcaptures⟩ := List.exists_cons_of_ne_nil hcaptures
  have hp : p.HoldsText := h p (by simp [Renderer.printers, hcaptures])
  have hprinter : r.printer = p := by rw [Renderer.printer, hcaptures, List.head?_cons,
    Option.getD_some]
  rw [closeScope, run_get_bind]
  simp only [hcaptures, Printer.flush_eq_ok hp]
  rw [Renderer.capturedText, Renderer.released, hprinter, hcaptures]
  rfl

theorem run_closeScope_of_nil (hcaptures : r.captures = []) :
    closeScope.run r = .error (.rendering .noOpenScope) r := by
  rw [closeScope, run_get_bind]
  simp only [hcaptures]
  rfl

/-- What reading the text logs about the scopes that are still open. -/
def openScopesReport (depth : Nat) : List LogRecord :=
  if 0 < depth then
    [LogRecord.ofLevel "events2md.renderers.markdown".toList .warning
      ("Returning output while ".toList ++ Text.ofNat depth ++
        " nested scope(s) are still open".toList)]
  else []

/-- Reading the text flushes the printer of the document and reports the scopes that are open. -/
theorem run_text_eq (r : Renderer) :
    text.run r =
      let log := r.log ++ openScopesReport r.captures.length
      match r.document.flush with
      | .ok p =>
        match p.text? with
        | some text => .ok text { r with document := p, log }
        | none => .error .unreadableSink { r with document := p, log }
      | .error fault => .error (.field fault) { r with log } := by
  have hread (r : Renderer) : (do
      let document ← ofField (← get).document.flush
      modify fun r => { r with document }
      match document.text? with
      | some text => return text
      | none => throw .unreadableSink : Rendering Text).run r =
        match r.document.flush with
        | .ok p =>
          match p.text? with
          | some text => .ok text { r with document := p }
          | none => .error .unreadableSink { r with document := p }
        | .error fault => .error (.field fault) r := by
    rw [run_get_bind]
    cases r.document.flush with
    | error fault => rfl
    | ok p =>
      change EStateM.run (match p.text? with | some text => pure text | none => throw _) _ = _
      dsimp only
      cases p.text? <;> rfl
  rw [text, run_get_bind]
  by_cases hdepth : 0 < r.captures.length
  · simp only [if_pos hdepth, openScopesReport]
    exact hread _
  · simp only [if_neg hdepth, openScopesReport, List.append_nil]
    exact hread r

end Rendering

end DocumentStream
