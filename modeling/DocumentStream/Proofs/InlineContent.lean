import DocumentStream.Proofs.EventSteps
import DocumentStream.Proofs.Pieces

/-!
Inline content: words and other leaves, formats and links. It is evaluated here on drafts, with no
renderer around, and a link by evaluating its label on a draft of its own. Wherever such content is
handled within a line, the current printer goes on to show what the evaluation gives, and nothing
else changes but the log and the abbreviations.
-/

namespace DocumentStream

/-- What an event gives to the printer where it stands within a line. -/
inductive Inscription where
  | nothing
  | markup (text : Text)
  | document (text : Value)

/-- The draft after an event that stands within a line. -/
def Draft.inscribed (d : Draft) : Inscription → Draft
  | .nothing => d
  | .markup text => d.printed text
  | .document value => d.delay value

/-- What a leaf gives to the printer where it stands within a line. -/
def Leaf.inscription (mode : MacroMode) (imageTarget : Serializer) : Leaf → Inscription
  | .word text => .document text
  | .space => .document (.str [' '])
  | .lineBreak => .markup [' ', ' ', '\n']
  | .symbol value =>
    match Rendering.symbolMarkup? value with
    | some markup => .markup markup
    | none => .document value
  | .rawText value _ =>
    let text := value.text?.getD []
    match Abbreviation.ofRawText? text with
    | some abbreviation => .markup abbreviation.key
    | none => .markup text
  | .image reference alt _ parameters =>
    match reference.image imageTarget (Renderer.alternative alt parameters) with
    | .ok markup => .markup markup
    | .error _ => .nothing
  | .call id content isInline parameters =>
    let text := content.text?.getD []
    if Rendering.isCode id then
      if isInline.isTruthy then .markup (Rendering.codeMark :: text ++ [Rendering.codeMark])
      else .markup (Renderer.codeBlock text parameters)
    else
      match mode with
      | .wiki =>
        match MacroCall.ofFields id (parameters.getD []) content with
        | .ok macroCall => .markup macroCall.text
        | .error _ => .nothing
      | _ => .nothing
  | .rule _ => .nothing

/-- Whether a leaf may stand within a line. -/
def Leaf.isInline : Leaf → Bool
  | .rule _ => false
  | _ => true

namespace Event

/-- Whether an event may occur in inline content. -/
def isInline : Event → Bool
  | .opening construct | .closing construct =>
    construct.kind == .format || construct.kind == .link
  | .leaf l => l.isInline
  | .foreign _ => false

/-- What an event other than those of a link gives to the printer. -/
def inscription? (mode : MacroMode) (imageTarget : Serializer) : Event → Option Inscription
  | .opening (.format style _) => some (.markup (Rendering.formatStart style))
  | .closing (.format style _) => some (.markup (Rendering.formatEnd style))
  | .leaf l => if l.isInline then some (l.inscription mode imageTarget) else none
  | _ => none

/-- The text of the document that an event carries. A symbol that has a markup of its own carries
none. -/
def documentText : Event → Text
  | .leaf (.word text) => text.text?.getD []
  | .leaf .space => [' ']
  | .leaf (.symbol value) =>
    match Rendering.symbolMarkup? value with
    | some _ => []
    | none => value.text?.getD []
  | _ => []

end Event

/-- Evaluation of inline content: the events of the content take the first draft to the second. -/
inductive Drafted (mode : MacroMode) (linkTarget imageTarget : Serializer) :
    Draft → List Event → Draft → Prop
  | nil (d : Draft) : Drafted mode linkTarget imageTarget d [] d
  | event {d d' : Draft} {e : Event} {i : Inscription} {rest : List Event}
      (he : e.inscription? mode imageTarget = some i)
      (hrest : Drafted mode linkTarget imageTarget (d.inscribed i) rest d') :
      Drafted mode linkTarget imageTarget d (e :: rest) d'
  | link {d label d' : Draft} {reference reference' : Reference} {flag flag' : Value}
      {parameters parameters' : Parameters} {content rest : List Event} {target : Value}
      (hcontent : Drafted mode linkTarget imageTarget { lineStart := d.isOnNewLine } content label)
      (htarget : linkTarget reference' = .ok target)
      (hrest : Drafted mode linkTarget imageTarget (d.linked label target.display) rest d') :
      Drafted mode linkTarget imageTarget d
        (.opening (.link reference flag parameters) ::
          (content ++ .closing (.link reference' flag' parameters') :: rest)) d'

namespace Drafted

variable {mode : MacroMode} {linkTarget imageTarget : Serializer} {d d' d'' : Draft}
  {content rest : List Event}

theorem append (h : Drafted mode linkTarget imageTarget d content d')
    (hrest : Drafted mode linkTarget imageTarget d' rest d'') :
    Drafted mode linkTarget imageTarget d (content ++ rest) d'' := by
  induction h with
  | nil d => exact hrest
  | event he hevents ih => exact .event he (ih hrest)
  | link hcontent htarget hevents ihcontent ih =>
    rw [List.cons_append, List.append_assoc, List.cons_append]
    exact .link hcontent htarget (ih hrest)

/-- Inline content has a value if it is properly nested. -/
theorem exists_of_balanced (hlink : linkTarget.IsTotal)
    (h : OpenConstructs.Balanced content) (hinline : ∀ e ∈ content, e.isInline = true)
    (htyped : ∀ e ∈ content, e.isWellTyped = true) (d : Draft) :
    ∃ d', Drafted mode linkTarget imageTarget d content d' := by
  induction h generalizing d with
  | nil => exact ⟨d, .nil d⟩
  | leaf l hrest ih =>
    rw [List.forall_mem_cons] at hinline htyped
    obtain ⟨d', hd'⟩ := ih hinline.2 htyped.2 (d.inscribed (l.inscription mode imageTarget))
    exact ⟨d', .event (if_pos hinline.1) hd'⟩
  | foreign name hrest ih =>
    rw [List.forall_mem_cons] at hinline
    exact absurd hinline.1 Bool.false_ne_true
  | @construct first last content rest hlast hcontent hrest ihcontent ih =>
    simp only [List.forall_mem_cons, List.forall_mem_append] at hinline htyped
    obtain ⟨hfirst, hinlineContent, -, hinlineRest⟩ := hinline
    obtain ⟨-, htypedContent, htypedLast, htypedRest⟩ := htyped
    cases first with
    | format style parameters =>
      cases last with
      | format style' parameters' =>
        obtain ⟨m, hm⟩ := ihcontent hinlineContent htypedContent
          (d.printed (Rendering.formatStart style))
        obtain ⟨d', hd'⟩ := ih hinlineRest htypedRest (m.printed (Rendering.formatEnd style'))
        exact ⟨d', .event rfl (hm.append (.event rfl hd'))⟩
      | _ => simp [Construct.kind] at hlast
    | link reference flag parameters =>
      cases last with
      | link reference' flag' parameters' =>
        simp only [Event.isWellTyped, Construct.isWellTyped, Bool.and_eq_true] at htypedLast
        obtain ⟨target, htarget⟩ := hlink reference' htypedLast.1.1
        obtain ⟨label, hlabel⟩ := ihcontent hinlineContent htypedContent
          { lineStart := d.isOnNewLine }
        obtain ⟨d', hd'⟩ := ih hinlineRest htypedRest (d.linked label target.display)
        exact ⟨d', .link hlabel htarget hd'⟩
      | _ => simp [Construct.kind] at hlast
    | _ => simp [Event.isInline, Construct.kind] at hfirst

end Drafted

/-- Properly nested inline content. -/
structure IsInlineContent (content : List Event) : Prop where
  nested : OpenConstructs.run? none [] content = some []
  inline : ∀ e ∈ content, e.isInline = true
  typed : ∀ e ∈ content, e.isWellTyped = true

/-- Inline content, which is known to be properly nested. -/
structure InlineContent where
  events : List Event
  isInline : IsInlineContent events

namespace Printer

/-- The printer after an event that stands within a line. -/
def inscribed (p : Printer) : Inscription → Printer
  | .nothing => p
  | .markup text => p.settled.write text
  | .document value => p.delay value

theorem inscribed_settings (p : Printer) (i : Inscription) :
    (p.inscribed i).settings = p.settings := by
  cases i with
  | nothing => rfl
  | markup text => exact (write_settings _ text).trans p.settled_settings
  | document value => rfl

theorem Shows.inscribed {past : Text} {d : Draft} {p : Printer} (h : p.Shows past d)
    (i : Inscription) : (p.inscribed i).Shows past (d.inscribed i) := by
  cases i with
  | nothing => exact h
  | markup text => exact h.printed text
  | document value => exact h.delay value

end Printer

namespace Renderer

variable {r s t : Renderer}

/-- Everything that inline content leaves alone: all but what the current printer wrote, the
abbreviations that are recorded in the open documents, and the log. -/
structure Inscribes (r s : Renderer) : Prop where
  keeps : Keeps r s
  listStyles : s.listStyles = r.listStyles
  tables : s.tables = r.tables
  abbreviations : s.abbreviations.length = r.abbreviations.length
  outer : s.printers.tail = r.printers.tail
  settings : s.printer.settings = r.printer.settings

theorem Inscribes.refl (r : Renderer) : Inscribes r r := ⟨Keeps.refl r, rfl, rfl, rfl, rfl, rfl⟩

theorem Inscribes.trans (h : Inscribes r s) (h' : Inscribes s t) : Inscribes r t where
  keeps := h.keeps.trans h'.keeps
  listStyles := h'.listStyles.trans h.listStyles
  tables := h'.tables.trans h.tables
  abbreviations := h'.abbreviations.trans h.abbreviations
  outer := h'.outer.trans h.outer
  settings := h'.settings.trans h.settings

theorem printers_printed (r : Renderer) (markup : Text) :
    (r.printed markup).printers = r.printer.settled.write markup :: r.printers.tail :=
  printers_withPrinter r _

theorem printer_eq_of_printers {p : Printer} {outer : List Printer}
    (h : r.printers = p :: outer) : r.printer = p ∧ r.printers.tail = outer := by
  rw [printers_eq_cons] at h
  exact List.cons.inj h

theorem printers_passedOver (r : Renderer) (text : Text) :
    (r.passedOver text).printers = r.printers := by
  unfold passedOver
  split
  · split
    · rfl
    · rfl
  · rfl

/-- Within a line a leaf acts on the current printer alone. -/
theorem printers_shown {nesting : Nesting} (hline : nesting.isInLine = true) {l : Leaf}
    (hinline : l.isInline = true) (hl : l.isWellTyped = true) :
    (r.shown nesting l).printers =
      r.printer.inscribed (l.inscription r.options.unhandledMacroMode r.imageTarget) ::
        r.printers.tail := by
  have hset : ∀ q : Renderer, q.setOffIn nesting = q := fun q => if_pos hline
  cases l with
  | word _ | space => exact printers_withPrinter r _
  | lineBreak => exact printers_printed r _
  | symbol value =>
    simp only [shown, Leaf.inscription]
    cases Rendering.symbolMarkup? value with
    | some markup => exact printers_printed r _
    | none => exact printers_withPrinter r _
  | rawText value markup =>
    simp only [Leaf.isWellTyped, Bool.and_eq_true] at hl
    obtain ⟨text, rfl⟩ := Value.exists_text_of_isText hl.1
    simp only [shown, Leaf.inscription, Value.text?, Option.getD_some, hset]
    cases Abbreviation.ofRawText? text with
    | some abbreviation =>
      obtain ⟨hprinter, houter⟩ :=
        printer_eq_of_printers ((printers_defined r abbreviation).trans (printers_eq_cons r))
      rw [printers_printed, hprinter, houter]
      rfl
    | none =>
      obtain ⟨hprinter, houter⟩ :=
        printer_eq_of_printers ((printers_passedOver r text).trans (printers_eq_cons r))
      rw [printers_printed, hprinter, houter]
      rfl
  | image reference alt flag parameters =>
    simp only [shown, Leaf.inscription]
    cases reference.image r.imageTarget (alternative alt parameters) with
    | ok markup => exact printers_printed r _
    | error fault => exact printers_eq_cons r
  | call id content isInline parameters =>
    simp only [shown, Leaf.inscription, coded, called, hset, ite_self]
    cases Rendering.isCode id with
    | true => cases isInline.isTruthy <;> exact printers_printed r _
    | false =>
      cases r.options.unhandledMacroMode with
      | refuse | drop => exact printers_eq_cons r
      | wiki =>
        cases MacroCall.ofFields id (parameters.getD []) content with
        | ok macroCall => exact printers_printed r _
        | error fault => exact printers_eq_cons r
  | rule parameters => exact absurd hinline Bool.false_ne_true

theorem Inscribes.shown {nesting : Nesting} (hline : nesting.isInLine = true) {l : Leaf}
    (hinline : l.isInline = true) (hl : l.isWellTyped = true) :
    Inscribes r (r.shown nesting l) := by
  obtain ⟨abbreviations, hlength, hnoted⟩ := exists_noted_eq r l
  have hwrites := Writes.shown r nesting hl
  obtain ⟨hprinter, houter⟩ := printer_eq_of_printers (printers_shown hline hinline hl)
  rw [hnoted] at hwrites
  exact ⟨(Keeps.noted r l).trans (Writes.shown r nesting hl).keeps, hwrites.listStyles,
    hwrites.tables, (congrArg List.length hwrites.abbreviations).trans hlength, houter,
    by rw [hprinter, Printer.inscribed_settings]⟩

/-- Where inline content was captured, the printers around are as they were. -/
theorem Inscribes.printers_released {p : Printer} (h : Inscribes (r.captured p) s) :
    s.captures ≠ [] ∧ s.released.printers = r.printers := by
  have houter : s.printers.tail = r.printers := h.outer
  have hcaptures : s.captures ≠ [] := by
    intro hnil
    have hlength := congrArg List.length houter
    simp [printers, hnil] at hlength
  exact ⟨hcaptures, (Renderer.printers_released hcaptures).trans houter⟩

theorem Inscribes.printed (r : Renderer) (markup : Text) : Inscribes r (r.printed markup) := by
  have hwrites := Writes.printed r markup
  obtain ⟨hprinter, houter⟩ := printer_eq_of_printers (printers_printed r markup)
  exact ⟨hwrites.keeps, hwrites.listStyles, hwrites.tables,
    congrArg List.length hwrites.abbreviations, houter,
    by rw [hprinter, Printer.write_settings, Printer.settled_settings]⟩

end Renderer

namespace TrackedRenderer

variable {mode : MacroMode} {linkTarget imageTarget : Serializer} {s t u : TrackedRenderer}

/-- Whether a renderer stands within a line of a document, in the given settings. -/
structure InLine (mode : MacroMode) (linkTarget imageTarget : Serializer) (s : TrackedRenderer) :
    Prop where
  isInLine : s.tracker.nesting.isInLine = true
  mode : s.renderer.options.unhandledMacroMode = mode
  linkTarget : s.renderer.linkTarget = linkTarget
  imageTarget : s.renderer.imageTarget = imageTarget
  document : s.renderer.abbreviations ≠ []
  escapes : s.renderer.printer.escapes = s.renderer.options.escapeSpecial.isTruthy
  escapesPipes : s.renderer.printer.escapesPipes = true →
    s.renderer.options.tablePipeEscape.isTruthy = true

/-- What inline content leaves alone, the tracker included. -/
structure Inscribes (s t : TrackedRenderer) : Prop where
  tracker : t.tracker = s.tracker
  renderer : s.renderer.Inscribes t.renderer

theorem Inscribes.trans (h : Inscribes s t) (h' : Inscribes t u) : Inscribes s u :=
  ⟨h'.tracker.trans h.tracker, h.renderer.trans h'.renderer⟩

namespace InLine

theorem of_inscribes (h : InLine mode linkTarget imageTarget s) (hs : Inscribes s t) :
    InLine mode linkTarget imageTarget t := by
  obtain ⟨-, hescapes, hpipes⟩ := Printer.settings_eq_iff.mp hs.renderer.settings
  have hkeeps := hs.renderer.keeps
  refine ⟨by rw [hs.tracker, h.isInLine], by rw [hkeeps.options, h.mode],
    hkeeps.linkTarget.trans h.linkTarget, hkeeps.imageTarget.trans h.imageTarget, ?_,
    by rw [hescapes, hkeeps.options, h.escapes], ?_⟩
  · apply List.ne_nil_of_length_pos
    rw [hs.renderer.abbreviations]
    exact List.length_pos_iff.mpr h.document
  · rw [hpipes, hkeeps.options]
    exact h.escapesPipes

/-- The printer for the label of a link escapes as the printer around it. -/
theorem capture_settings (h : InLine mode linkTarget imageTarget s) (lineStart : Bool) :
    let label := (s.renderer.capture s.renderer.printer.escapesPipes).setLineStart lineStart
    label.escapes = s.renderer.printer.escapes ∧
      label.escapesPipes = s.renderer.printer.escapesPipes := by
  refine ⟨h.escapes.symm, ?_⟩
  have hpipes := h.escapesPipes
  change (s.renderer.printer.escapesPipes && s.renderer.options.tablePipeEscape.isTruthy) = _
  cases hcase : s.renderer.printer.escapesPipes with
  | true => rw [hpipes hcase, Bool.and_true]
  | false => rfl

/-- The label of a link stands within the line of the link. -/
theorem captured (h : InLine mode linkTarget imageTarget s) (lineStart : Bool) :
    InLine mode linkTarget imageTarget ⟨s.tracker, s.renderer.captured
      ((s.renderer.capture s.renderer.printer.escapesPipes).setLineStart lineStart)⟩ := by
  obtain ⟨-, hpipes⟩ := h.capture_settings lineStart
  exact ⟨h.isInLine, h.mode, h.linkTarget, h.imageTarget, h.document, rfl,
    fun hlabel => h.escapesPipes (hpipes.symm.trans hlabel)⟩

end InLine

end TrackedRenderer

theorem Reference.link_eq_ok {serialize : Serializer} {reference : Reference} {target : Value}
    (htarget : serialize reference = .ok target) (label : Text) :
    reference.link serialize label =
      .ok (if label.isEmpty then ['[', '['] ++ target.display ++ [']', ']']
        else '[' :: label ++ ']' :: '(' :: target.display ++ [')']) := by
  rw [Reference.link, htarget]
  cases label <;> rfl

/-- A link shows its label, or only its target if the label is empty. -/
theorem Printer.Shows.linked {past : Text} {d label : Draft} {p q : Printer} (h : p.Shows past d)
    (hq : q.Shows [] label) (hescapes : q.escapes = p.escapes)
    (hpipes : q.escapesPipes = p.escapesPipes) (target : Text) :
    (p.settled.write (if q.settled.written.isEmpty then ['[', '['] ++ target ++ [']', ']']
      else '[' :: q.settled.written ++ ']' :: '(' :: target ++ [')'])).Shows past
      (d.linked label target) := by
  have hwritten : q.settled.written =
      label.settled.pieces.flatMap (Piece.shown p.escapes p.escapesPipes) := by
    rw [hq.written_settled, List.nil_append, hescapes, hpipes, Draft.shown]
  have hempty := Piece.isEmpty_flatMap_shown p.escapes p.escapesPipes label.settled.pieces
  obtain ⟨-, hsettled, hsettled'⟩ := settings_eq_iff.mp p.settled_settings
  refine h.settled.write ?_
  rw [hsettled, hsettled', hwritten, hempty]
  split
  · simp [Piece.shown]
  · simp [Piece.shown]

namespace TrackedRenderer.InLine

variable {mode : MacroMode} {linkTarget imageTarget : Serializer} {s t : TrackedRenderer}

/-- An event other than those of a link acts on the current printer alone. -/
theorem exists_step (hs : InLine mode linkTarget imageTarget s) {e : Event} {i : Inscription}
    (he : e.inscription? mode imageTarget = some i) (htyped : e.isWellTyped = true) :
    ∃ t, Step s e t ∧ Inscribes s t ∧ t.renderer.printer = s.renderer.printer.inscribed i := by
  cases e with
  | opening construct =>
    cases construct with
    | format style parameters =>
      obtain rfl := Option.some.inj he
      exact ⟨_, .opening trivial trivial, ⟨rfl, .printed _ _⟩,
        (Renderer.printer_eq_of_printers (Renderer.printers_printed _ _)).1⟩
    | _ => simp [Event.inscription?] at he
  | closing construct =>
    cases construct with
    | format style parameters =>
      obtain rfl := Option.some.inj he
      exact ⟨_, .closing trivial trivial, ⟨rfl, .printed _ _⟩,
        (Renderer.printer_eq_of_printers (Renderer.printers_printed _ _)).1⟩
    | _ => simp [Event.inscription?] at he
  | leaf l =>
    obtain ⟨hinline, rfl⟩ : l.isInline = true ∧ l.inscription mode imageTarget = i := by
      simpa [Event.inscription?] using he
    refine ⟨_, .leaf fun _ => hs.document, ⟨rfl, .shown hs.isInLine hinline htyped⟩, ?_⟩
    rw [← hs.mode, ← hs.imageTarget]
    exact (Renderer.printer_eq_of_printers
      (Renderer.printers_shown hs.isInLine hinline htyped)).1
  | foreign name => simp [Event.inscription?] at he

/-- A link whose label has been captured is written by the printer that was current before. -/
theorem exists_linked (hs : InLine mode linkTarget imageTarget s) {past : Text} {d label : Draft}
    (hshows : s.renderer.printer.Shows past d) {lineStart : Bool}
    (ht : Inscribes ⟨s.tracker, s.renderer.captured
      ((s.renderer.capture s.renderer.printer.escapesPipes).setLineStart lineStart)⟩ t)
    (hlabel : t.renderer.printer.Shows [] label) {reference : Reference} {target : Value}
    (htarget : linkTarget reference = .ok target) (flag : Value) (parameters : Parameters) :
    ∃ u, Step t (.closing (.link reference flag parameters)) u ∧ Inscribes s u ∧
      u.renderer.printer.Shows past (d.linked label target.display) := by
  obtain ⟨hcaptures, hreleased⟩ := ht.renderer.printers_released
  obtain ⟨hprinter, houter⟩ := Renderer.printer_eq_of_printers
    (hreleased.trans (Renderer.printers_eq_cons s.renderer))
  obtain ⟨hescapes, hpipes⟩ := hs.capture_settings lineStart
  obtain ⟨-, hescapes', hpipes'⟩ := Printer.settings_eq_iff.mp ht.renderer.settings
  let markup := if t.renderer.capturedText.isEmpty then ['[', '['] ++ target.display ++ [']', ']']
    else '[' :: t.renderer.capturedText ++ ']' :: '(' :: target.display ++ [')']
  have hmarkup : reference.link t.renderer.linkTarget t.renderer.capturedText = .ok markup := by
    apply Reference.link_eq_ok
    rw [ht.renderer.keeps.linkTarget]
    exact (congrFun hs.linkTarget reference).trans htarget
  have hclosed : t.renderer.closed (.link reference flag parameters) =
      t.renderer.released.printed markup := by
    simp only [Renderer.closed, hmarkup]
  have hprinted := Renderer.Inscribes.printed t.renderer.released markup
  have hkeeps : s.renderer.Keeps t.renderer.released :=
    { ht.renderer.keeps with }
  refine ⟨_, .closing hcaptures trivial, ⟨ht.tracker, ?_⟩, ?_⟩
  · rw [hclosed]
    exact ⟨hkeeps.trans hprinted.keeps, hprinted.listStyles.trans ht.renderer.listStyles,
      hprinted.tables.trans ht.renderer.tables,
      hprinted.abbreviations.trans ht.renderer.abbreviations,
      hprinted.outer.trans houter, by rw [hprinted.settings, hprinter]⟩
  · rw [hclosed, (Renderer.printer_eq_of_printers (Renderer.printers_printed _ _)).1, hprinter]
    exact hshows.linked hlabel (hescapes'.trans hescapes) (hpipes'.trans hpipes) _

end TrackedRenderer.InLine

namespace Drafted

open TrackedRenderer

variable {mode : MacroMode} {linkTarget imageTarget : Serializer} {d d' : Draft}
  {content : List Event}

/-- Inline content is handled wherever it stands within a line, and the current printer shows what
its evaluation gives. -/
theorem exists_steps (h : Drafted mode linkTarget imageTarget d content d')
    (htyped : ∀ e ∈ content, e.isWellTyped = true) {s : TrackedRenderer} {past : Text}
    (hs : InLine mode linkTarget imageTarget s) (hshows : s.renderer.printer.Shows past d) :
    ∃ t, Steps s content t ∧ Inscribes s t ∧ t.renderer.printer.Shows past d' := by
  induction h generalizing s past with
  | nil d => exact ⟨s, .nil s, ⟨rfl, .refl _⟩, hshows⟩
  | @event d d' e i rest he hrest ih =>
    rw [List.forall_mem_cons] at htyped
    obtain ⟨t, hstep, ht, hprinter⟩ := hs.exists_step he htyped.1
    have hshown := hshows.inscribed i
    rw [← hprinter] at hshown
    obtain ⟨u, hsteps, hu, hlast⟩ := ih htyped.2 (hs.of_inscribes ht) hshown
    exact ⟨u, .cons hstep hsteps, ht.trans hu, hlast⟩
  | link hcontent htarget hrest ihcontent ih =>
    simp only [List.forall_mem_cons, List.forall_mem_append] at htyped
    obtain ⟨-, htypedContent, -, htypedRest⟩ := htyped
    -- the label is captured by a printer of its own, which starts a line if the link does
    obtain ⟨t, hsteps, ht, hlabel⟩ := ihcontent htypedContent
      (hs.captured s.renderer.printer.isOnNewLine)
      (show Printer.Shows [] _ _ from ⟨rfl, rfl, hshows.isOnNewLine_eq⟩)
    obtain ⟨u, hclose, hu, hlinked⟩ := hs.exists_linked hshows ht hlabel htarget _ _
    obtain ⟨v, hafter, hv, hlast⟩ := ih htypedRest (hs.of_inscribes hu) hlinked
    exact ⟨v, .cons (.opening trivial trivial)
      (Steps.append_iff.mpr ⟨t, hsteps, .cons hclose hafter⟩), hu.trans hv, hlast⟩

end Drafted

end DocumentStream
