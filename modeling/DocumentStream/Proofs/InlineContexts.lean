import DocumentStream.Proofs.BlockSeparation
import DocumentStream.Proofs.InlineContent

/-!
Inline content reads the same wherever it stands. A paragraph shows it by itself; a heading, an
item, a line of a quotation, a term, a description and the label of a link put markup in front of
it and behind it, and change nothing in it.
-/

namespace DocumentStream

namespace Draft

section

variable {part : Piece → Text} (hpart : ∀ text lineStart, part (.document text lineStart) = text)

include hpart

/-- The text held back becomes a piece of the document. -/
theorem flatMap_settled (d : Draft) :
    d.settled.pieces.flatMap part = d.pieces.flatMap part ++ d.heldText := by
  unfold settled
  split
  · rename_i hpending
    rw [heldText, List.isEmpty_iff.mp hpending, List.flatMap_nil, List.append_nil]
  · simp [write, hpart]

theorem flatMap_settled_write (d : Draft) (pieces : List Piece) :
    (d.settled.write pieces).settled.pieces.flatMap part =
      d.settled.pieces.flatMap part ++ pieces.flatMap part := by
  have hheld : (d.settled.write pieces).heldText = [] := by
    change d.settled.pending.flatMap _ = []
    rw [settled_pending, List.flatMap_nil]
  rw [flatMap_settled hpart, hheld, List.append_nil]
  exact List.flatMap_append

theorem flatMap_delay (d : Draft) (value : Value) :
    (d.delay value).settled.pieces.flatMap part =
      d.settled.pieces.flatMap part ++ value.text?.getD [] := by
  rw [flatMap_settled hpart, flatMap_settled hpart, List.append_assoc]
  congr 1
  change (d.pending ++ [value]).flatMap _ = _
  rw [List.flatMap_append, heldText]
  simp

end

theorem documentText_settled_write (d : Draft) (pieces : List Piece) :
    (d.settled.write pieces).documentText =
      d.documentText ++ pieces.flatMap Piece.documentText :=
  d.flatMap_settled_write (fun _ _ => rfl) pieces

theorem documentText_delay (d : Draft) (value : Value) :
    (d.delay value).documentText = d.documentText ++ value.text?.getD [] :=
  d.flatMap_delay (fun _ _ => rfl) value

/-- Without escaping a draft shows the texts of its pieces. -/
theorem shown_unescaped (d : Draft) :
    d.shown false false = d.settled.pieces.flatMap Piece.text := by
  refine congrArg d.settled.pieces.flatMap (funext fun piece => ?_)
  cases piece <;> rfl

theorem shown_settled_write (d : Draft) (pieces : List Piece) :
    (d.settled.write pieces).shown false false =
      d.shown false false ++ pieces.flatMap Piece.text := by
  rw [shown_unescaped, shown_unescaped, d.flatMap_settled_write fun _ _ => rfl]

theorem shown_delay (d : Draft) (value : Value) :
    (d.delay value).shown false false = d.shown false false ++ value.text?.getD [] := by
  rw [shown_unescaped, shown_unescaped, d.flatMap_delay fun _ _ => rfl]

/-- Escaping adds no characters to a draft but backslashes. -/
theorem mem_shown {d : Draft} {escapes pipes : Bool} {c : Char} (h : c ∈ d.shown escapes pipes) :
    c = '\\' ∨ c ∈ d.shown false false := by
  rw [shown, List.mem_flatMap] at h
  obtain ⟨piece, hpiece, hc⟩ := h
  have hplain (hmem : c ∈ piece.text) : c ∈ d.shown false false := by
    rw [shown_unescaped, List.mem_flatMap]
    exact ⟨piece, hpiece, hmem⟩
  cases piece with
  | markup text => exact Or.inr (hplain hc)
  | document text lineStart =>
    rw [Piece.shown] at hc
    split at hc
    · exact (Escape.mem_text hc).imp_right hplain
    · exact Or.inr (hplain hc)

/-- What a link is that stands alone. -/
theorem shown_linked (label : Draft) (target : Text) (escapes pipes : Bool) :
    (({} : Draft).linked label target).shown escapes pipes =
      if (label.shown escapes pipes).isEmpty then ['[', '['] ++ target ++ [']', ']']
      else '[' :: label.shown escapes pipes ++ ']' :: '(' :: target ++ [')'] := by
  have hempty := Piece.isEmpty_flatMap_shown escapes pipes label.settled.pieces
  change ([] ++ ite _ _ _).flatMap _ = _
  rw [shown, hempty]
  split <;> simp [Piece.shown]

/-- A link carries the text of its label. A label that shows nothing has none. -/
theorem documentText_linked (d label : Draft) (target : Text) :
    (d.linked label target).documentText = d.documentText ++ label.documentText := by
  unfold linked
  dsimp only
  rw [documentText_settled_write]
  congr 1
  split
  · rename_i hempty
    have hnone : ∀ piece ∈ label.settled.pieces, piece.documentText = [] := by
      intro piece hpiece
      have htext := List.flatMap_eq_nil_iff.mp (List.isEmpty_iff.mp hempty) piece hpiece
      cases piece with
      | markup text => rfl
      | document text lineStart => exact htext
    rw [documentText, List.flatMap_eq_nil_iff.mpr hnone]
    rfl
  · simp [documentText, Piece.documentText]

end Draft

/-- What of an inscription is text of the document. -/
def Inscription.documentText : Inscription → Text
  | .nothing | .markup _ => []
  | .document value => value.text?.getD []

theorem Draft.documentText_inscribed (d : Draft) (i : Inscription) :
    (d.inscribed i).documentText = d.documentText ++ i.documentText := by
  cases i with
  | nothing => exact (List.append_nil _).symm
  | markup text => exact d.documentText_settled_write [.markup text]
  | document value => exact d.documentText_delay value

theorem Event.documentText_of_inscription {mode : MacroMode} {imageTarget : Serializer}
    {e : Event} {i : Inscription} (h : e.inscription? mode imageTarget = some i) :
    i.documentText = e.documentText := by
  cases e with
  | opening construct =>
    cases construct with
    | format style parameters => rw [← Option.some.inj h]; rfl
    | _ => simp [inscription?] at h
  | closing construct =>
    cases construct with
    | format style parameters => rw [← Option.some.inj h]; rfl
    | _ => simp [inscription?] at h
  | leaf l =>
    obtain ⟨-, rfl⟩ : l.isInline = true ∧ l.inscription mode imageTarget = i := by
      simpa [inscription?] using h
    cases l with
    | symbol value =>
      simp only [Leaf.inscription, documentText]
      cases Rendering.symbolMarkup? value <;> rfl
    | word _ | space | lineBreak | rule _ => rfl
    | rawText value markup =>
      simp only [Leaf.inscription]
      split <;> rfl
    | image reference alt flag parameters =>
      simp only [Leaf.inscription]
      split <;> rfl
    | call id content isInline parameters =>
      simp only [Leaf.inscription]
      repeat' split
      all_goals rfl
  | foreign name => simp [inscription?] at h

/-- Evaluation keeps all text of the document, in its order. -/
theorem Drafted.documentText_eq {mode : MacroMode} {linkTarget imageTarget : Serializer}
    {d d' : Draft} {content : List Event}
    (h : Drafted mode linkTarget imageTarget d content d') :
    d'.documentText = d.documentText ++ content.flatMap Event.documentText := by
  induction h with
  | nil d => exact (List.append_nil _).symm
  | @event d d' e i rest he hrest ih =>
    rw [ih, Draft.documentText_inscribed, Event.documentText_of_inscription he, List.flatMap_cons,
      List.append_assoc]
  | link hcontent htarget hrest ihcontent ih =>
    rw [ih, Draft.documentText_linked, ihcontent]
    simp [Draft.documentText, Draft.settled, Event.documentText]

/-- A block with inline content. Its events may differ in all fields but those that decide what is
written. -/
inductive LineBlock where
  | paragraph (parameters parameters' : Parameters)
  | heading (level id id' : Value) (parameters parameters' : Parameters)
  | item (kind : ListKind) (parameters parameters' : Parameters)
  | quotationLine (parameters parameters' : Parameters)
  | term (parameters parameters' : Parameters)
  | description (parameters parameters' : Parameters)
  | label (reference : Reference) (flag flag' : Value)
      (parameters parameters' around around' : Parameters)

namespace LineBlock

/-- The constructs that open in front of the content, outermost first. -/
def openings : LineBlock → List Construct
  | .paragraph parameters _ => [.paragraph parameters]
  | .heading level id _ parameters _ => [.heading level id parameters]
  | .item kind parameters _ => [.list kind parameters, .listItem]
  | .quotationLine parameters _ => [.quotation parameters, .quotationLine]
  | .term parameters _ => [.definitionList parameters, .term]
  | .description parameters _ => [.definitionList parameters, .description]
  | .label reference flag _ parameters _ around _ =>
    [.paragraph around, .link reference flag parameters]

/-- The constructs that close behind the content, innermost first. -/
def closings : LineBlock → List Construct
  | .paragraph _ parameters' => [.paragraph parameters']
  | .heading level _ id' _ parameters' => [.heading level id' parameters']
  | .item kind _ parameters' => [.listItem, .list kind parameters']
  | .quotationLine _ parameters' => [.quotationLine, .quotation parameters']
  | .term _ parameters' => [.term, .definitionList parameters']
  | .description _ parameters' => [.description, .definitionList parameters']
  | .label reference _ flag' _ parameters' _ around' =>
    [.link reference flag' parameters', .paragraph around']

def isWellTyped (block : LineBlock) : Bool :=
  (block.openings ++ block.closings).all Construct.isWellTyped

/-- The events of a block with the given content. -/
def events (block : LineBlock) (content : List Event) : List Event :=
  block.openings.map .opening ++ (content ++ block.closings.map .closing)

/-- The text of a block, given that of a paragraph with the same content. -/
def text (linkTarget : Serializer) (h : Text) : LineBlock → Except FieldFault Text
  | .paragraph _ _ => .ok h
  | .heading level _ _ _ _ =>
    if level.level = 1 then .ok (h ++ '\n' :: List.replicate h.length '=')
    else if level.level = 2 then .ok (h ++ '\n' :: List.replicate h.length '-')
    else .ok (Text.times level.level ['='] ++ ' ' :: h ++ ' ' :: Text.times level.level ['='])
  | .item .bulleted _ _ => .ok ('*' :: ' ' :: h)
  | .item .numbered _ _ => .ok ('1' :: '.' :: ' ' :: h)
  | .quotationLine _ _ => .ok ('>' :: ' ' :: h)
  | .term _ _ => .ok h
  | .description _ _ => .ok (':' :: ' ' :: ' ' :: ' ' :: h)
  | .label reference _ _ _ _ _ _ =>
    (linkTarget reference).map fun target =>
      if h.isEmpty then ['[', '['] ++ target.display ++ [']', ']']
      else '[' :: h ++ ']' :: '(' :: target.display ++ [')']

end LineBlock

/-- Whether a construct of this kind is a block with lines of the document, or a line of one. -/
def ConstructKind.isLineBlock : ConstructKind → Bool
  | .paragraph | .list | .listItem | .definitionList | .term | .description | .quotation
  | .quotationLine => true
  | _ => false

namespace Renderer

variable {r s : Renderer}

theorem Inscribes.captures_eq_nil (h : Inscribes r s) (hcaptures : r.captures = []) :
    s.captures = [] := by
  have hlength := congrArg List.length h.outer
  simpa [printers, hcaptures] using hlength

/-- Where nothing is captured, the text so far is a past and the draft shown behind it. -/
theorem output_of_shows (hcaptures : r.captures = []) {past : Text} {d : Draft}
    (h : r.printer.Shows past d) :
    r.output = past ++ d.shown r.document.escapes r.document.escapesPipes := by
  rw [printer_eq_document hcaptures] at h
  exact h.written_settled

/-- Behind a marker the document has a past only, and the next text starts a line. -/
theorem shows_lineStarted (hcaptures : r.captures = []) (marker : Text) :
    (r.printed marker).lineStarted.printer.Shows (r.output ++ marker) {} := by
  have hprinted := (Writes.printed r marker).captures_eq_nil hcaptures
  have hstarted := (Writes.lineStarted (r.printed marker)).captures_eq_nil hprinted
  have hdocument : (r.printed marker).lineStarted.document =
      (r.document.settled.write marker).setLineStart true := by
    simp [lineStarted, printed, withPrinter, printer, hcaptures]
  rw [printer_eq_document hstarted, hdocument]
  refine ⟨?_, ?_, rfl⟩
  · change (r.document.settled.write marker).written = r.output ++ marker ++ []
    rw [Printer.written_write, List.append_nil, output]
  · change (r.document.settled.write marker).pending = []
    rw [Printer.write_pending, Printer.settled_pending]

theorem output_separated (hcaptures : r.captures = []) (index : Int) :
    (r.separated index).output = r.output ++ if 0 < index then ['\n'] else [] := by
  unfold separated
  split
  · exact output_printed hcaptures _
  · exact (List.append_nil _).symm

theorem document_of_printers (h : s.printers = r.printers) (hcaptures : r.captures = []) :
    s.captures = [] ∧ s.document = r.document := by
  rw [printers, printers, hcaptures] at h
  obtain ⟨hnone, hdocument⟩ := List.append_inj' h rfl
  exact ⟨hnone, List.singleton_inj.mp hdocument⟩

/-- A block that holds its content in lines of the document writes nothing when it closes. -/
theorem output_closed_line (hcaptures : r.captures = []) {construct : Construct}
    (hkind : construct.kind.isLineBlock = true) :
    (r.closed construct).captures = [] ∧ (r.closed construct).output = r.output := by
  have hsettled : ∀ q : Renderer, q.captures = [] →
      q.settled.captures = [] ∧ q.settled.output = q.output := fun q hq =>
    ⟨(Writes.settled q).captures_eq_nil hq, output_settled hq⟩
  cases construct with
  | paragraph _ | listItem | definitionList _ | quotation _ => exact ⟨hcaptures, rfl⟩
  | list kind parameters => exact hsettled { r with listStyles := r.listStyles.tail } hcaptures
  | term | description | quotationLine => exact hsettled r hcaptures
  | _ => simp [Construct.kind, ConstructKind.isLineBlock] at hkind

end Renderer

/-- Content that is in order outside of all constructs is in order in any of them. -/
theorem OpenConstructs.run?_below {content : List Event} {last : OpenConstructs}
    (h : run? none [] content = some last) (below : OpenConstructs) :
    run? none below content = some (last ++ below) := by
  have hfits : ∀ kind : ConstructKind, kind.fitsIn none = true →
      kind.fitsIn below.head? = true := by
    intro kind hkind
    simp_all [ConstructKind.fitsIn]
  exact run?_above hfits h

/-- Content that is in order outside of all constructs is in order in any surroundings. -/
theorem OpenConstructs.run?_of_none {opened last : OpenConstructs} {events : List Event}
    (h : run? none opened events = some last) (around : Option ConstructKind) :
    run? around opened events = some last := by
  induction events generalizing opened with
  | nil => exact h
  | cons e rest ih =>
    obtain ⟨next, hstep, hrest⟩ := run?_cons_eq_some_iff.mp h
    refine run?_cons_eq_some_iff.mpr ⟨next, ?_, ih hrest⟩
    cases e with
    | opening construct =>
      obtain ⟨hfits, rfl⟩ := step?_opening_eq_some_iff.mp hstep
      have hfits' : construct.kind.fitsIn (opened.head?.or around) = true := by
        cases opened with
        | nil => simp_all [ConstructKind.fitsIn]
        | cons kind below => exact hfits
      exact if_pos hfits'
    | closing construct => exact hstep
    | leaf l => exact hstep
    | foreign name => exact hstep

/-- Inline content with more behind it that is in order. -/
theorem InlineContent.run?_append (content : InlineContent) (around : Option ConstructKind)
    {opened last : OpenConstructs} {inner : List Event}
    (h : OpenConstructs.run? none opened inner = some last) :
    OpenConstructs.run? around opened (content.events ++ inner) = some last :=
  OpenConstructs.run?_of_none (OpenConstructs.run?_append_eq_some_iff.mpr
    ⟨opened, OpenConstructs.run?_below content.isInline.nested opened, h⟩) around

theorem Value.level_pos {level : Value} (h : level.isLevel = true) : 1 ≤ level.level := by
  unfold isLevel at h
  unfold Value.level
  split at h
  · rename_i n hn
    simp_all
  · cases h

namespace LineBlock

variable {content : List Event}

theorem nested (block : LineBlock) (h : OpenConstructs.run? none [] content = some []) :
    OpenConstructs.run? none [] (block.events content) = some [] := by
  have hbelow := OpenConstructs.run?_below h
  rw [events, OpenConstructs.run?_append]
  simp only [OpenConstructs.run?_append]
  cases block <;>
    simp [openings, closings, OpenConstructs.run?, OpenConstructs.step?, Construct.kind,
      ConstructKind.fitsIn, ConstructKind.home?, hbelow]

theorem typed_events {block : LineBlock} (hblock : block.isWellTyped = true)
    (hcontent : ∀ e ∈ content, e.isWellTyped = true) :
    ∀ e ∈ block.events content, e.isWellTyped = true := by
  obtain ⟨hopenings, hclosings⟩ : (∀ construct ∈ block.openings, construct.isWellTyped = true) ∧
      ∀ construct ∈ block.closings, construct.isWellTyped = true := by
    simpa [isWellTyped] using hblock
  simp only [events, List.forall_mem_append, List.forall_mem_map]
  exact ⟨hopenings, hcontent, hclosings⟩

end LineBlock

namespace TrackedRenderer

variable {options : Options} {linkTarget imageTarget : Serializer} {content : List Event}
  {d : Draft} {s t : TrackedRenderer}

/-- Whether a renderer that has been told of a document writes to the document. -/
structure OnDocument (options : Options) (linkTarget imageTarget : Serializer)
    (s : TrackedRenderer) : Prop where
  keeps : (begun options linkTarget imageTarget).renderer.Keeps s.renderer
  document : s.renderer.abbreviations ≠ []
  captures : s.renderer.captures = []
  inlineDepth : 0 ≤ s.tracker.inlineDepth

namespace OnDocument

theorem of_writes (hs : OnDocument options linkTarget imageTarget s)
    (hwrites : s.renderer.Writes t.renderer) (hdepth : 0 ≤ t.tracker.inlineDepth) :
    OnDocument options linkTarget imageTarget t where
  keeps := hs.keeps.trans hwrites.keeps
  document := by
    rw [hwrites.abbreviations]
    exact hs.document
  captures := hwrites.captures_eq_nil hs.captures
  inlineDepth := hdepth

theorem of_inscribes (hs : OnDocument options linkTarget imageTarget s) (ht : Inscribes s t) :
    OnDocument options linkTarget imageTarget t where
  keeps := hs.keeps.trans ht.renderer.keeps
  document := by
    apply List.ne_nil_of_length_pos
    rw [ht.renderer.abbreviations]
    exact List.length_pos_iff.mpr hs.document
  captures := ht.renderer.captures_eq_nil hs.captures
  inlineDepth := by
    rw [ht.tracker]
    exact hs.inlineDepth

theorem settings (hs : OnDocument options linkTarget imageTarget s) :
    s.renderer.document.escapes = options.escapeSpecial.isTruthy ∧
      s.renderer.document.escapesPipes = false := by
  obtain ⟨-, hescapes, hpipes⟩ := Printer.settings_eq_iff.mp hs.keeps.document
  exact ⟨hescapes, hpipes⟩

theorem inLine (hs : OnDocument options linkTarget imageTarget s)
    (hline : 0 < s.tracker.inlineDepth) :
    InLine options.unhandledMacroMode linkTarget imageTarget s := by
  obtain ⟨hescapes, hpipes⟩ := hs.settings
  have hprinter := Renderer.printer_eq_document hs.captures
  refine ⟨decide_eq_true hline, ?_, hs.keeps.linkTarget, hs.keeps.imageTarget, hs.document, ?_, ?_⟩
  · rw [hs.keeps.options]
    rfl
  · rw [hprinter, hescapes, hs.keeps.options]
    rfl
  · rw [hprinter, hpipes]
    nofun

/-- Inline content that is captured is held by the printer that captures it, with the bars escaped
if that is a cell's and the options ask for it. -/
theorem exists_captured (hs : OnDocument options linkTarget imageTarget s) {tracker : Tracker}
    (hline : 0 < tracker.inlineDepth)
    (hd : Drafted options.unhandledMacroMode linkTarget imageTarget {} content d)
    (hcontent : ∀ e ∈ content, e.isWellTyped = true) (inCell : Bool) :
    let u : TrackedRenderer := ⟨tracker, s.renderer.captured (s.renderer.capture inCell)⟩
    ∃ t, Steps u content t ∧ Inscribes u t ∧ t.renderer.capturedText =
      d.shown options.escapeSpecial.isTruthy (inCell && options.tablePipeEscape.isTruthy) := by
  intro u
  have hoptions : s.renderer.options = options := hs.keeps.options
  have hescapes : u.renderer.printer.escapes = options.escapeSpecial.isTruthy :=
    congrArg (fun o : Options => o.escapeSpecial.isTruthy) hoptions
  have hpipes : u.renderer.printer.escapesPipes = (inCell && options.tablePipeEscape.isTruthy) :=
    congrArg (fun o : Options => inCell && o.tablePipeEscape.isTruthy) hoptions
  have hu : InLine options.unhandledMacroMode linkTarget imageTarget u := by
    refine ⟨decide_eq_true hline, ?_, hs.keeps.linkTarget, hs.keeps.imageTarget, hs.document, rfl,
      ?_⟩
    · exact congrArg Options.unhandledMacroMode hoptions
    · intro hbars
      exact (Bool.and_eq_true_iff.mp hbars).2
  obtain ⟨t, hsteps, ht, hlast⟩ := hd.exists_steps hcontent hu
    (show u.renderer.printer.Shows [] {} from ⟨rfl, rfl, rfl⟩)
  refine ⟨t, hsteps, ht, ?_⟩
  obtain ⟨-, hescapes', hpipes'⟩ := Printer.settings_eq_iff.mp ht.renderer.settings
  rw [Renderer.capturedText, hlast.written_settled, hescapes', hpipes', hescapes, hpipes,
    List.nil_append]

/-- Inline content behind a marker is written as at the start of a line. -/
theorem exists_marked (hs : OnDocument options linkTarget imageTarget s) {r : Renderer}
    (hwrites : s.renderer.Writes r) {tracker : Tracker} (hline : 0 < tracker.inlineDepth)
    (marker : Text) (hd : Drafted options.unhandledMacroMode linkTarget imageTarget {} content d)
    (hcontent : ∀ e ∈ content, e.isWellTyped = true) :
    let u : TrackedRenderer := ⟨tracker, (r.printed marker).lineStarted⟩
    ∃ t, Steps u content t ∧ OnDocument options linkTarget imageTarget t ∧ Inscribes u t ∧
      t.renderer.output = r.output ++ marker ++ d.shown options.escapeSpecial.isTruthy false := by
  intro u
  have hmarked : s.renderer.Writes u.renderer :=
    (hwrites.trans (Renderer.Writes.printed r marker)).trans (Renderer.Writes.lineStarted _)
  have hu : OnDocument options linkTarget imageTarget u := hs.of_writes hmarked (Int.le_of_lt hline)
  have hshows := Renderer.shows_lineStarted (hwrites.captures_eq_nil hs.captures) marker
  obtain ⟨t, hsteps, ht, hlast⟩ := hd.exists_steps hcontent (hu.inLine hline) hshows
  have htdocument := hu.of_inscribes ht
  obtain ⟨hescapes, hpipes⟩ := htdocument.settings
  refine ⟨t, hsteps, htdocument, ht, ?_⟩
  rw [Renderer.output_of_shows htdocument.captures hlast, hescapes, hpipes]

end OnDocument

/-- Whether a function gives the texts that inline contents have where they start a line, with the
bars in them escaped or not. -/
def Reads (options : Options) (linkTarget imageTarget : Serializer) (pipes : Bool)
    (text : InlineContent → Text) : Prop :=
  ∀ content : InlineContent, ∃ d,
    Drafted options.unhandledMacroMode linkTarget imageTarget {} content.events d ∧
      d.shown options.escapeSpecial.isTruthy pipes = text content

theorem exists_reads {pipes : Bool} (hlink : linkTarget.IsTotal) :
    ∃ text, Reads options linkTarget imageTarget pipes text := by
  have hdraft : ∀ content : InlineContent, ∃ d,
      Drafted options.unhandledMacroMode linkTarget imageTarget {} content.events d := by
    intro content
    have hbalanced := OpenConstructs.balanced_of_run? content.isInline.nested
    exact Drafted.exists_of_balanced hlink hbalanced content.isInline.inline
      content.isInline.typed {}
  obtain ⟨draft, hdraft⟩ := Classical.skolem.mp hdraft
  exact ⟨fun content => (draft content).shown options.escapeSpecial.isTruthy pipes,
    fun content => ⟨draft content, hdraft content, rfl⟩⟩

/-- Blocks that hold their content in lines of the document write nothing when they close. -/
theorem output_of_closings {closings : List Construct}
    (hkinds : ∀ construct ∈ closings, construct.kind.isLineBlock = true)
    {s t : TrackedRenderer} (hsteps : Steps s (closings.map .closing) t)
    (hcaptures : s.renderer.captures = []) :
    t.renderer.captures = [] ∧ t.renderer.output = s.renderer.output := by
  induction closings generalizing s with
  | nil =>
    cases hsteps
    exact ⟨hcaptures, rfl⟩
  | cons first rest ih =>
    rw [List.forall_mem_cons] at hkinds
    obtain ⟨u, hstep, hrest⟩ := Steps.cons_iff.mp hsteps
    cases hstep
    obtain ⟨hnone, houtput⟩ := Renderer.output_closed_line hcaptures hkinds.1
    obtain ⟨hlast, hsame⟩ := ih hkinds.2 hrest hnone
    exact ⟨hlast, hsame.trans houtput⟩

/-- Whether constructs that open one inside the other leave a new renderer at the start of a line
of the document, behind a marker. -/
def StartsLine (options : Options) (linkTarget imageTarget : Serializer)
    (openings : List Construct) (marker : Text) : Prop :=
  ∃ s, Steps (.begun options linkTarget imageTarget) (openings.map .opening) s ∧
    InLine options.unhandledMacroMode linkTarget imageTarget s ∧ s.renderer.captures = [] ∧
    s.renderer.printer.Shows marker {}

theorem startsLine_item (kind : ListKind) (parameters : Parameters) :
    StartsLine options linkTarget imageTarget [.list kind parameters, .listItem]
      (Rendering.itemMarker kind) := by
  have hopen (s : TrackedRenderer) (hs : s.tracker.listItems ≠ [])
      (hs' : s.renderer.listStyles ≠ []) : Steps s [.opening .listItem] _ :=
    .cons (.opening hs hs') (.nil _)
  cases kind with
  | bulleted | numbered =>
    exact ⟨_, .cons (.opening trivial trivial)
      (hopen _ (List.cons_ne_nil _ _) (List.cons_ne_nil _ _)),
      ⟨rfl, rfl, rfl, rfl, List.cons_ne_nil _ _, rfl, nofun⟩, rfl, rfl, rfl, rfl⟩

theorem startsLine_quotationLine (parameters : Parameters) :
    StartsLine options linkTarget imageTarget [.quotation parameters, .quotationLine]
      ['>', ' '] :=
  ⟨_, .cons (.opening trivial trivial) (.cons (.opening trivial trivial) (.nil _)),
    ⟨rfl, rfl, rfl, rfl, List.cons_ne_nil _ _, rfl, nofun⟩, rfl, rfl, rfl, rfl⟩

theorem startsLine_term (parameters : Parameters) :
    StartsLine options linkTarget imageTarget [.definitionList parameters, .term] [] :=
  ⟨_, .cons (.opening trivial trivial) (.cons (.opening (List.cons_ne_nil _ _) trivial) (.nil _)),
    ⟨rfl, rfl, rfl, rfl, List.cons_ne_nil _ _, rfl, nofun⟩, rfl, rfl, rfl, rfl⟩

theorem startsLine_description (parameters : Parameters) :
    StartsLine options linkTarget imageTarget [.definitionList parameters, .description]
      [':', ' ', ' ', ' '] :=
  ⟨_, .cons (.opening trivial trivial) (.cons (.opening (List.cons_ne_nil _ _) trivial) (.nil _)),
    ⟨rfl, rfl, rfl, rfl, List.cons_ne_nil _ _, rfl, nofun⟩, rfl, rfl, rfl, rfl⟩

theorem startsLine_paragraph (parameters : Parameters) :
    StartsLine options linkTarget imageTarget [.paragraph parameters] [] :=
  ⟨_, .cons (.opening trivial trivial) (.nil _),
    ⟨rfl, rfl, rfl, rfl, List.cons_ne_nil _ _, rfl, nofun⟩, rfl, rfl, rfl, rfl⟩

/-- A block that holds its content in a line of the document writes its marker and the content. -/
theorem StartsLine.exists_steps {openings closings : List Construct} {marker : Text}
    (hstart : StartsLine options linkTarget imageTarget openings marker)
    (hd : Drafted options.unhandledMacroMode linkTarget imageTarget {} content d)
    (htyped : ∀ e ∈ openings.map Event.opening ++ (content ++ closings.map Event.closing),
      e.isWellTyped = true)
    (hnested : OpenConstructs.run? none []
      (openings.map .opening ++ (content ++ closings.map .closing)) = some [])
    (hkinds : ∀ construct ∈ closings, construct.kind.isLineBlock = true) :
    ∃ t, Steps (.begun options linkTarget imageTarget)
        (openings.map .opening ++ (content ++ closings.map .closing)) t ∧
      t.renderer.captures = [] ∧
      t.renderer.output = marker ++ d.shown options.escapeSpecial.isTruthy false := by
  obtain ⟨s, hopen, hs, hcaptures, hshows⟩ := hstart
  have hbegun : (begun options linkTarget imageTarget).Above []
      (begun options linkTarget imageTarget) := Above.refl (Int.le_refl 0) fun _ => rfl
  obtain ⟨u, hu⟩ := hbegun.exists_steps (List.cons_ne_nil _ _) hnested htyped
  obtain ⟨s', hopen', hrest⟩ := Steps.append_iff.mp hu
  obtain rfl := hopen.unique hopen'
  obtain ⟨t', hcontent', hclose⟩ := Steps.append_iff.mp hrest
  obtain ⟨t, hcontent, ht, hlast⟩ := hd.exists_steps
    (fun e he => htyped e (List.mem_append_right _ (List.mem_append_left _ he))) hs hshows
  obtain rfl := hcontent.unique hcontent'
  have hnone := ht.renderer.captures_eq_nil hcaptures
  obtain ⟨hend, houtput⟩ := output_of_closings hkinds hclose hnone
  have hkeeps := hopen.keeps fun e he => htyped e (List.mem_append_left _ he)
  obtain ⟨-, hescapes, hpipes⟩ :=
    Printer.settings_eq_iff.mp (hkeeps.trans ht.renderer.keeps).document
  refine ⟨u, hu, hend, ?_⟩
  rw [houtput, Renderer.output_of_shows hnone hlast, hescapes, hpipes]
  rfl

/-- A heading captures its content and writes it between its marks. -/
theorem exists_steps_of_heading
    (hd : Drafted options.unhandledMacroMode linkTarget imageTarget {} content d)
    (htyped : ∀ e ∈ content, e.isWellTyped = true) {level id id' : Value}
    {parameters parameters' : Parameters} :
    ∃ t, Steps (.begun options linkTarget imageTarget) (.opening (.heading level id parameters) ::
        (content ++ [.closing (.heading level id' parameters')])) t ∧
      t.renderer.captures = [] ∧
      t.renderer.output = (if 2 < level.level then Text.times level.level ['='] ++ [' '] else []) ++
        d.shown options.escapeSpecial.isTruthy false ++
        Renderer.headingTail level (d.shown options.escapeSpecial.isTruthy false) := by
  let begun := begun options linkTarget imageTarget
  let marked := begun.renderer.setOff.headingMarked level
  have hwrites : begun.renderer.Writes marked := (Renderer.Writes.setOff _).trans
    (Renderer.Writes.headingMarked _ level)
  have hbegun : OnDocument options linkTarget imageTarget begun :=
    ⟨Renderer.Keeps.refl _, List.cons_ne_nil _ _, rfl, Int.le_refl 0⟩
  have hmarked : OnDocument options linkTarget imageTarget ⟨begun.tracker, marked⟩ :=
    hbegun.of_writes hwrites (Int.le_refl 0)
  have hpipes : marked.printer.escapesPipes = false := by
    rw [Renderer.printer_eq_document hmarked.captures]
    exact hmarked.settings.2
  obtain ⟨t, hsteps, ht, htext⟩ :=
    hmarked.exists_captured (show 0 < ({ inlineDepth := 1 } : Tracker).inlineDepth from
      Int.one_pos) hd htyped false
  have hopen : Step begun (.opening (.heading level id parameters))
      ⟨{ inlineDepth := 1 }, marked.captured (marked.capture marked.printer.escapesPipes)⟩ :=
    .opening trivial trivial
  rw [hpipes] at hopen
  obtain ⟨hscope, hreleased⟩ := ht.renderer.printers_released
  obtain ⟨hnone, hdocument⟩ := Renderer.document_of_printers hreleased hmarked.captures
  have hmark : t.renderer.released.output =
      if 2 < level.level then Text.times level.level ['='] ++ [' '] else [] := by
    have hcaptures : begun.renderer.captures = [] := rfl
    have hsetsOff : (Construct.heading level id parameters).setsOff {} = true := rfl
    have hopened := Renderer.output_opened hcaptures hsetsOff
    rw [Renderer.output, hdocument]
    exact hopened
  refine ⟨_, .cons hopen (Steps.append_iff.mpr ⟨t, hsteps, .cons (.closing hscope trivial)
    (.nil _)⟩), ?_, ?_⟩
  · exact ((Renderer.Writes.printed _ _).trans
      (Renderer.Writes.printed _ _)).captures_eq_nil hnone
  · have hprinted := (Renderer.Writes.printed t.renderer.released
      t.renderer.capturedText).captures_eq_nil hnone
    change ((t.renderer.released.printed _).printed _).output = _
    rw [Renderer.output_printed hprinted, Renderer.output_printed hnone, hmark, htext]
    rfl

end TrackedRenderer

namespace LineBlock

section

variable {options : Options} {linkTarget imageTarget : Serializer} {block : LineBlock}
  {content : List Event} {d : Draft}
  (hd : Drafted options.unhandledMacroMode linkTarget imageTarget {} content d)
  (hnested : OpenConstructs.run? none [] content = some []) (hblock : block.isWellTyped = true)
  (htyped : ∀ e ∈ content, e.isWellTyped = true)

include hd hnested hblock htyped

/-- A block that holds its content in a line writes the content behind a marker. -/
theorem exists_steps_of_startsLine {marker : Text}
    (hstart : TrackedRenderer.StartsLine options linkTarget imageTarget block.openings marker)
    (hkinds : ∀ construct ∈ block.closings, construct.kind.isLineBlock = true)
    (htext : ∀ h, block.text linkTarget h = .ok (marker ++ h)) :
    ∃ t, TrackedRenderer.Steps (.begun options linkTarget imageTarget) (block.events content) t ∧
      t.renderer.captures = [] ∧
      block.text linkTarget (d.shown options.escapeSpecial.isTruthy false) =
        .ok t.renderer.output := by
  obtain ⟨t, ht, hcaptures, houtput⟩ :=
    hstart.exists_steps hd (typed_events hblock htyped) (block.nested hnested) hkinds
  refine ⟨t, ht, hcaptures, ?_⟩
  rw [houtput, htext]

/-- A block writes its text, made of the draft of its content. -/
theorem exists_steps (hlink : linkTarget.IsTotal) :
    ∃ t, TrackedRenderer.Steps (.begun options linkTarget imageTarget) (block.events content) t ∧
      t.renderer.captures = [] ∧
      block.text linkTarget (d.shown options.escapeSpecial.isTruthy false) =
        .ok t.renderer.output := by
  have hall := typed_events hblock htyped
  have hnested' := block.nested hnested
  cases block with
  | paragraph parameters parameters' =>
    apply exists_steps_of_startsLine hd hnested hblock htyped
      (TrackedRenderer.startsLine_paragraph parameters) _ fun h => rfl
    simp [closings, Construct.kind, ConstructKind.isLineBlock]
  | heading level id id' parameters parameters' =>
    obtain ⟨t, ht, hcaptures, houtput⟩ :=
      TrackedRenderer.exists_steps_of_heading hd htyped
    refine ⟨t, ht, hcaptures, ?_⟩
    have hlevel : level.isLevel = true := by simp_all [isWellTyped, openings, Construct.isWellTyped]
    have hpositive := Value.level_pos hlevel
    rw [houtput, text, Renderer.headingTail]
    split
    · rw [if_neg (by omega), List.nil_append]
    · split
      · rw [if_neg (by omega), List.nil_append]
      · rw [if_pos (by omega)]
        simp
  | item kind parameters parameters' =>
    apply exists_steps_of_startsLine hd hnested hblock htyped
      (TrackedRenderer.startsLine_item kind parameters)
    · simp [closings, Construct.kind, ConstructKind.isLineBlock]
    · intro h
      cases kind <;> rfl
  | quotationLine parameters parameters' =>
    apply exists_steps_of_startsLine hd hnested hblock htyped
      (TrackedRenderer.startsLine_quotationLine parameters) _ fun h => rfl
    simp [closings, Construct.kind, ConstructKind.isLineBlock]
  | term parameters parameters' =>
    apply exists_steps_of_startsLine hd hnested hblock htyped
      (TrackedRenderer.startsLine_term parameters) _ fun h => rfl
    simp [closings, Construct.kind, ConstructKind.isLineBlock]
  | description parameters parameters' =>
    apply exists_steps_of_startsLine hd hnested hblock htyped
      (TrackedRenderer.startsLine_description parameters) _ fun h => rfl
    simp [closings, Construct.kind, ConstructKind.isLineBlock]
  | label reference flag flag' parameters parameters' around around' =>
    have hreference : reference.isWellTyped = true := by
      simp_all [isWellTyped, openings, Construct.isWellTyped]
    obtain ⟨target, htarget⟩ := hlink reference hreference
    -- the label starts a line because the link does
    have hlinked : Drafted options.unhandledMacroMode linkTarget imageTarget {}
        (.opening (.link reference flag parameters) ::
          (content ++ [.closing (.link reference flag' parameters')]))
        (({} : Draft).linked d target.display) := .link hd htarget (.nil _)
    have hevents : (label reference flag flag' parameters parameters' around around').events
        content = [Construct.paragraph around].map .opening ++
          (.opening (.link reference flag parameters) ::
            (content ++ [.closing (.link reference flag' parameters')]) ++
            [Construct.paragraph around'].map .closing) := by
      simp [events, openings, closings]
    rw [hevents] at hall hnested' ⊢
    have hkinds : ∀ construct ∈ [Construct.paragraph around'], construct.kind.isLineBlock = true :=
      List.forall_mem_singleton.mpr rfl
    obtain ⟨t, ht, hcaptures, houtput⟩ := (TrackedRenderer.startsLine_paragraph
      around).exists_steps hlinked hall hnested' hkinds
    refine ⟨t, ht, hcaptures, ?_⟩
    rw [houtput, text, htarget, Draft.shown_linked]
    rfl

end

end LineBlock

namespace TrackedRendering

open TrackedRenderer

variable {options : Options} {linkTarget imageTarget : Serializer} {parameters : Parameters}
  {content : List Event} {d : Draft}

/-- Where a body is given no macro in it is one to be refused. -/
theorem mode_ne_refuse_of_body (hlink : linkTarget.IsTotal) (himage : imageTarget.IsTotal)
    (hparameters : Parameters.areTexts parameters = true) {es : List Event}
    (hes : ∀ e ∈ es, e.isWellTyped = true) {text : Text}
    (h : body options linkTarget imageTarget parameters es = .ok text) {e : Event} (he : e ∈ es)
    (hcall : e.isUnhandled = true) : options.unhandledMacroMode ≠ .refuse := by
  have htyped : ∀ e ∈ .opening (.document parameters) :: es, e.isWellTyped = true :=
    List.forall_mem_cons.mpr ⟨hparameters, hes⟩
  cases hrun : (events (.opening (.document parameters) :: es)).run
      (.start options linkTarget imageTarget .buffer) with
  | ok a t =>
    exact mode_ne_refuse_of_run_events (Renderer.start_steady hlink himage options .buffer)
      htyped hrun (List.mem_cons_of_mem _ he) hcall
  | error fault t =>
    rw [body, textOf, run_bind_of_error hrun] at h
    cases h

/-- The text of a block, given the draft of its content. -/
theorem exists_body_of_drafted (hlink : linkTarget.IsTotal) (himage : imageTarget.IsTotal)
    (hparameters : Parameters.areTexts parameters = true) (hcontent : IsInlineContent content)
    (hd : Drafted options.unhandledMacroMode linkTarget imageTarget {} content d)
    (hmacros : ∀ e ∈ content, e.isUnhandled = true → options.unhandledMacroMode ≠ .refuse)
    {block : LineBlock} (hblock : block.isWellTyped = true) :
    ∃ text, block.text linkTarget (d.shown options.escapeSpecial.isTruthy false) = .ok text ∧
      body options linkTarget imageTarget parameters (block.events content) = .ok text := by
  obtain ⟨t, ht, hcaptures, htext⟩ :=
    LineBlock.exists_steps hd hcontent.nested hblock hcontent.typed hlink
  have hall : ∀ e ∈ block.events content, e.isUnhandled = true →
      options.unhandledMacroMode ≠ .refuse := by
    simp only [LineBlock.events, List.forall_mem_append, List.forall_mem_map]
    exact ⟨fun _ _ => nofun, hmacros, fun _ _ => nofun⟩
  exact ⟨_, htext, body_eq_output_of_steps hlink himage hparameters
    (LineBlock.typed_events hblock hcontent.typed) hall ht hcaptures⟩

/-- The text that inline content has where it starts a line is that of a paragraph with it. -/
theorem body_paragraph_of_reads (hlink : linkTarget.IsTotal) (himage : imageTarget.IsTotal)
    (hparameters : Parameters.areTexts parameters = true) {text : InlineContent → Text}
    (htext : Reads options linkTarget imageTarget false text) (content : InlineContent)
    (hmacros : ∀ e ∈ content.events, e.isUnhandled = true →
      options.unhandledMacroMode ≠ .refuse) :
    body options linkTarget imageTarget parameters
      ((LineBlock.paragraph (some []) (some [])).events content.events) = .ok (text content) := by
  obtain ⟨d, hd, hshown⟩ := htext content
  have hblock : (LineBlock.paragraph (some []) (some [])).isWellTyped = true := rfl
  obtain ⟨shown, hshown', hbody⟩ := exists_body_of_drafted hlink himage hparameters
    content.isInline hd hmacros hblock
  rw [← Except.ok.inj hshown', hshown] at hbody
  exact hbody

/-- Properly nested content runs wherever it stands in a document, and leaves nothing on the stacks
but what was there before. -/
theorem exists_run_above (hlink : linkTarget.IsTotal) (himage : imageTarget.IsTotal)
    (hparameters : Parameters.areTexts parameters = true) {whole before inner after : List Event}
    (hsplit : whole = before ++ (inner ++ after))
    (hwhole : OpenConstructs.run? none [] whole = some [])
    (hinner : OpenConstructs.run? none [] inner = some [])
    (htyped : ∀ e ∈ whole, e.isWellTyped = true)
    (hmacros : ∀ e ∈ whole, e.isUnhandled = true → options.unhandledMacroMode ≠ .refuse)
    {s : TrackedRenderer} (hrun : (events (.opening (.document parameters) :: before)).run
      (.start options linkTarget imageTarget .buffer) = .ok () s) :
    ∃ t, (events inner).run s = .ok () t ∧ s.Above [] t := by
  subst hsplit
  simp only [List.forall_mem_append] at htyped hmacros
  obtain ⟨opened, hopened, -⟩ := OpenConstructs.run?_append_eq_some_iff.mp hwhole
  have hbefore : OpenConstructs.run? none [] (.opening (.document parameters) :: before) =
      some (opened ++ [.document]) := OpenConstructs.run?_below hopened [.document]
  have htyped' : ∀ e ∈ .opening (.document parameters) :: before, e.isWellTyped = true :=
    List.forall_mem_cons.mpr ⟨hparameters, htyped.1⟩
  have hstart : (TrackedRenderer.start options linkTarget imageTarget .buffer).renderer.Steady :=
    Renderer.start_steady hlink himage options .buffer
  have hsteps := steps_of_run_events hstart htyped' hrun
  have habove := (Above.refl (Int.le_refl 0) fun _ => rfl).steps hbefore htyped' hsteps
  have hscope : s.renderer.abbreviations ≠ [] := by
    have hlength := habove.renderer.abbreviations
    have hcount : 0 < (opened ++ [ConstructKind.document]).count .document :=
      List.count_pos_iff.mpr (by simp)
    exact List.ne_nil_of_length_pos (by omega)
  have hself : s.Above [] s := Above.refl habove.tracker.quotationDepth_nonneg habove.tracker.noLine
  obtain ⟨t, ht⟩ := hself.exists_steps hscope hinner htyped.2.1
  have hoptions : s.renderer.options = options := (hsteps.keeps htyped').options
  refine ⟨t, ?_, hself.steps hinner htyped.2.1 ht⟩
  apply run_events_of_steps ht (hsteps.steady hstart htyped') htyped.2.1
  rw [hoptions]
  exact hmacros.2.1

/-- Inline content reads the same wherever it stands. A paragraph with the content is rendered just
if no macro in it is one to be refused, and each block with the content then has its marks around
the text of the paragraph. That text is made of markup and of the text of the document, and each
piece of the latter is escaped once. -/
theorem body_lineBlock (hlink : linkTarget.IsTotal) (himage : imageTarget.IsTotal)
    (hparameters : Parameters.areTexts parameters = true) (hcontent : IsInlineContent content)
    {first last : Parameters} (hfirst : Parameters.areTexts first = true)
    (hlast : Parameters.areTexts last = true) :
    let paragraph := (LineBlock.paragraph first last).events content
    ((∃ h, body options linkTarget imageTarget parameters paragraph = .ok h) ↔
      ∀ e ∈ content, e.isUnhandled = true → options.unhandledMacroMode ≠ .refuse) ∧
    ∀ h, body options linkTarget imageTarget parameters paragraph = .ok h →
      (∀ block : LineBlock, block.isWellTyped = true →
        ∃ text, block.text linkTarget h = .ok text ∧
          body options linkTarget imageTarget parameters (block.events content) = .ok text) ∧
      ∃ pieces : List Piece,
        pieces.flatMap Piece.documentText = content.flatMap Event.documentText ∧
        h = pieces.flatMap (Piece.shown options.escapeSpecial.isTruthy false) ∧
        body { options with escapeSpecial := .bool false } linkTarget imageTarget parameters
          paragraph = .ok (pieces.flatMap Piece.text) := by
  intro paragraph
  have hbalanced := OpenConstructs.balanced_of_run? hcontent.nested
  obtain ⟨d, hd⟩ : ∃ d, Drafted options.unhandledMacroMode linkTarget imageTarget {} content d :=
    Drafted.exists_of_balanced hlink hbalanced hcontent.inline hcontent.typed {}
  have hblock : (LineBlock.paragraph first last).isWellTyped = true := by
    simp [LineBlock.isWellTyped, LineBlock.openings, LineBlock.closings, Construct.isWellTyped,
      hfirst, hlast]
  have hparagraph (hmacros : ∀ e ∈ content, e.isUnhandled = true →
      options.unhandledMacroMode ≠ .refuse) :
      body options linkTarget imageTarget parameters paragraph =
        .ok (d.shown options.escapeSpecial.isTruthy false) := by
    obtain ⟨text, htext, hbody⟩ :=
      exists_body_of_drafted hlink himage hparameters hcontent hd hmacros hblock
    rwa [← Except.ok.inj htext] at hbody
  have hallowed {h : Text}
      (hh : body options linkTarget imageTarget parameters paragraph = .ok h) :
      ∀ e ∈ content, e.isUnhandled = true → options.unhandledMacroMode ≠ .refuse := fun e he =>
    mode_ne_refuse_of_body hlink himage hparameters
      (LineBlock.typed_events hblock hcontent.typed) hh
      (List.mem_append_right _ (List.mem_append_left _ he))
  constructor
  · constructor
    · rintro ⟨h, hh⟩
      exact hallowed hh
    · intro hmacros
      exact ⟨_, hparagraph hmacros⟩
  intro h hh
  have hmacros := hallowed hh
  obtain rfl : d.shown options.escapeSpecial.isTruthy false = h := by
    rw [hparagraph hmacros] at hh
    exact Except.ok.inj hh
  refine ⟨fun block => exists_body_of_drafted hlink himage hparameters hcontent hd hmacros,
    d.settled.pieces, ?_, rfl, ?_⟩
  · exact hd.documentText_eq
  · -- the pieces do not depend on whether they are escaped
    let plain : Options := { options with escapeSpecial := .bool false }
    have hplain : Drafted plain.unhandledMacroMode linkTarget imageTarget {} content d := hd
    obtain ⟨text, htext, hbody⟩ :=
      exists_body_of_drafted hlink himage hparameters hcontent hplain hmacros hblock
    rw [← Except.ok.inj htext] at hbody
    exact hbody.trans (congrArg Except.ok (Draft.shown_unescaped d))

/-- A heading of the second level with an asterisk in bold print. -/
theorem body_lineBlock_heading :
    let content : List Event := [.opening (.format .bold (some [])),
      .leaf (.word (.str ['a', '*', 'b'])), .closing (.format .bold (some []))]
    let heading : LineBlock := .heading (.int 2) .null .null (some []) (some [])
    ∃ text, heading.text .plain "**a\\*b**".toList = .ok text ∧
      body {} .plain .plain (some []) (heading.events content) = .ok text := by
  intro content heading
  have hcontent : IsInlineContent content := ⟨rfl, by decide, by decide⟩
  have hnone : Parameters.areTexts (some []) = true := rfl
  have hmode : ({} : Options).unhandledMacroMode ≠ .refuse := by decide
  obtain ⟨hexists, hblocks⟩ := body_lineBlock Serializer.plain_isTotal Serializer.plain_isTotal
    hnone hcontent hnone hnone
  obtain ⟨h, hh⟩ := hexists.mpr fun _ _ _ => hmode
  have hparagraph : (body {} .plain .plain (some [])
      ((LineBlock.paragraph (some []) (some [])).events content)).toOption =
        some "**a\\*b**".toList := by decide +kernel
  rw [hh] at hparagraph
  obtain rfl := Option.some.inj hparagraph
  obtain ⟨hcontexts, -⟩ := hblocks _ hh
  exact hcontexts heading rfl

end TrackedRendering

end DocumentStream
