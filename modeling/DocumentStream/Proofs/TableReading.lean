import DocumentStream.Proofs.InlineContexts
import DocumentStream.Proofs.TableLayout

/-!
Tables are read back from their text. A cell captures what it holds with all bars escaped, at any
depth of the labels in it, so that a row splits at its other bars into just its cells.
-/

namespace DocumentStream

/-- Whether an event may stand in a cell: words, spaces and symbols on one line, formats, and links
to targets that are written without bars, backslashes and line feeds. -/
def Event.FitsCell (linkTarget : Serializer) : Event → Prop
  | .leaf (.word text) | .leaf (.symbol text) => '\n' ∉ text.text?.getD []
  | .leaf .space | .opening (.format ..) | .closing (.format ..) | .opening (.link ..) => True
  | .closing (.link reference _ _) => ∀ target, linkTarget reference = .ok target →
      ∀ c ∈ target.display, (c ≠ '|' ∧ c ≠ '\\') ∧ c ≠ '\n'
  | _ => False

theorem Event.FitsCell.isUnhandled_eq {linkTarget : Serializer} {e : Event}
    (h : e.FitsCell linkTarget) :
    e.isUnhandled = false := by
  cases e with
  | leaf l =>
    cases l with
    | call _ _ _ _ => exact absurd h id
    | _ => rfl
  | _ => rfl

/-- Whether markup may stand in a cell. -/
structure FitsCell (text : Text) : Prop where
  barless : Barless text
  line : '\n' ∉ text

namespace FitsCell

variable {first second : Text}

theorem append (hfirst : FitsCell first) (hsecond : FitsCell second) :
    FitsCell (first ++ second) := by
  refine ⟨hfirst.barless.append hsecond.barless, ?_⟩
  intro hmem
  rcases List.mem_append.mp hmem with hmem | hmem
  · exact hfirst.line hmem
  · exact hsecond.line hmem

theorem of_forall {text : Text} (h : ∀ c ∈ text, (c ≠ '|' ∧ c ≠ '\\') ∧ c ≠ '\n') :
    FitsCell text :=
  ⟨Barless.of_forall fun c hc => (h c hc).1, fun hmem => (h _ hmem).2 rfl⟩

theorem flatMap {α : Type} {parts : List α} {shown : α → Text}
    (h : ∀ part ∈ parts, FitsCell (shown part)) : FitsCell (parts.flatMap shown) := by
  induction parts with
  | nil => exact of_forall (by simp)
  | cons part rest ih =>
    rw [List.forall_mem_cons] at h
    exact h.1.append (ih h.2)

end FitsCell

/-- Whether a piece may stand in a cell. Text of the document may hold bars, which are escaped. -/
def Piece.FitsCell : Piece → Prop
  | .markup text => DocumentStream.FitsCell text
  | .document text _ => '\n' ∉ text

theorem Piece.FitsCell.shown {piece : Piece} (h : piece.FitsCell) :
    DocumentStream.FitsCell (piece.shown true true) := by
  cases piece with
  | markup text => exact h
  | document text lineStart =>
    refine ⟨Escape.barless_text text lineStart, ?_⟩
    intro hmem
    rcases Escape.mem_text hmem with hbackslash | htext
    · exact absurd hbackslash (by decide)
    · exact h htext

/-- Whether an inscription may stand in a cell. -/
def Inscription.FitsCell : Inscription → Prop
  | .nothing => True
  | .markup text => DocumentStream.FitsCell text
  | .document value => '\n' ∉ value.text?.getD []

theorem Event.FitsCell.inscription {mode : MacroMode} {linkTarget imageTarget : Serializer}
    {e : Event} (h : e.FitsCell linkTarget) {i : Inscription}
    (hi : e.inscription? mode imageTarget = some i) : i.FitsCell := by
  cases e with
  | opening construct =>
    cases construct with
    | format style parameters =>
      obtain rfl := Option.some.inj hi
      exact .of_forall (by cases style <;> simp [Rendering.formatStart, Rendering.codeMark])
    | _ => simp [Event.inscription?] at hi
  | closing construct =>
    cases construct with
    | format style parameters =>
      obtain rfl := Option.some.inj hi
      exact .of_forall (by
        cases style <;> simp [Rendering.formatEnd, Rendering.formatStart, Rendering.codeMark])
    | _ => simp [Event.inscription?] at hi
  | leaf l =>
    obtain ⟨-, rfl⟩ : l.isInline = true ∧ l.inscription mode imageTarget = i := by
      simpa [Event.inscription?] using hi
    cases l with
    | word text => exact h
    | space => simp [Leaf.inscription, Inscription.FitsCell, Value.text?]
    | symbol value =>
      simp only [Leaf.inscription]
      cases hmarkup : Rendering.symbolMarkup? value with
      | none => exact h
      | some markup =>
        apply DocumentStream.FitsCell.of_forall
        unfold Rendering.symbolMarkup? at hmarkup
        split at hmarkup <;> cases hmarkup <;> simp
    | _ => exact absurd h id
  | foreign name => simp [Event.inscription?] at hi

namespace Draft

/-- Whether what is drafted may stand in a cell. -/
structure FitsCell (d : Draft) : Prop where
  pieces : ∀ piece ∈ d.pieces, piece.FitsCell
  held : '\n' ∉ d.heldText

namespace FitsCell

variable {d label : Draft}

theorem settled (h : d.FitsCell) : d.settled.FitsCell := by
  unfold Draft.settled
  split
  · exact h
  · refine ⟨?_, by simp [heldText, write]⟩
    intro piece hpiece
    rcases List.mem_append.mp hpiece with hold | hnew
    · exact h.pieces piece hold
    · rw [List.mem_singleton.mp hnew]
      exact h.held

theorem settled_write (h : d.FitsCell) {pieces : List Piece}
    (hpieces : ∀ piece ∈ pieces, piece.FitsCell) : (d.settled.write pieces).FitsCell := by
  refine ⟨?_, h.settled.held⟩
  intro piece hpiece
  rcases List.mem_append.mp hpiece with hold | hnew
  · exact h.settled.pieces piece hold
  · exact hpieces piece hnew

theorem inscribed (h : d.FitsCell) {i : Inscription} (hi : i.FitsCell) :
    (d.inscribed i).FitsCell := by
  cases i with
  | nothing => exact h
  | markup text => exact h.settled_write (List.forall_mem_singleton.mpr hi)
  | document value =>
    refine ⟨h.pieces, ?_⟩
    have hheld : (d.delay value).heldText = d.heldText ++ value.text?.getD [] := by
      simp [heldText, delay]
    intro hmem
    change '\n' ∈ (d.delay value).heldText at hmem
    rw [hheld] at hmem
    rcases List.mem_append.mp hmem with hold | hnew
    · exact h.held hold
    · exact hi hnew

theorem linked (h : d.FitsCell) (hlabel : label.FitsCell) {target : Text}
    (htarget : DocumentStream.FitsCell target) : (d.linked label target).FitsCell := by
  have hmark : ∀ text : Text, (∀ c ∈ text, (c ≠ '|' ∧ c ≠ '\\') ∧ c ≠ '\n') →
      DocumentStream.FitsCell text := fun _ => .of_forall
  unfold Draft.linked
  apply h.settled_write
  split
  · rw [List.forall_mem_singleton]
    exact ((hmark ['[', '['] (by simp)).append htarget).append (hmark [']', ']'] (by simp))
  · simp only [List.cons_append, List.forall_mem_cons, List.forall_mem_append]
    refine ⟨hmark ['['] (by simp), hlabel.settled.pieces, ?_, by simp⟩
    exact ((hmark [']', '('] (by simp)).append htarget).append (hmark [')'] (by simp))

theorem shown (h : d.FitsCell) : DocumentStream.FitsCell (d.shown true true) :=
  .flatMap fun piece hpiece => (h.settled.pieces piece hpiece).shown

end FitsCell

end Draft

/-- Content of events that may stand in a cell may do so as a whole. -/
theorem Drafted.fitsCell {mode : MacroMode} {linkTarget imageTarget : Serializer} {d d' : Draft}
    {content : List Event} (h : Drafted mode linkTarget imageTarget d content d')
    (hd : d.FitsCell) (hcontent : ∀ e ∈ content, e.FitsCell linkTarget) : d'.FitsCell := by
  induction h with
  | nil d => exact hd
  | event he hrest ih =>
    rw [List.forall_mem_cons] at hcontent
    exact ih (hd.inscribed (hcontent.1.inscription he)) hcontent.2
  | link hlabel htarget hrest ihlabel ih =>
    simp only [List.forall_mem_cons, List.forall_mem_append] at hcontent
    obtain ⟨-, hinner, hclosing, hlater⟩ := hcontent
    have hempty (lineStart : Bool) : Draft.FitsCell { lineStart } :=
      ⟨by simp, by simp [Draft.heldText]⟩
    exact ih (hd.linked (ihlabel (hempty _) hinner) (.of_forall (hclosing _ htarget))) hlater

/-- A cell with inline content. Its two events may differ in their fields. -/
structure TableCell where
  isHeader : Value
  isHeader' : Value
  parameters : Parameters
  parameters' : Parameters
  content : InlineContent

/-- A row, which has at least one cell. -/
structure TableRow where
  parameters : Parameters
  parameters' : Parameters
  cells : List TableCell
  cells_ne_nil : cells ≠ []

def TableCell.events (cell : TableCell) : List Event :=
  .opening (.cell cell.isHeader cell.parameters) ::
    (cell.content.events ++ [.closing (.cell cell.isHeader' cell.parameters')])

def TableRow.events (row : TableRow) : List Event :=
  .opening (.row row.parameters) ::
    (row.cells.flatMap TableCell.events ++ [.closing (.row row.parameters')])

/-- The events of a table. -/
def tableEvents (parameters parameters' : Parameters) (rows : List TableRow) : List Event :=
  .opening (.table parameters) ::
    (rows.flatMap TableRow.events ++ [.closing (.table parameters')])

/-- A macro in a table stands in a cell. -/
theorem exists_cell_of_isUnhandled {parameters parameters' : Parameters} {rows : List TableRow}
    {e : Event} (he : e ∈ tableEvents parameters parameters' rows)
    (hcall : e.isUnhandled = true) : ∃ row ∈ rows, ∃ cell ∈ row.cells, e ∈ cell.content.events := by
  have hnot : ∀ construct, e ≠ .opening construct ∧ e ≠ .closing construct := by
    intro construct
    constructor
    · rintro rfl
      exact Bool.false_ne_true hcall
    · rintro rfl
      exact Bool.false_ne_true hcall
  simpa [tableEvents, TableRow.events, TableCell.events, hnot] using he

namespace TrackedRenderer

variable {options : Options} {linkTarget imageTarget : Serializer} {s t : TrackedRenderer}

/-- Whether a renderer is as another one but for the finished cells of the innermost table and for
the abbreviations and the log. -/
structure Tabulates (options : Options) (linkTarget imageTarget : Serializer)
    (rows : List (List Text)) (s t : TrackedRenderer) : Prop where
  onDocument : OnDocument options linkTarget imageTarget t
  tracker : t.tracker = s.tracker
  tables : t.renderer.tables = rows :: s.renderer.tables.tail
  output : t.renderer.output = s.renderer.output

theorem Tabulates.trans {u : TrackedRenderer} {rows rows' : List (List Text)}
    (h : Tabulates options linkTarget imageTarget rows s t)
    (h' : Tabulates options linkTarget imageTarget rows' t u) :
    Tabulates options linkTarget imageTarget rows' s u where
  onDocument := h'.onDocument
  tracker := h'.tracker.trans h.tracker
  tables := by rw [h'.tables, h.tables, List.tail_cons]
  output := h'.output.trans h.output

/-- A table opens at the level of a document. -/
theorem exists_opened_table (options : Options) (linkTarget imageTarget : Serializer)
    (parameters : Parameters) :
    ∃ s, Step (.begun options linkTarget imageTarget) (.opening (.table parameters)) s ∧
      OnDocument options linkTarget imageTarget s ∧ s.renderer.tables = [] :: [] ∧
      s.renderer.output = [] := by
  let s : TrackedRenderer :=
    ⟨{}, { (begun options linkTarget imageTarget).renderer with hasBlock := true, tables := [[]] }⟩
  have hopen : Step (.begun options linkTarget imageTarget) (.opening (.table parameters)) s :=
    .opening trivial trivial
  exact ⟨s, hopen, ⟨⟨rfl, rfl, rfl, rfl, fun _ => rfl⟩, List.cons_ne_nil _ _, rfl, Int.le_refl 0⟩,
    rfl, rfl⟩

/-- A row opens in a table. -/
theorem OnDocument.exists_opened_row (hs : OnDocument options linkTarget imageTarget s)
    {rows : List (List Text)} {outer : List (List (List Text))}
    (htables : s.renderer.tables = rows :: outer) (parameters : Parameters) :
    ∃ t, Step s (.opening (.row parameters)) t ∧
      Tabulates options linkTarget imageTarget (rows ++ [[]]) s t := by
  let t : TrackedRenderer := ⟨s.tracker, { s.renderer with tables := (rows ++ [[]]) :: outer }⟩
  have hadmits : s.renderer.AdmitsOpening (.row parameters) := by
    simp [Renderer.AdmitsOpening, htables]
  have hopened : s.renderer.opened s.tracker.nesting (.row parameters) = t.renderer := by
    simp [Renderer.opened, htables, t]
  have hopen : Step s (.opening (.row parameters))
      ⟨s.tracker, s.renderer.opened s.tracker.nesting (.row parameters)⟩ :=
    .opening trivial hadmits
  rw [hopened] at hopen
  refine ⟨t, hopen, ⟨{ hs.keeps with }, hs.document, hs.captures, hs.inlineDepth⟩, rfl, ?_, rfl⟩
  rw [htables]
  rfl

section

variable (hescape : options.escapeSpecial.isTruthy = true)
  (hpipes : options.tablePipeEscape.isTruthy = true)

include hescape hpipes

/-- A cell captures its content with all bars escaped. -/
theorem OnDocument.exists_captured_cell (hs : OnDocument options linkTarget imageTarget s)
    {content : List Event} {d : Draft}
    (hd : Drafted options.unhandledMacroMode linkTarget imageTarget {} content d)
    (hcontent : ∀ e ∈ content, e.isWellTyped = true) (isHeader : Value) (parameters : Parameters) :
    ∃ t, Steps s (.opening (.cell isHeader parameters) :: content) t ∧
      Inscribes ⟨s.tracker.enterLine, s.renderer.captured (s.renderer.capture true)⟩ t ∧
      t.renderer.capturedText = d.shown true true := by
  have hline : 0 < s.tracker.enterLine.inlineDepth := by
    have hnonneg := hs.inlineDepth
    change 0 < s.tracker.inlineDepth + 1
    omega
  obtain ⟨t, hsteps, ht, hcaptured⟩ := hs.exists_captured hline hd hcontent true
  rw [hescape, hpipes, Bool.and_true] at hcaptured
  exact ⟨t, .cons (.opening trivial trivial) hsteps, ht, hcaptured⟩

variable {text : InlineContent → Text} (htext : Reads options linkTarget imageTarget true text)

include htext

/-- A cell is added to the last row. -/
theorem OnDocument.exists_cell (hs : OnDocument options linkTarget imageTarget s)
    {rows : List (List Text)} {row : List Text} {outer : List (List (List Text))}
    (htables : s.renderer.tables = (rows ++ [row]) :: outer) (cell : TableCell) :
    ∃ t, Steps s cell.events t ∧ Tabulates options linkTarget imageTarget
      (rows ++ [row ++ [text cell.content]]) s t := by
  obtain ⟨d, hd, hshown⟩ := htext cell.content
  obtain ⟨u, hsteps, hu, hcaptured⟩ := hs.exists_captured_cell hescape hpipes hd
    cell.content.isInline.typed cell.isHeader cell.parameters
  obtain ⟨hscope, hreleased⟩ := hu.renderer.printers_released
  obtain ⟨hnone, hdocument⟩ := Renderer.document_of_printers hreleased hs.captures
  have htables' : u.renderer.tables = (rows ++ [row]) :: outer := hu.renderer.tables.trans htables
  let left : Renderer := { u.renderer.released with
    tables := Renderer.withCell (u.renderer.tables.head?.getD []) u.renderer.capturedText ::
      u.renderer.tables.tail }
  have hadmits : u.renderer.AdmitsClosing (.cell cell.isHeader' cell.parameters') := by
    have hne : rows ++ [row] ≠ [] := by simp
    obtain ⟨first, rest, hrows⟩ := List.exists_cons_of_ne_nil hne
    refine ⟨hscope, first, rest, outer, ?_⟩
    rw [htables', hrows]
  have hclose : Step u (.closing (.cell cell.isHeader' cell.parameters'))
      ⟨u.tracker.leaveLine, left⟩ := .closing hadmits trivial
  refine ⟨⟨u.tracker.leaveLine, left⟩, ?_, ?_⟩
  · exact Steps.append_iff.mpr ⟨u, hsteps, .cons hclose (.nil _)⟩
  · have hdone : u.tracker.leaveLine = s.tracker := by
      rw [hu.tracker]
      simp [Tracker.leaveLine, Tracker.enterLine]
    have hkeeps : s.renderer.Keeps left := { hu.renderer.keeps with
      document := congrArg Printer.settings hdocument }
    refine ⟨⟨hs.keeps.trans hkeeps, ?_, hnone, ?_⟩, hdone, ?_, ?_⟩
    · apply List.ne_nil_of_length_pos
      change 0 < u.renderer.abbreviations.length
      rw [hu.renderer.abbreviations]
      exact List.length_pos_iff.mpr hs.document
    · rw [hdone]
      exact hs.inlineDepth
    · simp [left, htables', htables, Renderer.withCell, hcaptured, ← hshown, hescape]
    · exact congrArg (fun p : Printer => p.settled.written) hdocument

/-- Cells are added to the last row in their order. -/
theorem OnDocument.exists_cells {cells : List TableCell} :
    ∀ {s : TrackedRenderer} {rows : List (List Text)} {row : List Text}
      {outer : List (List (List Text))}, OnDocument options linkTarget imageTarget s →
      s.renderer.tables = (rows ++ [row]) :: outer →
      ∃ t, Steps s (cells.flatMap TableCell.events) t ∧ Tabulates options linkTarget imageTarget
        (rows ++ [row ++ cells.map fun cell => text cell.content]) s t := by
  induction cells with
  | nil =>
    intro s rows row outer hs htables
    exact ⟨s, .nil s, hs, rfl, by simp [htables], rfl⟩
  | cons cell rest ih =>
    intro s rows row outer hs htables
    obtain ⟨u, hcell, hu⟩ := hs.exists_cell hescape hpipes htext htables cell
    obtain ⟨t, hrest, ht⟩ := ih hu.onDocument hu.tables
    refine ⟨t, Steps.append_iff.mpr ⟨u, hcell, hrest⟩, ?_⟩
    have hboth := hu.trans ht
    rwa [List.append_assoc, List.singleton_append] at hboth

/-- A row is added to the table. -/
theorem OnDocument.exists_row (hs : OnDocument options linkTarget imageTarget s)
    {rows : List (List Text)} {outer : List (List (List Text))}
    (htables : s.renderer.tables = rows :: outer) (row : TableRow) :
    ∃ t, Steps s row.events t ∧ Tabulates options linkTarget imageTarget
      (rows ++ [row.cells.map fun cell => text cell.content]) s t := by
  obtain ⟨u, hopen, hu⟩ := hs.exists_opened_row htables row.parameters
  obtain ⟨t, hcells, ht⟩ := hu.onDocument.exists_cells hescape hpipes htext hu.tables
  have hclose : Step t (.closing (.row row.parameters')) t := .closing trivial trivial
  exact ⟨t, .cons hopen (Steps.append_iff.mpr ⟨t, hcells, .cons hclose (.nil _)⟩), hu.trans ht⟩

theorem OnDocument.exists_rows (rows : List TableRow) :
    ∀ {s : TrackedRenderer} {done : List (List Text)} {outer : List (List (List Text))},
      OnDocument options linkTarget imageTarget s → s.renderer.tables = done :: outer →
      ∃ t, Steps s (rows.flatMap TableRow.events) t ∧ Tabulates options linkTarget imageTarget
        (done ++ rows.map fun row => row.cells.map fun cell => text cell.content) s t := by
  induction rows with
  | nil =>
    intro s done outer hs htables
    exact ⟨s, .nil s, hs, rfl, by simp [htables], rfl⟩
  | cons row rest ih =>
    intro s done outer hs htables
    obtain ⟨u, hrow, hu⟩ := hs.exists_row hescape hpipes htext htables row
    obtain ⟨t, hrest, ht⟩ := ih hu.onDocument hu.tables
    refine ⟨t, Steps.append_iff.mpr ⟨u, hrow, hrest⟩, ?_⟩
    have hboth := hu.trans ht
    rwa [List.append_assoc, List.singleton_append] at hboth

/-- A table at the level of the document writes its layout. -/
theorem exists_steps_of_table (parameters parameters' : Parameters) (rows : List TableRow) :
    ∃ t, Steps (.begun options linkTarget imageTarget) (tableEvents parameters parameters' rows) t ∧
      t.renderer.captures = [] ∧ t.renderer.output =
        Table.format (rows.map fun row => row.cells.map fun cell => text cell.content) := by
  obtain ⟨s, hopen, hs, htables, houtput⟩ :=
    exists_opened_table options linkTarget imageTarget parameters
  obtain ⟨t, hrows, ht⟩ := OnDocument.exists_rows hescape hpipes htext rows hs htables
  let left : Renderer := { t.renderer with tables := t.renderer.tables.tail }
  let layout := Table.format (t.renderer.tables.head?.getD [])
  have hclose : Step t (.closing (.table parameters')) ⟨t.tracker, left.printed layout⟩ := by
    have hadmits : t.renderer.AdmitsClosing (.table parameters') := by
      simp [Renderer.AdmitsClosing, ht.tables]
    exact .closing hadmits trivial
  have hcaptures : left.captures = [] := ht.onDocument.captures
  refine ⟨_, .cons hopen (Steps.append_iff.mpr ⟨t, hrows, .cons hclose (.nil _)⟩),
    (Renderer.Writes.printed left layout).captures_eq_nil hcaptures, ?_⟩
  have hempty : left.output = [] := ht.output.trans houtput
  rw [Renderer.output_printed hcaptures, hempty, List.nil_append]
  simp only [layout, ht.tables, List.head?_cons, Option.getD_some, List.nil_append]

end

end TrackedRenderer

namespace TrackedRendering

open TrackedRenderer

variable {options : Options} {linkTarget imageTarget : Serializer} {parameters : Parameters}

/-- The text that a cell captures, in a table with nothing before it. -/
def cellText (options : Options) (linkTarget imageTarget : Serializer) (content : List Event) :
    Except RenderFault Text :=
  let before : List Event := [.opening (.document (some [])), .opening (.table (some [])),
    .opening (.row (some [])), .opening (.cell (.bool false) (some []))]
  let capture : TrackedRendering Text := do
    events (before ++ content)
    ofRendering Rendering.closeScope
  match capture.run (.start options linkTarget imageTarget .buffer) with
  | .ok text _ => .ok text
  | .error fault _ => .error fault

/-- What fits a cell is captured with all bars escaped. -/
theorem cellText_eq_ok (hlink : linkTarget.IsTotal) (himage : imageTarget.IsTotal)
    (hescape : options.escapeSpecial.isTruthy = true)
    (hpipes : options.tablePipeEscape.isTruthy = true) {content : InlineContent}
    (hcontent : ∀ e ∈ content.events, e.FitsCell linkTarget) {d : Draft}
    (hd : Drafted options.unhandledMacroMode linkTarget imageTarget {} content.events d) :
    cellText options linkTarget imageTarget content.events = .ok (d.shown true true) := by
  let before : List Event := [.opening (.document (some [])), .opening (.table (some [])),
    .opening (.row (some [])), .opening (.cell (.bool false) (some []))]
  have hstart : (TrackedRenderer.start options linkTarget imageTarget .buffer).renderer.Steady :=
    Renderer.start_steady hlink himage options .buffer
  have htyped : ∀ e ∈ before ++ content.events, e.isWellTyped = true := by
    rw [List.forall_mem_append]
    exact ⟨by decide, content.isInline.typed⟩
  have hmacros : ∀ e ∈ before ++ content.events, e.isUnhandled = true →
      options.unhandledMacroMode ≠ .refuse := by
    intro e he hcall
    rcases List.mem_append.mp he with hfirst | hlast
    · have hnone : ∀ e ∈ before, e.isUnhandled = false := by decide
      simp [hnone e hfirst] at hcall
    · simp [(hcontent e hlast).isUnhandled_eq] at hcall
  obtain ⟨s, htable, hs, htables, -⟩ :=
    exists_opened_table options linkTarget imageTarget (some [])
  obtain ⟨u, hrow, hu⟩ := hs.exists_opened_row htables (some [])
  obtain ⟨t, hcell, ht, hcaptured⟩ := hu.onDocument.exists_captured_cell hescape hpipes hd
    content.isInline.typed (.bool false) (some [])
  have hsteps :
      Steps (.start options linkTarget imageTarget .buffer) (before ++ content.events) t :=
    .cons (.opening trivial trivial) (.cons htable (.cons hrow hcell))
  have hrun := run_events_of_steps hsteps hstart htyped hmacros
  obtain ⟨hscope, -⟩ := ht.renderer.printers_released
  have hclose := Rendering.run_closeScope (hsteps.steady hstart htyped).holdsText hscope
  rw [cellText, run_bind_of_ok hrun, run_ofRendering hclose, hcaptured]

/-- A table is read back from its text. There is a line for each row, and one of dashes behind the
first. Between the bars of the line of a row that no backslash hides stand, apart from spaces, the
texts that its cells captured, and as many parts stand in the line of dashes as in the first row. -/
theorem body_tableEvents (hescape : options.escapeSpecial.isTruthy = true)
    (hpipes : options.tablePipeEscape.isTruthy = true) (hlink : linkTarget.IsTotal)
    (himage : imageTarget.IsTotal) (hparameters : Parameters.areTexts parameters = true)
    {opening closing : Parameters} {first : TableRow} {rest : List TableRow}
    (htyped : ∀ e ∈ tableEvents opening closing (first :: rest), e.isWellTyped = true)
    (hfits : ∀ row ∈ first :: rest, ∀ cell ∈ row.cells, ∀ e ∈ cell.content.events,
      e.FitsCell linkTarget) :
    ∃ (text : InlineContent → Text) (output separator : Text) (line : TableRow → Text)
      (parts : TableRow → List Text),
      (∀ row ∈ first :: rest, ∀ cell ∈ row.cells,
        cellText options linkTarget imageTarget cell.content.events = .ok (text cell.content)) ∧
      body options linkTarget imageTarget parameters
        (tableEvents opening closing (first :: rest)) = .ok output ∧
      Text.splitAtChar '\n' output = line first :: separator :: rest.map line ∧
      (∀ row ∈ first :: rest, splitBars (line row) = [] :: parts row ++ [[]] ∧
        (parts row).map stripSpaces = row.cells.map fun cell => stripSpaces (text cell.content)) ∧
      ∃ dashes, splitBars separator = [] :: dashes ++ [[]] ∧
        dashes.length = first.cells.length := by
  obtain ⟨text, htext⟩ : ∃ text, Reads options linkTarget imageTarget true text :=
    exists_reads hlink
  let shown (row : TableRow) : List Text := row.cells.map fun cell => text cell.content
  let widths := Table.widths ((first :: rest).map shown)
  obtain ⟨t, hsteps, hcaptures, houtput⟩ :=
    exists_steps_of_table hescape hpipes htext opening closing (first :: rest)
  have hcells : ∀ row ∈ first :: rest, ∀ cell ∈ shown row, FitsCell cell := by
    intro row hrow captured hcaptured
    obtain ⟨cell, hcell, rfl⟩ := List.mem_map.mp hcaptured
    obtain ⟨d, hd, hshown⟩ := htext cell.content
    have hd' := hd.fitsCell ⟨by simp, by simp [Draft.heldText]⟩ (hfits row hrow cell hcell)
    rw [← hshown, hescape]
    exact hd'.shown
  have hmacros : ∀ e ∈ tableEvents opening closing (first :: rest), e.isUnhandled = true →
      options.unhandledMacroMode ≠ .refuse := by
    intro e he hcall
    obtain ⟨row, hrow, cell, hcell, hmem⟩ := exists_cell_of_isUnhandled he hcall
    rw [(hfits row hrow cell hcell e hmem).isUnhandled_eq] at hcall
    exact absurd hcall Bool.false_ne_true
  refine ⟨text, _, Table.separatorLine widths (shown first),
    fun row => Table.rowLine widths (shown row),
    fun row => widths.zipWith Table.padded (shown row), ?_,
    body_eq_output_of_steps hlink himage hparameters htyped hmacros hsteps hcaptures, ?_, ?_, ?_⟩
  · intro row hrow cell hcell
    obtain ⟨d, hd, hshown⟩ := htext cell.content
    rw [← hshown, hescape]
    exact cellText_eq_ok hlink himage hescape hpipes (hfits row hrow cell hcell) hd
  · have hlines : ∀ row ∈ (first :: rest).map shown, ∀ cell ∈ row, '\n' ∉ cell := by
      intro cells hmem cell hcell
      obtain ⟨row, hrow, rfl⟩ := List.mem_map.mp hmem
      exact (hcells row hrow cell hcell).line
    rw [houtput, List.map_cons, Table.splitAtChar_format hlines, List.map_map]
    rfl
  · intro row hrow
    have hlength : (shown row).length ≤ widths.length :=
      Table.length_le_widths (List.mem_map_of_mem hrow)
    refine ⟨Table.splitBars_rowLine widths fun cell hcell => (hcells row hrow cell hcell).barless,
      ?_⟩
    rw [Table.map_stripSpaces_zipWith hlength, List.map_map]
    rfl
  · have hlength : (shown first).length ≤ widths.length :=
      Table.length_le_widths (List.mem_map_of_mem List.mem_cons_self)
    obtain ⟨dashes, hdashes, hcount⟩ := Table.splitBars_separatorLine hlength
    exact ⟨dashes, hdashes, hcount.trans (List.length_map _)⟩

/-- A link with a bar in its label and a second cell behind it. -/
theorem body_tableEvents_bar_in_label :
    let reference : Reference := { target := .str ['x'] }
    let label : InlineContent := ⟨[.opening (.link reference (.bool false) (some [])),
      .leaf (.word (.str ['a', '|', 'b'])), .closing (.link reference (.bool false) (some []))],
      rfl, by decide, by decide⟩
    let word : InlineContent := ⟨[.leaf (.word (.str ['c']))], rfl, by decide, by decide⟩
    let cell (content : InlineContent) : TableCell :=
      ⟨.bool false, .bool false, some [], some [], content⟩
    let row : TableRow := ⟨some [], some [], [cell label, cell word], List.cons_ne_nil _ _⟩
    ∃ (text : InlineContent → Text) (output line separator : Text) (parts : List Text),
      body {} .plain .plain (some []) (tableEvents (some []) (some []) [row]) = .ok output ∧
      Text.splitAtChar '\n' output = [line, separator] ∧
      splitBars line = [] :: parts ++ [[]] ∧
      parts.map stripSpaces = [stripSpaces (text label), stripSpaces (text word)] := by
  intro reference label word cell row
  have hescape : ({} : Options).escapeSpecial.isTruthy = true := rfl
  have hpipes : ({} : Options).tablePipeEscape.isTruthy = true := rfl
  have hnone : Parameters.areTexts (some []) = true := rfl
  have htyped : ∀ e ∈ tableEvents (some []) (some []) [row], e.isWellTyped = true := by decide
  have hfits : ∀ row' ∈ [row], ∀ cell ∈ row'.cells, ∀ e ∈ cell.content.events,
      e.FitsCell .plain := by
    simp [row, cell, label, word, reference, Event.FitsCell, Serializer.plain, Value.text?,
      Value.display]
  obtain ⟨text, output, separator, line, parts, -, hbody, hlines, hparts, -⟩ :=
    body_tableEvents hescape hpipes Serializer.plain_isTotal Serializer.plain_isTotal hnone htyped
      hfits
  obtain ⟨hsplit, hcells⟩ := hparts row List.mem_cons_self
  exact ⟨text, output, line row, separator, parts row, hbody, hlines, hsplit, hcells⟩

end TrackedRendering

end DocumentStream
