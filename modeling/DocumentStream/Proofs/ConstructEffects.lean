import DocumentStream.Proofs.LeafEffects

/-!
What a construct does to a renderer when it opens and when it closes, as functions. An event of the
declared kind is rendered with just this effect if the stack it counts on has something on it, and
fails as an event that does not fit if there is nothing.
-/

namespace DocumentStream

/-- Whether an event defines an abbreviation. -/
def Event.isAbbreviation : Event → Bool
  | .leaf l => l.isAbbreviation
  | _ => false

/-- Whether an event is a macro that Markdown has no form for. -/
def Event.isUnhandled : Event → Bool
  | .leaf l => l.isUnhandled
  | _ => false

/-- A heading level as a number. -/
def Value.level (value : Value) : Int :=
  match value.numeric? with
  | some (.int n) => n
  | _ => 0

namespace Renderer

/-- The renderer after the mark in front of a heading below the second level. -/
def headingMarked (r : Renderer) (level : Value) : Renderer :=
  if 2 < level.level then r.printed (Text.times level.level ['='] ++ [' ']) else r

/-- The markup after the text of a heading. -/
def headingTail (level : Value) (heading : Text) : Text :=
  if level.level = 1 then '\n' :: List.replicate heading.length '='
  else if level.level = 2 then '\n' :: List.replicate heading.length '-'
  else ' ' :: Text.times level.level ['=']

/-- The renderer after a line feed in front of all items but the first. -/
def separated (r : Renderer) (index : Int) : Renderer :=
  if 0 < index then r.printed ['\n'] else r

/-- The rows of the innermost table after a cell is added to the last one. -/
def withCell (rows : List (List Text)) (text : Text) : List (List Text) :=
  rows.dropLast ++ [(rows.getLast?.getD []) ++ [text]]

/-- The renderer after the opening of a construct. -/
def opened (r : Renderer) (nesting : Nesting) : Construct → Renderer
  | .document _ => { r with abbreviations := [] :: r.abbreviations }
  | .paragraph _ => r.setOff
  | .heading level _ _ =>
    let marked := r.setOff.headingMarked level
    marked.captured (marked.capture marked.printer.escapesPipes)
  | .list kind _ =>
    let begun := if nesting.listDepth = 1 then r.setOff else r.printed ['\n']
    { begun with listStyles := kind :: begun.listStyles }
  | .listItem =>
    match r.listStyles with
    | [] => r
    | style :: _ =>
      ((r.separated nesting.listItem).printed
        (Text.times (nesting.listDepth - 1) Rendering.indent ++
          Rendering.itemMarker style)).lineStarted
  | .definitionList _ => r
  | .term =>
    (r.setOff.printed (Text.times (nesting.definitionDepth - 1) Rendering.indent)).lineStarted
  | .description =>
    ((r.separated nesting.definitionItem).printed
      (Text.times (nesting.definitionDepth - 1) Rendering.indent ++
        [':', ' ', ' ', ' '])).lineStarted
  | .quotation _ =>
    { (if nesting.isInQuotationLine then r else r.setOff) with
      previousQuotationDepth := nesting.quotationDepth }
  | .quotationLine =>
    let separated :=
      if 0 < nesting.quotationLine then
        r.printed (Rendering.quotationSeparator r.previousQuotationDepth)
      else r
    (separated.printed (Text.times nesting.quotationDepth ['>', ' '])).lineStarted
  | .table _ => { r.setOff with tables := [] :: r.setOff.tables }
  | .row _ => { r with tables := ((r.tables.head?.getD []) ++ [[]]) :: r.tables.tail }
  | .cell .. => r.captured (r.capture true)
  | .format style _ => r.printed (Rendering.formatStart style)
  | .link .. =>
    r.captured ((r.capture r.printer.escapesPipes).setLineStart r.printer.isOnNewLine)

/-- The renderer after the closing of a construct. -/
def closed (r : Renderer) : Construct → Renderer
  | .document _ =>
    let left := { r with abbreviations := r.abbreviations.tail }
    match r.abbreviations.head?.getD [] with
    | [] => left.settled
    | scope =>
      (left.setOff.printed (Text.join ['\n'] (scope.map Rendering.definitionLine))).settled
  | .paragraph _ | .listItem | .definitionList _ | .quotation _ | .row _ => r
  | .heading level _ _ =>
    (r.released.printed r.capturedText).printed (headingTail level r.capturedText)
  | .list .. => { r with listStyles := r.listStyles.tail }.settled
  | .term | .description | .quotationLine => r.settled
  | .table _ =>
    { r with tables := r.tables.tail }.printed (Table.format (r.tables.head?.getD []))
  | .cell .. =>
    { r.released with
      tables := withCell (r.tables.head?.getD []) r.capturedText :: r.tables.tail }
  | .format style _ => r.printed (Rendering.formatEnd style)
  | .link reference _ _ =>
    match reference.link r.linkTarget r.capturedText with
    | .ok markup => r.released.printed markup
    | .error _ => r.released

/-- The renderer after an event. -/
def after (r : Renderer) (nesting : Nesting) : Event → Renderer
  | .opening construct => r.opened nesting construct
  | .closing construct => r.closed construct
  | .leaf l => r.shown nesting l
  | .foreign _ => r

/-- What has to be open for a construct to open. -/
def AdmitsOpening (r : Renderer) : Construct → Prop
  | .listItem => r.listStyles ≠ []
  | .row _ => r.tables ≠ []
  | _ => True

/-- What has to be open for a construct to close. -/
def AdmitsClosing (r : Renderer) : Construct → Prop
  | .document _ => r.abbreviations ≠ []
  | .heading .. | .link .. => r.captures ≠ []
  | .list .. => r.listStyles ≠ []
  | .table _ => r.tables ≠ []
  | .cell .. => r.captures ≠ [] ∧ ∃ row rows outer, r.tables = (row :: rows) :: outer
  | _ => True

/-- What has to be open for an event. -/
def Admits (r : Renderer) : Event → Prop
  | .opening construct => r.AdmitsOpening construct
  | .closing construct => r.AdmitsClosing construct
  | .leaf l => l.isAbbreviation = true → r.abbreviations ≠ []
  | .foreign _ => False

namespace Writes

variable (r : Renderer)

theorem headingMarked (level : Value) : Writes r (r.headingMarked level) := by
  unfold Renderer.headingMarked
  split
  · exact printed r _
  · exact refl r

theorem separated (index : Int) : Writes r (r.separated index) := by
  unfold Renderer.separated
  split
  · exact printed r _
  · exact refl r

end Writes

end Renderer

namespace Rendering

variable {r : Renderer}

theorem run_timesLevel {level : Value} (hlevel : level.isLevel = true) (markup : Text) :
    timesLevel level markup = pure (Text.times level.level markup) := by
  obtain ⟨n, hn⟩ := Value.exists_level_of_isLevel hlevel
  simp only [timesLevel, Value.level, hn]

theorem compareLevel?_eq {level : Value} (hlevel : level.isLevel = true) (n : Int) :
    compareLevel? level n = some (compare level.level n) := by
  obtain ⟨m, hm⟩ := Value.exists_level_of_isLevel hlevel
  simp only [compareLevel?, Value.level, hm, Option.bind_some, Numeric.compareInt?]

theorem run_openHeading (h : r.HoldsText) (nesting : Nesting) {level id : Value}
    {parameters : Parameters} (hlevel : level.isLevel = true) :
    (openHeading level).run r = .ok () (r.opened nesting (.heading level id parameters)) := by
  have hset := (Renderer.Writes.setOff r).holdsText h
  have hnumeric : level.numeric?.isNone = false := by
    obtain ⟨n, hn⟩ := Value.exists_level_of_isLevel hlevel
    rw [hn]
    rfl
  rw [openHeading, run_bind_of_ok (run_printEmptyLine h)]
  simp only [hnumeric, compareLevel?_eq hlevel, run_timesLevel hlevel, Option.some.injEq,
    Int.compare_eq_gt, Renderer.opened, Renderer.headingMarked]
  by_cases hlow : 2 < level.level
  · simp [hlow, run_print hset, run_openScope]
  · simp [hlow, run_openScope]

theorem run_closeHeading (h : r.HoldsText) {level id : Value} {parameters : Parameters}
    (hlevel : level.isLevel = true) (hcaptures : r.captures ≠ []) :
    (closeHeading level).run r = .ok () (r.closed (.heading level id parameters)) := by
  have hprinted : (r.released.printed r.capturedText).HoldsText :=
    (Renderer.Writes.printed _ _).holdsText (h.released hcaptures)
  rw [closeHeading, run_bind_of_ok (run_closeScope h hcaptures),
    run_bind_of_ok (run_print (h.released hcaptures) _)]
  simp only [compareLevel?_eq hlevel, run_timesLevel hlevel, Option.some.injEq,
    Std.LawfulEqCmp.compare_eq_iff_eq, pure_bind, Renderer.closed, Renderer.headingTail]
  rw [← run_print hprinted]
  split
  · rfl
  · split
    · rfl
    · rfl

theorem run_openList (h : r.HoldsText) (nesting : Nesting) (kind : ListKind)
    (parameters : Parameters) :
    (openList nesting kind).run r = .ok () (r.opened nesting (.list kind parameters)) := by
  unfold openList Renderer.opened
  split
  · rw [run_bind_of_ok (run_printEmptyLine h)]
    rfl
  · rw [run_bind_of_ok (run_print h _)]
    rfl

theorem run_closeList (h : r.HoldsText) {kind : ListKind} {parameters : Parameters}
    (hstyles : r.listStyles ≠ []) :
    closeList.run r = .ok () (r.closed (.list kind parameters)) := by
  obtain ⟨style, outer, hstyles⟩ := List.exists_cons_of_ne_nil hstyles
  rw [closeList, run_get_bind]
  simp only [hstyles, Renderer.closed, List.tail_cons]
  exact run_flush h

/-- Writing a line feed in front of all items but the first. -/
theorem run_separate (h : r.HoldsText) (index : Int) (next : Rendering Unit) :
    (do
      if 0 < index then print ['\n']
      next : Rendering Unit).run r = next.run (r.separated index) := by
  unfold Renderer.separated
  split
  · rw [run_bind_of_ok (run_print h _)]
  · rfl

/-- Writing the marker of a line, after which text starts the line. -/
theorem run_startLine (h : r.HoldsText) (marker : Text) :
    (do
      print marker
      startLineContent : Rendering Unit).run r = .ok () (r.printed marker).lineStarted := by
  rw [run_bind_of_ok (run_print h marker), run_startLineContent]

theorem run_openItem (h : r.HoldsText) (nesting : Nesting) (hstyles : r.listStyles ≠ []) :
    (openItem nesting).run r = .ok () (r.opened nesting .listItem) := by
  obtain ⟨style, outer, hstyles⟩ := List.exists_cons_of_ne_nil hstyles
  have hseparated := (Renderer.Writes.separated r nesting.listItem).holdsText h
  rw [openItem, run_get_bind]
  simp only [hstyles, Renderer.opened]
  rw [← run_startLine hseparated]
  exact run_separate h nesting.listItem _

theorem run_openTerm (h : r.HoldsText) (nesting : Nesting) :
    (openTerm nesting).run r = .ok () (r.opened nesting .term) := by
  have hset := (Renderer.Writes.setOff r).holdsText h
  rw [openTerm, run_bind_of_ok (run_printEmptyLine h)]
  exact run_startLine hset _

theorem run_openDescription (h : r.HoldsText) (nesting : Nesting) :
    (openDescription nesting).run r = .ok () (r.opened nesting .description) := by
  have hseparated := (Renderer.Writes.separated r nesting.definitionItem).holdsText h
  unfold openDescription
  rw [Renderer.opened, ← run_startLine hseparated]
  exact run_separate h nesting.definitionItem _

theorem run_openQuotation (h : r.HoldsText) (nesting : Nesting) (parameters : Parameters) :
    (openQuotation nesting).run r = .ok () (r.opened nesting (.quotation parameters)) := by
  unfold openQuotation Renderer.opened
  cases nesting.isInQuotationLine with
  | true => rfl
  | false =>
    simp only [Bool.false_eq_true, if_false]
    rw [run_bind_of_ok (run_printEmptyLine h)]
    rfl

theorem run_openQuotationLine (h : r.HoldsText) (nesting : Nesting) :
    (openQuotationLine nesting).run r = .ok () (r.opened nesting .quotationLine) := by
  unfold openQuotationLine Renderer.opened
  dsimp only
  split
  · have hprinted := (Renderer.Writes.printed r
      (quotationSeparator r.previousQuotationDepth)).holdsText h
    rw [run_get_bind, run_bind_of_ok (run_print h _)]
    exact run_startLine hprinted _
  · exact run_startLine h _

theorem run_currentRows {rows : List (List Text)} {outer : List (List (List Text))}
    (htables : r.tables = rows :: outer) (event : String) :
    (currentRows event).run r = .ok rows r := by
  rw [currentRows, run_get_bind]
  simp only [htables]
  rfl

theorem run_currentRows_of_nil (htables : r.tables = []) (event : String) :
    (currentRows event).run r = .error (.rendering (.outsideTable event.toList)) r := by
  rw [currentRows, run_get_bind]
  simp only [htables]
  rfl

theorem run_closeTable (h : r.HoldsText) {parameters : Parameters} (htables : r.tables ≠ []) :
    closeTable.run r = .ok () (r.closed (.table parameters)) := by
  obtain ⟨rows, outer, htables⟩ := List.exists_cons_of_ne_nil htables
  have hleft : ({ r with tables := r.tables.tail } : Renderer).HoldsText := h
  rw [closeTable, run_bind_of_ok (run_currentRows htables _)]
  have hrows : r.tables.head?.getD [] = rows := by rw [htables, List.head?_cons, Option.getD_some]
  rw [Renderer.closed, hrows]
  exact run_print hleft _

theorem run_closeCell (h : r.HoldsText) {isHeader : Value} {parameters : Parameters}
    (hcaptures : r.captures ≠ []) {row : List Text} {rows : List (List Text)}
    {outer : List (List (List Text))} (htables : r.tables = (row :: rows) :: outer) :
    closeCell.run r = .ok () (r.closed (.cell isHeader parameters)) := by
  have hrows : r.released.tables = (row :: rows) :: outer := htables
  obtain ⟨last, hlast⟩ : ∃ last, (row :: rows).getLast? = some last :=
    ⟨_, List.getLast?_eq_some_getLast (List.cons_ne_nil row rows)⟩
  rw [closeCell, run_bind_of_ok (run_closeScope h hcaptures),
    run_bind_of_ok (run_currentRows hrows _)]
  simp only [Renderer.closed, Renderer.withCell, htables, hlast, List.head?_cons,
    Option.getD_some, List.tail_cons]
  exact congrArg (EStateM.Result.ok ()) (by simp only [hrows, List.tail_cons])

/-- A cell needs a scope to close, a table to belong to, and a row in it. -/
theorem run_closeCell_of_not (h : r.HoldsText)
    (hnot : ¬ (r.captures ≠ [] ∧ ∃ row rows outer, r.tables = (row :: rows) :: outer)) :
    ∃ error s, closeCell.run r = .error (.rendering error) s := by
  by_cases hcaptures : r.captures = []
  · exact ⟨.noOpenScope, r, by rw [closeCell, EStateM.run_bind, run_closeScope_of_nil hcaptures]⟩
  rw [closeCell, run_bind_of_ok (run_closeScope h hcaptures)]
  cases htables : r.tables with
  | nil =>
    have hrows : r.released.tables = [] := htables
    exact ⟨_, _, by rw [EStateM.run_bind, run_currentRows_of_nil hrows]⟩
  | cons rows outer =>
    have hrows : r.released.tables = rows :: outer := htables
    rw [run_bind_of_ok (run_currentRows hrows _)]
    cases rows with
    | nil => exact ⟨.cellOutsideRow, _, rfl⟩
    | cons row rows => exact absurd ⟨hcaptures, row, rows, outer, htables⟩ hnot

theorem run_closeDocument (h : r.HoldsText) {parameters : Parameters}
    (habbreviations : r.abbreviations ≠ []) :
    closeDocument.run r = .ok () (r.closed (.document parameters)) := by
  obtain ⟨scope, outer, habbreviations⟩ := List.exists_cons_of_ne_nil habbreviations
  rw [closeDocument, run_get_bind]
  simp only [habbreviations, Renderer.closed, List.head?_cons, Option.getD_some, List.tail_cons]
  have hleft : ({ r with abbreviations := outer } : Renderer).HoldsText := h
  have hset := (Renderer.Writes.setOff { r with abbreviations := outer }).holdsText hleft
  cases scope with
  | nil => exact run_flush h
  | cons first rest =>
    simp only [List.isEmpty_cons, Bool.false_eq_true, if_false, EStateM.run_modify,
      EStateM.run_bind, run_printEmptyLine hleft, run_print hset]
    exact run_flush ((Renderer.Writes.printed _ _).holdsText hset)

theorem exists_link {serialize : Serializer} (hserialize : serialize.IsTotal)
    {reference : Reference} (hreference : reference.isWellTyped = true) (label : Text) :
    ∃ markup, reference.link serialize label = .ok markup := by
  obtain ⟨target, htarget⟩ := hserialize reference hreference
  rw [Reference.link, htarget]
  cases label.isEmpty
  · exact ⟨_, rfl⟩
  · exact ⟨_, rfl⟩

theorem run_closeLink (h : r.Steady) {reference : Reference} {isFreeStanding : Value}
    {parameters : Parameters} (hreference : reference.isWellTyped = true)
    (hcaptures : r.captures ≠ []) :
    (closeLink reference).run r =
      .ok () (r.closed (.link reference isFreeStanding parameters)) := by
  obtain ⟨markup, hmarkup⟩ := exists_link h.linkTarget hreference r.capturedText
  have hreleased : reference.link r.released.linkTarget r.capturedText = .ok markup := hmarkup
  rw [closeLink, run_bind_of_ok (run_closeScope h.holdsText hcaptures), run_get_bind]
  simp only [hreleased, hmarkup, Renderer.closed, ofField, pure_bind]
  exact run_print (h.holdsText.released hcaptures) markup

/-- Opening a construct that finds what it needs has its effect. -/
theorem run_openConstruct (h : r.HoldsText) (nesting : Nesting) {construct : Construct}
    (hc : construct.isWellTyped = true) (hadmits : r.AdmitsOpening construct) :
    (openConstruct nesting construct).run r = .ok () (r.opened nesting construct) := by
  cases construct with
  | document parameters => rfl
  | paragraph parameters => exact run_printEmptyLine h
  | heading level id parameters =>
    simp only [Construct.isWellTyped, Bool.and_eq_true] at hc
    exact run_openHeading h nesting hc.1.1
  | list kind parameters => exact run_openList h nesting kind parameters
  | listItem => exact run_openItem h nesting hadmits
  | definitionList parameters => rfl
  | term => exact run_openTerm h nesting
  | description => exact run_openDescription h nesting
  | quotation parameters => exact run_openQuotation h nesting parameters
  | quotationLine => exact run_openQuotationLine h nesting
  | table parameters =>
    rw [openConstruct, run_bind_of_ok (run_printEmptyLine h)]
    rfl
  | row parameters =>
    obtain ⟨rows, outer, htables⟩ := List.exists_cons_of_ne_nil hadmits
    have hrows : r.tables.head?.getD [] = rows := by
      rw [htables, List.head?_cons, Option.getD_some]
    rw [openConstruct, run_bind_of_ok (run_currentRows htables _), Renderer.opened, hrows]
    rfl
  | cell isHeader parameters => rfl
  | format style parameters => exact run_print h _
  | link reference isFreeStanding parameters => rfl

theorem run_openConstruct_of_not (nesting : Nesting) {construct : Construct}
    (hnot : ¬ r.AdmitsOpening construct) :
    ∃ error s, (openConstruct nesting construct).run r = .error (.rendering error) s := by
  cases construct with
  | listItem =>
    have hstyles : r.listStyles = [] := Classical.not_not.mp hnot
    refine ⟨.itemOutsideList, r, ?_⟩
    rw [openConstruct, openItem, run_get_bind]
    simp only [hstyles]
    rfl
  | row parameters =>
    have htables : r.tables = [] := Classical.not_not.mp hnot
    exact ⟨_, r, by rw [openConstruct, EStateM.run_bind, run_currentRows_of_nil htables]⟩
  | _ => exact absurd trivial hnot

/-- Closing a construct that finds what it needs has its effect. -/
theorem run_closeConstruct (h : r.Steady) {construct : Construct}
    (hc : construct.isWellTyped = true) (hadmits : r.AdmitsClosing construct) :
    (closeConstruct construct).run r = .ok () (r.closed construct) := by
  cases construct with
  | document parameters => exact run_closeDocument h.holdsText hadmits
  | paragraph parameters => rfl
  | heading level id parameters =>
    simp only [Construct.isWellTyped, Bool.and_eq_true] at hc
    exact run_closeHeading h.holdsText hc.1.1 hadmits
  | list kind parameters => exact run_closeList h.holdsText hadmits
  | listItem => rfl
  | definitionList parameters => rfl
  | term => exact run_flush h.holdsText
  | description => exact run_flush h.holdsText
  | quotation parameters => rfl
  | quotationLine => exact run_flush h.holdsText
  | table parameters => exact run_closeTable h.holdsText hadmits
  | row parameters => rfl
  | cell isHeader parameters =>
    obtain ⟨hcaptures, row, rows, outer, htables⟩ := hadmits
    exact run_closeCell h.holdsText hcaptures htables
  | format style parameters => exact run_print h.holdsText _
  | link reference isFreeStanding parameters =>
    simp only [Construct.isWellTyped, Bool.and_eq_true] at hc
    exact run_closeLink h hc.1.1 hadmits

theorem run_closeConstruct_of_not (h : r.HoldsText) {construct : Construct}
    (hnot : ¬ r.AdmitsClosing construct) :
    ∃ error s, (closeConstruct construct).run r = .error (.rendering error) s := by
  cases construct with
  | document parameters =>
    have habbreviations : r.abbreviations = [] := Classical.not_not.mp hnot
    refine ⟨.noOpenDocument, r, ?_⟩
    rw [closeConstruct, closeDocument, run_get_bind]
    simp only [habbreviations]
    rfl
  | heading level id parameters =>
    have hcaptures : r.captures = [] := Classical.not_not.mp hnot
    exact ⟨.noOpenScope, r, by
      rw [closeConstruct, closeHeading, EStateM.run_bind, run_closeScope_of_nil hcaptures]⟩
  | list kind parameters =>
    have hstyles : r.listStyles = [] := Classical.not_not.mp hnot
    refine ⟨.noOpenList, r, ?_⟩
    rw [closeConstruct, closeList, run_get_bind]
    simp only [hstyles]
    rfl
  | table parameters =>
    have htables : r.tables = [] := Classical.not_not.mp hnot
    exact ⟨_, r, by
      rw [closeConstruct, closeTable, EStateM.run_bind, run_currentRows_of_nil htables]⟩
  | cell isHeader parameters => exact run_closeCell_of_not h hnot
  | link reference isFreeStanding parameters =>
    have hcaptures : r.captures = [] := Classical.not_not.mp hnot
    exact ⟨.noOpenScope, r, by
      rw [closeConstruct, closeLink, EStateM.run_bind, run_closeScope_of_nil hcaptures]⟩
  | _ => exact absurd trivial hnot

/-- An event that finds what it needs has its effect. -/
theorem run_event (h : r.Steady) (nesting : Nesting) {e : Event} (he : e.isWellTyped = true)
    (hmode : e.isUnhandled = true → r.options.unhandledMacroMode ≠ .refuse)
    (hadmits : r.Admits e) : (event nesting e).run r = .ok () (r.after nesting e) := by
  cases e with
  | opening construct => exact run_openConstruct h.holdsText nesting he hadmits
  | closing construct => exact run_closeConstruct h he hadmits
  | leaf l => exact run_leaf h nesting he hmode hadmits
  | foreign name => exact absurd hadmits id

/-- An event that does not find what it needs fails as one that does not fit. -/
theorem run_event_of_not (h : r.HoldsText) (nesting : Nesting) {e : Event}
    (hnot : ¬ r.Admits e) :
    ∃ error s, (event nesting e).run r = .error (.rendering error) s := by
  cases e with
  | opening construct => exact run_openConstruct_of_not nesting hnot
  | closing construct => exact run_closeConstruct_of_not h hnot
  | leaf l =>
    obtain ⟨habbreviation, hscope⟩ := Classical.not_imp.mp hnot
    exact ⟨_, r, run_leaf_of_nil nesting habbreviation (Classical.not_not.mp hscope)⟩
  | foreign name => exact ⟨.unsupportedEvent name, r, rfl⟩

end Rendering

end DocumentStream
