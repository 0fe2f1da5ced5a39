import DocumentStream.Proofs.BalancedContent

/-!
Two renderers in step. The one has written a text before that the other has not, and beyond that
they differ only in the log and in the abbreviations of the outermost document. Every event leaves
them so, since what is written depends on nothing in which they differ.
-/

namespace DocumentStream

namespace Printer

/-- The printer that wrote another text before. -/
def resumed (past : Text) (p : Printer) : Printer := { p with written := past ++ p.written }

theorem resumed_write (past : Text) (p : Printer) (text : Text) :
    (p.resumed past).write text = (p.write text).resumed past := by
  unfold write
  split
  · rfl
  · simp [resumed]

theorem resumed_settled (past : Text) (p : Printer) :
    (p.resumed past).settled = p.settled.resumed past := by
  unfold settled
  cases hpending : p.pending.isEmpty with
  | true => simp [resumed, hpending]
  | false =>
    have hresumed : ({ p.resumed past with pending := [] } : Printer) =
        ({ p with pending := [] } : Printer).resumed past := rfl
    have hempty : (p.resumed past).pending.isEmpty = false := hpending
    simp only [hempty, hresumed, resumed_write]
    rfl

end Printer

/-- Whether a construct is set off from what was rendered before it. -/
def Construct.setsOff (nesting : Nesting) : Construct → Bool
  | .paragraph _ | .heading .. | .term | .table _ => true
  | .list .. => nesting.listDepth = 1
  | .quotation _ => !nesting.isInQuotationLine
  | _ => false

namespace Renderer

/-- Whether a renderer is another one that wrote a text before. -/
structure Resumes (past : Text) (f r : Renderer) : Prop where
  options : r.options = f.options
  linkTarget : r.linkTarget = f.linkTarget
  imageTarget : r.imageTarget = f.imageTarget
  document : r.document = f.document.resumed past
  captures : r.captures = f.captures
  hasBlock : r.hasBlock = f.hasBlock
  listStyles : r.listStyles = f.listStyles
  tables : r.tables = f.tables
  abbreviations : ∃ upper scope scope',
    f.abbreviations = upper ++ [scope] ∧ r.abbreviations = upper ++ [scope']

namespace Resumes

variable {past : Text} {f r : Renderer}

/-- What the current printer does is done in step if it does not depend on what was written. -/
theorem onPrinter (h : Resumes past f r) (act : Printer → Printer)
    (hact : ∀ p, act (p.resumed past) = (act p).resumed past) :
    Resumes past (f.withPrinter (act f.printer)) (r.withPrinter (act r.printer)) := by
  have hcaptures := h.captures
  cases hf : f.captures with
  | nil =>
    have hr : r.captures = [] := hcaptures.trans hf
    have hdocument : act r.document = (act f.document).resumed past := by rw [h.document, hact]
    simp only [withPrinter, printer, hf, hr, List.head?_nil, Option.getD_none]
    exact { h with document := hdocument, captures := rfl }
  | cons p outer =>
    have hr : r.captures = p :: outer := hcaptures.trans hf
    simp only [withPrinter, printer, hf, hr, List.head?_cons, Option.getD_some]
    exact { h with captures := rfl }

theorem printed (h : Resumes past f r) (markup : Text) :
    Resumes past (f.printed markup) (r.printed markup) :=
  h.onPrinter (fun p => p.settled.write markup) fun p => by
    rw [Printer.resumed_settled, Printer.resumed_write]

theorem held (h : Resumes past f r) (value : Value) : Resumes past (f.held value) (r.held value) :=
  h.onPrinter (fun p => p.delay value) fun _ => rfl

theorem settled (h : Resumes past f r) : Resumes past f.settled r.settled :=
  h.onPrinter Printer.settled (Printer.resumed_settled past)

theorem lineStarted (h : Resumes past f r) : Resumes past f.lineStarted r.lineStarted :=
  h.onPrinter (fun p => p.setLineStart true) fun _ => rfl

theorem setOff (h : Resumes past f r) : Resumes past f.setOff r.setOff := by
  unfold Renderer.setOff
  rw [h.hasBlock]
  split
  · exact h.printed _
  · exact { h with hasBlock := rfl }

theorem logged (h : Resumes past f r) (level : LogLevel) (message : Text) :
    Resumes past (f.logged level message) (r.logged level message) := { h with }

theorem captured (h : Resumes past f r) (p : Printer) :
    Resumes past (f.captured p) (r.captured p) :=
  { h with captures := congrArg (p :: ·) h.captures }

theorem released (h : Resumes past f r) : Resumes past f.released r.released :=
  { h with captures := congrArg List.tail h.captures }

theorem printer_eq (h : Resumes past f r) (hcaptures : f.captures ≠ []) :
    r.printer = f.printer := by
  obtain ⟨p, outer, hf⟩ := List.exists_cons_of_ne_nil hcaptures
  simp [printer, h.captures, hf]

theorem capturedText_eq (h : Resumes past f r) (hcaptures : f.captures ≠ []) :
    r.capturedText = f.capturedText := by
  rw [capturedText, h.printer_eq hcaptures, capturedText]

theorem capture_eq (h : Resumes past f r) (inCell : Bool) :
    r.capture inCell = f.capture inCell := by
  rw [capture, h.options, capture]

theorem escapesPipes_eq (h : Resumes past f r) :
    r.printer.escapesPipes = f.printer.escapesPipes := by
  cases hf : f.captures with
  | nil => simp [printer, h.captures, hf, h.document, Printer.resumed]
  | cons p outer => simp [printer, h.captures, hf]

theorem isOnNewLine_eq (h : Resumes past f r) : r.printer.isOnNewLine = f.printer.isOnNewLine := by
  cases hf : f.captures with
  | nil => simp [printer, h.captures, hf, h.document, Printer.resumed, Printer.isOnNewLine]
  | cons p outer => simp [printer, h.captures, hf]

theorem setOffIn (h : Resumes past f r) (nesting : Nesting) :
    Resumes past (f.setOffIn nesting) (r.setOffIn nesting) := by
  unfold Renderer.setOffIn
  split
  · exact h
  · exact h.setOff

theorem headingMarked (h : Resumes past f r) (level : Value) :
    Resumes past (f.headingMarked level) (r.headingMarked level) := by
  unfold Renderer.headingMarked
  split
  · exact h.printed _
  · exact h

theorem separated (h : Resumes past f r) (index : Int) :
    Resumes past (f.separated index) (r.separated index) := by
  unfold Renderer.separated
  split
  · exact h.printed _
  · exact h

theorem passedOver (h : Resumes past f r) (text : Text) :
    Resumes past (f.passedOver text) (r.passedOver text) := by
  unfold Renderer.passedOver
  split
  · split
    · exact h
    · exact h.logged _ _
  · exact h

/-- An abbreviation goes to the same document in both, but in the outermost one it may be known to
the one and not to the other. -/
theorem defined (h : Resumes past f r) (abbreviation : Abbreviation) :
    Resumes past (f.defined abbreviation) (r.defined abbreviation) := by
  obtain ⟨upper, scope, scope', hf, hr⟩ := h.abbreviations
  unfold Renderer.defined
  cases upper with
  | nil =>
    simp only [hf, hr, List.nil_append]
    split
    · split
      · exact { h with abbreviations := ⟨[], _, _, rfl, rfl⟩ }
      · exact { h with abbreviations := ⟨[], _, _, rfl, hr⟩ }
    · split
      · exact { h with abbreviations := ⟨[], _, _, hf, rfl⟩ }
      · exact h
  | cons top rest =>
    simp only [hf, hr, List.cons_append]
    split
    · exact { h with abbreviations := ⟨(top ++ [abbreviation]) :: rest, _, _, rfl, rfl⟩ }
    · exact h

theorem coded (h : Resumes past f r) (nesting : Nesting) (content isInline : Value)
    (parameters : Parameters) :
    Resumes past (f.coded nesting content isInline parameters)
      (r.coded nesting content isInline parameters) := by
  unfold Renderer.coded
  split
  · exact h.printed _
  · exact (h.setOffIn nesting).printed _

theorem called (h : Resumes past f r) (nesting : Nesting) (id content isInline : Value)
    (parameters : Parameters) :
    Resumes past (f.called nesting id content isInline parameters)
      (r.called nesting id content isInline parameters) := by
  unfold Renderer.called
  rw [h.options]
  split
  · exact h
  · exact h.logged _ _
  · split
    · split
      · exact h.printed _
      · exact (h.setOffIn nesting).printed _
    · exact h

theorem shown (h : Resumes past f r) (nesting : Nesting) (l : Leaf) :
    Resumes past (f.shown nesting l) (r.shown nesting l) := by
  unfold Renderer.shown
  split
  · exact h.held _
  · exact h.held _
  · exact h.printed _
  · split
    · exact h.printed _
    · exact h.held _
  · split
    · exact (h.defined _).printed _
    · exact ((h.passedOver _).setOffIn nesting).printed _
  · exact h
  · rw [h.imageTarget]
    split
    · exact h.printed _
    · exact h
  · split
    · exact h.coded nesting _ _ _
    · exact h.called nesting _ _ _ _
  · exact h.setOff.printed _

/-- A construct that is set off opens in step if it is set off in step. -/
theorem opened_of_setOff {nesting : Nesting} {construct : Construct}
    (hsetsOff : construct.setsOff nesting = true) (h : Resumes past f.setOff r.setOff) :
    Resumes past (f.opened nesting construct) (r.opened nesting construct) := by
  cases construct with
  | paragraph parameters => exact h
  | heading level id parameters =>
    have hmarked := h.headingMarked level
    simp only [Renderer.opened, hmarked.capture_eq, hmarked.escapesPipes_eq]
    exact hmarked.captured _
  | list kind parameters =>
    have hdepth : nesting.listDepth = 1 := by simpa [Construct.setsOff] using hsetsOff
    simp only [Renderer.opened, hdepth, if_true]
    exact { h with listStyles := congrArg (kind :: ·) h.listStyles }
  | term => exact (h.printed _).lineStarted
  | quotation parameters =>
    have houtside : nesting.isInQuotationLine = false := by
      simpa [Construct.setsOff] using hsetsOff
    simp only [Renderer.opened, houtside]
    exact { h with }
  | table parameters => exact { h with tables := congrArg ([] :: ·) h.tables }
  | _ => simp [Construct.setsOff] at hsetsOff

/-- A construct opens in step. For a line of a quotation the depth of the quotation that was opened
last has to be known to both. -/
theorem opened (h : Resumes past f r) (nesting : Nesting) {construct : Construct}
    (hquotation : construct.kind = .quotationLine →
      r.previousQuotationDepth = f.previousQuotationDepth) :
    Resumes past (f.opened nesting construct) (r.opened nesting construct) := by
  cases hsetsOff : construct.setsOff nesting with
  | true => exact opened_of_setOff hsetsOff h.setOff
  | false =>
    cases construct with
    | document parameters =>
      obtain ⟨upper, scope, scope', hf, hr⟩ := h.abbreviations
      exact { h with
        abbreviations :=
          ⟨[] :: upper, scope, scope', congrArg ([] :: ·) hf, congrArg ([] :: ·) hr⟩ }
    | list kind parameters =>
      have hdepth : ¬ nesting.listDepth = 1 := by simpa [Construct.setsOff] using hsetsOff
      simp only [Renderer.opened, if_neg hdepth]
      exact { h.printed _ with listStyles := congrArg (kind :: ·) (h.printed _).listStyles }
    | listItem =>
      simp only [Renderer.opened, h.listStyles]
      split
      · exact h
      · exact ((h.separated _).printed _).lineStarted
    | definitionList parameters => exact h
    | description => exact ((h.separated _).printed _).lineStarted
    | quotation parameters =>
      have hinside : nesting.isInQuotationLine = true := by
        simpa [Construct.setsOff] using hsetsOff
      simp only [Renderer.opened, hinside, if_true]
      exact { h with }
    | quotationLine =>
      simp only [Renderer.opened, hquotation rfl]
      split
      · exact ((h.printed _).printed _).lineStarted
      · exact (h.printed _).lineStarted
    | row parameters =>
      have htables : (r.tables.head?.getD [] ++ [[]]) :: r.tables.tail =
          (f.tables.head?.getD [] ++ [[]]) :: f.tables.tail := by rw [h.tables]
      exact { h with tables := htables }
    | cell isHeader parameters =>
      simp only [Renderer.opened, h.capture_eq]
      exact h.captured _
    | format style parameters => exact h.printed _
    | link reference isFreeStanding parameters =>
      simp only [Renderer.opened, h.capture_eq, h.escapesPipes_eq, h.isOnNewLine_eq]
      exact h.captured _
    | paragraph _ | heading _ _ _ | term | table _ => simp [Construct.setsOff] at hsetsOff

/-- A construct closes in step, unless it is the outermost document. -/
theorem closed (h : Resumes past f r) {construct : Construct}
    (hadmits : f.AdmitsClosing construct)
    (hdocument : construct.kind = .document → 1 < f.abbreviations.length) :
    Resumes past (f.closed construct) (r.closed construct) := by
  cases construct with
  | document parameters =>
    obtain ⟨upper, scope, scope', hf, hr⟩ := h.abbreviations
    have hlength := hdocument rfl
    obtain ⟨top, rest, rfl⟩ : ∃ top rest, upper = top :: rest := by
      apply List.exists_cons_of_ne_nil
      rintro rfl
      simp [hf] at hlength
    have hleft : Resumes past { f with abbreviations := f.abbreviations.tail }
        { r with abbreviations := r.abbreviations.tail } :=
      { h with abbreviations := ⟨rest, scope, scope', by simp [hf], by simp [hr]⟩ }
    have hhead : r.abbreviations.head?.getD [] = f.abbreviations.head?.getD [] := by
      simp [hf, hr]
    simp only [Renderer.closed, hhead]
    split
    · exact hleft.settled
    · exact (hleft.setOff.printed _).settled
  | heading level id parameters =>
    simp only [Renderer.closed, h.capturedText_eq hadmits]
    exact (h.released.printed _).printed _
  | list kind parameters =>
    have hleft : Resumes past { f with listStyles := f.listStyles.tail }
        { r with listStyles := r.listStyles.tail } :=
      { h with listStyles := congrArg List.tail h.listStyles }
    exact hleft.settled
  | table parameters =>
    have hleft : Resumes past { f with tables := f.tables.tail }
        { r with tables := r.tables.tail } :=
      { h with tables := congrArg List.tail h.tables }
    simp only [Renderer.closed, h.tables] at hleft ⊢
    exact hleft.printed _
  | cell isHeader parameters =>
    have htables : withCell (r.tables.head?.getD []) r.capturedText :: r.tables.tail =
        withCell (f.tables.head?.getD []) f.capturedText :: f.tables.tail := by
      rw [h.tables, h.capturedText_eq hadmits.1]
    exact { h.released with tables := htables }
  | link reference isFreeStanding parameters =>
    simp only [Renderer.closed, h.linkTarget, h.capturedText_eq hadmits]
    split
    · exact h.released.printed _
    · exact h.released
  | format style parameters => exact h.printed _
  | term | description | quotationLine => exact h.settled
  | paragraph _ | listItem | definitionList _ | quotation _ | row _ => exact h

theorem abbreviations_ne_nil (h : Resumes past f r) : r.abbreviations ≠ [] := by
  obtain ⟨upper, scope, scope', -, hr⟩ := h.abbreviations
  simp [hr]

theorem admitsOpening (h : Resumes past f r) {construct : Construct}
    (hadmits : f.AdmitsOpening construct) : r.AdmitsOpening construct := by
  cases construct with
  | listItem => simpa only [Renderer.AdmitsOpening, h.listStyles] using hadmits
  | row parameters => simpa only [Renderer.AdmitsOpening, h.tables] using hadmits
  | _ => trivial

theorem admitsClosing (h : Resumes past f r) {construct : Construct}
    (hadmits : f.AdmitsClosing construct) : r.AdmitsClosing construct := by
  cases construct with
  | document parameters => exact h.abbreviations_ne_nil
  | heading _ _ _ | link _ _ _ => simpa only [Renderer.AdmitsClosing, h.captures] using hadmits
  | list kind parameters => simpa only [Renderer.AdmitsClosing, h.listStyles] using hadmits
  | table parameters => simpa only [Renderer.AdmitsClosing, h.tables] using hadmits
  | cell isHeader parameters =>
    simpa only [Renderer.AdmitsClosing, h.captures, h.tables] using hadmits
  | _ => trivial

end Resumes

theorem previousQuotationDepth_opened (r : Renderer) (nesting : Nesting) (construct : Construct) :
    (r.opened nesting construct).previousQuotationDepth =
      if construct.kind = .quotation then nesting.quotationDepth
      else r.previousQuotationDepth := by
  obtain ⟨w, p, hw, -, heq⟩ := exists_opened_eq_pushed r nesting construct
  rw [heq, ← hw.previousQuotationDepth]
  cases construct <;> rfl

theorem previousQuotationDepth_closed (r : Renderer) (construct : Construct) :
    (r.closed construct).previousQuotationDepth = r.previousQuotationDepth := by
  rw [(writes_popped_closed r construct).previousQuotationDepth]
  cases construct <;> rfl

theorem previousQuotationDepth_shown (r : Renderer) (nesting : Nesting) {l : Leaf}
    (hl : l.isWellTyped = true) :
    (r.shown nesting l).previousQuotationDepth = r.previousQuotationDepth := by
  obtain ⟨abbreviations, -, heq⟩ := exists_noted_eq r l
  rw [(Writes.shown r nesting hl).previousQuotationDepth, heq]

end Renderer

namespace TrackedRenderer

/-- Whether a renderer with its tracker is another one that wrote a text before. Inside of a
quotation they also agree on the depth of the quotation that was opened last. -/
structure Resumes (past : Text) (f s : TrackedRenderer) : Prop where
  tracker : s.tracker = f.tracker
  renderer : f.renderer.Resumes past s.renderer
  quotation : 0 < f.tracker.quotationDepth →
    s.renderer.previousQuotationDepth = f.renderer.previousQuotationDepth

namespace Resumes

variable {past : Text} {base f f' s : TrackedRenderer} {opened next last : OpenConstructs}

theorem opening (h : Resumes past f s) (habove : base.Above opened f) {construct : Construct}
    (hfits : construct.kind.fitsIn opened.head? = true) (nesting : Nesting) :
    Resumes past ⟨f.tracker.opened construct, f.renderer.opened nesting construct⟩
      ⟨f.tracker.opened construct, s.renderer.opened nesting construct⟩ := by
  refine ⟨rfl, h.renderer.opened _ ?_, ?_⟩
  · intro hkind
    obtain ⟨below, rfl⟩ := ConstructKind.exists_head_of_fitsIn
      (show ConstructKind.quotationLine.home? = some .quotation from rfl) (hkind ▸ hfits)
    have hdepth := habove.tracker.quotationDepth
    have hbase := habove.tracker.depth_nonneg
    rw [List.count_cons_self] at hdepth
    exact h.quotation (by omega)
  · intro hpos
    dsimp only at hpos ⊢
    rw [Tracker.quotationDepth_opened] at hpos
    rw [Renderer.previousQuotationDepth_opened, Renderer.previousQuotationDepth_opened]
    by_cases hkind : construct.kind = .quotation
    · rw [if_pos hkind, if_pos hkind]
    · rw [if_neg hkind] at hpos ⊢
      rw [if_neg hkind, h.quotation hpos]

theorem closing (h : Resumes past f s) {construct : Construct}
    (hadmits : f.renderer.AdmitsClosing construct)
    (hdocument : construct.kind = .document → 1 < f.renderer.abbreviations.length) :
    Resumes past ⟨f.tracker.closed construct, f.renderer.closed construct⟩
      ⟨f.tracker.closed construct, s.renderer.closed construct⟩ := by
  refine ⟨rfl, h.renderer.closed hadmits hdocument, ?_⟩
  intro hpos
  dsimp only at hpos ⊢
  rw [Tracker.quotationDepth_closed] at hpos
  rw [Renderer.previousQuotationDepth_closed, Renderer.previousQuotationDepth_closed]
  apply h.quotation
  split at hpos <;> omega

/-- Inside a document each properly nested step is done by both. -/
theorem step (h : Resumes past f s) (habove : base.Above opened f)
    (hdocument : base.renderer.abbreviations ≠ []) {e : Event}
    (hnested : OpenConstructs.step? none opened e = some next) (he : e.isWellTyped = true)
    (hstep : Step f e f') : ∃ s', Step s e s' ∧ Resumes past f' s' := by
  obtain ⟨tracker, renderer⟩ := s
  obtain rfl : tracker = f.tracker := h.tracker
  cases hstep with
  | @opening construct ht hr =>
    obtain ⟨hfits, -⟩ := OpenConstructs.step?_opening_eq_some_iff.mp hnested
    exact ⟨_, .opening ht (h.renderer.admitsOpening hr), h.opening habove hfits _⟩
  | @closing construct hr ht =>
    obtain rfl := OpenConstructs.step?_closing_eq_some_iff.mp hnested
    refine ⟨_, .closing (h.renderer.admitsClosing hr) ht, h.closing hr ?_⟩
    intro hkind
    have hlength := habove.renderer.abbreviations
    have hbase := List.length_pos_iff.mpr hdocument
    rw [hkind, List.count_cons_self] at hlength
    omega
  | @leaf l hr =>
    refine ⟨_, .leaf fun _ => h.renderer.abbreviations_ne_nil, rfl, h.renderer.shown _ l, ?_⟩
    intro hpos
    dsimp only at hpos ⊢
    rw [Renderer.previousQuotationDepth_shown _ _ he, Renderer.previousQuotationDepth_shown _ _ he]
    exact h.quotation hpos

/-- Inside a document properly nested steps are done by both. -/
theorem steps (h : Resumes past f s) (habove : base.Above opened f)
    (hdocument : base.renderer.abbreviations ≠ []) {es : List Event}
    (hnested : OpenConstructs.run? none opened es = some last)
    (hes : ∀ e ∈ es, e.isWellTyped = true) (hsteps : Steps f es f') :
    ∃ s', Steps s es s' ∧ Resumes past f' s' := by
  induction hsteps generalizing s opened with
  | nil f => exact ⟨s, .nil s, h⟩
  | cons hstep hsteps ih =>
    obtain ⟨next, hnext, hrest⟩ := OpenConstructs.run?_cons_eq_some_iff.mp hnested
    have he := hes _ List.mem_cons_self
    obtain ⟨t, hfirst, hresumes⟩ := h.step habove hdocument hnext he hstep
    obtain ⟨u, hremaining, hlast⟩ := ih hresumes (habove.step hnext he hstep) hrest
      fun e he => hes e (List.mem_cons_of_mem _ he)
    exact ⟨u, .cons hfirst hremaining, hlast⟩

end Resumes

end TrackedRenderer

end DocumentStream
