import DocumentStream.Proofs.OpenStacks

/-!
Balanced content leaves no trace. Content that opens and closes complete constructs is rendered
without failure wherever it stands in a properly nested stream, inside a document. Afterwards all
stacks are as they were before it, and all along it nothing below the printer that was current is
touched.
-/

namespace DocumentStream

namespace TrackedRenderer

/-- What balanced content leaves as it was. Only the count of quotation lines may have grown, and
only inside of a quotation. -/
structure LeavesNoTrace (s t : TrackedRenderer) : Prop where
  captures : t.renderer.captures.length = s.renderer.captures.length
  listStyles : t.renderer.listStyles = s.renderer.listStyles
  tables : t.renderer.tables = s.renderer.tables
  abbreviations : t.renderer.abbreviations.length = s.renderer.abbreviations.length
  nesting : t.tracker.nesting =
    { s.tracker.nesting with quotationLine := t.tracker.nesting.quotationLine }
  quotationLine : t.tracker.nesting.quotationLine = s.tracker.nesting.quotationLine ∨
    0 < s.tracker.nesting.quotationDepth ∧
      s.tracker.nesting.quotationLine < t.tracker.nesting.quotationLine

/-- Whether the printers below the current one are still in their places, with all that they
hold, and below at least one other. -/
def KeepsBelow (s t : TrackedRenderer) : Prop :=
  ∃ upper, upper ≠ [] ∧ t.renderer.printers = upper ++ s.renderer.printers.tail

namespace Above

variable {base s t : TrackedRenderer} {opened last : OpenConstructs} {es : List Event}

theorem refl {base : TrackedRenderer} (hdepth : 0 ≤ base.tracker.quotationDepth)
    (hline : base.tracker.quotationDepth = 0 → base.tracker.quotationLine = -1) :
    base.Above [] base :=
  ⟨Renderer.Above.refl _, Tracker.Above.refl hdepth hline⟩

theorem steps (h : base.Above opened s) (hnested : OpenConstructs.run? none opened es = some last)
    (hes : ∀ e ∈ es, e.isWellTyped = true) (hsteps : Steps s es t) : base.Above last t := by
  induction hsteps generalizing opened with
  | nil s =>
    obtain rfl := Option.some.inj hnested
    exact h
  | cons hstep hsteps ih =>
    obtain ⟨next, hnext, hrest⟩ := OpenConstructs.run?_cons_eq_some_iff.mp hnested
    exact ih (h.step hnext (hes _ List.mem_cons_self) hstep) hrest
      fun e he => hes e (List.mem_cons_of_mem _ he)

/-- Properly nested content can be handled inside a document. -/
theorem exists_steps (h : base.Above opened s) (hdocument : base.renderer.abbreviations ≠ [])
    (hnested : OpenConstructs.run? none opened es = some last)
    (hes : ∀ e ∈ es, e.isWellTyped = true) : ∃ t, Steps s es t := by
  induction es generalizing s opened with
  | nil => exact ⟨s, .nil s⟩
  | cons e rest ih =>
    obtain ⟨next, hnext, hrest⟩ := OpenConstructs.run?_cons_eq_some_iff.mp hnested
    have he : e.isWellTyped = true := hes e List.mem_cons_self
    have hscope : s.renderer.abbreviations ≠ [] := by
      have hlength := h.renderer.abbreviations
      have hbase := List.length_pos_iff.mpr hdocument
      exact List.ne_nil_of_length_pos (by omega)
    obtain ⟨t, hstep⟩ := h.exists_step hnext he fun _ => hscope
    obtain ⟨u, hsteps⟩ := ih (h.step hnext he hstep) hrest
      fun other hother => hes other (List.mem_cons_of_mem _ hother)
    exact ⟨u, .cons hstep hsteps⟩

theorem keepsBelow (h : base.Above opened s) : KeepsBelow base s := by
  obtain ⟨upper, hlength, hprinters⟩ := h.renderer.printers
  exact ⟨upper, List.ne_nil_of_length_pos (by omega), hprinters⟩

theorem leavesNoTrace (h : base.Above [] s)
    (hline : base.tracker.quotationDepth = 0 → base.tracker.quotationLine = -1) :
    LeavesNoTrace base s := by
  have hdepth : s.tracker.quotationDepth = base.tracker.quotationDepth := by
    simpa using h.tracker.quotationDepth
  have hlineDepth : s.tracker.quotationLineDepth = base.tracker.quotationLineDepth := by
    simpa using h.tracker.quotationLineDepth
  have hinline : s.tracker.inlineDepth = base.tracker.inlineDepth := by
    simpa using h.tracker.inlineDepth
  constructor
  · exact h.renderer.length_captures
  · exact h.renderer.listStyles.eq_base
  · exact h.renderer.tables.eq_base
  · simpa using h.renderer.abbreviations
  · simp only [Tracker.nesting, h.tracker.listItems.eq_base, h.tracker.definitionItems.eq_base,
      hdepth, hlineDepth, hinline]
  · simp only [Tracker.nesting]
    have hnonneg := h.tracker.depth_nonneg
    rcases Int.lt_or_eq_of_le hnonneg with hpos | hzero
    · have hle := h.tracker.line_le hpos
      omega
    · left
      rw [hline hzero.symm, h.tracker.noLine (hdepth.trans hzero.symm)]

end Above

end TrackedRenderer

namespace TrackedRendering

open TrackedRenderer

/-- Balanced content inside a document is rendered without failure. All along the printers below
the one that was current stay as they are, and in the end so do all stacks. The content is nested
on its own: an item or a row without the list or table around it is counted there. -/
theorem run_events_of_balanced {options : Options}
    (hmode : options.unhandledMacroMode ≠ .refuse) {linkTarget imageTarget : Serializer}
    (hlink : linkTarget.IsTotal) (himage : imageTarget.IsTotal) {sink : SinkKind}
    {before segment : List Event} (hbefore : ∀ e ∈ before, e.isWellTyped = true)
    (hsegment : ∀ e ∈ segment, e.isWellTyped = true) {opened : OpenConstructs}
    (hopened : OpenConstructs.run? none [] before = some opened)
    (hdocument : ConstructKind.document ∈ opened)
    (hbalanced : OpenConstructs.run? none [] segment = some []) {s : TrackedRenderer}
    (hs : (events before).run (.start options linkTarget imageTarget sink) = .ok () s) :
    (∀ initial rest, initial ++ rest = segment →
      ∃ t, (events initial).run s = .ok () t ∧ KeepsBelow s t) ∧
    ∃ t, (events segment).run s = .ok () t ∧ LeavesNoTrace s t := by
  have hstart : (TrackedRenderer.start options linkTarget imageTarget sink).renderer.Sound :=
    Renderer.start_sound hmode hlink himage sink
  have hsteps := (run_events_eq_ok_iff hstart hbefore).mp hs
  have hsound : s.renderer.Sound := hsteps.sound hstart hbefore
  have hprefix := (Above.refl (Int.le_refl 0) fun _ => rfl).steps hopened hbefore hsteps
  have hscope : s.renderer.abbreviations ≠ [] := by
    have hlength := hprefix.renderer.abbreviations
    have hcount := List.count_pos_iff.mpr hdocument
    exact List.ne_nil_of_length_pos (by omega)
  have habove : s.Above [] s :=
    Above.refl hprefix.tracker.quotationDepth_nonneg hprefix.tracker.noLine
  constructor
  · rintro initial rest rfl
    have hinitial : ∀ e ∈ initial, e.isWellTyped = true := fun e he =>
      hsegment e (List.mem_append_left rest he)
    obtain ⟨middle, hmiddle, -⟩ := OpenConstructs.run?_append_eq_some_iff.mp hbalanced
    obtain ⟨t, ht⟩ := habove.exists_steps hscope hmiddle hinitial
    exact ⟨t, (run_events_eq_ok_iff hsound hinitial).mpr ht,
      (habove.steps hmiddle hinitial ht).keepsBelow⟩
  · obtain ⟨t, ht⟩ := habove.exists_steps hscope hbalanced hsegment
    exact ⟨t, (run_events_eq_ok_iff hsound hsegment).mpr ht,
      (habove.steps hbalanced hsegment ht).leavesNoTrace hprefix.tracker.noLine⟩

/-- A quotation within a line of another one. -/
theorem run_events_of_balanced_quotation :
    let before : List Event := [.opening (.document (some [])), .opening (.quotation (some [])),
      .opening .quotationLine]
    let segment : List Event := [.opening (.quotation (some [])), .opening .quotationLine,
      .leaf (.word (.str ['a'])), .closing .quotationLine, .closing (.quotation (some []))]
    ∃ s t, (events before).run (.start {} .plain .plain .buffer) = .ok () s ∧
      (events segment).run s = .ok () t ∧ LeavesNoTrace s t := by
  intro before segment
  obtain ⟨s, hs⟩ : ∃ s, (events before).run (.start {} .plain .plain .buffer) = .ok () s :=
    ⟨_, rfl⟩
  have hopened : OpenConstructs.run? none [] before =
      some [.quotationLine, .quotation, .document] := rfl
  have hbalanced : OpenConstructs.run? none [] segment = some [] := rfl
  obtain ⟨-, t, ht, htrace⟩ := run_events_of_balanced (by decide) Serializer.plain_isTotal
    Serializer.plain_isTotal (by decide) (by decide) hopened (by decide) hbalanced hs
  exact ⟨s, t, hs, ht, htrace⟩

end TrackedRendering

end DocumentStream
