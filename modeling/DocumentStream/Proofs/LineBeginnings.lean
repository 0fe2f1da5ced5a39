import DocumentStream.Proofs.Fragmentation

/-!
How the content of a line begins. Text is escaped where it starts a line, so that it is not read as
a heading, a quotation, a rule or an item of a list. A typographic symbol is written as its markup,
which is not escaped, so that three of these symbols can begin a line with a character that opens a
block.
-/

namespace DocumentStream

namespace Event

/-- The markup of an event that is a typographic symbol. -/
def symbolMarkup? : Event → Option Text
  | .leaf (.symbol symbol) => Rendering.symbolMarkup? symbol
  | _ => none

/-- Whether an event adds some text or is a typographic symbol. -/
def isTextual (e : Event) : Bool := e.addedText?.isSome || e.symbolMarkup?.isSome

/-- Whether an event is a symbol whose markup begins with a character that opens a block: a closing
quotation mark or a dash. -/
def OpensBlock (e : Event) : Prop :=
  ∃ c ∈ ['\u201d', '\u2014', '\u2013'], e = .leaf (.symbol (.str [c]))

theorem mem_of_symbolMarkup? {e : Event} {markup : Text} (h : e.symbolMarkup? = some markup) :
    e.addedText? = none ∧
      ((e.OpensBlock ∧ markup ∈ [['>', '>'], ['-', '-', '-'], ['-', '-']]) ∨
        ¬ e.OpensBlock ∧ markup ∈ [['<', '<'], ['.', '.', '.']]) := by
  unfold symbolMarkup? at h
  split at h
  · unfold Rendering.symbolMarkup? at h
    split at h <;> cases h
    · exact ⟨rfl, Or.inr ⟨by simp [OpensBlock], by decide⟩⟩
    · exact ⟨rfl, Or.inl ⟨⟨_, by decide, rfl⟩, by decide⟩⟩
    · exact ⟨rfl, Or.inl ⟨⟨_, by decide, rfl⟩, by decide⟩⟩
    · exact ⟨rfl, Or.inr ⟨by simp [OpensBlock], by decide⟩⟩
    · exact ⟨rfl, Or.inl ⟨⟨_, by decide, rfl⟩, by decide⟩⟩
  · cases h

theorem OpensBlock.addedText?_eq_none {e : Event} (h : e.OpensBlock) : e.addedText? = none := by
  obtain ⟨c, hc, rfl⟩ := h
  simp only [List.mem_cons, List.not_mem_nil, or_false] at hc
  rcases hc with rfl | rfl | rfl <;> rfl

end Event

theorem exists_addedText?_of_cons {e : Event} {rest : List Event} {text : Text}
    (h : addedText? (e :: rest) = some text) : ∃ added, e.addedText? = some added ∧ text ≠ [] := by
  simp only [addedText?, Option.bind_eq_bind, Option.bind_eq_some_iff, Option.pure_def,
    Option.some.injEq] at h
  obtain ⟨added, hadded, others, -, rfl⟩ := h
  exact ⟨added, hadded, List.append_ne_nil_of_left_ne_nil (Event.delayed?_of_addedText? hadded).2 _⟩

/-- Textual content is a run of text with nothing behind it or with a typographic symbol there. -/
theorem exists_text_append_symbol {content : List Event} (h : ∀ e ∈ content, e.isTextual = true) :
    ∃ texts rest text, content = texts ++ rest ∧ addedText? texts = some text ∧
      (rest = [] ∨ ∃ e others markup, rest = e :: others ∧ e.symbolMarkup? = some markup) := by
  induction content with
  | nil => exact ⟨[], [], [], rfl, rfl, Or.inl rfl⟩
  | cons e content ih =>
    rw [List.forall_mem_cons] at h
    cases hmarkup : e.symbolMarkup? with
    | some markup =>
      exact ⟨[], e :: content, [], rfl, rfl, Or.inr ⟨e, content, markup, rfl, hmarkup⟩⟩
    | none =>
      obtain ⟨added, hadded⟩ : ∃ added, e.addedText? = some added := by
        simpa [Event.isTextual, hmarkup, Option.isSome_iff_exists] using h.1
      obtain ⟨texts, rest, text, rfl, htexts, hrest⟩ := ih h.2
      exact ⟨e :: texts, rest, added ++ text, rfl, by simp [addedText?, hadded, htexts], hrest⟩

/-- How textual content is shown that starts a line: the first run of text is escaped for its
place, and whatever follows begins with the markup of the symbol behind the run. -/
inductive LineShown (pipes : Bool) : List Event → Text → Prop
  | text {texts : List Event} {text : Text} (htexts : addedText? texts = some text) :
      LineShown pipes texts (Escape.text text true pipes)
  | symbol {texts others : List Event} {e : Event} {text markup : Text} (more : Text)
      (htexts : addedText? texts = some text) (hmarkup : e.symbolMarkup? = some markup) :
      LineShown pipes (texts ++ e :: others) (Escape.text text true pipes ++ (markup ++ more))

namespace LineShown

variable {pipes : Bool} {content : List Event} {shown : Text}

/-- What is shown begins with a character that opens a block just where the first event is a symbol
with such a markup. -/
theorem any_head?_iff (h : LineShown pipes content shown) :
    shown.head?.any Escape.opensBlock = true ↔ ∃ e ∈ content.head?, e.OpensBlock := by
  -- where there is text in front, neither side holds
  have htext {texts : List Event} (others : List Event) {text : Text} (more : Text)
      (htexts : addedText? texts = some text) (hne : texts ≠ []) :
      ((Escape.text text true pipes ++ more).head?.any Escape.opensBlock = true ↔
        ∃ e ∈ (texts ++ others).head?, e.OpensBlock) := by
    obtain ⟨first, texts, rfl⟩ := List.exists_cons_of_ne_nil hne
    obtain ⟨added, hadded, hfilled⟩ := exists_addedText?_of_cons htexts
    have hshown : (Escape.text text true pipes).head?.any Escape.opensBlock = false :=
      Escape.any_head?_text text
    have hne : Escape.text text true pipes ≠ [] := Escape.text_ne_nil hfilled
    obtain ⟨c, rest, hcons⟩ := List.exists_cons_of_ne_nil hne
    rw [hcons] at hshown ⊢
    constructor
    · intro hopens
      exact absurd (hshown.symm.trans hopens) Bool.false_ne_true
    · rintro ⟨e, he, hopens⟩
      obtain rfl : first = e := by simpa using he
      rw [hopens.addedText?_eq_none] at hadded
      cases hadded
  cases h with
  | @text _ text htexts =>
    by_cases hne : content = []
    · subst hne
      obtain rfl := Option.some.inj htexts
      simp [Escape.text, Escape.charsFrom, Escape.listMarker]
    · simpa using htext [] [] htexts hne
  | @symbol texts others e text markup more htexts hmarkup =>
    by_cases hne : texts = []
    · subst hne
      obtain rfl := Option.some.inj htexts
      have hfirst : ∀ P : Event → Prop, (∃ e' ∈ ([] ++ e :: others).head?, P e') ↔ P e := by simp
      rw [hfirst]
      obtain ⟨-, hmarkup⟩ := Event.mem_of_symbolMarkup? hmarkup
      simp only [List.mem_cons, List.not_mem_nil, or_false] at hmarkup
      rcases hmarkup with ⟨hopens, rfl | rfl | rfl⟩ | ⟨hopens, rfl | rfl⟩
      · exact ⟨fun _ => hopens, fun _ => rfl⟩
      · exact ⟨fun _ => hopens, fun _ => rfl⟩
      · exact ⟨fun _ => hopens, fun _ => rfl⟩
      · exact ⟨fun h => absurd h Bool.false_ne_true, fun h => absurd h hopens⟩
      · exact ⟨fun h => absurd h Bool.false_ne_true, fun h => absurd h hopens⟩
    · exact htext _ _ htexts hne

/-- What is shown never begins with a list marker. -/
theorem startsList_eq (h : LineShown pipes content shown) : Escape.startsList shown = false := by
  cases h with
  | text htexts => exact Escape.startsList_text _
  | @symbol texts others e text markup more htexts hmarkup =>
    obtain ⟨-, hmarkup⟩ := Event.mem_of_symbolMarkup? hmarkup
    have hsecond : (markup ++ more).head?.any Text.isDecimalDigit = false ∧
        ((markup ++ more).head? = some '.' →
          (markup ++ more).tail.head?.all Text.isBlank = false) := by
      simp only [List.mem_cons, List.not_mem_nil, or_false] at hmarkup
      rcases hmarkup with ⟨-, rfl | rfl | rfl⟩ | ⟨-, rfl | rfl⟩ <;>
        exact ⟨rfl, fun _ => rfl⟩
    exact Escape.startsList_append (Escape.startsList_text _) hsecond.1 hsecond.2

end LineShown

/-- The kinds of construct whose content begins a line of its own. -/
def ConstructKind.beginsLine : ConstructKind → Bool
  | .paragraph | .listItem | .quotationLine | .term | .description => true
  | _ => false

/-- Whether what comes next starts a line, with nothing held back in front of it. -/
def Renderer.AtLineStart (r : Renderer) : Prop :=
  r.printer.pending = [] ∧ r.printer.lineStart = true

namespace Rendering

/-- Whether a step leaves a renderer at the start of a line whenever it goes well. -/
def StartsLine (act : Rendering Unit) : Prop :=
  ∀ ⦃r s : Renderer⦄, act.run r = .ok () s → s.AtLineStart

namespace StartsLine

theorem throw (fault : RenderFault) : StartsLine (MonadExcept.throw fault) := by
  intro r s hrun
  rw [EStateM.run_throw] at hrun
  cases hrun

theorem bind {α : Type} {first : Rendering α} {next : α → Rendering Unit}
    (h : ∀ a, StartsLine (next a)) : StartsLine (first >>= next) := by
  intro r s hrun
  rw [EStateM.run_bind] at hrun
  split at hrun
  · exact h _ hrun
  · cases hrun

theorem ite {c : Prop} [Decidable c] {act act' : Rendering Unit} (h : StartsLine act)
    (h' : StartsLine act') : StartsLine (if c then act else act') := by
  split
  · exact h
  · exact h'

end StartsLine

theorem exists_of_run_print {markup : Text} {r s : Renderer}
    (h : (print markup).run r = .ok () s) :
    ∃ p : Printer, p.pending = [] ∧ s = r.withPrinter (p.write markup) := by
  rw [print, run_onPrinter_eq] at h
  cases hflush : r.printer.flush with
  | ok p =>
    have hprint : r.printer.print markup = .ok (p.write markup) := by
      rw [Printer.print, hflush]
      rfl
    rw [hprint] at h
    cases h
    exact ⟨p, Printer.pending_of_flush hflush, rfl⟩
  | error fault =>
    have hprint : r.printer.print markup = .error fault := by
      rw [Printer.print, hflush]
      rfl
    rw [hprint] at h
    cases h

theorem startsLine_marker (marker : Text) :
    StartsLine (do
      print marker
      startLineContent) := by
  intro r s hrun
  rw [EStateM.run_bind] at hrun
  split at hrun
  · rename_i hprint
    obtain ⟨p, hpending, rfl⟩ := exists_of_run_print hprint
    rw [run_startLineContent] at hrun
    cases hrun
    simp [Renderer.AtLineStart, Renderer.lineStarted, Printer.setLineStart, Printer.write_pending,
      hpending]
  · cases hrun

theorem startsLine_separated (index : Int) {next : Rendering Unit} (h : StartsLine next) :
    StartsLine (do
      if 0 < index then print ['\n']
      next) :=
  .ite (.bind fun _ => h) h

/-- A construct whose content begins a line starts one when it opens. A paragraph is set off for
that from what was rendered before, if a block was. -/
theorem atLineStart_of_run_openConstruct {nesting : Nesting} {construct : Construct}
    (hline : construct.kind.beginsLine = true) {r s : Renderer}
    (hparagraph : construct.kind = .paragraph → r.hasBlock = true ∨ r.printer.isOnNewLine = true)
    (hrun : (openConstruct nesting construct).run r = .ok () s) : s.AtLineStart := by
  cases construct with
  | paragraph parameters =>
    rw [openConstruct, printEmptyLine, run_get_bind] at hrun
    split at hrun
    · obtain ⟨p, hpending, rfl⟩ := exists_of_run_print hrun
      simp [Renderer.AtLineStart, Printer.write, hpending, Text.endsLine]
    · rename_i hblock
      cases hrun
      have hnew := (hparagraph rfl).resolve_left hblock
      simp only [Printer.isOnNewLine, Bool.and_eq_true, List.isEmpty_iff] at hnew
      exact hnew
  | listItem =>
    rw [openConstruct, openItem, run_get_bind] at hrun
    split at hrun
    · exact StartsLine.throw _ hrun
    · exact startsLine_separated _ (startsLine_marker _) hrun
  | term => exact StartsLine.bind (fun _ => startsLine_marker _) hrun
  | description => exact startsLine_separated _ (startsLine_marker _) hrun
  | quotationLine =>
    exact StartsLine.ite (.bind fun _ => .bind fun _ => startsLine_marker _)
      (startsLine_marker _) hrun
  | _ => exact absurd hline Bool.false_ne_true

/-- Closing such a construct writes what is held back and nothing else. -/
theorem capturedText_of_run_closeConstruct {construct : Construct}
    (hline : construct.kind.beginsLine = true) {r s : Renderer} (hr : r.printer.HoldsText)
    (hrun : (closeConstruct construct).run r = .ok () s) : s.capturedText = r.capturedText := by
  have hflush : flush.run r = .ok () r.settled := run_onPrinter (Printer.flush_eq_ok hr)
  cases construct with
  | paragraph _ | listItem =>
    cases hrun
    rfl
  | term | description | quotationLine =>
    obtain rfl : r.settled = s := by simpa using hflush.symm.trans hrun
    exact Renderer.capturedText_settled r
  | _ => exact absurd hline Bool.false_ne_true

end Rendering

theorem lasting_escapes (escapes : Bool) : Lasting escapes fun p => p.escapes = escapes where
  flush h hflush := (Printer.settings_eq_iff.mp (Printer.settings_of_flush hflush)).2.1.trans h
  write h markup := (Printer.settings_eq_iff.mp (Printer.write_settings _ markup)).2.1.trans h
  lineStarted h := h
  captured _ _ := rfl

namespace TrackedRendering

variable {s : TrackedRenderer}

theorem run_event_of_symbolMarkup? {e : Event} {markup : Text}
    (h : e.symbolMarkup? = some markup) (hs : s.renderer.printer.HoldsText) :
    (event e).run s = .ok () { s with renderer := s.renderer.printed markup } := by
  have hprint : (Rendering.print markup).run s.renderer = .ok () (s.renderer.printed markup) :=
    Rendering.run_onPrinter (by rw [Printer.print, Printer.flush_eq_ok hs]; rfl)
  unfold Event.symbolMarkup? at h
  split at h
  · rename_i symbol
    have hkey : ¬ symbol.key?.isNone = true := by
      unfold Rendering.symbolMarkup? at h
      split at h <;> first | exact Bool.false_ne_true | cases h
    have hsymbol : Rendering.symbol symbol = Rendering.print markup := by
      rw [Rendering.symbol, if_neg hkey, h]
    rw [← hsymbol] at hprint
    exact run_event_leaf hprint
  · cases h

/-- Textual content goes to the current printer, behind what that wrote before. -/
theorem exists_run_textual {content : List Event} (h : ∀ e ∈ content, e.isTextual = true)
    (hs : s.renderer.printer.HoldsText) :
    ∃ p, (events content).run s = .ok () { s with renderer := s.renderer.withPrinter p } ∧
      p.HoldsText ∧ s.renderer.printer.written <+: p.written := by
  induction content generalizing s with
  | nil =>
    refine ⟨s.renderer.printer, ?_, hs, List.prefix_refl _⟩
    rw [Renderer.withPrinter_printer]
    rfl
  | cons e content ih =>
    rw [List.forall_mem_cons] at h
    -- either way an event acts on the current printer alone and takes nothing back
    obtain ⟨p, hrun, hp, hprefix⟩ : ∃ p,
        (event e).run s = .ok () { s with renderer := s.renderer.withPrinter p } ∧
          p.HoldsText ∧ s.renderer.printer.written <+: p.written := by
      cases hmarkup : e.symbolMarkup? with
      | some markup =>
        refine ⟨_, run_event_of_symbolMarkup? hmarkup hs, .settled_write _ _, ?_⟩
        rw [Printer.written_write]
        exact s.renderer.printer.written_prefix_settled.trans (List.prefix_append _ _)
      | none =>
        obtain ⟨added, hadded⟩ : ∃ added, e.addedText? = some added := by
          simpa [Event.isTextual, hmarkup, Option.isSome_iff_exists] using h.1
        exact ⟨_, run_event_of_delayed (Event.delayed?_of_addedText? hadded).1 s, hs.delay rfl,
          List.prefix_refl _⟩
    obtain ⟨q, hrest, hq, hmore⟩ := ih h.2
      (s := { s with renderer := s.renderer.withPrinter p }) (by simpa using hp)
    simp only [Renderer.withPrinter_withPrinter, Renderer.printer_withPrinter] at hrest hmore
    exact ⟨q, by rw [events, run_bind_of_ok hrun, hrest], hq, hprefix.trans hmore⟩

/-- Textual content that starts a line is written with its first run of text escaped as such. -/
theorem exists_run_lineShown {content : List Event} (h : ∀ e ∈ content, e.isTextual = true)
    (hs : s.renderer.AtLineStart) (hescapes : s.renderer.printer.escapes = true) :
    ∃ t shown, (events content).run s = .ok () t ∧ t.renderer.printer.HoldsText ∧
      t.renderer.capturedText = s.renderer.capturedText ++ shown ∧
      LineShown s.renderer.printer.escapesPipes content shown := by
  obtain ⟨texts, rest, text, rfl, htexts, hrest⟩ := exists_text_append_symbol h
  obtain ⟨values, hjoined, -, hrun⟩ := exists_heldAll htexts
  obtain ⟨hpending, hstart⟩ := hs
  let p : Printer := { s.renderer.printer with pending := s.renderer.printer.pending ++ values }
  obtain ⟨hholds, hheld⟩ := Printer.heldText_of_joinTexts? hjoined s.renderer.printer hpending
  have hcaptured : s.renderer.capturedText = s.renderer.printer.written := by
    rw [Renderer.capturedText, Printer.settled_eq_self hpending]
  have hwritten : p.settled.written =
      s.renderer.capturedText ++ Escape.text text true s.renderer.printer.escapesPipes := by
    have hplace : p.lineStart = true ∧ p.escapes = true := ⟨hstart, hescapes⟩
    rw [Printer.written_settled, hplace.1, hplace.2, hcaptured, ← hheld]
    rfl
  rcases hrest with rfl | ⟨e, others, markup, rfl, hmarkup⟩
  · rw [List.append_nil]
    refine ⟨_, _, hrun s, ?_, ?_, .text htexts⟩
    · rw [Renderer.heldAll, Renderer.printer_withPrinter]
      exact hholds
    · rw [Renderer.heldAll, Renderer.capturedText_withPrinter]
      exact hwritten
  · have hheldAll : (s.renderer.heldAll values).printer = p := Renderer.printer_withPrinter _ _
    have hsymbol := run_event_of_symbolMarkup? hmarkup
      (s := { s with renderer := s.renderer.heldAll values }) (by rw [hheldAll]; exact hholds)
    have hothers : ∀ e ∈ others, e.isTextual = true := fun e he =>
      h e (List.mem_append_right _ (List.mem_cons_of_mem _ he))
    have hprinted : (s.renderer.heldAll values).printed markup =
        s.renderer.withPrinter (p.settled.write markup) := by
      rw [Renderer.printed, hheldAll, Renderer.heldAll, Renderer.withPrinter_withPrinter]
    rw [hprinted] at hsymbol
    obtain ⟨q, hlast, hq, hprefix⟩ := exists_run_textual hothers
      (s := { s with renderer := s.renderer.withPrinter (p.settled.write markup) })
      (by rw [Renderer.printer_withPrinter]; exact .settled_write _ _)
    simp only [Renderer.withPrinter_withPrinter, Renderer.printer_withPrinter] at hlast hprefix
    obtain ⟨more, hmore⟩ := hprefix.trans q.written_prefix_settled
    refine ⟨{ s with renderer := s.renderer.withPrinter q }, _, ?_, ?_, ?_,
      .symbol more htexts hmarkup⟩
    · rw [events_append, run_bind_of_ok (hrun s), events, run_bind_of_ok hsymbol, hlast]
    · rw [Renderer.printer_withPrinter]
      exact hq
    · rw [Renderer.capturedText_withPrinter, ← hmore, Printer.written_write, hwritten]
      simp only [List.append_assoc]

/-- Where text is escaped, textual content of a line begins with a character that opens a block
only if its first event is a closing quotation mark or a dash, and never with a list marker. -/
theorem run_line_content {options : Options} {linkTarget imageTarget : Serializer}
    {sink : SinkKind} (hescape : options.escapeSpecial.isTruthy = true) {before : List Event}
    {s u : TrackedRenderer}
    (hbefore : (events before).run (.start options linkTarget imageTarget sink) = .ok () s)
    {construct : Construct} (hline : construct.kind.beginsLine = true)
    (hparagraph : construct.kind = .paragraph →
      s.renderer.hasBlock = true ∨ s.renderer.printer.isOnNewLine = true)
    (hopen : (event (.opening construct)).run s = .ok () u)
    {content : List Event} (hcontent : ∀ e ∈ content, e.isTextual = true) :
    ∃ t shown, (events content).run u = .ok () t ∧
      t.renderer.capturedText = u.renderer.capturedText ++ shown ∧
      (shown.head?.any Escape.opensBlock = true ↔ ∃ e ∈ content.head?, e.OpensBlock) ∧
      Escape.startsList shown = false ∧
      ∀ last v, last.kind = construct.kind → (event (.closing last)).run t = .ok () v →
        v.renderer.capturedText = t.renderer.capturedText := by
  have hopened : (events (before ++ [.opening construct])).run
      (.start options linkTarget imageTarget sink) = .ok () u := by
    rw [events_append, run_bind_of_ok hbefore, events, run_bind_of_ok hopen]
    rfl
  have hfresh : ∀ p ∈ (Renderer.start options linkTarget imageTarget sink).printers,
      p.escapes = true := by
    intro p hp
    rw [List.mem_singleton.mp hp]
    exact hescape
  obtain ⟨-, hescapes⟩ := lasting_of_run_events (lasting_escapes true) (fun _ _ _ _ _ h => h)
    (s := .start options linkTarget imageTarget sink) hescape hfresh hopened
  obtain ⟨during, -, hrun, -⟩ := exists_of_run_event hopen
  have hstart : u.renderer.AtLineStart :=
    Rendering.atLineStart_of_run_openConstruct hline hparagraph hrun
  have hcurrent : u.renderer.printer ∈ u.renderer.printers := by
    rw [Renderer.printers_eq_cons]
    exact List.mem_cons_self
  obtain ⟨t, shown, hcontent, hholds, hcaptured, hshown⟩ :=
    exists_run_lineShown hcontent hstart (hescapes _ hcurrent)
  refine ⟨t, shown, hcontent, hcaptured, hshown.any_head?_iff, hshown.startsList_eq, ?_⟩
  intro last v hlast hclose
  obtain ⟨during, -, hclosed, -⟩ := exists_of_run_event hclose
  exact Rendering.capturedText_of_run_closeConstruct (by rw [hlast, hline]) hholds hclosed

/-- A second paragraph that begins with a number, a full stop and a space. -/
theorem run_line_content_number :
    let paragraph : Construct := .paragraph (some [])
    let word (text : String) : Event := .leaf (.word (.str text.toList))
    let before := [.opening paragraph, word "a", .closing paragraph]
    let content := [word "1.", .leaf .space, .leaf (.symbol (.str ['\u2014']))]
    let s : TrackedRenderer :=
      { renderer := { document := { pending := [.str ['a']] }, hasBlock := true } }
    let u : TrackedRenderer :=
      { tracker := { inlineDepth := 1 }
        renderer := { document := { written := ['a', '\n', '\n'] }, hasBlock := true } }
    (events before).run (.start {} .plain .plain .buffer) = .ok () s ∧
      (event (.opening paragraph)).run s = .ok () u ∧
      ∃ t shown, (events content).run u = .ok () t ∧
        t.renderer.capturedText = u.renderer.capturedText ++ shown ∧
        (shown.head?.any Escape.opensBlock = true ↔ ∃ e ∈ content.head?, e.OpensBlock) ∧
        Escape.startsList shown = false ∧
        ∀ last v, last.kind = paragraph.kind → (event (.closing last)).run t = .ok () v →
          v.renderer.capturedText = t.renderer.capturedText := by
  intro paragraph word before content s u
  have hbefore : (events before).run (.start {} .plain .plain .buffer) = .ok () s := rfl
  have hopen : (event (.opening paragraph)).run s = .ok () u := rfl
  exact ⟨hbefore, hopen,
    run_line_content rfl hbefore rfl (fun _ => Or.inl rfl) hopen (by decide)⟩

/-- A dash at the beginning of a paragraph is written as hyphens, and these are not escaped. -/
theorem body_paragraph_dash :
    body {} .plain .plain (some [])
        [.opening (.paragraph (some [])), .leaf (.symbol (.str ['\u2014'])),
          .closing (.paragraph (some []))] = .ok ['-', '-', '-'] ∧
      (['-', '-', '-'] : Text).head?.any Escape.opensBlock = true :=
  ⟨rfl, rfl⟩

end TrackedRendering

end DocumentStream
