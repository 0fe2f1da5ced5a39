import DocumentStream.Proofs.BlockSeparation
import DocumentStream.Proofs.MirroredEvents
import DocumentStream.Proofs.Within

/-!
Writing to a stream and writing to a buffer. Two renderers that differ only in where the document
goes do the same event by event. Once all constructs are closed, and a document was the last of
them, nothing is held back any more, so that the stream has got the text that the buffer gives.
What a stream has got is never taken back: it stays in front of all that follows, even if events
fail.
-/

namespace DocumentStream

namespace Printer

theorem written_prefix_write (p : Printer) (text : Text) :
    p.written <+: (p.write text).written := by
  rw [written_write]
  exact List.prefix_append _ _

theorem written_prefix_of_flush {p p' : Printer} (h : p.flush = .ok p') :
    p.written <+: p'.written := by
  cases hheld : joinTexts? p.pending with
  | none =>
    rw [flush_eq_of_joinTexts?_eq_none hheld] at h
    cases h
  | some held =>
    rw [flush_eq_of_joinTexts? hheld] at h
    obtain rfl := Except.ok.inj h
    exact written_prefix_write { p with pending := [] } (p.escaped held)

/-- The printer with another sink. -/
def toSink (p : Printer) (sink : SinkKind) : Printer := { p with sink }

theorem toSink_write (p : Printer) (sink : SinkKind) (text : Text) :
    (p.toSink sink).write text = (p.write text).toSink sink := by
  unfold write toSink
  split <;> rfl

theorem toSink_flush (p : Printer) (sink : SinkKind) :
    (p.toSink sink).flush = p.flush.map (·.toSink sink) := by
  cases hheld : joinTexts? p.pending with
  | none =>
    have hheld' : joinTexts? (p.toSink sink).pending = none := hheld
    rw [flush_eq_of_joinTexts?_eq_none hheld, flush_eq_of_joinTexts?_eq_none hheld']
    rfl
  | some held =>
    have hheld' : joinTexts? (p.toSink sink).pending = some held := hheld
    rw [flush_eq_of_joinTexts? hheld, flush_eq_of_joinTexts? hheld']
    exact congrArg Except.ok (toSink_write { p with pending := [] } sink (p.escaped held))

/-- Printers that are equal but for the sink, which keeps the text of the first of them. -/
structure SinkApart (p q : Printer) : Prop where
  sink : p.sink = .buffer
  eq : q = p.toSink q.sink

namespace SinkApart

variable {p q : Printer}

theorem write (h : p.SinkApart q) (text : Text) : (p.write text).SinkApart (q.write text) := by
  have hsettings := write_settings p text
  refine ⟨(congrArg Prod.fst hsettings).trans h.sink, ?_⟩
  rw [h.eq, toSink_write]
  rfl

theorem flushesAlike (h : p.SinkApart q) : p.FlushesAlike q SinkApart := by
  have hflush := p.toSink_flush q.sink
  rw [← h.eq] at hflush
  cases hp : p.flush with
  | error fault =>
    rw [hp] at hflush
    exact .error hp hflush
  | ok p' =>
    rw [hp] at hflush
    refine .ok hp hflush ⟨?_, rfl⟩
    exact (congrArg Prod.fst (settings_of_flush hp)).trans h.sink

end SinkApart

end Printer

open Printer in
theorem Mirror.pairwise_sinkApart (options : Options) :
    Pairwise options options (fun _ x y => x = y) fun _ => SinkApart where
  tablePipeEscape := rfl
  unhandledMacroMode := rfl
  markup _ := rfl
  append := by
    rintro - - x _ x' _ rfl rfl
    rfl
  isEmpty := by
    rintro - x _ rfl
    rfl
  flush h := h.flushesAlike
  write := by
    rintro - p q h - - - x _ rfl
    exact h.write x
  lineStarted h := ⟨h.sink, by rw [h.eq]; rfl⟩
  escapesPipes h := by rw [h.eq]; rfl
  captured _ := ⟨rfl, rfl⟩
  linked h _ := ⟨rfl, by rw [h.eq]; rfl⟩
  written h _ _ := by rw [h.eq]; rfl

/-- Comparing a renderer that keeps its text with one that writes to a stream. -/
def Mirror.ofSinks (options : Options) (linkTarget imageTarget : Serializer) : Mirror :=
  .ofPairs options options linkTarget imageTarget (fun _ x y => x = y) fun _ => Printer.SinkApart

theorem Mirror.verbatim_ofSinks (options : Options) (linkTarget imageTarget : Serializer) :
    (ofSinks options linkTarget imageTarget).Verbatim where
  markup _ := rfl
  eq := id

namespace TrackedRendering

open TrackedRenderer

variable (options : Options) (linkTarget imageTarget : Serializer)

/-- Events go alike whether the document is kept or written to a stream. -/
theorem agree_events_ofSinks (es : List Event) :
    Agree ((Mirror.ofSinks options linkTarget imageTarget).Tracked
        (es.foldl Mirror.accounts [[]]))
      (Mirror.ofSinks options linkTarget imageTarget).TrackedFailed
      ((events es).run (.start options linkTarget imageTarget .buffer))
      ((events es).run (.start options linkTarget imageTarget .stream)) := by
  have hverbatim := Mirror.verbatim_ofSinks options linkTarget imageTarget
  refine ((Mirror.pairwise_sinkApart options).respected linkTarget imageTarget).trackedEvents
    (fun e _ => hverbatim.fits e) ?_ ⟨rfl, ?_⟩
  · rintro e - value - account accounts p q ps qs (_ | ⟨hpq, houter⟩)
    refine .cons ⟨hpq.sink, ?_⟩ houter
    rw [hpq.eq]
    rfl
  · exact .intro ⟨rfl, rfl, rfl, .inl hverbatim⟩ rfl rfl (.cons ⟨rfl, rfl⟩ .nil)

end TrackedRendering

namespace Rendering

variable {r s : Renderer}

theorem pending_of_run_flush (h : flush.run r = .ok () s) : s.printer.pending = [] := by
  rw [flush, run_onPrinter_eq] at h
  cases hflush : r.printer.flush with
  | error fault =>
    rw [hflush] at h
    cases h
  | ok p =>
    rw [hflush] at h
    cases h
    rw [Renderer.printer_withPrinter]
    exact Printer.pending_of_flush hflush

/-- A document that is closed leaves nothing held back. -/
theorem pending_of_run_closeDocument (h : closeDocument.run r = .ok () s) :
    s.printer.pending = [] := by
  rw [closeDocument, run_get_bind] at h
  split at h
  · cases h
  · obtain ⟨-, t, -, h⟩ := exists_of_run_bind_eq_ok h
    dsimp only at h
    split at h
    · exact pending_of_run_flush h
    · obtain ⟨-, t, -, h⟩ := exists_of_run_bind_eq_ok h
      obtain ⟨-, t, -, h⟩ := exists_of_run_bind_eq_ok h
      exact pending_of_run_flush h

/-- The text begins with what the document has got. -/
theorem written_prefix_of_run_text {text : Text} (h : Rendering.text.run r = .ok text s) :
    r.document.written <+: text := by
  rw [run_text_eq] at h
  dsimp only at h
  cases hflush : r.document.flush with
  | error fault =>
    rw [hflush] at h
    cases h
  | ok p =>
    rw [hflush] at h
    dsimp only [Printer.text?] at h
    have hbegins := Printer.written_prefix_of_flush hflush
    cases hsink : p.sink with
    | buffer =>
      rw [hsink] at h
      cases h
      exact hbegins
    | stream =>
      rw [hsink] at h
      cases h

end Rendering

/-- Outcomes that are the same where the text is kept and where it went to a stream: the fault, or
the text, of which nothing is left to be written. -/
inductive SameOutput : EStateM.Result RenderFault TrackedRenderer Text →
    EStateM.Result RenderFault TrackedRenderer Unit → Prop
  | ok {s t : TrackedRenderer} (hcaptures : t.renderer.captures = [])
      (hpending : t.renderer.document.pending = []) :
      SameOutput (.ok t.renderer.document.written s) (.ok () t)
  | error (fault : RenderFault) {s t : TrackedRenderer} :
      SameOutput (.error fault s) (.error fault t)

namespace TrackedRendering

open TrackedRenderer

variable {options : Options} {linkTarget imageTarget : Serializer} {es : List Event}

/-- Nothing is held back once a document was closed last and all scopes are closed. -/
theorem pending_of_run_events {s t : TrackedRenderer} {parameters : Parameters}
    (hlast : es.getLast? = some (.closing (.document parameters)))
    (hrun : (events es).run s = .ok () t) (hcaptures : t.renderer.captures = []) :
    t.renderer.document.pending = [] := by
  obtain ⟨front, rfl⟩ := List.getLast?_eq_some_iff.mp hlast
  rw [events_append] at hrun
  cases hfront : (events front).run s with
  | error fault u =>
    rw [run_bind_of_error hfront] at hrun
    cases hrun
  | ok a u =>
    rw [run_bind_of_ok hfront] at hrun
    have hclosing : (event (.closing (.document parameters))).run u = .ok () t := by
      rwa [events, events, bind_pure_unit] at hrun
    obtain ⟨during, -, hclose, -⟩ := exists_of_run_event hclosing
    have hpending := Rendering.pending_of_run_closeDocument hclose
    rwa [Renderer.printer, hcaptures] at hpending

/-- What is written to a stream once everything is closed is the text that is given otherwise. -/
theorem sameOutput_of_closed {parameters : Parameters}
    (hnested : OpenConstructs.run? none [] es = some [])
    (hlast : es.getLast? = some (.closing (.document parameters))) :
    SameOutput ((textOf es).run (.start options linkTarget imageTarget .buffer))
      ((events es).run (.start options linkTarget imageTarget .stream)) := by
  have hlength : (es.foldl Mirror.accounts [[]]).length = 1 :=
    Mirror.length_foldl_accounts hnested rfl
  have hevents := agree_events_ofSinks options linkTarget imageTarget es
  rcases hevents.exists_eq with
    ⟨fault, s, t, hkept, hstream, -⟩ | ⟨_, s, t, hkept, hstream, htracked⟩
  · rw [textOf, run_bind_of_error hkept, hstream]
    exact .error fault
  · obtain ⟨inner, account, haccounts, happart, hs, ht⟩ := Mirror.Tracked.exists_last htracked
    rw [haccounts, List.length_append, List.length_singleton] at hlength
    have hscopes : s.renderer.captures = [] := by
      apply List.eq_nil_of_length_eq_zero
      omega
    have hcaptures : t.renderer.captures = [] := by
      apply List.eq_nil_of_length_eq_zero
      omega
    have hpending : s.renderer.document.pending = [] := pending_of_run_events hlast hkept hscopes
    have hsame : t.renderer.document.pending = [] := by
      rw [happart.eq]
      exact hpending
    have hwritten : t.renderer.document.written = s.renderer.document.written := by
      rw [happart.eq]
      rfl
    have htext := Rendering.run_text_eq s.renderer
    have hflush : s.renderer.document.flush = .ok s.renderer.document := by
      rw [Printer.flush, hpending]
      rfl
    rw [hflush] at htext
    simp only [Printer.text?, happart.sink] at htext
    rw [textOf, run_bind_of_ok hkept, run_ofRendering htext, hstream, ← hwritten]
    exact .ok hcaptures hsame

end TrackedRendering

/-- Whether the printer at the bottom of a stack has written a text and perhaps more. -/
def Extends (text : Text) (ps : List Printer) : Prop := ∀ p ∈ ps.getLast?, text <+: p.written

namespace Extends

variable {text : Text} {p p' : Printer} {ps : List Printer}

theorem replace (h : Extends text (p :: ps)) (hp : p.written <+: p'.written) :
    Extends text (p' :: ps) := by
  cases ps with
  | nil =>
    rintro _ ⟨⟩
    exact (h p rfl).trans hp
  | cons q qs => exact h

theorem push (h : Extends text (p :: ps)) (p' : Printer) : Extends text (p' :: p :: ps) := h

theorem pop (h : Extends text (p :: ps)) : Extends text ps := by
  cases ps with
  | nil => exact nofun
  | cons q qs => exact h

theorem printers_iff {r : Renderer} : Extends text r.printers ↔ text <+: r.document.written := by
  simp [Extends, Renderer.printers]

end Extends

/-- Comparing a renderer with itself, of which the document has begun with a text. -/
def Mirror.begun (r : Renderer) (text : Text) : Mirror where
  left := r.options
  right := r.options
  linkTarget := r.linkTarget
  imageTarget := r.imageTarget
  alike _ x y := x = y
  related _ ps qs := ps = qs ∧ Extends text ps
  failed ps qs := ps = qs ∧ Extends text ps

theorem Mirror.respected_begun (r : Renderer) (text : Text) : (begun r text).Respected where
  tablePipeEscape := rfl
  unhandledMacroMode := rfl
  markup _ := rfl
  append := by
    rintro - - x _ x' _ rfl rfl
    rfl
  isEmpty := by
    rintro - x _ rfl
    rfl
  flush := by
    rintro - p _ ps _ ⟨⟨⟩, hbegun⟩
    exact .refl p fun p' hp => ⟨rfl, hbegun.replace (Printer.written_prefix_of_flush hp)⟩
  write := by
    rintro - - p _ ps _ ⟨⟨⟩, hbegun⟩ - - - x _ rfl
    exact ⟨rfl, hbegun.replace (p.written_prefix_write x)⟩
  lineStarted := by
    rintro - p _ ps _ ⟨⟨⟩, hbegun⟩ - -
    exact ⟨rfl, hbegun.replace (List.prefix_refl (p.setLineStart true).written)⟩
  escapesPipes := by
    rintro - p _ ps _ ⟨⟨⟩, -⟩
    rfl
  captured := by
    rintro - p _ ps _ ⟨⟨⟩, hbegun⟩ pipes
    exact ⟨rfl, hbegun.push _⟩
  linked := by
    rintro - p _ ps _ ⟨⟨⟩, hbegun⟩ pipes
    exact ⟨rfl, hbegun.push _⟩
  closed := by
    rintro - - p _ ps _ ⟨⟨⟩, hbegun⟩
    exact .refl p fun p' hp => ⟨rfl, rfl, hbegun.pop⟩
  fail h := h
  failClosed := by
    rintro - p _ ps _ ⟨⟨⟩, hbegun⟩
    exact ⟨rfl, hbegun.pop⟩

namespace TrackedRenderer

/-- The renderer after it was told an event, whether or not that went well. -/
def told (s : TrackedRenderer) (e : Event) : TrackedRenderer :=
  match (TrackedRendering.event e).run s with
  | .ok _ t => t
  | .error _ t => t

/-- An event only adds to what the document has got. -/
theorem written_prefix_told (s : TrackedRenderer) (e : Event) :
    s.renderer.document.written <+: (s.told e).renderer.document.written := by
  let m : Mirror := .begun s.renderer s.renderer.document.written
  have hm : m.Respected := Mirror.respected_begun _ _
  have hverbatim : m.Verbatim := ⟨fun _ => rfl, id⟩
  have hself : m.Tracked (List.replicate (s.renderer.captures.length + 1) []) s s := by
    refine ⟨rfl, .intro ⟨rfl, rfl, rfl, .inl hverbatim⟩ rfl List.length_replicate ⟨rfl, ?_⟩⟩
    exact Extends.printers_iff.mpr List.prefix_rfl
  have hdelays (added : Mirror.Account) (value : Value) : m.Delays added value value := by
    rintro - - p _ ps _ ⟨⟨⟩, hbegun⟩
    exact ⟨rfl, hbegun.replace (List.prefix_refl (p.delay value).written)⟩
  have hevent := hm.trackedEvent (hverbatim.fits e) (fun value _ => hdelays _ value) hself
  unfold told
  revert hevent
  generalize (TrackedRendering.event e).run s = result
  rintro (⟨_, h⟩ | ⟨_, h⟩)
  · exact Extends.printers_iff.mp h.renderer.printers.2
  · exact Extends.printers_iff.mp h.printers.2

theorem written_prefix_foldl_told (s : TrackedRenderer) (es : List Event) :
    s.renderer.document.written <+: (es.foldl told s).renderer.document.written := by
  induction es generalizing s with
  | nil => exact List.prefix_rfl
  | cons e rest ih => exact (s.written_prefix_told e).trans (ih _)

theorem foldl_told_of_run {es : List Event} {s t : TrackedRenderer}
    (h : (TrackedRendering.events es).run s = .ok () t) : es.foldl told s = t := by
  induction es generalizing s with
  | nil =>
    cases h
    rfl
  | cons e rest ih =>
    cases he : (TrackedRendering.event e).run s with
    | error fault u =>
      rw [TrackedRendering.events, TrackedRendering.run_bind_of_error he] at h
      cases h
    | ok a u =>
      rw [TrackedRendering.events, TrackedRendering.run_bind_of_ok he] at h
      have htold : s.told e = u := by rw [told, he]
      rw [List.foldl_cons, htold]
      exact ih h

end TrackedRenderer

namespace TrackedRendering

open TrackedRenderer

variable (options : Options) (linkTarget imageTarget : Serializer)

/-- What a stream has got after a new renderer was told events, whether or not these went well. -/
def streamed (es : List Event) : Text :=
  (es.foldl told (.start options linkTarget imageTarget .stream)).renderer.document.written

theorem streamed_prefix (front back : List Event) :
    streamed options linkTarget imageTarget front <+:
      streamed options linkTarget imageTarget (front ++ back) := by
  rw [streamed, streamed, List.foldl_append]
  exact written_prefix_foldl_told _ _

variable {options linkTarget imageTarget}

theorem run_of_run_ofRendering {α : Type} {act : Rendering α} {s t : TrackedRenderer} {a : α}
    (h : (ofRendering act).run s = .ok a t) : act.run s.renderer = .ok a t.renderer := by
  simp only [EStateM.run, ofRendering] at h ⊢
  cases hact : act s.renderer with
  | ok b r =>
    rw [hact] at h
    cases h
    rfl
  | error fault r =>
    rw [hact] at h
    cases h

/-- The text that is kept in memory begins with what a stream has got. -/
theorem streamed_prefix_of_run_textOf {es : List Event} {text : Text} {s : TrackedRenderer}
    (h : (textOf es).run (.start options linkTarget imageTarget .buffer) = .ok text s) :
    streamed options linkTarget imageTarget es <+: text := by
  have hevents := agree_events_ofSinks options linkTarget imageTarget es
  rw [textOf] at h
  rcases hevents.exists_eq with ⟨fault, s, t, hkept, -, -⟩ | ⟨_, s, t, hkept, hstream, htracked⟩
  · rw [run_bind_of_error hkept] at h
    cases h
  · rw [run_bind_of_ok hkept] at h
    obtain ⟨-, -, -, happart, -, -⟩ := Mirror.Tracked.exists_last htracked
    rw [streamed, foldl_told_of_run hstream, happart.eq]
    exact Rendering.written_prefix_of_run_text (run_of_run_ofRendering h)

/-- Writing to a stream gives the text that is kept in memory otherwise: all of it once every
construct is closed and a document was the last of them, and at any time a beginning of it, which
further events do not change. -/
theorem stream_eq_textOf (options : Options) (linkTarget imageTarget : Serializer) :
    (∀ {es : List Event} {parameters : Parameters}, OpenConstructs.run? none [] es = some [] →
      es.getLast? = some (.closing (.document parameters)) →
      SameOutput ((textOf es).run (.start options linkTarget imageTarget .buffer))
        ((events es).run (.start options linkTarget imageTarget .stream))) ∧
    ∀ front back : List Event,
      streamed options linkTarget imageTarget front <+:
        streamed options linkTarget imageTarget (front ++ back) ∧
      ∀ {text : Text} {s : TrackedRenderer},
        (textOf (front ++ back)).run (.start options linkTarget imageTarget .buffer) = .ok text s →
          streamed options linkTarget imageTarget front <+: text := by
  refine ⟨sameOutput_of_closed, fun front back => ?_⟩
  have hbegins := streamed_prefix options linkTarget imageTarget front back
  exact ⟨hbegins, fun h => hbegins.trans (streamed_prefix_of_run_textOf h)⟩

/-- A document with one paragraph, of which the stream has got nothing before it ends. -/
theorem stream_eq_textOf_paragraph :
    let front : List Event := [.opening (.document (some [])), .opening (.paragraph (some [])),
      .leaf (.word (.str ['a', '*']))]
    let back : List Event := [.closing (.paragraph (some [])), .closing (.document (some []))]
    SameOutput ((textOf (front ++ back)).run (.start {} .plain .plain .buffer))
        ((events (front ++ back)).run (.start {} .plain .plain .stream)) ∧
      streamed {} .plain .plain front = [] ∧
      streamed {} .plain .plain (front ++ back) = ['a', '\\', '*'] ∧
      streamed {} .plain .plain front <+: streamed {} .plain .plain (front ++ back) := by
  intro front back
  obtain ⟨hclosed, hbegins⟩ := stream_eq_textOf {} .plain .plain
  exact ⟨hclosed rfl rfl, rfl, rfl, (hbegins front back).1⟩

end TrackedRendering

end DocumentStream
