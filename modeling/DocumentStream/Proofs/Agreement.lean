import DocumentStream.Proofs.EventSteps

/-!
Steps that agree. Two steps agree if they give the same answer or the same fault and leave related
states, which is kept by doing one such step after another. For renderers whose printers are
related, the relation is respected if flushing, writing, opening a scope and closing one leave it
intact. An event that holds a value back does nothing else.
-/

namespace DocumentStream

/-- Two outcomes that say the same, an answer or a fault, in states that are related. -/
inductive Agree {σ α : Type} (after failed : σ → σ → Prop) :
    EStateM.Result RenderFault σ α → EStateM.Result RenderFault σ α → Prop
  | ok (a : α) {s t : σ} (h : after s t) : Agree after failed (.ok a s) (.ok a t)
  | error (fault : RenderFault) {s t : σ} (h : failed s t) :
      Agree after failed (.error fault s) (.error fault t)

/-- Steps of the same kind that say the same wherever they start from related states. -/
def InStep {σ α : Type} (before after failed : σ → σ → Prop) (act : EStateM RenderFault σ α) :
    Prop :=
  ∀ ⦃s t : σ⦄, before s t → Agree after failed (act.run s) (act.run t)

namespace Agree

variable {σ α β : Type} {mid after failed : σ → σ → Prop} {s t : σ}

theorem refl (hafter : ∀ s, after s s) (hfailed : ∀ s, failed s s)
    (result : EStateM.Result RenderFault σ α) : Agree after failed result result := by
  cases result with
  | ok a s => exact .ok a (hafter s)
  | error fault s => exact .error fault (hfailed s)

theorem bind {first first' : EStateM RenderFault σ α} {next next' : α → EStateM RenderFault σ β}
    (h : Agree mid failed (first.run s) (first'.run t))
    (hnext : ∀ a ⦃s t⦄, mid s t → Agree after failed ((next a).run s) ((next' a).run t)) :
    Agree after failed ((first >>= next).run s) ((first' >>= next').run t) := by
  rw [EStateM.run_bind, EStateM.run_bind]
  revert h
  generalize first.run s = result
  generalize first'.run t = result'
  rintro (⟨a, h⟩ | ⟨fault, h⟩)
  · exact hnext a h
  · exact .error fault h

theorem symm {result result' : EStateM.Result RenderFault σ α}
    (h : Agree after failed result result') (hafter : ∀ s t, after s t → after t s)
    (hfailed : ∀ s t, failed s t → failed t s) : Agree after failed result' result := by
  cases h with
  | ok a h => exact .ok a (hafter _ _ h)
  | error fault h => exact .error fault (hfailed _ _ h)

theorem trans {first second third : EStateM.Result RenderFault σ α}
    (h : Agree after failed first second) (h' : Agree after failed second third)
    (hafter : ∀ s t u, after s t → after t u → after s u)
    (hfailed : ∀ s t u, failed s t → failed t u → failed s u) :
    Agree after failed first third := by
  cases h with
  | ok a h =>
    cases h' with
    | ok _ h' => exact .ok a (hafter _ _ _ h h')
  | error fault h =>
    cases h' with
    | error _ h' => exact .error fault (hfailed _ _ _ h h')

theorem imp {after' failed' : σ → σ → Prop} {result result' : EStateM.Result RenderFault σ α}
    (h : Agree after failed result result') (hafter : ∀ s t, after s t → after' s t)
    (hfailed : ∀ s t, failed s t → failed' s t) : Agree after' failed' result result' := by
  cases h with
  | ok a h => exact .ok a (hafter _ _ h)
  | error fault h => exact .error fault (hfailed _ _ h)

/-- Outcomes that agree are faults or answers. -/
theorem exists_eq {result result' : EStateM.Result RenderFault σ α}
    (h : Agree after failed result result') :
    (∃ fault s t, result = .error fault s ∧ result' = .error fault t ∧ failed s t) ∨
      ∃ a s t, result = .ok a s ∧ result' = .ok a t ∧ after s t := by
  cases h with
  | ok a h => exact .inr ⟨a, _, _, rfl, rfl, h⟩
  | error fault h => exact .inl ⟨fault, _, _, rfl, rfl, h⟩

theorem mono {after' : σ → σ → Prop} {result result' : EStateM.Result RenderFault σ α}
    (h : Agree after failed result result') (hafter : ∀ s t, after s t → after' s t) :
    Agree after' failed result result' :=
  h.imp hafter fun _ _ hfailed => hfailed

end Agree

namespace InStep

variable {σ α β : Type} {before mid after failed : σ → σ → Prop}

theorem pure (a : α) : InStep after after failed (Pure.pure a : EStateM RenderFault σ α) :=
  fun _ _ h => .ok a h

theorem throw (hfailed : ∀ s t, before s t → failed s t) (fault : RenderFault) :
    InStep before after failed (MonadExcept.throw fault : EStateM RenderFault σ α) :=
  fun s t h => .error fault (hfailed s t h)

theorem bind {first : EStateM RenderFault σ α} {next : α → EStateM RenderFault σ β}
    (h : InStep before mid failed first) (hnext : ∀ a, InStep mid after failed (next a)) :
    InStep before after failed (first >>= next) :=
  fun _ _ hbefore => (h hbefore).bind fun a _ _ hmid => hnext a hmid

theorem ite {c : Prop} [Decidable c] {act act' : EStateM RenderFault σ α}
    (h : InStep before after failed act) (h' : InStep before after failed act') :
    InStep before after failed (if c then act else act') := by
  split
  · exact h
  · exact h'

theorem mono {after' : σ → σ → Prop} {act : EStateM RenderFault σ α}
    (h : InStep before after failed act) (hafter : ∀ s t, after s t → after' s t) :
    InStep before after' failed act :=
  fun _ _ hbefore => (h hbefore).mono hafter

end InStep

namespace Printer

/-- Flushing two printers fails in the same way, or gives printers that are related. -/
inductive FlushesAlike (p q : Printer) (after : Printer → Printer → Prop) : Prop
  | ok {p' q' : Printer} (hp : p.flush = .ok p') (hq : q.flush = .ok q') (h : after p' q')
  | error {fault : FieldFault} (hp : p.flush = .error fault) (hq : q.flush = .error fault)

theorem FlushesAlike.refl {after : Printer → Printer → Prop} (p : Printer)
    (h : ∀ p', p.flush = .ok p' → after p' p') : p.FlushesAlike p after := by
  cases hp : p.flush with
  | ok p' => exact .ok hp hp (h p' hp)
  | error fault => exact .error hp hp

theorem pending_of_flush {p p' : Printer} (h : p.flush = .ok p') : p'.pending = [] := by
  unfold flush at h
  split at h
  · rename_i hpending
    obtain rfl := Except.ok.inj h
    exact List.isEmpty_iff.mp hpending
  · split at h
    · cases h
    · obtain rfl := Except.ok.inj h
      exact write_pending _ _

theorem settings_of_flush {p p' : Printer} (h : p.flush = .ok p') : p'.settings = p.settings := by
  unfold flush at h
  split at h
  · obtain rfl := Except.ok.inj h
    rfl
  · split at h
    · cases h
    · obtain rfl := Except.ok.inj h
      exact write_settings _ _

/-- Markup is written behind what was held back. -/
theorem exists_flush_of_print {p q : Printer} {markup : Text} (h : p.print markup = .ok q) :
    ∃ p', p.flush = .ok p' ∧ p'.write markup = q := by
  rw [print] at h
  cases hflush : p.flush with
  | ok p' =>
    rw [hflush] at h
    exact ⟨p', rfl, Except.ok.inj h⟩
  | error fault =>
    rw [hflush] at h
    cases h

theorem pending_of_print {p q : Printer} {markup : Text} (h : p.print markup = .ok q) :
    q.pending = [] := by
  obtain ⟨p', hflush, rfl⟩ := exists_flush_of_print h
  rw [write_pending, pending_of_flush hflush]

theorem settings_of_print {p q : Printer} {markup : Text} (h : p.print markup = .ok q) :
    q.settings = p.settings := by
  obtain ⟨p', hflush, rfl⟩ := exists_flush_of_print h
  rw [write_settings, settings_of_flush hflush]

theorem joinTexts?_append (values values' : List Value) :
    joinTexts? (values ++ values') =
      (joinTexts? values).bind fun text => (joinTexts? values').map (text ++ ·) := by
  induction values with
  | nil => simp [joinTexts?]
  | cons value rest ih =>
    cases value with
    | str text =>
      rw [List.cons_append, joinTexts?, joinTexts?, ih]
      cases joinTexts? rest <;> cases joinTexts? values' <;> simp
    | _ => rfl

/-- Document text as a printer writes it next. -/
def escaped (p : Printer) (text : Text) : Text :=
  if p.escapes then Escape.text text p.lineStart p.escapesPipes else text

theorem flush_eq_of_joinTexts?_eq_none {p : Printer} (h : joinTexts? p.pending = none) :
    p.flush = .error .wrongKind := by
  have hfilled : ¬ p.pending.isEmpty = true := by
    intro hempty
    rw [List.isEmpty_iff.mp hempty] at h
    cases h
  rw [flush, if_neg hfilled, h]

theorem flush_eq_of_joinTexts? {p : Printer} {text : Text} (h : joinTexts? p.pending = some text) :
    p.flush = .ok (({ p with pending := [] } : Printer).write (p.escaped text)) := by
  unfold flush
  split
  · rename_i hpending
    have hnil := List.isEmpty_iff.mp hpending
    rw [hnil] at h
    obtain rfl := Option.some.inj h
    have hescaped : p.escaped [] = [] := by
      cases hline : p.lineStart <;>
        simp [escaped, Escape.text, Escape.charsFrom, Escape.listMarker, hline]
    rw [hescaped, ← hnil]
    rfl
  · rw [h]
    rfl

end Printer

/-- A relation between stacks of printers that what is written to both leaves intact. -/
structure Respected (escapes : Bool) (related : List Printer → List Printer → Prop) : Prop where
  flush {p q : Printer} {ps qs : List Printer} (h : related (p :: ps) (q :: qs)) :
    p.FlushesAlike q fun p' q' => related (p' :: ps) (q' :: qs)
  write {p q : Printer} {ps qs : List Printer} (h : related (p :: ps) (q :: qs))
    (hp : p.pending = []) (hq : q.pending = []) (markup : Text) :
    related (p.write markup :: ps) (q.write markup :: qs)
  lineStarted {p q : Printer} {ps qs : List Printer} (h : related (p :: ps) (q :: qs))
    (hp : p.pending = []) (hq : q.pending = []) :
    related (p.setLineStart true :: ps) (q.setLineStart true :: qs)
  escapesPipes {p q : Printer} {ps qs : List Printer} (h : related (p :: ps) (q :: qs)) :
    p.escapesPipes = q.escapesPipes
  captured {ps qs : List Printer} (h : related ps qs) (pipes : Bool) :
    related ({ escapes, escapesPipes := pipes } :: ps) ({ escapes, escapesPipes := pipes } :: qs)
  linked {p q : Printer} {ps qs : List Printer} (h : related (p :: ps) (q :: qs)) (pipes : Bool) :
    related ({ escapes, escapesPipes := pipes, lineStart := p.isOnNewLine } :: p :: ps)
      ({ escapes, escapesPipes := pipes, lineStart := q.isOnNewLine } :: q :: qs)
  /-- What is left when a scope closes, with the text that it captured. -/
  closed {p q : Printer} {ps qs : List Printer} (h : related (p :: ps) (q :: qs)) :
    p.FlushesAlike q fun p' q' => p'.written = q'.written ∧ related ps qs
  /-- The text of the document, which the outermost printer holds. -/
  text {p q : Printer} {ps qs : List Printer} (hlength : qs.length = ps.length)
    (h : related (ps ++ [p]) (qs ++ [q])) :
    p.FlushesAlike q fun p' q' => p'.text? = q'.text?

/-- The value that an event does nothing but hold back. -/
def Event.delayed? : Event → Option Value
  | .leaf (.word text) => some text
  | .leaf .space => some (.str [' '])
  | .leaf (.symbol symbol) =>
    if symbol.key?.isSome && (Rendering.symbolMarkup? symbol).isNone then some symbol else none
  | _ => none

/-- The text that an event does nothing but hold back, if there is any. -/
def Event.addedText? (e : Event) : Option Text :=
  match e.delayed? with
  | some (.str text) => if text.isEmpty then none else some text
  | _ => none

theorem Event.delayed?_of_addedText? {e : Event} {text : Text} (h : e.addedText? = some text) :
    e.delayed? = some (.str text) ∧ text ≠ [] := by
  unfold addedText? at h
  split at h
  · rename_i added hadded
    split at h
    · cases h
    · rename_i hne
      obtain rfl := Option.some.inj h
      exact ⟨hadded, by simpa using hne⟩
  · cases h

/-- What stays true of each printer whatever is written to it. -/
structure Lasting (escapes : Bool) (Q : Printer → Prop) : Prop where
  flush {p p' : Printer} (h : Q p) (hflush : p.flush = .ok p') : Q p'
  write {p : Printer} (h : Q p) (markup : Text) : Q (p.write markup)
  lineStarted {p : Printer} (h : Q p) : Q (p.setLineStart true)
  captured (pipes lineStart : Bool) : Q { escapes, escapesPipes := pipes, lineStart }

/-- A printer beside itself is in step, and what is lasting stays true of it. -/
theorem Lasting.respected {escapes : Bool} {Q : Printer → Prop} (h : Lasting escapes Q) :
    Respected escapes fun ps qs => ps = qs ∧ ∀ p ∈ ps, Q p where
  flush := by
    rintro p _ ps _ ⟨⟨⟩, hall⟩
    rw [List.forall_mem_cons] at hall
    exact .refl p fun p' hp => ⟨rfl, List.forall_mem_cons.mpr ⟨h.flush hall.1 hp, hall.2⟩⟩
  write := by
    rintro p _ ps _ ⟨⟨⟩, hall⟩ - - markup
    rw [List.forall_mem_cons] at hall
    exact ⟨rfl, List.forall_mem_cons.mpr ⟨h.write hall.1 markup, hall.2⟩⟩
  lineStarted := by
    rintro p _ ps _ ⟨⟨⟩, hall⟩ - -
    rw [List.forall_mem_cons] at hall
    exact ⟨rfl, List.forall_mem_cons.mpr ⟨h.lineStarted hall.1, hall.2⟩⟩
  escapesPipes := by
    rintro p _ ps _ ⟨⟨⟩, -⟩
    rfl
  captured := by
    rintro ps _ ⟨rfl, hall⟩ pipes
    exact ⟨rfl, List.forall_mem_cons.mpr ⟨h.captured pipes true, hall⟩⟩
  linked := by
    rintro p _ ps _ ⟨⟨⟩, hall⟩ pipes
    exact ⟨rfl, List.forall_mem_cons.mpr ⟨h.captured pipes _, hall⟩⟩
  closed := by
    rintro p _ ps _ ⟨⟨⟩, hall⟩
    rw [List.forall_mem_cons] at hall
    exact .refl p fun p' _ => ⟨rfl, rfl, hall.2⟩
  text := by
    rintro p q ps qs hlength ⟨hsame, -⟩
    obtain ⟨-, hlast⟩ := List.append_inj hsame hlength.symm
    obtain rfl := List.singleton_inj.mp hlast
    exact .refl p fun p' _ => rfl

namespace Renderer

/-- Two renderers that differ in their printers only, and these are related. -/
inductive Beside (escapes : Bool) (related : List Printer → List Printer → Prop) (r : Renderer) :
    Renderer → Prop
  | intro {document : Printer} {captures : List Printer}
      (hescapes : r.options.escapeSpecial.isTruthy = escapes)
      (hlength : captures.length = r.captures.length)
      (hprinters : related r.printers (captures ++ [document])) :
      Beside escapes related r { r with document, captures }

/-- What renderers that failed still have in common. -/
def SameLog (r s : Renderer) : Prop := r.log = s.log

namespace Beside

variable {escapes : Bool} {related related' : List Printer → List Printer → Prop}
  {r s : Renderer}

theorem printers (h : Beside escapes related r s) : related r.printers s.printers := by
  obtain ⟨-, -, hprinters⟩ := h
  exact hprinters

theorem escapes_eq (h : Beside escapes related r s) :
    r.options.escapeSpecial.isTruthy = escapes := by
  obtain ⟨hescapes, -, -⟩ := h
  exact hescapes

/-- The relation of the printers with the current ones in front. -/
theorem current (h : Beside escapes related r s) :
    related (r.printer :: r.printers.tail) (s.printer :: s.printers.tail) := by
  rw [← printers_eq_cons, ← printers_eq_cons]
  exact h.printers

theorem mono (h : Beside escapes related r s)
    (hrelated : related r.printers s.printers → related' r.printers s.printers) :
    Beside escapes related' r s := by
  obtain ⟨hescapes, hlength, hprinters⟩ := h
  exact .intro hescapes hlength (hrelated hprinters)

theorem withPrinter (h : Beside escapes related r s) {p q : Printer}
    (hprinters : related' (p :: r.printers.tail) (q :: s.printers.tail)) :
    Beside escapes related' (r.withPrinter p) (s.withPrinter q) := by
  obtain ⟨hescapes, hlength, -⟩ := h
  rename_i document captures
  obtain ⟨options, linkTarget, imageTarget, document', captures', hasBlock⟩ := r
  cases captures' with
  | nil =>
    obtain rfl := List.length_eq_zero_iff.mp hlength
    exact .intro hescapes rfl hprinters
  | cons p' outer' =>
    obtain ⟨q', outer, rfl⟩ := List.exists_cons_of_length_eq_add_one hlength
    exact .intro hescapes hlength hprinters

end Beside

end Renderer

namespace Rendering

theorem run_onPrinter_eq (r : Renderer) (act : Printer → Except FieldFault Printer) :
    (onPrinter act).run r =
      match act r.printer with
      | .ok p => .ok () (r.withPrinter p)
      | .error fault => .error (.field fault) r := by
  rw [onPrinter, run_get_bind]
  cases act r.printer <;> rfl

theorem run_closeScope_eq (r : Renderer) :
    closeScope.run r =
      if r.captures = [] then .error (.rendering .noOpenScope) r
      else
        match r.printer.flush with
        | .ok p => .ok p.written r.released
        | .error fault => .error (.field fault) r.released := by
  rw [closeScope, run_get_bind, Renderer.printer, Renderer.released]
  cases hcaptures : r.captures with
  | nil => rfl
  | cons p outer =>
    simp only [List.head?_cons, Option.getD_some, List.tail_cons, reduceCtorEq, if_false]
    cases hflush : p.flush <;> rfl

end Rendering

namespace TrackedRendering

/-- Where renderers agree on a step of their own, so do those that follow the nesting. -/
theorem agree_ofRendering {α : Type} {after failed : Renderer → Renderer → Prop}
    {act act' : Rendering α} {tracker : Tracker} {r s : Renderer}
    (h : Agree after failed (act.run r) (act'.run s)) :
    Agree (fun s t => t.tracker = s.tracker ∧ after s.renderer t.renderer)
      (fun s t => failed s.renderer t.renderer)
      ((ofRendering act).run ⟨tracker, r⟩) ((ofRendering act').run ⟨tracker, s⟩) := by
  simp only [EStateM.run, ofRendering] at h ⊢
  revert h
  generalize act r = result
  generalize act' s = result'
  rintro (⟨a, hafter⟩ | ⟨fault, hfailed⟩)
  · exact .ok a ⟨rfl, hafter⟩
  · exact .error fault hfailed

/-- An event goes well if the tracker can follow it and the renderer does what it says. -/
theorem run_event_of_run {e : Event} {s : TrackedRenderer} {during after : Tracker} {r : Renderer}
    (hbefore : s.tracker.before e = some during)
    (hrun : (Rendering.event during.nesting e).run s.renderer = .ok () r)
    (hafter : during.after e = some after) : (event e).run s = .ok () ⟨after, r⟩ := by
  rw [event, run_bind_of_ok (run_track hbefore), run_get_bind,
    run_bind_of_ok (run_ofRendering (s := ⟨during, s.renderer⟩) hrun)]
  exact run_track hafter

theorem run_event_leaf {l : Leaf} {s : TrackedRenderer} {r : Renderer}
    (h : (Rendering.leaf s.tracker.nesting l).run s.renderer = .ok () r) :
    (event (.leaf l)).run s = .ok () { s with renderer := r } :=
  run_event_of_run (e := .leaf l) rfl h rfl

/-- What the tracker and the renderer did for an event that went well. -/
theorem exists_of_run_event {e : Event} {s t : TrackedRenderer}
    (h : (event e).run s = .ok () t) :
    ∃ during, s.tracker.before e = some during ∧
      (Rendering.event during.nesting e).run s.renderer = .ok () t.renderer ∧
      during.after e = some t.tracker := by
  unfold event at h
  cases hbefore : s.tracker.before e with
  | none => simp [run_bind_of_error (run_track_of_none hbefore)] at h
  | some during =>
    rw [run_bind_of_ok (run_track hbefore), run_get_bind] at h
    cases hrun : (Rendering.event during.nesting e).run s.renderer with
    | error fault r =>
      have herror := run_ofRendering_of_error (s := ⟨during, s.renderer⟩) hrun
      rw [run_bind_of_error herror] at h
      cases h
    | ok a r =>
      rw [run_bind_of_ok (run_ofRendering (s := ⟨during, s.renderer⟩) hrun)] at h
      cases hafter : during.after e with
      | none => simp [run_track_of_none (s := ⟨during, r⟩) hafter] at h
      | some after =>
        rw [run_track (s := ⟨during, r⟩) hafter] at h
        cases h
        exact ⟨during, rfl, hrun, hafter⟩

/-- An event that holds a value back does nothing else. -/
theorem run_event_of_delayed {e : Event} {value : Value} (h : e.delayed? = some value)
    (s : TrackedRenderer) :
    (event e).run s = .ok () { s with renderer := s.renderer.held value } := by
  have hprint := Rendering.run_printText s.renderer value
  unfold Event.delayed? at h
  split at h
  · cases h
    exact run_event_leaf hprint
  · cases h
    exact run_event_leaf hprint
  · rename_i symbol
    split at h
    · rename_i hstands
      cases h
      rw [Bool.and_eq_true, Option.isNone_iff_eq_none] at hstands
      have hkey : ¬ value.key?.isNone = true := by
        rw [Option.isNone_iff_eq_none]
        exact Option.isSome_iff_ne_none.mp hstands.1
      have hsymbol : Rendering.symbol value = Rendering.printText value := by
        rw [Rendering.symbol, if_neg hkey, hstands.2]
      rw [← hsymbol] at hprint
      exact run_event_leaf hprint
    · cases h
  · cases h

theorem events_append (first second : List Event) :
    events (first ++ second) = (do
      events first
      events second) := by
  induction first with
  | nil => rfl
  | cons e rest ih =>
    rw [List.cons_append, events, ih, events, bind_assoc]

theorem textOf_cons (e : Event) (rest : List Event) :
    textOf (e :: rest) = (do
      event e
      textOf rest) := by
  rw [textOf, events, bind_assoc]
  rfl

theorem textOf_append (first second : List Event) :
    textOf (first ++ second) = (do
      events first
      textOf second) := by
  rw [textOf, events_append, bind_assoc]
  rfl

end TrackedRendering

end DocumentStream
