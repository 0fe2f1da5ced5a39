import DocumentStream.Conversion
import DocumentStream.Proofs.MirroredEvents

/-!
Two renderers of the same settings that are told the same events. Their printers need not be equal
for them to give the same text and to fail in the same way: it is enough that the printers are
related in a way which flushing, writing, opening a scope and closing one respect. Whatever relation
that is, every event but those that hold text back keeps two renderers in step.
-/

namespace DocumentStream

/-- Comparing renderers of which the printers are related in one way and capture equal texts. -/
def Mirror.ofRelated (r : Renderer) (related : List Printer → List Printer → Prop) : Mirror where
  left := r.options
  right := r.options
  linkTarget := r.linkTarget
  imageTarget := r.imageTarget
  alike _ x y := x = y
  related _ := related
  failed _ _ := True

theorem Mirror.verbatim_ofRelated (r : Renderer) (related : List Printer → List Printer → Prop) :
    (ofRelated r related).Verbatim where
  markup _ := rfl
  eq := id

section

variable {escapes : Bool} {related : List Printer → List Printer → Prop} {base r s : Renderer}

theorem Respected.mirror (h : Respected escapes related)
    (hescapes : base.options.escapeSpecial.isTruthy = escapes) :
    (Mirror.ofRelated base related).Respected where
  tablePipeEscape := rfl
  unhandledMacroMode := rfl
  markup _ := rfl
  append := by
    rintro - - x _ x' _ rfl rfl
    rfl
  isEmpty := by
    rintro - x _ rfl
    rfl
  flush := h.flush
  write := by
    rintro account accounts p q ps qs hrelated hp hq - x _ rfl
    exact h.write hrelated hp hq x
  lineStarted := h.lineStarted
  escapesPipes := h.escapesPipes
  captured hrelated pipes := by
    subst hescapes
    exact h.captured hrelated pipes
  linked hrelated pipes := by
    subst hescapes
    exact h.linked hrelated pipes
  closed := h.closed
  fail _ := trivial
  failClosed _ := trivial

theorem Renderer.Beside.toMirror (h : Beside escapes related r s) :
    (Mirror.ofRelated r related).Beside (List.replicate (r.captures.length + 1) []) r s := by
  obtain ⟨-, hlength, hprinters⟩ := h
  refine .intro ⟨rfl, rfl, rfl, .inl (Mirror.verbatim_ofRelated r related)⟩ hlength ?_ hprinters
  exact List.length_replicate

theorem Renderer.Beside.ofMirror {accounts : List Mirror.Account}
    (hescapes : base.options.escapeSpecial.isTruthy = escapes)
    (h : (Mirror.ofRelated base related).Beside accounts r s) : Beside escapes related r s := by
  obtain ⟨hfixed, hlength, -, hprinters⟩ := h
  have hoptions : r.options = base.options := hfixed.options
  subst hescapes
  have hbeside : Beside r.options.escapeSpecial.isTruthy related r _ :=
    .intro rfl hlength hprinters
  rw [hoptions] at hbeside
  exact hbeside

end

namespace Respected

open Renderer Rendering

variable {escapes : Bool} {related : List Printer → List Printer → Prop}
  (h : Respected escapes related)

include h

/-- Reading the text gives the same of both. -/
theorem text_inStep : InStep (Beside escapes related) SameLog SameLog Rendering.text := by
  intro r s hbeside
  obtain ⟨hescapes, hlength, hprinters⟩ := hbeside
  rw [run_text_eq, run_text_eq]
  dsimp only
  rw [hlength]
  rcases h.text hlength hprinters with @⟨p, q, hp, hq, htext⟩ | ⟨hp, hq⟩
  · rw [hp, hq]
    dsimp only
    rw [← htext]
    cases p.text? with
    | some text => exact .ok text rfl
    | none => exact .error _ rfl
  · rw [hp, hq]
    exact .error _ rfl

end Respected

namespace TrackedRenderer

/-- Two renderers that follow the same nesting and differ in related printers only. -/
structure Beside (escapes : Bool) (related : List Printer → List Printer → Prop)
    (s t : TrackedRenderer) : Prop where
  tracker : t.tracker = s.tracker
  renderer : Renderer.Beside escapes related s.renderer t.renderer

def SameLog (s t : TrackedRenderer) : Prop := Renderer.SameLog s.renderer t.renderer

theorem SameLog.refl (s : TrackedRenderer) : SameLog s s := Eq.refl s.renderer.log

theorem SameLog.symm {s t : TrackedRenderer} (h : SameLog s t) : SameLog t s := Eq.symm h

theorem SameLog.trans {s t u : TrackedRenderer} (h : SameLog s t) (h' : SameLog t u) :
    SameLog s u := Eq.trans h h'

end TrackedRenderer

namespace TrackedRendering

open TrackedRenderer

variable {escapes : Bool} {related : List Printer → List Printer → Prop}

theorem event_inStep (h : Respected escapes related) {e : Event} (he : e.delayed? = none) :
    InStep (Beside escapes related) (Beside escapes related) SameLog (event e) := by
  intro s t hbeside
  have hescapes := hbeside.renderer.escapes_eq
  have hevent := (h.mirror hescapes).trackedEvent ((Mirror.verbatim_ofRelated _ _).fits e)
    (fun value hvalue => absurd (he.symm.trans hvalue) (Option.some_ne_none value).symm)
    ⟨hbeside.tracker, hbeside.renderer.toMirror⟩
  exact hevent.imp (fun _ _ h => ⟨h.tracker, .ofMirror hescapes h.renderer⟩) fun _ _ h => h.log

/-- Events keep two renderers in step if the printers stay related when they hold text back. -/
theorem events_inStep (h : Respected escapes related) {stream : List Event}
    (hdelay : ∀ e ∈ stream, ∀ value, e.delayed? = some value → ∀ {p q : Printer}
      {ps qs : List Printer}, related (p :: ps) (q :: qs) →
        related (p.delay value :: ps) (q.delay value :: qs)) :
    InStep (Beside escapes related) (Beside escapes related) SameLog (events stream) := by
  intro s t hbeside
  have hescapes := hbeside.renderer.escapes_eq
  have hevents := (h.mirror hescapes).trackedEvents
    (fun e _ => (Mirror.verbatim_ofRelated _ _).fits e)
    (fun e he value hvalue _ _ _ _ _ _ hrelated => hdelay e he value hvalue hrelated)
    ⟨hbeside.tracker, hbeside.renderer.toMirror⟩
  exact hevents.imp (fun _ _ h => ⟨h.tracker, .ofMirror hescapes h.renderer⟩) fun _ _ h => h.log

/-- What is lasting is still true of all printers behind events that went well. -/
theorem lasting_of_run_events {Q : Printer → Prop} (h : Lasting escapes Q) {stream : List Event}
    (hdelay : ∀ e ∈ stream, ∀ value, e.delayed? = some value → ∀ {p : Printer}, Q p →
      Q (p.delay value))
    {s t : TrackedRenderer} (hescapes : s.renderer.options.escapeSpecial.isTruthy = escapes)
    (hs : ∀ p ∈ s.renderer.printers, Q p) (hrun : (events stream).run s = .ok () t) :
    t.renderer.options.escapeSpecial.isTruthy = escapes ∧ ∀ p ∈ t.renderer.printers, Q p := by
  have hsame : Beside escapes (fun ps qs => ps = qs ∧ ∀ p ∈ ps, Q p) s s :=
    ⟨rfl, .intro hescapes rfl ⟨rfl, hs⟩⟩
  have hkept : InStep (Beside escapes fun ps qs => ps = qs ∧ ∀ p ∈ ps, Q p)
      (Beside escapes fun ps qs => ps = qs ∧ ∀ p ∈ ps, Q p) SameLog (events stream) := by
    refine events_inStep h.respected ?_
    rintro e he value hvalue p _ ps _ ⟨⟨⟩, hall⟩
    rw [List.forall_mem_cons] at hall
    exact ⟨rfl, List.forall_mem_cons.mpr ⟨hdelay e he value hvalue hall.1, hall.2⟩⟩
  have hstep := hkept hsame
  rw [hrun] at hstep
  obtain ⟨-, -, hbeside⟩ := hstep
  exact ⟨hbeside.escapes_eq, hbeside.printers.2⟩

/-- Reading the text after all events gives the same where the events keep in step. -/
theorem agree_textOf (h : Respected escapes related) {stream stream' : List Event}
    {s t : TrackedRenderer}
    (hevents : Agree (Beside escapes related) SameLog ((events stream).run s)
      ((events stream').run t)) :
    Agree SameLog SameLog ((textOf stream).run s) ((textOf stream').run t) := by
  refine hevents.bind fun _ => ?_
  rintro ⟨tracker, r⟩ ⟨_, s⟩ ⟨rfl, hbeside⟩
  exact (agree_ofRendering (h.text_inStep hbeside)).mono fun _ _ h => h.2

end TrackedRendering

/-- Conversions come out the same where rendering agrees. -/
theorem Conversion.ofEvents_eq {start : Renderer} {stream stream' : List Event}
    (h : Agree TrackedRenderer.SameLog TrackedRenderer.SameLog
      ((TrackedRendering.textOf stream).run { renderer := start })
      ((TrackedRendering.textOf stream').run { renderer := start })) :
    ofEvents start stream = ofEvents start stream' := by
  funext log
  unfold ofEvents
  revert h
  generalize (TrackedRendering.textOf stream).run { renderer := start } = result
  generalize (TrackedRendering.textOf stream').run { renderer := start } = result'
  rintro (⟨text, hlog⟩ | ⟨fault, hlog⟩)
  · exact congrArg (fun records => EStateM.Result.ok text (log ++ records)) hlog
  · exact congrArg (fun records => EStateM.Result.error _ (log ++ records)) hlog

end DocumentStream
