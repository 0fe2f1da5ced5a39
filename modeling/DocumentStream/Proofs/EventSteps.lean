import DocumentStream.Proofs.ConstructEffects
import DocumentStream.Proofs.NestingEffects

/-!
Steps of a renderer that follows the nesting itself. An opening event writes and then puts
something on one of the stacks, a closing event takes something off and then writes, and a leaf
records an abbreviation or none and then writes. A step exists exactly when the tracker and the
renderer both find what the event needs, and rendering succeeds exactly when there is a step.
-/

namespace DocumentStream

namespace Renderer

/-- The renderer after a construct is put on the stack that it belongs to. One that captures its
content does so with the given printer. -/
def pushed (r : Renderer) (nesting : Nesting) (p : Printer) : Construct → Renderer
  | .document _ => { r with abbreviations := [] :: r.abbreviations }
  | .heading .. | .cell .. | .link .. => r.captured p
  | .list kind _ => { r with listStyles := kind :: r.listStyles }
  | .quotation _ => { r with previousQuotationDepth := nesting.quotationDepth }
  | .table _ => { r with tables := [] :: r.tables }
  | .row _ => { r with tables := (r.tables.head?.getD [] ++ [[]]) :: r.tables.tail }
  | _ => r

/-- The renderer after a construct is taken off the stack that it belongs to. -/
def popped (r : Renderer) : Construct → Renderer
  | .document _ => { r with abbreviations := r.abbreviations.tail }
  | .heading .. | .link .. => r.released
  | .list .. => { r with listStyles := r.listStyles.tail }
  | .table _ => { r with tables := r.tables.tail }
  | .cell .. =>
    { r.released with
      tables := withCell (r.tables.head?.getD []) r.capturedText :: r.tables.tail }
  | _ => r

theorem exists_opened_eq_pushed (r : Renderer) (nesting : Nesting) (construct : Construct) :
    ∃ w p, Writes r w ∧ p.pending = [] ∧
      r.opened nesting construct = w.pushed nesting p construct := by
  cases construct with
  | document parameters => exact ⟨r, {}, Writes.refl r, rfl, rfl⟩
  | paragraph parameters => exact ⟨r.setOff, {}, Writes.setOff r, rfl, rfl⟩
  | heading level id parameters =>
    exact ⟨r.setOff.headingMarked level, _,
      (Writes.setOff r).trans (Writes.headingMarked _ level), rfl, rfl⟩
  | list kind parameters =>
    refine ⟨if nesting.listDepth = 1 then r.setOff else r.printed ['\n'], {}, ?_, rfl, rfl⟩
    split
    · exact Writes.setOff r
    · exact Writes.printed r _
  | listItem =>
    refine ⟨r.opened nesting .listItem, {}, ?_, rfl, rfl⟩
    simp only [opened]
    split
    · exact Writes.refl r
    · exact ((Writes.separated r _).trans (Writes.printed _ _)).trans (Writes.lineStarted _)
  | definitionList parameters => exact ⟨r, {}, Writes.refl r, rfl, rfl⟩
  | term =>
    exact ⟨r.opened nesting .term, {},
      ((Writes.setOff r).trans (Writes.printed _ _)).trans (Writes.lineStarted _), rfl, rfl⟩
  | description =>
    exact ⟨r.opened nesting .description, {},
      ((Writes.separated r _).trans (Writes.printed _ _)).trans (Writes.lineStarted _), rfl, rfl⟩
  | quotation parameters =>
    refine ⟨if nesting.isInQuotationLine then r else r.setOff, {}, ?_, rfl, rfl⟩
    split
    · exact Writes.refl r
    · exact Writes.setOff r
  | quotationLine =>
    refine ⟨r.opened nesting .quotationLine, {}, ?_, rfl, rfl⟩
    simp only [opened]
    split
    · exact ((Writes.printed r _).trans (Writes.printed _ _)).trans (Writes.lineStarted _)
    · exact (Writes.printed r _).trans (Writes.lineStarted _)
  | table parameters => exact ⟨r.setOff, {}, Writes.setOff r, rfl, rfl⟩
  | row parameters => exact ⟨r, {}, Writes.refl r, rfl, rfl⟩
  | cell isHeader parameters => exact ⟨r, _, Writes.refl r, rfl, rfl⟩
  | format style parameters => exact ⟨_, {}, Writes.printed r _, rfl, rfl⟩
  | link reference isFreeStanding parameters => exact ⟨r, _, Writes.refl r, rfl, rfl⟩

theorem writes_popped_closed (r : Renderer) (construct : Construct) :
    Writes (r.popped construct) (r.closed construct) := by
  cases construct with
  | document parameters =>
    simp only [popped, closed]
    split
    · exact Writes.settled _
    · exact ((Writes.setOff _).trans (Writes.printed _ _)).trans (Writes.settled _)
  | heading level id parameters => exact (Writes.printed _ _).trans (Writes.printed _ _)
  | list kind parameters => exact Writes.settled _
  | term => exact Writes.settled r
  | description => exact Writes.settled r
  | quotationLine => exact Writes.settled r
  | table parameters => exact Writes.printed _ _
  | format style parameters => exact Writes.printed r _
  | link reference isFreeStanding parameters =>
    simp only [popped, closed]
    split
    · exact Writes.printed _ _
    · exact Writes.refl _
  | paragraph _ | listItem | definitionList _ | quotation _ | row _ | cell _ _ =>
    exact Writes.refl _

namespace Keeps

theorem pushed (r : Renderer) (nesting : Nesting) (p : Printer) (construct : Construct) :
    Keeps r (r.pushed nesting p construct) := by
  cases construct <;> exact ⟨rfl, rfl, rfl, rfl, fun h => h⟩

theorem popped (r : Renderer) (construct : Construct) : Keeps r (r.popped construct) := by
  cases construct <;> exact ⟨rfl, rfl, rfl, rfl, fun h => h⟩

theorem noted (r : Renderer) (l : Leaf) : Keeps r (r.noted l) := by
  obtain ⟨abbreviations, -, heq⟩ := exists_noted_eq r l
  rw [heq]
  exact ⟨rfl, rfl, rfl, rfl, fun h => h⟩

theorem after (r : Renderer) (nesting : Nesting) {e : Event} (he : e.isWellTyped = true) :
    Keeps r (r.after nesting e) := by
  cases e with
  | opening construct =>
    obtain ⟨w, p, hw, -, heq⟩ := exists_opened_eq_pushed r nesting construct
    rw [Renderer.after, heq]
    exact hw.keeps.trans (pushed w nesting p construct)
  | closing construct => exact (popped r construct).trans (writes_popped_closed r construct).keeps
  | leaf l => exact (noted r l).trans (Writes.shown r nesting he).keeps
  | foreign name => exact refl r

end Keeps

theorem HoldsText.pushed {r : Renderer} (h : r.HoldsText) (nesting : Nesting) {p : Printer}
    (hp : p.pending = []) (construct : Construct) :
    (r.pushed nesting p construct).HoldsText := by
  cases construct with
  | heading _ _ _ | cell _ _ | link _ _ _ => exact h.captured hp
  | _ => exact h

theorem HoldsText.popped {r : Renderer} (h : r.HoldsText) {construct : Construct}
    (hadmits : r.AdmitsClosing construct) : (r.popped construct).HoldsText := by
  cases construct with
  | heading _ _ _ | link _ _ _ => exact h.released hadmits
  | cell _ _ => exact h.released hadmits.1
  | _ => exact h

theorem HoldsText.noted {r : Renderer} (h : r.HoldsText) (l : Leaf) : (r.noted l).HoldsText := by
  obtain ⟨abbreviations, -, heq⟩ := exists_noted_eq r l
  rw [heq]
  exact h

theorem HoldsText.after {r : Renderer} (h : r.HoldsText) (nesting : Nesting) {e : Event}
    (he : e.isWellTyped = true) (hadmits : r.Admits e) : (r.after nesting e).HoldsText := by
  cases e with
  | opening construct =>
    obtain ⟨w, p, hw, hp, heq⟩ := exists_opened_eq_pushed r nesting construct
    rw [Renderer.after, heq]
    exact (hw.holdsText h).pushed nesting hp construct
  | closing construct =>
    exact (writes_popped_closed r construct).holdsText (h.popped hadmits)
  | leaf l => exact (Writes.shown r nesting he).holdsText (h.noted l)
  | foreign name => exact h

/-- Events leave a sound renderer sound. -/
theorem Sound.after {r : Renderer} (h : r.Sound) (nesting : Nesting) {e : Event}
    (he : e.isWellTyped = true) (hadmits : r.Admits e) : (r.after nesting e).Sound :=
  h.of_keeps (Keeps.after r nesting he) (h.holdsText.after nesting he hadmits)

theorem Steady.after {r : Renderer} (h : r.Steady) (nesting : Nesting) {e : Event}
    (he : e.isWellTyped = true) (hadmits : r.Admits e) : (r.after nesting e).Steady :=
  h.of_keeps (Keeps.after r nesting he) (h.holdsText.after nesting he hadmits)

theorem HoldsText.start (options : Options) (linkTarget imageTarget : Serializer)
    (sink : SinkKind) : (start options linkTarget imageTarget sink).HoldsText := by
  intro p hp
  obtain rfl : p = { sink, escapes := options.escapeSpecial.isTruthy } := by
    simpa [printers, Renderer.start] using hp
  exact Printer.holdsText_of_pending_eq_nil rfl

theorem start_steady {linkTarget imageTarget : Serializer} (hlink : linkTarget.IsTotal)
    (himage : imageTarget.IsTotal) (options : Options) (sink : SinkKind) :
    (start options linkTarget imageTarget sink).Steady where
  linkTarget := hlink
  imageTarget := himage
  holdsText := .start options linkTarget imageTarget sink

theorem start_sound {options : Options} (hmode : options.unhandledMacroMode ≠ .refuse)
    {linkTarget imageTarget : Serializer} (hlink : linkTarget.IsTotal)
    (himage : imageTarget.IsTotal) (sink : SinkKind) :
    (start options linkTarget imageTarget sink).Sound :=
  ⟨hmode, hlink, himage, (start_steady hlink himage options sink).holdsText⟩

end Renderer

namespace TrackedRenderer

/-- A new renderer with a tracker of its own. -/
def start (options : Options) (linkTarget imageTarget : Serializer) (sink : SinkKind) :
    TrackedRenderer where
  renderer := .start options linkTarget imageTarget sink

/-- Handling an event: the tracker counts the opening of a construct before the renderer reacts, and
its closing afterwards. -/
inductive Step (s : TrackedRenderer) : Event → TrackedRenderer → Prop
  | opening {construct : Construct} (ht : s.tracker.AdmitsOpening construct)
      (hr : s.renderer.AdmitsOpening construct) :
      Step s (.opening construct) ⟨s.tracker.opened construct,
        s.renderer.opened (s.tracker.opened construct).nesting construct⟩
  | closing {construct : Construct} (hr : s.renderer.AdmitsClosing construct)
      (ht : s.tracker.AdmitsClosing construct) :
      Step s (.closing construct) ⟨s.tracker.closed construct, s.renderer.closed construct⟩
  | leaf {l : Leaf} (hr : s.renderer.Admits (.leaf l)) :
      Step s (.leaf l) ⟨s.tracker, s.renderer.shown s.tracker.nesting l⟩

/-- Handling events one after another. -/
inductive Steps : TrackedRenderer → List Event → TrackedRenderer → Prop
  | nil (s : TrackedRenderer) : Steps s [] s
  | cons {s t u : TrackedRenderer} {e : Event} {rest : List Event} (hstep : Step s e t)
      (hsteps : Steps t rest u) : Steps s (e :: rest) u

/-- A step is what tracker and renderer do in turn, if both can. -/
theorem step_iff {s t : TrackedRenderer} {e : Event} :
    Step s e t ↔ ∃ during after, s.tracker.before e = some during ∧ s.renderer.Admits e ∧
      during.after e = some after ∧ t = ⟨after, s.renderer.after during.nesting e⟩ := by
  constructor
  · rintro (⟨ht, hr⟩ | ⟨hr, ht⟩ | hr)
    · exact ⟨_, _, Tracker.openConstruct_eq_some_iff.mpr ⟨ht, rfl⟩, hr, rfl, rfl⟩
    · exact ⟨_, _, rfl, hr, Tracker.closeConstruct_eq_some_iff.mpr ⟨ht, rfl⟩, rfl⟩
    · exact ⟨_, _, rfl, hr, rfl, rfl⟩
  · rintro ⟨during, after, hbefore, hadmits, hafter, rfl⟩
    cases e with
    | opening construct =>
      obtain ⟨ht, rfl⟩ := Tracker.openConstruct_eq_some_iff.mp hbefore
      obtain rfl := Option.some.inj hafter
      exact .opening ht hadmits
    | closing construct =>
      obtain rfl := Option.some.inj hbefore
      obtain ⟨ht, rfl⟩ := Tracker.closeConstruct_eq_some_iff.mp hafter
      exact .closing hadmits ht
    | leaf l =>
      obtain rfl := Option.some.inj hbefore
      obtain rfl := Option.some.inj hafter
      exact .leaf hadmits
    | foreign name => exact absurd hadmits id

theorem Step.unique {s t u : TrackedRenderer} {e : Event} (h : Step s e t) (h' : Step s e u) :
    t = u := by
  cases h <;> cases h' <;> rfl

theorem Steps.unique {s t u : TrackedRenderer} {es : List Event} (h : Steps s es t)
    (h' : Steps s es u) : t = u := by
  induction h with
  | nil s =>
    cases h'
    rfl
  | cons hstep hsteps ih =>
    cases h' with
    | cons hstep' hsteps' =>
      obtain rfl := hstep.unique hstep'
      exact ih hsteps'

theorem Step.sound {s t : TrackedRenderer} {e : Event} (h : Step s e t) (hs : s.renderer.Sound)
    (he : e.isWellTyped = true) : t.renderer.Sound := by
  cases h with
  | opening ht hr => exact hs.after _ he hr
  | closing hr ht => exact hs.after {} he hr
  | leaf hr => exact hs.after _ he hr

theorem Step.steady {s t : TrackedRenderer} {e : Event} (h : Step s e t) (hs : s.renderer.Steady)
    (he : e.isWellTyped = true) : t.renderer.Steady := by
  cases h with
  | opening ht hr => exact hs.after _ he hr
  | closing hr ht => exact hs.after {} he hr
  | leaf hr => exact hs.after _ he hr

theorem Steps.sound {s t : TrackedRenderer} {es : List Event} (h : Steps s es t)
    (hs : s.renderer.Sound) (hes : ∀ e ∈ es, e.isWellTyped = true) : t.renderer.Sound := by
  induction h with
  | nil s => exact hs
  | cons hstep hsteps ih =>
    exact ih (hstep.sound hs (hes _ List.mem_cons_self))
      fun e he => hes e (List.mem_cons_of_mem _ he)

theorem Steps.steady {s t : TrackedRenderer} {es : List Event} (h : Steps s es t)
    (hs : s.renderer.Steady) (hes : ∀ e ∈ es, e.isWellTyped = true) : t.renderer.Steady := by
  induction h with
  | nil s => exact hs
  | cons hstep hsteps ih =>
    exact ih (hstep.steady hs (hes _ List.mem_cons_self))
      fun e he => hes e (List.mem_cons_of_mem _ he)

theorem Step.keeps {s t : TrackedRenderer} {e : Event} (h : Step s e t)
    (he : e.isWellTyped = true) : s.renderer.Keeps t.renderer := by
  cases h with
  | opening ht hr => exact Renderer.Keeps.after _ _ he
  | closing hr ht => exact Renderer.Keeps.after s.renderer {} he
  | leaf hr => exact Renderer.Keeps.after _ _ he

theorem Steps.keeps {s t : TrackedRenderer} {es : List Event} (h : Steps s es t)
    (hes : ∀ e ∈ es, e.isWellTyped = true) : s.renderer.Keeps t.renderer := by
  induction h with
  | nil s => exact Renderer.Keeps.refl s.renderer
  | cons hstep hsteps ih =>
    have hrest := ih fun e he => hes e (List.mem_cons_of_mem _ he)
    exact (hstep.keeps (hes _ List.mem_cons_self)).trans hrest

theorem Steps.cons_iff {s u : TrackedRenderer} {e : Event} {rest : List Event} :
    Steps s (e :: rest) u ↔ ∃ t, Step s e t ∧ Steps t rest u := by
  constructor
  · rintro (_ | ⟨hstep, hsteps⟩)
    exact ⟨_, hstep, hsteps⟩
  · rintro ⟨t, hstep, hsteps⟩
    exact .cons hstep hsteps

theorem Steps.append_iff {s u : TrackedRenderer} {first second : List Event} :
    Steps s (first ++ second) u ↔ ∃ t, Steps s first t ∧ Steps t second u := by
  constructor
  · intro h
    induction first generalizing s with
    | nil => exact ⟨s, .nil s, h⟩
    | cons e rest ih =>
      obtain ⟨t, hstep, hsteps⟩ := cons_iff.mp h
      obtain ⟨mid, hfirst, hsecond⟩ := ih hsteps
      exact ⟨mid, .cons hstep hfirst, hsecond⟩
  · rintro ⟨t, hfirst, hsecond⟩
    induction hfirst with
    | nil s => exact hsecond
    | cons hstep hsteps ih => exact .cons hstep (ih hsecond)

end TrackedRenderer

namespace TrackedRendering

open TrackedRenderer

variable {s : TrackedRenderer}

theorem run_bind_of_ok {α β : Type} {t : TrackedRenderer} {first : TrackedRendering α}
    {next : α → TrackedRendering β} {a : α} (h : first.run s = .ok a t) :
    (first >>= next).run s = (next a).run t := by
  rw [EStateM.run_bind, h]

theorem run_bind_of_error {α β : Type} {t : TrackedRenderer} {first : TrackedRendering α}
    {fault : RenderFault} (h : first.run s = .error fault t) (next : α → TrackedRendering β) :
    (first >>= next).run s = .error fault t := by
  rw [EStateM.run_bind, h]

theorem run_get_bind {α : Type} (next : TrackedRenderer → TrackedRendering α) :
    (get >>= next).run s = (next s).run s := rfl

theorem run_track {step : Tracker → Event → Option Tracker} {e : Event} {tracker : Tracker}
    (h : step s.tracker e = some tracker) :
    (track step e).run s = .ok () { s with tracker } := by
  simp [track, h]

theorem run_track_of_none {step : Tracker → Event → Option Tracker} {e : Event}
    (h : step s.tracker e = none) :
    (track step e).run s = .error (.rendering (.noEnclosingBlock e.name)) s := by
  simp [track, h]

theorem run_ofRendering {α : Type} {step : Rendering α} {a : α} {r : Renderer}
    (h : step.run s.renderer = .ok a r) :
    (ofRendering step).run s = .ok a { s with renderer := r } := by
  rw [EStateM.run, ofRendering, h]

theorem run_ofRendering_of_error {α : Type} {step : Rendering α} {fault : RenderFault}
    {r : Renderer} (h : step.run s.renderer = .error fault r) :
    (ofRendering step).run s = .error fault { s with renderer := r } := by
  rw [EStateM.run, ofRendering, h]

/-- An event is handled by a step, or there is none and the event fails as one that does not
fit. -/
theorem run_event (hs : s.renderer.Steady) {e : Event} (he : e.isWellTyped = true)
    (hmode : e.isUnhandled = true → s.renderer.options.unhandledMacroMode ≠ .refuse) :
    (∃ t, Step s e t ∧ (event e).run s = .ok () t) ∨
      (¬ ∃ t, Step s e t) ∧ ∃ error t, (event e).run s = .error (.rendering error) t := by
  unfold event
  simp only [step_iff]
  cases hbefore : s.tracker.before e with
  | none =>
    refine Or.inr ⟨?_, _, s, run_bind_of_error (run_track_of_none hbefore) _⟩
    rintro ⟨t, during, after, hbefore', -⟩
    simp at hbefore'
  | some during =>
    rw [run_bind_of_ok (run_track hbefore), run_get_bind]
    by_cases hadmits : s.renderer.Admits e
    · have hrun : (ofRendering (Rendering.event during.nesting e)).run ⟨during, s.renderer⟩ =
          .ok () ⟨during, s.renderer.after during.nesting e⟩ :=
        run_ofRendering (Rendering.run_event hs during.nesting he hmode hadmits)
      rw [run_bind_of_ok hrun]
      cases hafter : during.after e with
      | none =>
        refine Or.inr ⟨?_, _, _, run_track_of_none hafter⟩
        rintro ⟨t, other, after, hother, -, hafter', -⟩
        obtain rfl := Option.some.inj hother
        simp [hafter] at hafter'
      | some after =>
        exact Or.inl ⟨_, ⟨during, after, rfl, hadmits, hafter, rfl⟩, run_track hafter⟩
    · obtain ⟨error, r, hrun⟩ :=
        Rendering.run_event_of_not hs.holdsText during.nesting hadmits
      have hfails : (ofRendering (Rendering.event during.nesting e)).run ⟨during, s.renderer⟩ =
          .error (.rendering error) ⟨during, r⟩ := run_ofRendering_of_error hrun
      refine Or.inr ⟨?_, error, _, run_bind_of_error hfails _⟩
      rintro ⟨t, other, after, -, hadmits', -⟩
      exact hadmits hadmits'

/-- Events are handled by steps, or there are none and some event fails as one that does not
fit. -/
theorem run_events (hs : s.renderer.Sound) {es : List Event}
    (hes : ∀ e ∈ es, e.isWellTyped = true) :
    (∃ t, Steps s es t ∧ (events es).run s = .ok () t) ∨
      (¬ ∃ t, Steps s es t) ∧ ∃ error t, (events es).run s = .error (.rendering error) t := by
  induction es generalizing s with
  | nil => exact Or.inl ⟨s, .nil s, rfl⟩
  | cons e rest ih =>
    have he : e.isWellTyped = true := hes e List.mem_cons_self
    rw [events]
    rcases run_event hs.steady he fun _ => hs.mode with ⟨t, hstep, hrun⟩ | ⟨hnone, error, t, hrun⟩
    · rw [run_bind_of_ok hrun]
      rcases ih (hstep.sound hs he) fun other hother => hes other (List.mem_cons_of_mem _ hother)
        with ⟨u, hsteps, hrest⟩ | ⟨hnone, hrest⟩
      · exact Or.inl ⟨u, .cons hstep hsteps, hrest⟩
      · refine Or.inr ⟨?_, hrest⟩
        rintro ⟨u, _ | ⟨hstep', hsteps⟩⟩
        obtain rfl := hstep.unique hstep'
        exact hnone ⟨u, hsteps⟩
    · refine Or.inr ⟨?_, error, t, run_bind_of_error hrun _⟩
      rintro ⟨u, _ | ⟨hstep, -⟩⟩
      exact hnone ⟨_, hstep⟩

/-- Rendering succeeds exactly along steps. -/
theorem run_events_eq_ok_iff (hs : s.renderer.Sound) {es : List Event}
    (hes : ∀ e ∈ es, e.isWellTyped = true) {t : TrackedRenderer} :
    (events es).run s = .ok () t ↔ Steps s es t := by
  constructor
  · intro hrun
    rcases run_events hs hes with ⟨u, hsteps, hrun'⟩ | ⟨-, error, u, hrun'⟩
    · rw [hrun'] at hrun
      obtain rfl : u = t := by simpa using hrun
      exact hsteps
    · simp [hrun'] at hrun
  · intro hsteps
    rcases run_events hs hes with ⟨u, hsteps', hrun⟩ | ⟨hnone, -⟩
    · rwa [hsteps.unique hsteps']
    · exact absurd ⟨t, hsteps⟩ hnone

/-- A macro that is to be refused is. -/
theorem run_event_of_refuse {e : Event} (he : e.isUnhandled = true)
    (hmode : s.renderer.options.unhandledMacroMode = .refuse) :
    ∃ error t, (event e).run s = .error (.rendering error) t := by
  cases e with
  | leaf l =>
    obtain ⟨error, hrun⟩ := Rendering.run_leaf_of_refuse hmode s.tracker.nesting he
    refine ⟨error, s, ?_⟩
    have hbefore : Tracker.before s.tracker (.leaf l) = some s.tracker := rfl
    rw [event, run_bind_of_ok (run_track hbefore), run_get_bind]
    exact run_bind_of_error (run_ofRendering_of_error hrun) _
  | opening _ | closing _ | foreign _ => exact absurd he Bool.false_ne_true

/-- Whatever is to become of macros, what is rendered is rendered by a step. -/
theorem step_of_run_event (hs : s.renderer.Steady) {e : Event} (he : e.isWellTyped = true)
    {t : TrackedRenderer} (h : (event e).run s = .ok () t) : Step s e t := by
  by_cases hrefuse : e.isUnhandled = true ∧ s.renderer.options.unhandledMacroMode = .refuse
  · obtain ⟨error, u, herror⟩ := run_event_of_refuse hrefuse.1 hrefuse.2
    rw [herror] at h
    cases h
  · rcases run_event hs he fun hcall hmode => hrefuse ⟨hcall, hmode⟩ with
      ⟨u, hstep, hrun⟩ | ⟨-, error, u, herror⟩
    · rw [hrun] at h
      obtain rfl : u = t := by simpa using h
      exact hstep
    · rw [herror] at h
      cases h

theorem steps_of_run_events (hs : s.renderer.Steady) {es : List Event}
    (hes : ∀ e ∈ es, e.isWellTyped = true) {t : TrackedRenderer}
    (h : (events es).run s = .ok () t) : Steps s es t := by
  induction es generalizing s with
  | nil =>
    obtain rfl : s = t := by simpa [events] using h
    exact .nil s
  | cons e rest ih =>
    have he : e.isWellTyped = true := hes e List.mem_cons_self
    cases hrun : (event e).run s with
    | ok a u =>
      have hstep := step_of_run_event hs he hrun
      rw [events, run_bind_of_ok hrun] at h
      exact .cons hstep (ih (hstep.steady hs he)
        (fun other hother => hes other (List.mem_cons_of_mem _ hother)) h)
    | error fault u =>
      rw [events, run_bind_of_error hrun] at h
      cases h

/-- A step is rendered if its event is no macro to be refused. -/
theorem run_event_of_step {e : Event} {t : TrackedRenderer} (hstep : Step s e t)
    (hs : s.renderer.Steady) (he : e.isWellTyped = true)
    (hmode : e.isUnhandled = true → s.renderer.options.unhandledMacroMode ≠ .refuse) :
    (event e).run s = .ok () t := by
  obtain ⟨u, hstep', hrun⟩ | ⟨hnone, -⟩ := run_event hs he hmode
  · rw [hrun, hstep.unique hstep']
  · exact absurd ⟨t, hstep⟩ hnone

/-- Steps are rendered if no macro among their events is to be refused. -/
theorem run_events_of_steps {es : List Event} {t : TrackedRenderer} (hsteps : Steps s es t)
    (hs : s.renderer.Steady) (hes : ∀ e ∈ es, e.isWellTyped = true)
    (hmacros : ∀ e ∈ es, e.isUnhandled = true →
      s.renderer.options.unhandledMacroMode ≠ .refuse) : (events es).run s = .ok () t := by
  induction hsteps with
  | nil s => rfl
  | cons hstep hsteps ih =>
    rw [List.forall_mem_cons] at hes hmacros
    rw [events, run_bind_of_ok (run_event_of_step hstep hs hes.1 hmacros.1)]
    refine ih (hstep.steady hs hes.1) hes.2 ?_
    rw [(hstep.keeps hes.1).options]
    exact hmacros.2

/-- Rendering succeeds exactly along steps if no macro is to be refused. -/
theorem run_events_iff_steps {es : List Event} (hs : s.renderer.Steady)
    (hes : ∀ e ∈ es, e.isWellTyped = true)
    (hmacros : ∀ e ∈ es, e.isUnhandled = true →
      s.renderer.options.unhandledMacroMode ≠ .refuse) {t : TrackedRenderer} :
    (events es).run s = .ok () t ↔ Steps s es t :=
  ⟨steps_of_run_events hs hes, fun hsteps => run_events_of_steps hsteps hs hes hmacros⟩

/-- Where events are rendered no macro among them is one to be refused. -/
theorem mode_ne_refuse_of_run_events (hs : s.renderer.Steady) {es : List Event}
    (hes : ∀ e ∈ es, e.isWellTyped = true) {t : TrackedRenderer}
    (h : (events es).run s = .ok () t) {e : Event} (he : e ∈ es) (hcall : e.isUnhandled = true) :
    s.renderer.options.unhandledMacroMode ≠ .refuse := by
  induction es generalizing s with
  | nil => simp at he
  | cons first rest ih =>
    rw [List.forall_mem_cons] at hes
    cases hrun : (event first).run s with
    | error fault u =>
      rw [events, run_bind_of_error hrun] at h
      cases h
    | ok a u =>
      rcases List.mem_cons.mp he with rfl | hrest
      · intro hmode
        obtain ⟨error, v, herror⟩ := run_event_of_refuse hcall hmode
        rw [herror] at hrun
        cases hrun
      · have hstep := step_of_run_event hs hes.1 hrun
        rw [events, run_bind_of_ok hrun] at h
        rw [← (hstep.keeps hes.1).options]
        exact ih (hstep.steady hs hes.1) hes.2 h hrest

end TrackedRendering

end DocumentStream
