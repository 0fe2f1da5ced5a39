import DocumentStream.Proofs.Agreement

/-!
A tracker apart from the renderer. Whoever drives the two tells the tracker of an event, has the
renderer handle it in the nesting that the tracker answers with, and tells the tracker again; the
first of these calls that fails is the last one made. Call for call that is what a renderer does
that follows the nesting itself, so nothing that is seen after an event differs between the two.
-/

namespace DocumentStream

/-- A call made from outside, to a tracker or to a renderer that has none of its own. -/
inductive Call where
  | before (event : Event)
  | handle (event : Event)
  | after (event : Event)

/-- The calls that an event takes. -/
def Call.around (event : Event) : List Call := [.before event, .handle event, .after event]

/-- A tracker and a renderer that only asks it for the nesting. -/
structure Apart where
  tracker : Tracker := {}
  renderer : Renderer := {}

namespace Apart

/-- What comes of telling the tracker of an event. -/
def told (s : Apart) (hook : Tracker → Event → Option Tracker) (event : Event) :
    Apart × Option RenderFault :=
  match hook s.tracker event with
  | some tracker => ({ s with tracker }, none)
  | none => (s, some (.rendering (.noEnclosingBlock event.name)))

/-- What comes of a call, and the fault if it fails. What was done before the fault stays done. -/
def call (s : Apart) : Call → Apart × Option RenderFault
  | .before event => s.told Tracker.before event
  | .handle event =>
    match (Rendering.event s.tracker.nesting event).run s.renderer with
    | .ok _ renderer => ({ s with renderer }, none)
    | .error fault renderer => ({ s with renderer }, some fault)
  | .after event => s.told Tracker.after event

/-- Goes on after a call unless it failed. -/
def andThen (outcome : Apart × Option RenderFault) (next : Apart → Apart × Option RenderFault) :
    Apart × Option RenderFault :=
  match outcome with
  | (s, none) => next s
  | (s, some fault) => (s, some fault)

/-- Makes calls one after another up to the first that fails. -/
def calls (s : Apart) : List Call → Apart × Option RenderFault
  | [] => (s, none)
  | first :: rest => andThen (s.call first) fun s' => s'.calls rest

end Apart

namespace TrackedRendering

/-- Renders an event in the nesting that the events up to it make, unless nothing handles events
of its kind. -/
def handle : Event → TrackedRendering Unit
  | .foreign name => throw (.rendering (.unsupportedEvent name))
  | known => event known

/-- The tracker takes no notice of events that nothing handles, so they can be refused before it is
told of them or after. -/
theorem handle_eq_event (e : Event) : handle e = event e := by
  cases e with
  | foreign name => rfl
  | opening _ | closing _ | leaf _ => rfl

end TrackedRendering

/-- What can be seen after an event: how it ended, what the tracker answers, what the document's
printer wrote, what is given out if the text is asked for now, and the log. -/
structure Observation where
  fault : Option RenderFault
  answers : Nesting
  written : Text
  text : Except RenderFault Text
  log : List LogRecord

/-- What is seen of a tracker and a renderer. -/
def Observation.of (fault : Option RenderFault) (tracker : Tracker) (renderer : Renderer) :
    Observation where
  fault
  answers := tracker.nesting
  written := renderer.document.written
  text :=
    match Rendering.text.run renderer with
    | .ok text _ => .ok text
    | .error fault _ => .error fault
  log := renderer.log

/-- What is seen after each event of a stream up to the first that fails, with the calls made from
outside. -/
def Apart.history (s : Apart) : List Event → List Observation
  | [] => []
  | event :: rest =>
    match s.calls (Call.around event) with
    | (s', none) => .of none s'.tracker s'.renderer :: s'.history rest
    | (s', some fault) => [.of (some fault) s'.tracker s'.renderer]

/-- What is seen after each event of a stream up to the first that fails, with a renderer that
follows the nesting itself. -/
def TrackedRenderer.history (s : TrackedRenderer) : List Event → List Observation
  | [] => []
  | event :: rest =>
    match (TrackedRendering.handle event).run s with
    | .ok _ s' => .of none s'.tracker s'.renderer :: s'.history rest
    | .error fault s' => [.of (some fault) s'.tracker s'.renderer]

namespace Apart

open TrackedRendering

variable {s : Apart}

/-- The same tracker and renderer as one. -/
def joined (s : Apart) : TrackedRenderer := ⟨s.tracker, s.renderer⟩

/-- How a step of a renderer that follows the nesting itself looks from outside. -/
def ofResult : EStateM.Result RenderFault TrackedRenderer Unit → Apart × Option RenderFault
  | .ok _ s => (⟨s.tracker, s.renderer⟩, none)
  | .error fault s => (⟨s.tracker, s.renderer⟩, some fault)

theorem andThen_none (outcome : Apart × Option RenderFault) :
    andThen outcome (fun s => (s, none)) = outcome := by
  obtain ⟨s, _ | fault⟩ := outcome <;> rfl

theorem calls_append (first rest : List Call) :
    s.calls (first ++ rest) = andThen (s.calls first) fun s' => s'.calls rest := by
  induction first generalizing s with
  | nil => rfl
  | cons c first ih =>
    simp only [List.cons_append, calls]
    obtain ⟨s', _ | fault⟩ := s.call c
    · exact ih
    · rfl

theorem ofResult_run_bind (t : TrackedRenderer) (first : TrackedRendering Unit)
    (next : Unit → TrackedRendering Unit) :
    ofResult ((first >>= next).run t) =
      andThen (ofResult (first.run t)) fun s => ofResult ((next ()).run s.joined) := by
  cases hrun : first.run t with
  | ok a t' => rw [run_bind_of_ok hrun]; rfl
  | error fault t' => rw [run_bind_of_error hrun]; rfl

/-- Telling the tracker of an event is what a renderer does that follows the nesting itself. -/
theorem told_eq (hook : Tracker → Event → Option Tracker) (event : Event) :
    s.told hook event = ofResult ((track hook event).run s.joined) := by
  unfold told
  cases h : hook s.tracker event with
  | none => rw [run_track_of_none (s := s.joined) h]; rfl
  | some tracker => rw [run_track (s := s.joined) h]; rfl

/-- Having the renderer handle an event is what one does that follows the nesting itself. -/
theorem call_handle_eq (event : Event) :
    s.call (.handle event) =
      ofResult ((ofRendering (Rendering.event s.tracker.nesting event)).run s.joined) := by
  simp only [call]
  cases h : (Rendering.event s.tracker.nesting event).run s.renderer with
  | ok a renderer => rw [run_ofRendering (s := s.joined) h]; rfl
  | error fault renderer => rw [run_ofRendering_of_error (s := s.joined) h]; rfl

/-- One event: the three calls are one step of a renderer that follows the nesting itself. -/
theorem calls_around (event : Event) :
    s.calls (Call.around event) = ofResult ((TrackedRendering.event event).run s.joined) := by
  calc s.calls (Call.around event)
      = andThen (s.told Tracker.before event) fun s' =>
          andThen (s'.call (.handle event)) fun s'' => s''.told Tracker.after event := by
        simp only [Call.around, calls, andThen_none]
        rfl
    _ = ofResult ((TrackedRendering.event event).run s.joined) := by
        simp only [TrackedRendering.event, ofResult_run_bind, run_get_bind, told_eq,
          call_handle_eq]
        rfl

/-- A whole stream: the calls that its events take come to what rendering the stream comes to. -/
theorem calls_flatMap_around (stream : List Event) :
    s.calls (stream.flatMap Call.around) = ofResult ((events stream).run s.joined) := by
  induction stream generalizing s with
  | nil => rfl
  | cons event rest ih =>
    simp only [List.flatMap_cons, calls_append, calls_around, events, ofResult_run_bind, ih]

theorem history_eq (stream : List Event) : s.history stream = s.joined.history stream := by
  induction stream generalizing s with
  | nil => rfl
  | cons event rest ih =>
    rw [history, TrackedRenderer.history, calls_around, handle_eq_event]
    cases (TrackedRendering.event event).run s.joined with
    | ok a s' => exact congrArg (_ :: ·) (ih (s := ⟨s'.tracker, s'.renderer⟩))
    | error fault s' => rfl

end Apart

/-- Whatever the options, the serialisers, the sink and the stream are, well nested or not: a new
renderer beside a new tracker, driven from outside, comes to the same state and the same fault as a
new one that follows the nesting itself, and shows the same after every event on the way. -/
theorem separate_tracking_eq (options : Options) (linkTarget imageTarget : Serializer)
    (sink : SinkKind) (stream : List Event) :
    let start := Renderer.start options linkTarget imageTarget sink
    Apart.calls { renderer := start } (stream.flatMap Call.around) =
        Apart.ofResult ((TrackedRendering.events stream).run { renderer := start }) ∧
      Apart.history { renderer := start } stream =
        TrackedRenderer.history { renderer := start } stream :=
  ⟨Apart.calls_flatMap_around stream, Apart.history_eq stream⟩

end DocumentStream
