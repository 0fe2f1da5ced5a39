import DocumentStream.Renderer.Constructs

/-!
Rendering event by event. A renderer reacts to an event in a given nesting; together with a
tracker, which supplies the nesting from the same events, it renders whole streams.
-/

namespace DocumentStream

namespace Rendering

def event (nesting : Nesting) : Event → Rendering Unit
  | .opening construct => openConstruct nesting construct
  | .closing construct => closeConstruct construct
  | .leaf l => leaf nesting l
  | .foreign name => fail (.unsupportedEvent name)

/-- The text rendered so far. Scopes that are still open are reported, and their text is left
out. -/
def text : Rendering Text := do
  let depth := (← get).captures.length
  if 0 < depth then
    report .warning ("Returning output while ".toList ++ Text.ofNat depth ++
      " nested scope(s) are still open".toList)
  let document ← ofField (← get).document.flush
  modify fun r => { r with document }
  match document.text? with
  | some text => return text
  | none => throw .unreadableSink

end Rendering

/-- A renderer that follows the nesting itself. -/
structure TrackedRenderer where
  tracker : Tracker := {}
  renderer : Renderer := {}

/-- A step of a renderer that follows the nesting itself. What it did before it failed stays
done. -/
abbrev TrackedRendering := EStateM RenderFault TrackedRenderer

namespace TrackedRendering

/-- A step of the renderer alone. -/
def ofRendering {α : Type} (step : Rendering α) : TrackedRendering α := fun s =>
  match step.run s.renderer with
  | .ok a renderer => .ok a { s with renderer }
  | .error fault renderer => .error fault { s with renderer }

/-- A step of the tracker around an event. -/
def track (step : Tracker → Event → Option Tracker) (event : Event) : TrackedRendering Unit := do
  match step (← get).tracker event with
  | some tracker => modify fun s => { s with tracker }
  | none => throw (.rendering (.noEnclosingBlock event.name))

/-- Renders an event in the nesting that the events up to it make. -/
def event (event : Event) : TrackedRendering Unit := do
  track Tracker.before event
  ofRendering (Rendering.event (← get).tracker.nesting event)
  track Tracker.after event

/-- Renders events one after another up to the first that fails. -/
def events : List Event → TrackedRendering Unit
  | [] => pure ()
  | first :: rest => do
    event first
    events rest

/-- Renders events and gives the whole text. -/
def textOf (stream : List Event) : TrackedRendering Text := do
  events stream
  ofRendering Rendering.text

end TrackedRendering

end DocumentStream
