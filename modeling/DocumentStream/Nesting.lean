import DocumentStream.Event

/-!
The nesting of blocks at a point of an event stream. A tracker derives it from the events: an
opening event takes effect before it is rendered and a closing event after it, so that a construct
counts as open for both of its own events. Closing events are applied whether or not they close
anything, as long as the innermost list that they count on exists.
-/

namespace DocumentStream

/-- What is known of the blocks around an event. Items and lines are counted from zero, and `-1`
stands for none so far. -/
structure Nesting where
  listDepth : Int := 0
  listItem : Int := -1
  definitionDepth : Int := 0
  definitionItem : Int := -1
  quotationDepth : Int := 0
  quotationLine : Int := -1
  isInQuotationLine : Bool := false
  /-- Whether the event stands inside a paragraph, a heading, an item, a cell or another block that
  holds inline content. -/
  isInLine : Bool := false
  deriving DecidableEq, Repr

/-- The counters behind the nesting. Of lists and definition lists there is one counter of items
for each that is open, innermost first. -/
structure Tracker where
  listItems : List Int := []
  definitionItems : List Int := []
  quotationDepth : Int := 0
  quotationLineDepth : Int := 0
  quotationLine : Int := -1
  inlineDepth : Int := 0
  deriving DecidableEq, Repr

namespace Tracker

def nesting (t : Tracker) : Nesting where
  listDepth := t.listItems.length
  listItem := t.listItems.head?.getD (-1)
  definitionDepth := t.definitionItems.length
  definitionItem := t.definitionItems.head?.getD (-1)
  quotationDepth := t.quotationDepth
  quotationLine := t.quotationLine
  isInQuotationLine := 0 < t.quotationLineDepth
  isInLine := 0 < t.inlineDepth

/-- Counts a block with inline content as open. -/
def enterLine (t : Tracker) : Tracker := { t with inlineDepth := t.inlineDepth + 1 }

/-- Counts a block with inline content as closed. -/
def leaveLine (t : Tracker) : Tracker := { t with inlineDepth := t.inlineDepth - 1 }

/-- Opens a construct. An item needs a list of its kind around it; without one there is nothing to
count it in. -/
def openConstruct (t : Tracker) : Construct → Option Tracker
  | .list .. => some { t with listItems := -1 :: t.listItems }
  | .listItem =>
    match t.listItems with
    | [] => none
    | item :: outer => some { t with listItems := (item + 1) :: outer }.enterLine
  | .definitionList _ => some { t with definitionItems := -1 :: t.definitionItems }
  | .term | .description =>
    match t.definitionItems with
    | [] => none
    | item :: outer => some { t with definitionItems := (item + 1) :: outer }.enterLine
  | .quotation _ => some { t with quotationDepth := t.quotationDepth + 1 }
  | .quotationLine =>
    some { t with
      quotationLineDepth := t.quotationLineDepth + 1
      quotationLine := t.quotationLine + 1 }.enterLine
  | .paragraph _ | .heading .. | .cell .. => some t.enterLine
  | .document _ | .table _ | .row _ | .format .. | .link .. => some t

/-- Closes a construct. With the outermost quotation its line count starts anew. -/
def closeConstruct (t : Tracker) : Construct → Option Tracker
  | .list .. =>
    match t.listItems with
    | [] => none
    | _ :: outer => some { t with listItems := outer }
  | .definitionList _ =>
    match t.definitionItems with
    | [] => none
    | _ :: outer => some { t with definitionItems := outer }
  | .quotation _ =>
    some { t with
      quotationDepth := t.quotationDepth - 1
      quotationLine := if t.quotationDepth - 1 = 0 then -1 else t.quotationLine }
  | .quotationLine => some { t with quotationLineDepth := t.quotationLineDepth - 1 }.leaveLine
  | .paragraph _ | .heading .. | .cell .. | .listItem | .term | .description => some t.leaveLine
  | .document _ | .table _ | .row _ | .format .. | .link .. => some t

/-- The tracker when the event is about to be rendered; nothing if there is no block for the event
to apply to. -/
def before (t : Tracker) : Event → Option Tracker
  | .opening construct => t.openConstruct construct
  | _ => some t

/-- The tracker when the event has been rendered; nothing if there is no block for the event to
apply to. -/
def after (t : Tracker) : Event → Option Tracker
  | .closing construct => t.closeConstruct construct
  | _ => some t

end Tracker

end DocumentStream
