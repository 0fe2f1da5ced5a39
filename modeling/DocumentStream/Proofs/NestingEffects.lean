import DocumentStream.Nesting
import DocumentStream.Proofs.ProperNesting

/-!
What a construct does to the tracker when it opens and when it closes, as functions. An item needs
a list of its kind to be counted in, and a list needs to be open to be closed; nothing else can go
wrong.
-/

namespace DocumentStream.Tracker

/-- The tracker after the opening of a construct. -/
def opened (t : Tracker) : Construct → Tracker
  | .list .. => { t with listItems := -1 :: t.listItems }
  | .listItem => enterLine { t with listItems := t.listItems.modifyHead (· + 1) }
  | .definitionList _ => { t with definitionItems := -1 :: t.definitionItems }
  | .term | .description =>
    enterLine { t with definitionItems := t.definitionItems.modifyHead (· + 1) }
  | .quotation _ => { t with quotationDepth := t.quotationDepth + 1 }
  | .quotationLine =>
    enterLine { t with
      quotationLineDepth := t.quotationLineDepth + 1
      quotationLine := t.quotationLine + 1 }
  | .paragraph _ | .heading .. | .cell .. => t.enterLine
  | .document _ | .table _ | .row _ | .format .. | .link .. => t

/-- The tracker after the closing of a construct. -/
def closed (t : Tracker) : Construct → Tracker
  | .list .. => { t with listItems := t.listItems.tail }
  | .definitionList _ => { t with definitionItems := t.definitionItems.tail }
  | .quotation _ =>
    { t with
      quotationDepth := t.quotationDepth - 1
      quotationLine := if t.quotationDepth - 1 = 0 then -1 else t.quotationLine }
  | .quotationLine => leaveLine { t with quotationLineDepth := t.quotationLineDepth - 1 }
  | .paragraph _ | .heading .. | .cell .. | .listItem | .term | .description => t.leaveLine
  | .document _ | .table _ | .row _ | .format .. | .link .. => t

/-- What the tracker needs for a construct to open. -/
def AdmitsOpening (t : Tracker) : Construct → Prop
  | .listItem => t.listItems ≠ []
  | .term | .description => t.definitionItems ≠ []
  | _ => True

/-- What the tracker needs for a construct to close. -/
def AdmitsClosing (t : Tracker) : Construct → Prop
  | .list .. => t.listItems ≠ []
  | .definitionList _ => t.definitionItems ≠ []
  | _ => True

variable {t u : Tracker} {construct : Construct}

theorem openConstruct_eq_some_iff :
    t.openConstruct construct = some u ↔ t.AdmitsOpening construct ∧ t.opened construct = u := by
  cases construct with
  | listItem => cases h : t.listItems <;> simp [openConstruct, AdmitsOpening, opened, h]
  | term => cases h : t.definitionItems <;> simp [openConstruct, AdmitsOpening, opened, h]
  | description => cases h : t.definitionItems <;> simp [openConstruct, AdmitsOpening, opened, h]
  | _ => simp [openConstruct, AdmitsOpening, opened]

theorem closeConstruct_eq_some_iff :
    t.closeConstruct construct = some u ↔ t.AdmitsClosing construct ∧ t.closed construct = u := by
  cases construct with
  | list kind parameters =>
    cases h : t.listItems <;> simp [closeConstruct, AdmitsClosing, closed, h]
  | definitionList parameters =>
    cases h : t.definitionItems <;> simp [closeConstruct, AdmitsClosing, closed, h]
  | _ => simp [closeConstruct, AdmitsClosing, closed]

theorem length_listItems_opened (t : Tracker) (construct : Construct) :
    (t.opened construct).listItems.length =
      if construct.kind = .list then t.listItems.length + 1 else t.listItems.length := by
  cases construct <;> simp [opened, enterLine, Construct.kind]

theorem length_listItems_closed (t : Tracker) (construct : Construct) :
    (t.closed construct).listItems.length =
      if construct.kind = .list then t.listItems.length - 1 else t.listItems.length := by
  cases construct <;> simp [closed, leaveLine, Construct.kind]

theorem length_definitionItems_opened (t : Tracker) (construct : Construct) :
    (t.opened construct).definitionItems.length =
      if construct.kind = .definitionList then t.definitionItems.length + 1
      else t.definitionItems.length := by
  cases construct <;> simp [opened, enterLine, Construct.kind]

theorem length_definitionItems_closed (t : Tracker) (construct : Construct) :
    (t.closed construct).definitionItems.length =
      if construct.kind = .definitionList then t.definitionItems.length - 1
      else t.definitionItems.length := by
  cases construct <;> simp [closed, leaveLine, Construct.kind]

theorem listItems_opened (t : Tracker) (construct : Construct) :
    (t.opened construct).listItems =
      if construct.kind = .listItem then t.listItems.modifyHead (· + 1)
      else if construct.kind = .list then -1 :: t.listItems else t.listItems := by
  cases construct <;> rfl

theorem listItems_closed (t : Tracker) (construct : Construct) :
    (t.closed construct).listItems =
      if construct.kind = .list then t.listItems.tail else t.listItems := by
  cases construct <;> rfl

theorem definitionItems_opened (t : Tracker) (construct : Construct) :
    (t.opened construct).definitionItems =
      if construct.kind ∈ [ConstructKind.term, .description] then
        t.definitionItems.modifyHead (· + 1)
      else if construct.kind = .definitionList then -1 :: t.definitionItems
      else t.definitionItems := by
  cases construct <;> rfl

theorem definitionItems_closed (t : Tracker) (construct : Construct) :
    (t.closed construct).definitionItems =
      if construct.kind = .definitionList then t.definitionItems.tail else t.definitionItems := by
  cases construct <;> rfl

theorem quotationLine_opened (t : Tracker) (construct : Construct) :
    (t.opened construct).quotationLine =
      if construct.kind = .quotationLine then t.quotationLine + 1 else t.quotationLine := by
  cases construct <;> rfl

theorem quotationLine_closed (t : Tracker) (construct : Construct) :
    (t.closed construct).quotationLine =
      if construct.kind = .quotation ∧ t.quotationDepth - 1 = 0 then -1 else t.quotationLine := by
  cases construct with
  | quotation parameters => simp [closed, Construct.kind]
  | _ => rfl

theorem quotationDepth_opened (t : Tracker) (construct : Construct) :
    (t.opened construct).quotationDepth =
      if construct.kind = .quotation then t.quotationDepth + 1 else t.quotationDepth := by
  cases construct <;> rfl

theorem quotationDepth_closed (t : Tracker) (construct : Construct) :
    (t.closed construct).quotationDepth =
      if construct.kind = .quotation then t.quotationDepth - 1 else t.quotationDepth := by
  cases construct <;> rfl

end DocumentStream.Tracker
