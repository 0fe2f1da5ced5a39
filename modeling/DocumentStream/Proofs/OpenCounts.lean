import DocumentStream.Proofs.EventSteps

/-!
Which streams can be rendered. Whether an event fits is decided by a few counts of what is open,
kept without any regard to nesting: a closing event of one construct may well take the scope of
another. The counts allow every event of a stream exactly when rendering the stream succeeds, and
where it fails it fails at an event that does not fit.
-/

namespace DocumentStream

/-- How much is open at a point of a stream. -/
structure OpenCounts where
  documents : Nat := 0
  lists : Nat := 0
  definitionLists : Nat := 0
  /-- The headings, links and cells that were opened, less those that were closed. -/
  scopes : Nat := 0
  /-- How many rows were begun in each open table, innermost first. -/
  tables : List Nat := []
  deriving DecidableEq, Repr

namespace OpenCounts

/-- Whether a construct may open. -/
def allowsOpening (counts : OpenCounts) : Construct → Bool
  | .listItem => 0 < counts.lists
  | .term | .description => 0 < counts.definitionLists
  | .row _ => !counts.tables.isEmpty
  | _ => true

/-- Whether a construct may close. -/
def allowsClosing (counts : OpenCounts) : Construct → Bool
  | .document _ => 0 < counts.documents
  | .heading .. | .link .. => 0 < counts.scopes
  | .list .. => 0 < counts.lists
  | .definitionList _ => 0 < counts.definitionLists
  | .table _ => !counts.tables.isEmpty
  | .cell .. => 0 < counts.scopes && counts.tables.head?.any (0 < ·)
  | _ => true

/-- Whether an event may come next. -/
def allows (counts : OpenCounts) : Event → Bool
  | .opening construct => counts.allowsOpening construct
  | .closing construct => counts.allowsClosing construct
  | .leaf l => !l.isAbbreviation || 0 < counts.documents
  | .foreign _ => false

/-- The counts after a construct opens. -/
def opened (counts : OpenCounts) : Construct → OpenCounts
  | .document _ => { counts with documents := counts.documents + 1 }
  | .heading .. | .link .. | .cell .. => { counts with scopes := counts.scopes + 1 }
  | .list .. => { counts with lists := counts.lists + 1 }
  | .definitionList _ => { counts with definitionLists := counts.definitionLists + 1 }
  | .table _ => { counts with tables := 0 :: counts.tables }
  | .row _ => { counts with tables := counts.tables.modifyHead (· + 1) }
  | _ => counts

/-- The counts after a construct closes. -/
def closed (counts : OpenCounts) : Construct → OpenCounts
  | .document _ => { counts with documents := counts.documents - 1 }
  | .heading .. | .link .. | .cell .. => { counts with scopes := counts.scopes - 1 }
  | .list .. => { counts with lists := counts.lists - 1 }
  | .definitionList _ => { counts with definitionLists := counts.definitionLists - 1 }
  | .table _ => { counts with tables := counts.tables.tail }
  | _ => counts

/-- The counts after an event. -/
def next (counts : OpenCounts) : Event → OpenCounts
  | .opening construct => counts.opened construct
  | .closing construct => counts.closed construct
  | _ => counts

/-- Whether the counts allow every event of a stream in its turn. -/
def allowAll : OpenCounts → List Event → Bool
  | _, [] => true
  | counts, e :: rest => counts.allows e && allowAll (counts.next e) rest

end OpenCounts

namespace TrackedRenderer

/-- How much is open according to the stacks of the renderer and the tracker. -/
def openCounts (s : TrackedRenderer) : OpenCounts where
  documents := s.renderer.abbreviations.length
  lists := s.renderer.listStyles.length
  definitionLists := s.tracker.definitionItems.length
  scopes := s.renderer.captures.length
  tables := s.renderer.tables.map List.length

/-- Whether the tracker and the renderer know of the same number of lists. -/
def AgreesOnLists (s : TrackedRenderer) : Prop :=
  s.renderer.listStyles.length = s.tracker.listItems.length

theorem openCounts_of_writes {r w : Renderer} (h : Renderer.Writes r w) (t : Tracker) :
    (TrackedRenderer.mk t w).openCounts = (TrackedRenderer.mk t r).openCounts := by
  simp only [openCounts, h.abbreviations, h.listStyles, h.tables, h.length_captures]

variable {s t : TrackedRenderer}

theorem allowsOpening_iff (hlists : s.AgreesOnLists) (construct : Construct) :
    s.openCounts.allowsOpening construct = true ↔
      s.tracker.AdmitsOpening construct ∧ s.renderer.AdmitsOpening construct := by
  have hstyles : s.renderer.listStyles = [] ↔ s.tracker.listItems = [] := by
    rw [← List.length_eq_zero_iff, ← List.length_eq_zero_iff, hlists]
  cases construct <;>
    simp [OpenCounts.allowsOpening, Tracker.AdmitsOpening, Renderer.AdmitsOpening, openCounts,
      List.length_pos_iff, hstyles]

theorem allowsClosing_iff (hlists : s.AgreesOnLists) (construct : Construct) :
    s.openCounts.allowsClosing construct = true ↔
      s.renderer.AdmitsClosing construct ∧ s.tracker.AdmitsClosing construct := by
  have hstyles : s.renderer.listStyles = [] ↔ s.tracker.listItems = [] := by
    rw [← List.length_eq_zero_iff, ← List.length_eq_zero_iff, hlists]
  have hrow : (∃ row rows outer, s.renderer.tables = (row :: rows) :: outer) ↔
      ((s.renderer.tables.map List.length).head?.any (0 < ·)) = true := by
    rcases s.renderer.tables with _ | ⟨_ | ⟨row, rows⟩, outer⟩ <;> simp
  cases construct <;>
    simp [OpenCounts.allowsClosing, Tracker.AdmitsClosing, Renderer.AdmitsClosing, openCounts,
      List.length_pos_iff, hstyles, hrow]

/-- A step is possible exactly when the counts allow it. -/
theorem exists_step_iff (hlists : s.AgreesOnLists) (e : Event) :
    (∃ t, Step s e t) ↔ s.openCounts.allows e = true := by
  cases e with
  | opening construct =>
    rw [OpenCounts.allows, allowsOpening_iff hlists]
    constructor
    · rintro ⟨t, hstep⟩
      cases hstep with
      | opening ht hr => exact ⟨ht, hr⟩
    · rintro ⟨ht, hr⟩
      exact ⟨_, .opening ht hr⟩
  | closing construct =>
    rw [OpenCounts.allows, allowsClosing_iff hlists]
    constructor
    · rintro ⟨t, hstep⟩
      cases hstep with
      | closing hr ht => exact ⟨hr, ht⟩
    · rintro ⟨hr, ht⟩
      exact ⟨_, .closing hr ht⟩
  | leaf l =>
    have hallows : s.openCounts.allows (.leaf l) = true ↔ s.renderer.Admits (.leaf l) := by
      cases habbreviation : l.isAbbreviation <;>
        simp [Renderer.Admits, OpenCounts.allows, openCounts, habbreviation, List.length_pos_iff]
    rw [hallows]
    constructor
    · rintro ⟨t, hstep⟩
      cases hstep with
      | leaf hr => exact hr
    · intro hr
      exact ⟨_, .leaf hr⟩
  | foreign name =>
    constructor
    · rintro ⟨t, hstep⟩
      cases hstep
    · intro h
      simp [OpenCounts.allows] at h

theorem openCounts_opened {construct : Construct}
    (hadmits : s.renderer.AdmitsOpening construct) (nesting : Nesting) :
    (TrackedRenderer.mk (s.tracker.opened construct)
      (s.renderer.opened nesting construct)).openCounts = s.openCounts.opened construct := by
  obtain ⟨w, p, hw, -, heq⟩ := Renderer.exists_opened_eq_pushed s.renderer nesting construct
  have hitems := Tracker.length_definitionItems_opened s.tracker construct
  rw [heq]
  cases construct with
  | row parameters =>
    obtain ⟨rows, outer, htables⟩ := List.exists_cons_of_ne_nil hadmits
    simp [openCounts, Renderer.pushed, OpenCounts.opened, hw.abbreviations, hw.listStyles,
      hw.tables, hw.length_captures, hitems, htables, Construct.kind]
  | _ =>
    simp [openCounts, Renderer.pushed, Renderer.captured, OpenCounts.opened, hw.abbreviations,
      hw.listStyles, hw.tables, hw.length_captures, hitems, Construct.kind]

theorem openCounts_closed {construct : Construct}
    (hadmits : s.renderer.AdmitsClosing construct) :
    (TrackedRenderer.mk (s.tracker.closed construct) (s.renderer.closed construct)).openCounts =
      s.openCounts.closed construct := by
  have hitems := Tracker.length_definitionItems_closed s.tracker construct
  rw [openCounts_of_writes (Renderer.writes_popped_closed s.renderer construct)]
  cases construct with
  | cell isHeader parameters =>
    obtain ⟨-, row, rows, outer, htables⟩ := hadmits
    simp [openCounts, Renderer.popped, Renderer.released, Renderer.withCell, OpenCounts.closed,
      hitems, htables, Construct.kind]
  | _ =>
    simp [openCounts, Renderer.popped, Renderer.released, OpenCounts.closed, hitems,
      Construct.kind]

theorem openCounts_shown {l : Leaf} (hl : l.isWellTyped = true) (nesting : Nesting) :
    (TrackedRenderer.mk s.tracker (s.renderer.shown nesting l)).openCounts = s.openCounts := by
  rw [openCounts_of_writes (Renderer.Writes.shown s.renderer nesting hl)]
  obtain ⟨abbreviations, hlength, heq⟩ := Renderer.exists_noted_eq s.renderer l
  simp [openCounts, heq, hlength]

/-- A step changes the counts as the event says. -/
theorem Step.openCounts_eq {e : Event} (h : Step s e t) (he : e.isWellTyped = true) :
    t.openCounts = s.openCounts.next e := by
  cases h with
  | opening ht hr => exact openCounts_opened hr _
  | closing hr ht => exact openCounts_closed hr
  | leaf hr => exact openCounts_shown he _

theorem Step.agreesOnLists {e : Event} (h : Step s e t) (he : e.isWellTyped = true)
    (hlists : s.AgreesOnLists) : t.AgreesOnLists := by
  have hcounts : t.renderer.listStyles.length = (s.openCounts.next e).lists :=
    congrArg OpenCounts.lists (h.openCounts_eq he)
  have hlists' : s.openCounts.lists = s.tracker.listItems.length := hlists
  refine hcounts.trans ?_
  cases h with
  | @opening construct ht hr =>
    rw [Tracker.length_listItems_opened]
    cases construct <;> simp [OpenCounts.next, OpenCounts.opened, hlists', Construct.kind]
  | @closing construct hr ht =>
    rw [Tracker.length_listItems_closed]
    cases construct <;> simp [OpenCounts.next, OpenCounts.closed, hlists', Construct.kind]
  | leaf hr => exact hlists'

/-- There are steps along a stream exactly when the counts allow it. -/
theorem exists_steps_iff (hlists : s.AgreesOnLists) {es : List Event}
    (hes : ∀ e ∈ es, e.isWellTyped = true) :
    (∃ t, Steps s es t) ↔ s.openCounts.allowAll es = true := by
  induction es generalizing s with
  | nil => exact ⟨fun _ => rfl, fun _ => ⟨s, .nil s⟩⟩
  | cons e rest ih =>
    have he : e.isWellTyped = true := hes e List.mem_cons_self
    have hrest : ∀ other ∈ rest, other.isWellTyped = true := fun other hother =>
      hes other (List.mem_cons_of_mem _ hother)
    rw [OpenCounts.allowAll, Bool.and_eq_true, ← exists_step_iff hlists e]
    constructor
    · rintro ⟨u, hsteps⟩
      obtain ⟨t, hstep, hsteps⟩ := Steps.cons_iff.mp hsteps
      rw [← hstep.openCounts_eq he, ← ih (hstep.agreesOnLists he hlists) hrest]
      exact ⟨⟨t, hstep⟩, u, hsteps⟩
    · rintro ⟨⟨t, hstep⟩, hallow⟩
      rw [← hstep.openCounts_eq he, ← ih (hstep.agreesOnLists he hlists) hrest] at hallow
      obtain ⟨u, hsteps⟩ := hallow
      exact ⟨u, .cons hstep hsteps⟩

end TrackedRenderer

namespace TrackedRendering

/-- The exact condition for a stream to be rendered: a new renderer gets through it just when the
counts of what is open allow every event, and whatever goes wrong otherwise is an event that does
not fit. The serializers may be any that give a value for every reference. -/
theorem run_events_ok_iff_allowAll {options : Options}
    (hmode : options.unhandledMacroMode ≠ .refuse) {linkTarget imageTarget : Serializer}
    (hlink : linkTarget.IsTotal) (himage : imageTarget.IsTotal) (sink : SinkKind)
    {es : List Event} (hes : ∀ e ∈ es, e.isWellTyped = true) :
    ((∃ t, (events es).run (.start options linkTarget imageTarget sink) = .ok () t) ↔
        OpenCounts.allowAll {} es = true) ∧
      ∀ fault t, (events es).run (.start options linkTarget imageTarget sink) = .error fault t →
        ∃ error, fault = .rendering error := by
  have hsound : (TrackedRenderer.start options linkTarget imageTarget sink).renderer.Sound :=
    Renderer.start_sound hmode hlink himage sink
  have hlists : (TrackedRenderer.start options linkTarget imageTarget sink).AgreesOnLists := rfl
  constructor
  · exact (exists_congr fun t => run_events_eq_ok_iff hsound hes).trans
      (TrackedRenderer.exists_steps_iff hlists hes)
  · intro fault t hrun
    rcases run_events hsound hes with ⟨u, -, hok⟩ | ⟨-, error, u, herror⟩
    · simp [hok] at hrun
    · rw [herror] at hrun
      obtain ⟨rfl, -⟩ := EStateM.Result.error.inj hrun
      exact ⟨error, rfl⟩

/-- The end of a link takes the scope of a heading, and without any scope it does not fit. -/
theorem run_events_ok_iff_allowAll_link :
    (∃ t, (events [.opening (.heading (.int 1) .null (some [])),
        .closing (.link ⟨.str ['a'], .url, .bool true, [], []⟩ (.bool false) (some []))]).run
        (.start {} .plain .plain .buffer) = .ok () t) ∧
      ¬ ∃ t, (events [
        .closing (.link ⟨.str ['a'], .url, .bool true, [], []⟩ (.bool false) (some []))]).run
        (.start {} .plain .plain .buffer) = .ok () t := by
  constructor
  · exact (run_events_ok_iff_allowAll (by decide) Serializer.plain_isTotal
      Serializer.plain_isTotal .buffer (by decide)).1.mpr (by decide)
  · intro h
    have hallow := (run_events_ok_iff_allowAll (by decide) Serializer.plain_isTotal
      Serializer.plain_isTotal .buffer (by decide)).1.mp h
    exact absurd hallow (by decide)

end TrackedRendering

end DocumentStream
