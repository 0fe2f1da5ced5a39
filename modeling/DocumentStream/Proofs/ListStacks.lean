import DocumentStream.Proofs.ScopeEffects

/-!
The lists that the renderer has on its stack and those that its tracker counts. The tracker counts a
list before the renderer opens it and until the renderer has closed it, so that in between they
differ. But neither of the two goes ahead where the other fails, and so they agree again after every
event, whatever the order of the events and even if events fail.
-/

namespace DocumentStream

/-- How many lists are open after an event. -/
def Event.listsAfter (lists : Nat) : Event → Nat
  | .opening construct => if construct.kind = .list then lists + 1 else lists
  | .closing construct => if construct.kind = .list then lists - 1 else lists
  | .leaf _ | .foreign _ => lists

theorem Renderer.length_listStyles_rescoped (r : Renderer) (e : Event) :
    (r.rescoped e).listStyles.length = e.listsAfter r.listStyles.length := by
  cases e with
  | opening construct =>
    cases construct <;> simp [rescoped, Event.listsAfter, Construct.kind, captured]
  | closing construct =>
    cases construct <;> simp [rescoped, Event.listsAfter, Construct.kind, released]
  | leaf | foreign => rfl

/-- An event that the tracker has no block for is none of a list. -/
theorem Event.listsAfter_of_untracked {t : Tracker} {e : Event} (h : t.before e = none)
    (lists : Nat) : e.listsAfter lists = lists := by
  cases e with
  | opening construct => cases construct <;> first | rfl | cases h
  | _ => cases h

namespace Tracker

variable {t during : Tracker} {construct : Construct}

theorem length_listItems_of_openConstruct (h : t.openConstruct construct = some during) :
    during.listItems.length = (Event.opening construct).listsAfter t.listItems.length := by
  obtain ⟨-, rfl⟩ := openConstruct_eq_some_iff.mp h
  exact length_listItems_opened t construct

theorem length_listItems_of_closeConstruct (h : t.closeConstruct construct = some during) :
    during.listItems.length = (Event.closing construct).listsAfter t.listItems.length := by
  obtain ⟨-, rfl⟩ := closeConstruct_eq_some_iff.mp h
  exact length_listItems_closed t construct

theorem listDepth_pos_of_openConstruct (h : t.openConstruct .listItem = some during) :
    0 < during.nesting.listDepth := by
  obtain ⟨hadmits, rfl⟩ := openConstruct_eq_some_iff.mp h
  have hpos : 0 < (t.opened .listItem).listItems.length := by
    rw [length_listItems_opened]
    exact List.length_pos_iff.mpr hadmits
  exact Int.natCast_pos.mpr hpos

theorem definitionDepth_pos_of_openConstruct
    (hentry : construct = .term ∨ construct = .description)
    (h : t.openConstruct construct = some during) : 0 < during.nesting.definitionDepth := by
  obtain ⟨hadmits, rfl⟩ := openConstruct_eq_some_iff.mp h
  have hpos : 0 < (t.opened construct).definitionItems.length := by
    rw [length_definitionItems_opened]
    rcases hentry with rfl | rfl
    · exact List.length_pos_iff.mpr hadmits
    · exact List.length_pos_iff.mpr hadmits
  exact Int.natCast_pos.mpr hpos

end Tracker

theorem Rendering.run_closeList_of_nil {r : Renderer} (h : r.listStyles = []) :
    closeList.run r = .error (.rendering .noOpenList) r := by
  rw [closeList, run_get_bind]
  simp only [h]
  rfl

namespace TrackedRenderer

open Renderer

/-- Whether the renderer has as many lists on its stack as the tracker counts, and holds back
nothing but text. -/
structure InStep (s : TrackedRenderer) : Prop where
  holdsText : s.renderer.HoldsText
  lists : s.renderer.listStyles.length = s.tracker.listItems.length

namespace InStep

variable {s : TrackedRenderer} {e : Event}

theorem start (options : Options) (linkTarget imageTarget : Serializer) (sink : SinkKind) :
    InStep (.start options linkTarget imageTarget sink) :=
  ⟨.start options linkTarget imageTarget sink, rfl⟩

theorem listStyles_eq_nil_iff (h : s.InStep) :
    s.renderer.listStyles = [] ↔ s.tracker.listItems = [] := by
  rw [← List.length_eq_zero_iff, ← List.length_eq_zero_iff, h.lists]

/-- A list that cannot be closed is not there. -/
theorem listItems_eq_nil_of_run_closeList (h : s.InStep) {fault : RenderFault} {r : Renderer}
    (hrun : Rendering.closeList.run s.renderer = .error fault r) :
    s.tracker.listItems = [] ∧ fault = .rendering .noOpenList := by
  by_cases hstyles : s.renderer.listStyles = []
  · rw [Rendering.run_closeList_of_nil hstyles] at hrun
    cases hrun
    exact ⟨h.listStyles_eq_nil_iff.mp hstyles, rfl⟩
  · have hok : Rendering.closeList.run s.renderer =
        .ok () (s.renderer.closed (.list .bulleted none)) :=
      Rendering.run_closeList h.holdsText hstyles
    rw [hok] at hrun
    cases hrun

/-- Where the renderer has closed a list the tracker finds one too. -/
theorem closeConstruct_ne_none (h : s.InStep) {r : Renderer}
    (hrun : Rendering.closeList.run s.renderer = .ok () r) (kind : ListKind)
    (parameters : Parameters) : s.tracker.closeConstruct (.list kind parameters) ≠ none := by
  intro hnone
  have hitems : s.tracker.listItems = [] := by
    cases hitems : s.tracker.listItems with
    | nil => rfl
    | cons item outer => simp [Tracker.closeConstruct, hitems] at hnone
  rw [Rendering.run_closeList_of_nil (h.listStyles_eq_nil_iff.mpr hitems)] at hrun
  cases hrun

/-- The tracker counts as many lists as the event leaves, whether or not it goes well. -/
theorem length_listItems_told (h : s.InStep) (e : Event) :
    (s.told e).tracker.listItems.length = e.listsAfter s.tracker.listItems.length := by
  refine told_cases s e ?untracked ?failed ?unclosed ?done
  case untracked => exact fun hbefore => (Event.listsAfter_of_untracked hbefore _).symm
  case failed =>
    intro during fault r hbefore hrun
    cases e with
    | opening construct => exact Tracker.length_listItems_of_openConstruct hbefore
    | closing construct =>
      cases hbefore
      cases construct with
      | list => simp [Event.listsAfter, (h.listItems_eq_nil_of_run_closeList hrun).1]
      | _ => rfl
    | leaf | foreign =>
      cases hbefore
      rfl
  case unclosed =>
    intro during r hbefore hrun hafter
    cases e with
    | closing construct =>
      cases hbefore
      cases construct with
      | list kind parameters => exact absurd hafter (h.closeConstruct_ne_none hrun kind parameters)
      | _ => rfl
    | _ => cases hafter
  case done =>
    intro during r after hbefore _ hafter
    cases e with
    | opening construct =>
      cases hafter
      exact Tracker.length_listItems_of_openConstruct hbefore
    | closing construct =>
      cases hbefore
      exact Tracker.length_listItems_of_closeConstruct hafter
    | leaf | foreign =>
      cases hbefore
      cases hafter
      rfl

theorem told (h : s.InStep) (he : e.isWellTyped = true) : (s.told e).InStep where
  holdsText := holdsText_told h.holdsText he
  lists := by
    rw [(sameScopes_told h.holdsText he).listStyles, length_listStyles_rescoped, h.lists,
      h.length_listItems_told]

theorem foldl_told (h : s.InStep) {es : List Event} (hes : ∀ e ∈ es, e.isWellTyped = true) :
    (es.foldl TrackedRenderer.told s).InStep := by
  induction es generalizing s with
  | nil => exact h
  | cons e rest ih =>
    rw [List.forall_mem_cons] at hes
    exact ih (h.told hes.1) hes.2

/-- Nothing that handling an event fails with is for want of agreement. -/
theorem fault_of_run (h : s.InStep) (he : e.isWellTyped = true) {fault : RenderFault}
    {t : TrackedRenderer} (hrun : (TrackedRendering.event e).run s = .error fault t) :
    fault ≠ .rendering .itemOutsideList ∧
      ∀ kind parameters, e = .closing (.list kind parameters) →
        fault = .rendering .noOpenList := by
  have hhandled := s.handled e
  rw [hrun] at hhandled
  cases hhandled with
  | untracked hbefore =>
    refine ⟨by simp, ?_⟩
    rintro kind parameters rfl
    cases hbefore
  | failed hbefore hfailed =>
    refine ⟨fun hfault => ?_, ?_⟩
    · obtain ⟨rfl, hstyles⟩ :=
        (Rendering.sameScopes_of_run_event_error h.holdsText he hfailed).2 hfault
      have hopen : s.tracker.openConstruct .listItem = some _ := hbefore
      obtain ⟨hadmits, -⟩ := Tracker.openConstruct_eq_some_iff.mp hopen
      exact hadmits (h.listStyles_eq_nil_iff.mp hstyles)
    · rintro kind parameters rfl
      exact (h.listItems_eq_nil_of_run_closeList hfailed).2
  | unclosed hbefore hclosed hafter =>
    refine ⟨by simp, ?_⟩
    rintro kind parameters rfl
    cases hbefore
    exact absurd hafter (h.closeConstruct_ne_none hclosed kind parameters)

end InStep

/-- The lists that the renderer has on its stack and those that its tracker counts agree after any
events of the declared kinds, in any order and even if some fail. So the tracker finds a list to
close where the renderer has closed one, no item fails for want of a list that the tracker counts,
and nothing is indented by less than nothing. -/
theorem listStyles_in_step (options : Options) (linkTarget imageTarget : Serializer)
    (sink : SinkKind) {es : List Event} (hes : ∀ e ∈ es, e.isWellTyped = true) :
    let s := es.foldl told (.start options linkTarget imageTarget sink)
    (s.renderer.listStyles.length : Int) = s.tracker.nesting.listDepth ∧
      ∀ e : Event, e.isWellTyped = true →
        (∀ fault t, (TrackedRendering.event e).run s = .error fault t →
          fault ≠ .rendering .itemOutsideList ∧
            ∀ kind parameters, e = .closing (.list kind parameters) →
              fault = .rendering .noOpenList) ∧
        ∀ during, s.tracker.before e = some during →
          (e = .opening .listItem → 0 ≤ during.nesting.listDepth - 1) ∧
          (e = .opening .term ∨ e = .opening .description →
            0 ≤ during.nesting.definitionDepth - 1) := by
  intro s
  have hs : s.InStep := (InStep.start options linkTarget imageTarget sink).foldl_told hes
  refine ⟨congrArg Int.ofNat hs.lists, fun e he => ⟨fun fault t hrun => hs.fault_of_run he hrun,
    fun during hbefore => ⟨?_, ?_⟩⟩⟩
  · rintro rfl
    have hdepth := Tracker.listDepth_pos_of_openConstruct hbefore
    omega
  · intro hentry
    have hdepth : 0 < during.nesting.definitionDepth := by
      rcases hentry with rfl | rfl
      · exact Tracker.definitionDepth_pos_of_openConstruct (.inl rfl) hbefore
      · exact Tracker.definitionDepth_pos_of_openConstruct (.inr rfl) hbefore
    omega

/-- A list that is closed and an item that is begun before there is any list, and then a list with
an item, closed once too often. -/
theorem listStyles_in_step_stray :
    let list : Construct := .list .bulleted (some [])
    let stray : List Event := [.closing list, .opening .listItem, .opening list]
    let closed : List Event := stray ++ [.closing list]
    let s := stray.foldl told (.start {} .plain .plain .buffer)
    let t := closed.foldl told (.start {} .plain .plain .buffer)
    s.renderer.listStyles = [.bulleted] ∧ s.tracker.nesting.listDepth = 1 ∧
      (∃ during, s.tracker.before (.opening .listItem) = some during ∧
        0 ≤ during.nesting.listDepth - 1) ∧
      ∃ fault u, (TrackedRendering.event (.closing list)).run t = .error fault u ∧
        fault = .rendering .noOpenList := by
  intro list stray closed s t
  have hstyles : s.renderer.listStyles = [.bulleted] := rfl
  obtain ⟨hdepth, hitem⟩ := listStyles_in_step {} .plain .plain .buffer
    (show ∀ e ∈ stray, e.isWellTyped = true by decide)
  obtain ⟨-, hclosing⟩ := listStyles_in_step {} .plain .plain .buffer
    (show ∀ e ∈ closed, e.isWellTyped = true by decide)
  have hrun : (TrackedRendering.event (.closing list)).run t = .error _ _ := rfl
  refine ⟨hstyles, ?_, ⟨_, rfl, ((hitem (.opening .listItem) rfl).2 _ rfl).1 rfl⟩, _, _, hrun, ?_⟩
  · rw [← hdepth]
    exact congrArg (fun styles => (List.length styles : Int)) hstyles
  · exact ((hclosing (.closing list) rfl).1 _ _ hrun).2 _ _ rfl

end TrackedRenderer

end DocumentStream
