import DocumentStream.Proofs.ScopeEffects

/-!
Which printers escape bars. The printer of a cell does if bars are to be escaped at all, a printer
that is opened inside a cell goes on doing so, and no other printer does. So the settings of all
printers can be told from the constructs that are open, and are again what they were once everything
opened since is closed.
-/

namespace DocumentStream

namespace OpenConstructs

/-- Which printers escape bars, innermost first: of those for constructs that are captured the ones
that stand in a cell or belong to one, and not that of the document. -/
def pipes (on : Bool) : OpenConstructs → List Bool
  | [] => [false]
  | kind :: outer =>
    if kind.isCaptured then (on && (kind :: outer).contains .cell) :: pipes on outer
    else pipes on outer

variable {on : Bool} {kind : ConstructKind} {opened : OpenConstructs}

theorem pipes_cons (h : kind.isCaptured = true) :
    pipes on (kind :: opened) = (on && (kind :: opened).contains .cell) :: pipes on opened := by
  rw [pipes, if_pos h]

theorem pipes_cons_of_not (h : kind.isCaptured = false) :
    pipes on (kind :: opened) = pipes on opened := by
  rw [pipes, if_neg (by simp [h])]

theorem contains_cell_cons (h : kind ≠ .cell) :
    (kind :: opened).contains .cell = opened.contains .cell := by
  simp [Ne.symm h]

/-- The innermost printer escapes bars where a cell is open. -/
theorem head?_pipes (on : Bool) (opened : OpenConstructs) :
    (pipes on opened).head? = some (on && opened.contains .cell) := by
  induction opened with
  | nil => simp [pipes]
  | cons kind outer ih =>
    cases hcaptured : kind.isCaptured with
    | true => rw [pipes_cons hcaptured, List.head?_cons]
    | false =>
      have hcell : kind ≠ .cell := by
        rintro rfl
        cases hcaptured
      rw [pipes_cons_of_not hcaptured, ih, contains_cell_cons hcell]

end OpenConstructs

namespace Renderer

/-- Whether a renderer has the options given and its printers escape bars as the open constructs
say. -/
structure PipesFollow (options : Options) (opened : OpenConstructs) (r : Renderer) : Prop where
  given : r.options = options
  pipes : r.printers.map Printer.escapesPipes = opened.pipes options.tablePipeEscape.isTruthy

namespace PipesFollow

variable {options : Options} {opened next : OpenConstructs} {kind : ConstructKind}
  {r s : Renderer} {typed : Prop}

theorem start (options : Options) (linkTarget imageTarget : Serializer) (sink : SinkKind) :
    PipesFollow options [] (.start options linkTarget imageTarget sink) := ⟨rfl, rfl⟩

theorem escapesPipes (h : PipesFollow options opened r) :
    r.printer.escapesPipes = (options.tablePipeEscape.isTruthy && opened.contains .cell) := by
  have hhead := congrArg List.head? h.pipes
  rw [OpenConstructs.head?_pipes, r.printers_eq_cons] at hhead
  exact Option.some.inj hhead

theorem of_sameScopes (h : PipesFollow options opened r) (hsame : SameScopes typed r s) :
    PipesFollow options opened s := by
  refine ⟨hsame.options.trans h.given, ?_⟩
  have hsettings := congrArg (List.map fun settings => settings.2.2) hsame.settings
  rw [List.map_map, List.map_map] at hsettings
  exact hsettings.trans h.pipes

theorem captured (h : PipesFollow options opened r) (hkind : kind.isCaptured = true)
    {inCell : Bool} (hcell : (inCell && options.tablePipeEscape.isTruthy) =
      (options.tablePipeEscape.isTruthy && List.contains (kind :: opened) .cell)) :
    PipesFollow options (kind :: opened) (r.captured (r.capture inCell)) := by
  refine ⟨h.given, ?_⟩
  have hcaptured : (r.captured (r.capture inCell)).printers.map Printer.escapesPipes =
      (inCell && r.options.tablePipeEscape.isTruthy) :: r.printers.map Printer.escapesPipes := rfl
  rw [OpenConstructs.pipes_cons hkind, ← hcell, hcaptured, h.given, h.pipes]

/-- What is opened inside a construct goes on as the construct does. -/
theorem captured_inside (h : PipesFollow options opened r) (hkind : kind.isCaptured = true)
    (hcell : kind ≠ .cell) :
    PipesFollow options (kind :: opened)
      (r.captured (r.capture r.printer.escapesPipes)) := by
  refine h.captured hkind ?_
  rw [h.escapesPipes, OpenConstructs.contains_cell_cons hcell]
  cases options.tablePipeEscape.isTruthy <;> simp

theorem released (h : PipesFollow options (kind :: opened) r) (hkind : kind.isCaptured = true) :
    PipesFollow options opened r.released := by
  have hpipes := h.pipes
  rw [OpenConstructs.pipes_cons hkind] at hpipes
  have hcaptures : r.captures ≠ [] := by
    intro hnil
    have hnone : OpenConstructs.pipes options.tablePipeEscape.isTruthy opened = [] := by
      simpa [printers, hnil] using (congrArg List.tail hpipes).symm
    have hhead := OpenConstructs.head?_pipes options.tablePipeEscape.isTruthy opened
    rw [hnone] at hhead
    cases hhead
  refine ⟨h.given, ?_⟩
  rw [printers_released hcaptures, List.map_tail, hpipes, List.tail_cons]

/-- An event in its place leaves the printers as the constructs say that are open then. -/
theorem rescoped (h : PipesFollow options opened r) {e : Event}
    (hstep : OpenConstructs.step? none opened e = some next) :
    PipesFollow options next (r.rescoped e) := by
  cases e with
  | opening construct =>
    obtain ⟨-, rfl⟩ := OpenConstructs.step?_opening_eq_some_iff.mp hstep
    cases construct with
    | heading | link => exact h.captured_inside rfl (by simp [Construct.kind])
    | cell => exact h.captured rfl (by simp [Construct.kind])
    | _ => exact ⟨h.given, h.pipes⟩
  | closing construct =>
    obtain rfl := OpenConstructs.step?_closing_eq_some_iff.mp hstep
    cases construct with
    | heading | link | cell => exact h.released rfl
    | _ => exact ⟨h.given, h.pipes⟩
  | leaf | foreign =>
    obtain rfl := Option.some.inj hstep
    exact h

end PipesFollow

end Renderer

namespace TrackedRenderer

open Renderer

/-- Whether each of some events leaves the scopes and lists as it says. -/
def FollowsScopes (s : TrackedRenderer) : List Event → Prop
  | [] => True
  | e :: rest =>
    SameScopes False (s.renderer.rescoped e) (s.told e).renderer ∧ (s.told e).FollowsScopes rest

namespace FollowsScopes

variable {s t : TrackedRenderer} {es : List Event}

theorem of_isWellTyped (hs : s.renderer.HoldsText) (hes : ∀ e ∈ es, e.isWellTyped = true) :
    s.FollowsScopes es := by
  induction es generalizing s with
  | nil => exact trivial
  | cons e rest ih =>
    rw [List.forall_mem_cons] at hes
    exact ⟨(sameScopes_told hs hes.1).untyped, ih (holdsText_told hs hes.1) hes.2⟩

theorem of_run (h : (TrackedRendering.events es).run s = .ok () t) : s.FollowsScopes es := by
  induction es generalizing s with
  | nil => exact trivial
  | cons e rest ih =>
    obtain ⟨_, u, he, hrest⟩ := exists_of_run_bind_eq_ok h
    have htold : s.told e = u := by rw [told, he]
    obtain ⟨during, -, hrun, -⟩ := TrackedRendering.exists_of_run_event he
    exact ⟨htold ▸ Rendering.sameScopes_of_run_event False.elim hrun, htold ▸ ih hrest⟩

theorem append {front back : List Event} (h : s.FollowsScopes (front ++ back)) :
    s.FollowsScopes front ∧ (front.foldl told s).FollowsScopes back := by
  induction front generalizing s with
  | nil => exact ⟨trivial, h⟩
  | cons e rest ih =>
    obtain ⟨hfirst, hrest⟩ := h
    obtain ⟨hfront, hback⟩ := ih hrest
    exact ⟨⟨hfirst, hfront⟩, hback⟩

theorem pipesFollow {options : Options} {opened last : OpenConstructs} (hes : s.FollowsScopes es)
    (hs : s.renderer.PipesFollow options opened)
    (hnested : OpenConstructs.run? none opened es = some last) :
    (es.foldl told s).renderer.PipesFollow options last := by
  induction es generalizing s opened with
  | nil =>
    obtain rfl := Option.some.inj hnested
    exact hs
  | cons e rest ih =>
    obtain ⟨next, hstep, hrest⟩ := OpenConstructs.run?_cons_eq_some_iff.mp hnested
    exact ih hes.2 ((hs.rescoped hstep).of_sameScopes hes.1) hrest

end FollowsScopes

/-- Bars are escaped in cells. At any point of a properly nested stream the current printer escapes
them if and only if they are to be escaped at all and a cell is open around that point, and once all
is closed that was opened since, every printer does so again as it did. Events may fail on the way
if their fields have the declared kinds. -/
theorem escapesPipes_iff_cell_open (options : Options) (linkTarget imageTarget : Serializer)
    (sink : SinkKind) {before inside : List Event} {opened : OpenConstructs}
    (hbefore : OpenConstructs.run? none [] before = some opened)
    (hinside : OpenConstructs.run? none opened inside = some opened)
    (hhandled : (∀ e ∈ before ++ inside, e.isWellTyped = true) ∨
      ∃ t, (TrackedRendering.events (before ++ inside)).run
        (.start options linkTarget imageTarget sink) = .ok () t) :
    let s := before.foldl told (.start options linkTarget imageTarget sink)
    (s.renderer.printer.escapesPipes = true ↔
        options.tablePipeEscape.isTruthy = true ∧ .cell ∈ opened) ∧
      (inside.foldl told s).renderer.printers.map Printer.escapesPipes =
        s.renderer.printers.map Printer.escapesPipes := by
  intro s
  have hall : (start options linkTarget imageTarget sink).FollowsScopes (before ++ inside) := by
    rcases hhandled with htyped | ⟨t, hrun⟩
    · exact .of_isWellTyped (HoldsText.start options linkTarget imageTarget sink) htyped
    · exact .of_run hrun
  obtain ⟨hfront, hback⟩ := hall.append
  have hs : s.renderer.PipesFollow options opened :=
    hfront.pipesFollow (.start options linkTarget imageTarget sink) hbefore
  have hend := hback.pipesFollow hs hinside
  refine ⟨?_, hend.pipes.trans hs.pipes.symm⟩
  rw [hs.escapesPipes]
  simp

/-- The label of a link in a cell, and a table in that label that is closed again. -/
theorem escapesPipes_iff_cell_open_label :
    let link : Construct := .link { target := .str ['u'] } (.bool false) (some [])
    let table : List Event := [.opening (.table (some [])), .opening (.row (some [])),
      .opening (.cell (.bool false) (some []))]
    let ends : List Event := [.closing (.cell (.bool false) (some [])), .closing (.row (some [])),
      .closing (.table (some []))]
    let label : List Event := table ++ [.opening link]
    let s := label.foldl told (.start {} .plain .plain .buffer)
    s.renderer.printer.escapesPipes = true ∧
      ((table ++ ends).foldl told s).renderer.printers.map Printer.escapesPipes =
        s.renderer.printers.map Printer.escapesPipes := by
  intro link table ends label s
  have hlabel : OpenConstructs.run? none [] label = some [.link, .cell, .row, .table] := rfl
  have hinside : OpenConstructs.run? none [.link, .cell, .row, .table] (table ++ ends) =
      some [.link, .cell, .row, .table] := rfl
  have htyped : ∀ e ∈ label ++ (table ++ ends), e.isWellTyped = true := by decide
  obtain ⟨hpipes, hrestored⟩ :=
    escapesPipes_iff_cell_open {} .plain .plain .buffer hlabel hinside (.inl htyped)
  exact ⟨hpipes.mpr ⟨rfl, by decide⟩, hrestored⟩

end TrackedRenderer

end DocumentStream
