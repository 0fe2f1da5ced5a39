import DocumentStream.Proofs.TextFront

/-!
How the text of a document begins. Its first character comes from the first event that writes
anything at the front of the text, be it through a heading or a link that captures it first, so that
a line feed is the first character just if that event sets itself off from something before it.
-/

namespace DocumentStream

/-- What becomes of the beginning of a captured text when its construct closes. The text of a
heading is written as it is and the label of a link behind a bracket, while a cell is not shown
before its table is. -/
def ConstructKind.passes : ConstructKind → Option Bool → Option Bool
  | .link, _ => some false
  | .cell, _ => none
  | _, front => front

/-- How the text of the document begins if the constructs that capture theirs are closed one after
another, of which the innermost has a text with the given beginning. -/
def frontThrough : List ConstructKind → List Printer → Option Bool → Option Bool
  | [], _, front => front
  | kind :: kinds, ps, front =>
    frontThrough kinds ps.tail ((ps.head?.bind Printer.front?).or (kind.passes front))

/-- What comes later matters only where there is nothing yet, and in no cell. -/
theorem frontThrough_or (kinds : List ConstructKind) (ps : List Printer)
    (front more : Option Bool) :
    frontThrough kinds ps (front.or more) =
      (frontThrough kinds ps front).or (if .cell ∈ kinds then none else more) := by
  induction kinds generalizing ps front more with
  | nil => simp [frontThrough]
  | cons kind kinds ih =>
    by_cases hcell : kind = .cell
    · subst hcell
      simp [frontThrough, ConstructKind.passes]
    have hmem : .cell ∈ kind :: kinds ↔ .cell ∈ kinds := by simp [Ne.symm hcell]
    simp only [frontThrough, hmem]
    by_cases hlink : kind = .link
    · -- the bracket of the link comes first, unless the link is in a cell
      subst hlink
      have hbracket := ih ps.tail none ((ps.head?.bind Printer.front?).or (some false))
      rw [Option.none_or] at hbracket
      simp only [ConstructKind.passes, hbracket]
      split
      · rw [Option.or_none, Option.or_none]
      · cases frontThrough kinds ps.tail none <;> cases ps.head?.bind Printer.front? <;> rfl
    · have hpasses : ∀ front, kind.passes front = front := by
        intro front
        cases kind <;> first | rfl | contradiction
      rw [hpasses, hpasses, ← Option.or_assoc, ih]

/-- Outside of cells the text has no beginning yet just if nothing is written or held back anywhere
and no link is open. -/
theorem frontThrough_eq_none_iff {kinds : List ConstructKind} {ps : List Printer}
    {front : Option Bool} (hlength : ps.length = kinds.length) (hcell : .cell ∉ kinds) :
    frontThrough kinds ps front = none ↔
      front = none ∧ .link ∉ kinds ∧ ∀ p ∈ ps, p.front? = none := by
  induction kinds generalizing ps front with
  | nil =>
    obtain rfl := List.length_eq_zero_iff.mp hlength
    simp [frontThrough]
  | cons kind kinds ih =>
    obtain ⟨p, ps, rfl⟩ := List.exists_cons_of_length_eq_add_one hlength
    rw [List.mem_cons, not_or] at hcell
    have hrest : frontThrough kinds ps (p.front?.or (kind.passes front)) = none ↔ _ :=
      ih (Nat.succ.inj hlength) hcell.2
    have hpasses : kind.passes front = none ↔ front = none ∧ kind ≠ .link := by
      cases kind <;> simp_all [ConstructKind.passes]
    rw [List.forall_mem_cons, List.mem_cons, not_or]
    simp only [frontThrough, List.tail_cons, List.head?_cons, Option.bind_some, hrest,
      Option.or_eq_none_iff, hpasses]
    constructor
    · rintro ⟨⟨hp, hfront, hlink⟩, hlinks, hps⟩
      exact ⟨hfront, ⟨hlink.symm, hlinks⟩, hp, hps⟩
    · rintro ⟨hfront, ⟨hlink, hlinks⟩, hp, hps⟩
      exact ⟨⟨hp, hfront, Ne.symm hlink⟩, hlinks, hps⟩

namespace Renderer

/-- How the text of the document begins, as far as that is settled. -/
def lead? (r : Renderer) (opened : OpenConstructs) : Option Bool :=
  frontThrough (opened.filter ConstructKind.isCaptured) r.printers.tail r.front?

theorem cell_mem_filter {opened : OpenConstructs} :
    .cell ∈ opened.filter ConstructKind.isCaptured ↔ .cell ∈ opened := by
  simp [List.mem_filter, ConstructKind.isCaptured]

theorem bind_head?_tail {r : Renderer} (hcaptures : r.captures ≠ []) :
    r.printers.tail.head?.bind Printer.front? = r.released.front? := by
  rw [← printers_released hcaptures, printers_eq_cons]
  rfl

/-- If an event does nothing but write, its text comes to stand at the front unless another does. -/
theorem lead?_of_writes {r s : Renderer} {opened next : OpenConstructs} {more : Option Bool}
    (hopened : next.filter ConstructKind.isCaptured = opened.filter ConstructKind.isCaptured)
    (houter : s.printers.tail = r.printers.tail) (hfront : s.front? = r.front?.or more) :
    s.lead? next = (r.lead? opened).or (if .cell ∈ opened then none else more) := by
  rw [lead?, hopened, houter, hfront, frontThrough_or]
  simp only [cell_mem_filter]
  rfl

theorem lead?_captured (r : Renderer) {p : Printer} (hp : p.front? = none) {kind : ConstructKind}
    (hkind : kind.isCaptured = true) (opened : OpenConstructs) :
    (r.captured p).lead? (kind :: opened) =
      frontThrough (opened.filter ConstructKind.isCaptured) r.printers.tail
        (r.front?.or (kind.passes none)) := by
  have hprinters : (r.captured p).printers.tail = r.printers := rfl
  have hfront : (r.captured p).front? = none := hp
  rw [lead?, List.filter_cons_of_pos hkind, hprinters, hfront, frontThrough, printers_eq_cons r]
  rfl

theorem lead?_opened {r : Renderer} (nesting : Nesting) {construct : Construct}
    (hadmits : r.AdmitsOpening construct) (opened : OpenConstructs) :
    (r.opened nesting construct).lead? (construct.kind :: opened) =
      (r.lead? opened).or
        (if .cell ∈ opened then none else r.opening? nesting construct) := by
  have hgoes (front more : Option Bool) :
      frontThrough (opened.filter ConstructKind.isCaptured) r.printers.tail (front.or more) =
        (frontThrough (opened.filter ConstructKind.isCaptured) r.printers.tail front).or
          (if .cell ∈ opened then none else more) := by
    simp only [frontThrough_or, cell_mem_filter]
  cases hcaptured : construct.kind.isCaptured with
  | false =>
    refine lead?_of_writes (List.filter_cons_of_neg (by simp [hcaptured])) ?_
      (front?_opened nesting hadmits hcaptured)
    obtain ⟨w, p, hw, -, heq⟩ := exists_opened_eq_pushed r nesting construct
    rw [heq, ← hw.outer]
    cases construct <;> first | rfl | cases hcaptured
  | true =>
    cases construct with
    | heading level id parameters =>
      let marked := r.setOff.headingMarked level
      have hmarked : Writes r marked := (Writes.setOff r).trans (Writes.headingMarked _ level)
      have hfront : marked.front? =
          r.front?.or (r.opening? nesting (.heading level id parameters)) := by
        rw [front?_headingMarked, front?_setOff, Option.or_assoc]
        rfl
      refine (lead?_captured marked rfl hcaptured opened).trans ?_
      rw [hmarked.outer, hfront]
      exact (congrArg _ Option.or_none).trans (hgoes _ _)
    | cell isHeader parameters =>
      refine (lead?_captured r rfl hcaptured opened).trans ?_
      exact hgoes r.front? none
    | link reference isFreeStanding parameters =>
      refine (lead?_captured r rfl hcaptured opened).trans ?_
      exact hgoes r.front? (some false)
    | _ => cases hcaptured

theorem startsLine?_headingTail (level : Value) (heading : Text) :
    Text.startsLine? (headingTail level heading) =
      some (decide (level.level = 1 ∨ level.level = 2)) := by
  unfold headingTail
  by_cases hfirst : level.level = 1
  · simp [hfirst, Text.startsLine?]
  · by_cases hsecond : level.level = 2 <;> simp [hfirst, hsecond, Text.startsLine?]

/-- What a construct writes when it closes that captured its text. -/
theorem front?_closed_captured {r : Renderer} (hr : r.Steady) {construct : Construct}
    (htyped : construct.isWellTyped = true) (hcaptured : construct.kind.isCaptured = true) :
    (r.closed construct).front? =
      (r.released.front?.or (construct.kind.passes r.front?)).or (r.closing? construct) := by
  cases construct with
  | heading level id parameters =>
    have htext : Text.startsLine? r.capturedText = r.front? :=
      r.printer.startsLine?_written_settled
    rw [closed, front?_printed, front?_printed, htext, startsLine?_headingTail]
    rfl
  | cell isHeader parameters =>
    exact (Option.or_none.trans Option.or_none).symm
  | link reference isFreeStanding parameters =>
    simp only [Construct.isWellTyped, Bool.and_eq_true] at htyped
    obtain ⟨markup, hmarkup⟩ := Rendering.exists_link hr.linkTarget htyped.1.1 r.capturedText
    rw [closed, hmarkup, front?_printed, startsLine?_link hmarkup]
    exact Option.or_none.symm
  | _ => cases hcaptured

/-- A construct that closes adds to the front what it captured and what it writes itself. -/
theorem lead?_closed {base r : Renderer} {construct : Construct} {opened : OpenConstructs}
    (h : base.Above (construct.kind :: opened) r) (hr : r.Steady)
    (htyped : construct.isWellTyped = true) :
    (r.closed construct).lead? opened =
      (r.lead? (construct.kind :: opened)).or
        (if .cell ∈ construct.kind :: opened then none else r.closing? construct) := by
  have houter := (writes_popped_closed r construct).outer
  cases hcaptured : construct.kind.isCaptured with
  | false =>
    refine lead?_of_writes (List.filter_cons_of_neg (by simp [hcaptured])).symm ?_
      (front?_closed r hcaptured)
    rw [houter]
    cases construct <;> first | rfl | cases hcaptured
  | true =>
    have hcaptures : r.captures ≠ [] := h.captures_ne_nil hcaptured
    have hbefore : r.lead? (construct.kind :: opened) =
        frontThrough (opened.filter ConstructKind.isCaptured) r.released.printers.tail
          (r.released.front?.or (construct.kind.passes r.front?)) := by
      rw [lead?, List.filter_cons_of_pos hcaptured, frontThrough, bind_head?_tail hcaptures,
        printers_released hcaptures]
    have hcell : (if .cell ∈ construct.kind :: opened then none else r.closing? construct) =
        if .cell ∈ opened then none else r.closing? construct := by
      cases construct with
      | cell isHeader parameters => simp [closing?]
      | heading level id parameters => simp [Construct.kind]
      | link reference isFreeStanding parameters => simp [Construct.kind]
      | _ => cases hcaptured
    have hpopped : (r.popped construct).printers = r.released.printers := by
      cases construct <;> first | rfl | cases hcaptured
    rw [hcell, hbefore, lead?, houter, hpopped, front?_closed_captured hr htyped hcaptured,
      frontThrough_or]
    simp only [cell_mem_filter]

/-- Where nothing is captured the text of the document begins as its printer says. -/
theorem startsLine?_output {r : Renderer} (hcaptures : r.captures = []) :
    Text.startsLine? r.output = r.lead? [] := by
  rw [output, Printer.startsLine?_written_settled, ← printer_eq_document hcaptures]
  rfl

end Renderer

namespace TrackedRenderer

variable {base s t : TrackedRenderer} {opened next last : OpenConstructs} {e : Event}
  {es : List Event}

/-- Whether what an event writes begins with a line feed, if it writes anything. -/
def adds? (s : TrackedRenderer) : Event → Option Bool
  | .opening construct => s.renderer.opening? (s.tracker.opened construct).nesting construct
  | .closing construct => s.renderer.closing? construct
  | .leaf l => s.renderer.leaf? s.tracker.nesting l
  | .foreign _ => none

/-- Whether what is written next comes to stand at the front of the text. Then nothing is written or
held back anywhere, and neither a link is open, whose bracket comes first, nor a cell. -/
structure AtFront (opened : OpenConstructs) (s : TrackedRenderer) : Prop where
  written : ∀ p ∈ s.renderer.printers, p.written = []
  held : ∀ p ∈ s.renderer.printers, p.heldText = []
  link : .link ∉ opened
  cell : .cell ∉ opened

theorem atFront_iff (h : base.Above opened s) (hbase : base.renderer.captures = []) :
    AtFront opened s ↔ s.renderer.lead? opened = none ∧ .cell ∉ opened := by
  have hlength : s.renderer.printers.tail.length =
      (opened.filter ConstructKind.isCaptured).length := by
    have hprinters := h.renderer.printers
    rw [Renderer.printers, hbase] at hprinters
    rw [List.length_tail, hprinters.length_of_nil, List.countP_eq_length_filter]
    rfl
  have hlink : .link ∈ opened.filter ConstructKind.isCaptured ↔ .link ∈ opened := by
    simp [List.mem_filter, ConstructKind.isCaptured]
  have hempty : (∀ p ∈ s.renderer.printers, p.front? = none) ↔
      s.renderer.front? = none ∧ ∀ p ∈ s.renderer.printers.tail, p.front? = none := by
    rw [Renderer.printers_eq_cons, List.forall_mem_cons]
    rfl
  constructor
  · rintro ⟨hwritten, hheld, hlinks, hcells⟩
    have hprinters := hempty.mp fun p hp =>
      Printer.front?_eq_none_iff.mpr ⟨hwritten p hp, hheld p hp⟩
    refine ⟨?_, hcells⟩
    rw [Renderer.lead?, frontThrough_eq_none_iff hlength (mt Renderer.cell_mem_filter.mp hcells)]
    exact ⟨hprinters.1, mt hlink.mp hlinks, hprinters.2⟩
  · rintro ⟨hlead, hcells⟩
    rw [Renderer.lead?, frontThrough_eq_none_iff hlength
      (mt Renderer.cell_mem_filter.mp hcells)] at hlead
    have hprinters := hempty.mpr ⟨hlead.1, hlead.2.2⟩
    exact ⟨fun p hp => (Printer.front?_eq_none_iff.mp (hprinters p hp)).1,
      fun p hp => (Printer.front?_eq_none_iff.mp (hprinters p hp)).2,
      mt hlink.mpr hlead.2.1, hcells⟩

/-- What an event writes becomes the beginning of the text if that has none yet. -/
theorem lead?_step (h : base.Above opened s) (hs : s.renderer.Steady)
    (hnested : OpenConstructs.step? none opened e = some next) (he : e.isWellTyped = true)
    (hstep : Step s e t) :
    t.renderer.lead? next =
      (s.renderer.lead? opened).or (if .cell ∈ opened then none else s.adds? e) := by
  cases hstep with
  | opening ht hr =>
    obtain ⟨-, rfl⟩ := OpenConstructs.step?_opening_eq_some_iff.mp hnested
    exact Renderer.lead?_opened _ hr opened
  | closing hr ht =>
    obtain rfl := OpenConstructs.step?_closing_eq_some_iff.mp hnested
    exact Renderer.lead?_closed h.renderer hs he
  | @leaf l hr =>
    obtain rfl := Option.some.inj hnested
    have hwrites := Renderer.Writes.shown s.renderer s.tracker.nesting (l := l) he
    obtain ⟨abbreviations, -, hnoted⟩ := Renderer.exists_noted_eq s.renderer l
    have houter := hwrites.outer
    rw [hnoted] at houter
    exact Renderer.lead?_of_writes rfl houter (Renderer.front?_shown hs _ he)

/-- A beginning of the text stays. -/
theorem lead?_eq_some_of_steps (h : base.Above opened s) (hs : s.renderer.Steady)
    (hnested : OpenConstructs.run? none opened es = some last)
    (hes : ∀ e ∈ es, e.isWellTyped = true) (hsteps : Steps s es t) {b : Bool}
    (hlead : s.renderer.lead? opened = some b) : t.renderer.lead? last = some b := by
  induction hsteps generalizing opened with
  | nil s =>
    obtain rfl := Option.some.inj hnested
    exact hlead
  | cons hstep hsteps ih =>
    obtain ⟨next, hnext, hrest⟩ := OpenConstructs.run?_cons_eq_some_iff.mp hnested
    rw [List.forall_mem_cons] at hes
    refine ih (h.step hnext hes.1 hstep) (hstep.steady hs hes.1) hrest hes.2 ?_
    rw [lead?_step h hs hnext hes.1 hstep, hlead]
    rfl

/-- Where the text has got a beginning, some event wrote it when there was none. -/
theorem exists_of_lead?_steps (h : base.Above opened s) (hs : s.renderer.Steady)
    (hnested : OpenConstructs.run? none opened es = some last)
    (hes : ∀ e ∈ es, e.isWellTyped = true) (hsteps : Steps s es t) {b : Bool}
    (hnone : s.renderer.lead? opened = none) (hlead : t.renderer.lead? last = some b) :
    ∃ before e after mid u, es = before ++ e :: after ∧ Steps s before u ∧
      OpenConstructs.run? none opened before = some mid ∧ u.renderer.lead? mid = none ∧
      .cell ∉ mid ∧ u.adds? e = some b := by
  induction hsteps generalizing opened with
  | nil s =>
    obtain rfl := Option.some.inj hnested
    rw [hnone] at hlead
    cases hlead
  | @cons s u t e rest hstep hsteps ih =>
    obtain ⟨next, hnext, hrest⟩ := OpenConstructs.run?_cons_eq_some_iff.mp hnested
    rw [List.forall_mem_cons] at hes
    have hfirst := lead?_step h hs hnext hes.1 hstep
    have habove := h.step hnext hes.1 hstep
    have hsteady := hstep.steady hs hes.1
    rw [hnone, Option.none_or] at hfirst
    cases hadds : u.renderer.lead? next with
    | some c =>
      obtain rfl : c = b := Option.some.inj
        ((lead?_eq_some_of_steps habove hsteady hrest hes.2 hsteps hadds).symm.trans hlead)
      have hcell : .cell ∉ opened := by
        intro hcell
        rw [hadds, if_pos hcell] at hfirst
        cases hfirst
      rw [hadds, if_neg hcell] at hfirst
      exact ⟨[], e, rest, opened, s, rfl, .nil s, rfl, hnone, hcell, hfirst.symm⟩
    | none =>
      obtain ⟨before, other, after, mid, v, rfl, hbefore, hmid, hfound⟩ :=
        ih habove hsteady hrest hes.2 hadds hlead
      exact ⟨e :: before, other, after, mid, v, rfl, .cons hstep hbefore,
        OpenConstructs.run?_cons_eq_some_iff.mpr ⟨next, hnext, hmid⟩, hfound⟩

/-- The beginning of the text is what the first event writes that writes at its front. -/
theorem lead?_eq_some_iff_of_steps (h : base.Above opened s) (hs : s.renderer.Steady)
    (hbase : base.renderer.captures = [])
    (hnested : OpenConstructs.run? none opened es = some last)
    (hes : ∀ e ∈ es, e.isWellTyped = true) (hsteps : Steps s es t)
    (hnone : s.renderer.lead? opened = none) {b : Bool} :
    t.renderer.lead? last = some b ↔
      ∃ before e after mid u, es = before ++ e :: after ∧ Steps s before u ∧
        OpenConstructs.run? none opened before = some mid ∧ AtFront mid u ∧
        u.adds? e = some b := by
  constructor
  · intro hlead
    obtain ⟨before, e, after, mid, u, rfl, hbefore, hmid, hfront, hcell, hadds⟩ :=
      exists_of_lead?_steps h hs hnested hes hsteps hnone hlead
    have hu := h.steps hmid (fun other hother => hes other (List.mem_append_left _ hother)) hbefore
    exact ⟨before, e, after, mid, u, rfl, hbefore, hmid, (atFront_iff hu hbase).mpr ⟨hfront, hcell⟩,
      hadds⟩
  · rintro ⟨before, e, after, mid, u, rfl, hbefore, hmid, hfront, hadds⟩
    have htyped : ∀ other ∈ before, other.isWellTyped = true := fun other hother =>
      hes other (List.mem_append_left _ hother)
    have htyped' : ∀ other ∈ e :: after, other.isWellTyped = true := fun other hother =>
      hes other (List.mem_append_right _ hother)
    have hu := h.steps hmid htyped hbefore
    have hsteady := hbefore.steady hs htyped
    obtain ⟨mid', hmid', hrest⟩ := OpenConstructs.run?_append_eq_some_iff.mp hnested
    obtain rfl : mid = mid' := Option.some.inj (hmid.symm.trans hmid')
    obtain ⟨u', hbefore', hsteps'⟩ := Steps.append_iff.mp hsteps
    obtain rfl := hbefore.unique hbefore'
    obtain ⟨v, hstep, hafter⟩ := Steps.cons_iff.mp hsteps'
    obtain ⟨next, hnext, hlast⟩ := OpenConstructs.run?_cons_eq_some_iff.mp hrest
    rw [List.forall_mem_cons] at htyped'
    refine lead?_eq_some_of_steps (hu.step hnext htyped'.1 hstep) (hstep.steady hsteady htyped'.1)
      hlast htyped'.2 hafter ?_
    obtain ⟨hlead, hcell⟩ := (atFront_iff hu hbase).mp hfront
    rw [lead?_step hu hsteady hnext htyped'.1 hstep, hlead, Option.none_or, if_neg hcell, hadds]

/-- A document with properly nested content can be handled from the beginning to the end. -/
theorem exists_steps_document (options : Options) (linkTarget imageTarget : Serializer)
    (first last : Parameters) {content : List Event}
    (hnested : OpenConstructs.run? none [] content = some [])
    (hcontent : ∀ e ∈ content, e.isWellTyped = true) :
    ∃ u, Steps (.begun options linkTarget imageTarget) (content ++ [.closing (.document last)]) u ∧
      Steps (.start options linkTarget imageTarget .buffer)
        (.opening (.document first) :: (content ++ [.closing (.document last)])) u ∧
      u.renderer.captures = [] := by
  have hbegun : (begun options linkTarget imageTarget).Above []
      (begun options linkTarget imageTarget) := Above.refl (Int.le_refl 0) fun _ => rfl
  obtain ⟨t, hsteps⟩ := hbegun.exists_steps (List.cons_ne_nil _ _) hnested hcontent
  have hdone := hbegun.steps hnested hcontent hsteps
  -- the closing event finds the document that was begun
  have hscope : t.renderer.abbreviations ≠ [] := by
    have hlength : t.renderer.abbreviations.length = 1 := hdone.renderer.abbreviations
    exact List.ne_nil_of_length_pos (by omega)
  have hclosed := Renderer.writes_popped_closed t.renderer (.document last)
  have hbody : Steps (begun options linkTarget imageTarget)
      (content ++ [.closing (.document last)])
      ⟨t.tracker, t.renderer.closed (.document last)⟩ :=
    Steps.append_iff.mpr ⟨t, hsteps, .cons (.closing hscope trivial) (.nil _)⟩
  exact ⟨_, hbody, .cons (.opening trivial trivial) hbody,
    hclosed.captures_eq_nil (List.length_eq_zero_iff.mp hdone.renderer.length_captures)⟩

end TrackedRenderer

namespace TrackedRendering

open TrackedRenderer

/-- The text of a document begins with what the first event writes that writes at its front, and so
it begins with a line feed just if that event does. -/
theorem exists_startsLine?_body_iff {options : Options} {linkTarget imageTarget : Serializer}
    (hlink : linkTarget.IsTotal) (himage : imageTarget.IsTotal) {first last : Parameters}
    {content : List Event} (hnested : OpenConstructs.run? none [] content = some [])
    (htyped : ∀ e ∈ .opening (.document first) :: (content ++ [.closing (.document last)]),
      e.isWellTyped = true)
    (hmacros : ∀ e ∈ content, e.isUnhandled = true → options.unhandledMacroMode ≠ .refuse) :
    ∃ text, body options linkTarget imageTarget first (content ++ [.closing (.document last)]) =
        .ok text ∧
      ∀ b, Text.startsLine? text = some b ↔
        ∃ before e after opened s,
          .opening (.document first) :: (content ++ [.closing (.document last)]) =
            before ++ e :: after ∧
          (events before).run (.start options linkTarget imageTarget .buffer) = .ok () s ∧
          OpenConstructs.run? none [] before = some opened ∧ AtFront opened s ∧
          s.adds? e = some b := by
  have hstart := Renderer.start_steady hlink himage options .buffer
  have habove : (start options linkTarget imageTarget .buffer).Above []
      (start options linkTarget imageTarget .buffer) := Above.refl (Int.le_refl 0) fun _ => rfl
  have hcontent : ∀ e ∈ content, e.isWellTyped = true := fun e he =>
    htyped e (List.mem_cons_of_mem _ (List.mem_append_left _ he))
  have hall : ∀ e ∈ .opening (.document first) :: (content ++ [.closing (.document last)]),
      e.isUnhandled = true → options.unhandledMacroMode ≠ .refuse := by
    rw [List.forall_mem_cons, List.forall_mem_append, List.forall_mem_singleton]
    exact ⟨fun h => absurd h Bool.false_ne_true, hmacros, fun h => absurd h Bool.false_ne_true⟩
  obtain ⟨u, hbody, hstream, hcaptures⟩ :=
    exists_steps_document options linkTarget imageTarget first last hnested hcontent
  refine ⟨u.renderer.output, ?_, fun b => ?_⟩
  · exact body_eq_output_of_steps hlink himage (htyped _ List.mem_cons_self)
      (fun e he => htyped e (List.mem_cons_of_mem _ he))
      (fun e he => hall e (List.mem_cons_of_mem _ he)) hbody hcaptures
  rw [Renderer.startsLine?_output hcaptures, lead?_eq_some_iff_of_steps habove hstart rfl
    (OpenConstructs.run?_document hnested) htyped hstream rfl]
  refine exists_congr fun before => exists_congr fun e => exists_congr fun after =>
    exists_congr fun opened => exists_congr fun s => and_congr_right fun hsplit => ?_
  -- the steps up to the event are what rendering does
  rw [hsplit] at htyped hall
  rw [run_events_iff_steps hstart (fun other hother => htyped other (List.mem_append_left _ hother))
    fun other hother => hall other (List.mem_append_left _ hother)]

/-- A paragraph begins with its word, as nothing comes before that. -/
theorem exists_startsLine?_body_iff_paragraph :
    let content : List Event := [.opening (.paragraph (some [])), .leaf (.word (.str ['a'])),
      .closing (.paragraph (some []))]
    ∃ text, body {} .plain .plain (some []) (content ++ [.closing (.document (some []))]) =
        .ok text ∧ Text.startsLine? text = some false := by
  intro content
  have hnested : OpenConstructs.run? none [] content = some [] := rfl
  let s : TrackedRenderer :=
    { tracker := { inlineDepth := 1 }
      renderer := { (begun {} .plain .plain).renderer with hasBlock := true } }
  have hempty : ∀ p ∈ s.renderer.printers, p.written = [] ∧ p.heldText = [] := by
    intro p hp
    rw [List.mem_singleton.mp hp]
    exact ⟨rfl, rfl⟩
  obtain ⟨text, hbody, hfront⟩ := exists_startsLine?_body_iff Serializer.plain_isTotal
    Serializer.plain_isTotal hnested
    (show ∀ e ∈ .opening (.document (some [])) :: (content ++ [.closing (.document (some []))]),
      e.isWellTyped = true by decide) (show ∀ e ∈ content, e.isUnhandled = true →
        ({} : Options).unhandledMacroMode ≠ .refuse by decide)
  refine ⟨text, hbody, (hfront false).mpr
    ⟨[.opening (.document (some [])), .opening (.paragraph (some []))], .leaf (.word (.str ['a'])),
      [.closing (.paragraph (some [])), .closing (.document (some []))], [.paragraph, .document], s,
      rfl, rfl, rfl, ?_, rfl⟩⟩
  exact ⟨fun p hp => (hempty p hp).1, fun p hp => (hempty p hp).2, by decide, by decide⟩

/-- A quotation directly in a quotation is set off from the beginning of the outer one, although
nothing of that is to be seen, so that the text begins with an empty line. -/
theorem body_quotation_in_quotation :
    let content : List Event := [.opening (.quotation (some [])), .opening (.quotation (some [])),
      .opening .quotationLine, .leaf (.word (.str ['a'])), .closing .quotationLine,
      .closing (.quotation (some [])), .closing (.quotation (some []))]
    OpenConstructs.run? none [] content = some [] ∧
      (body {} .plain .plain (some []) (content ++ [.closing (.document (some []))])).toOption =
        some "\n\n> > a".toList := by
  decide +kernel

end TrackedRendering

end DocumentStream
