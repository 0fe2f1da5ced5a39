import DocumentStream.Proofs.InlineContexts
import DocumentStream.Proofs.RecordedAbbreviations

/-!
The definitions behind a document. A document that closes gives the definitions of the abbreviations
recorded in it as a block of their own. They are set off by an empty line, for in a document made of
blocks a block was noted where the first abbreviation is met.
-/

namespace DocumentStream

/-- Whether a construct of this kind is open only where a block was begun. -/
def ConstructKind.isWithinBlock : ConstructKind → Bool
  | .list | .quotation | .quotationLine => true
  | _ => false

/-- A block construct begins a block, unless it stands in another one. The same holds for what is
open only in blocks. -/
theorem BlockContext.begins_or_within {c : BlockContext} {construct : Construct}
    (hfits : construct.kind.fitsIn c.opened.head? = true)
    (hkind : construct.kind.isBlock = true ∨ construct.kind.isWithinBlock = true) :
    c.beginsConstruct construct = true ∨ ∃ kind ∈ c.opened, kind.isWithinBlock = true := by
  cases construct with
  | list kind parameters =>
    by_cases hlist : .list ∈ c.opened
    · exact Or.inr ⟨.list, hlist, rfl⟩
    · exact Or.inl (decide_eq_true hlist)
  | quotation parameters =>
    by_cases hline : .quotationLine ∈ c.opened
    · exact Or.inr ⟨.quotationLine, hline, rfl⟩
    · exact Or.inl (decide_eq_true hline)
  | quotationLine =>
    have hhome : ConstructKind.quotationLine.home? = some .quotation := rfl
    obtain ⟨below, hbelow⟩ := ConstructKind.exists_head_of_fitsIn hhome hfits
    exact Or.inr ⟨.quotation, by rw [hbelow]; exact List.mem_cons_self, rfl⟩
  | paragraph _ | heading _ _ _ | table _ => exact Or.inl rfl
  | _ => simp [Construct.kind, ConstructKind.isBlock, ConstructKind.isWithinBlock] at hkind

namespace TrackedRenderer

/-- Whether a block was noted wherever something is open that is open only in blocks. -/
def NotesBlocks (s : TrackedRenderer) (opened : OpenConstructs) : Prop :=
  ∀ kind ∈ opened, kind.isWithinBlock = true → s.renderer.hasBlock = true

namespace InContext

variable {base s t : TrackedRenderer} {c : BlockContext} {e : Event} {es : List Event}
  {next last : OpenConstructs}

/-- After a block construct was opened a block is noted. -/
theorem hasBlock_opening (h : base.InContext c s) (hbase : base.tracker = {})
    (hnotes : s.NotesBlocks c.opened) {construct : Construct}
    (hfits : construct.kind.fitsIn c.opened.head? = true)
    (hkind : construct.kind.isBlock = true ∨ construct.kind.isWithinBlock = true)
    (he : (Event.opening construct).isWellTyped = true) (hstep : Step s (.opening construct) t) :
    t.renderer.hasBlock = true := by
  rw [h.hasBlock_step hbase he hstep]
  obtain hbegins | ⟨kind, hopen, hwithin⟩ := BlockContext.begins_or_within hfits hkind
  · rw [Bool.or_eq_true]
    exact Or.inr hbegins
  · rw [hnotes kind hopen hwithin, Bool.true_or]

theorem notesBlocks_step (h : base.InContext c s) (hbase : base.tracker = {})
    (hnotes : s.NotesBlocks c.opened)
    (hnested : OpenConstructs.step? none c.opened e = some next) (he : e.isWellTyped = true)
    (hstep : Step s e t) : t.NotesBlocks next := by
  have hkeeps := (hstep.keeps he).hasBlock
  intro kind hopen hwithin
  cases e with
  | opening construct =>
    obtain ⟨hfits, rfl⟩ := OpenConstructs.step?_opening_eq_some_iff.mp hnested
    rcases List.mem_cons.mp hopen with rfl | hopen
    · exact h.hasBlock_opening hbase hnotes hfits (Or.inr hwithin) he hstep
    · exact hkeeps (hnotes kind hopen hwithin)
  | closing construct =>
    have hopened := OpenConstructs.step?_closing_eq_some_iff.mp hnested
    have hmem : kind ∈ c.opened := by
      rw [hopened]
      exact List.mem_cons_of_mem _ hopen
    exact hkeeps (hnotes kind hmem hwithin)
  | leaf l =>
    obtain rfl := Option.some.inj hnested
    exact hkeeps (hnotes kind hopen hwithin)
  | foreign name =>
    obtain rfl := Option.some.inj hnested
    exact hkeeps (hnotes kind hopen hwithin)

theorem notesBlocks_steps (h : base.InContext c s) (hbase : base.tracker = {})
    (hnotes : s.NotesBlocks c.opened)
    (hnested : OpenConstructs.run? none c.opened es = some last)
    (hes : ∀ e ∈ es, e.isWellTyped = true) (hsteps : Steps s es t) : t.NotesBlocks last := by
  induction hsteps generalizing c with
  | nil s =>
    obtain rfl := Option.some.inj hnested
    exact hnotes
  | cons hstep hsteps ih =>
    rw [List.forall_mem_cons] at hes
    obtain ⟨next, hnext, hrest⟩ := OpenConstructs.run?_cons_eq_some_iff.mp hnested
    have hnotes' := h.notesBlocks_step hbase hnotes hnext hes.1 hstep
    have hcontext := h.step hnext hes.1 hstep
    rw [← BlockContext.opened_after hnext] at hrest hnotes'
    exact ih hcontext hnotes' hrest hes.2

/-- A new renderer is by properly nested steps brought into the context of their events. -/
theorem of_steps {options : Options} {linkTarget imageTarget : Serializer} {sink : SinkKind}
    (hnested : OpenConstructs.run? none [] es = some last)
    (hes : ∀ e ∈ es, e.isWellTyped = true)
    (hsteps : Steps (.start options linkTarget imageTarget sink) es s) :
    (TrackedRenderer.start options linkTarget imageTarget sink).InContext (.of es) s ∧
      s.NotesBlocks (BlockContext.of es).opened := by
  have hstart : (TrackedRenderer.start options linkTarget imageTarget sink).InContext {}
      (.start options linkTarget imageTarget sink) :=
    ⟨Above.refl (Int.le_refl 0) fun _ => rfl, rfl⟩
  have hnotes : (TrackedRenderer.start options linkTarget imageTarget sink).NotesBlocks [] := by
    intro kind hkind
    simp at hkind
  obtain ⟨hcontext, hlast, -⟩ := hstart.steps rfl hnested hes hsteps
  have hnotes' := hstart.notesBlocks_steps rfl hnotes hnested hes hsteps
  rw [← hlast] at hnotes'
  exact ⟨hcontext, hnotes'⟩

end InContext

end TrackedRenderer

namespace IsPart

open TrackedRenderer

variable {options : Options} {base s t : TrackedRenderer} {c : BlockContext}

/-- A part with abbreviations of its own is a block that was noted when it began. -/
theorem hasBlock {part : List Event} (hpart : IsPart options part)
    (hown : ownAbbreviations 0 part ≠ []) (h : base.InContext c s) (hbase : base.tracker = {})
    (hnotes : s.NotesBlocks c.opened) (htyped : ∀ e ∈ part, e.isWellTyped = true)
    (hsteps : Steps s part t) : t.renderer.hasBlock = true := by
  cases hpart with
  | document hcontent => exact absurd (ownAbbreviations_document hcontent) hown
  | block hblock =>
    cases hblock with
    | @construct first last content hkind hlast hcontent =>
      rw [List.forall_mem_cons] at htyped
      obtain ⟨u, hstep, hrest⟩ := Steps.cons_iff.mp hsteps
      have hfits : first.kind.fitsIn c.opened.head? = true := by
        cases hfirst : first.kind <;> simp_all [ConstructKind.isBlock, ConstructKind.fitsIn,
          ConstructKind.home?]
      have hbegun := h.hasBlock_opening hbase hnotes hfits (Or.inl hkind) htyped.1 hstep
      exact (hrest.keeps htyped.2).hasBlock hbegun
    | @definitionList parameters parameters' content hcontent =>
      rw [List.cons_append, List.forall_mem_cons, List.forall_mem_cons] at htyped
      obtain ⟨u, hlist, hitems⟩ := Steps.cons_iff.mp hsteps
      obtain ⟨v, hterm, hrest⟩ := Steps.cons_iff.mp hitems
      have hnested : OpenConstructs.step? none c.opened (.opening (.definitionList parameters)) =
          some (.definitionList :: c.opened) :=
        OpenConstructs.step?_opening_eq_some_iff.mpr ⟨rfl, rfl⟩
      have hcontext := h.step hnested htyped.1 hlist
      have hbegun : v.renderer.hasBlock = true := by
        rw [hcontext.hasBlock_step hbase htyped.2.1 hterm]
        exact Bool.or_true _
      exact (hrest.keeps htyped.2.2).hasBlock hbegun
    | @rawText text markup hplain =>
      have hnone : (Event.leaf (.rawText text markup)).abbreviation? = none := by
        have hsome := Event.isSome_abbreviation? (.leaf (.rawText text markup))
        rwa [Event.isAbbreviation, hplain, Option.isSome_eq_false_iff, Option.isNone_iff_eq_none]
          at hsome
      exact absurd (by simp [ownAbbreviations, hnone]) hown
    | _ => exact absurd rfl hown

/-- Where a document has abbreviations of its own a block was noted in it. -/
theorem hasBlock_flatten {parts : List (List Event)} (hparts : ∀ part ∈ parts, IsPart options part)
    (hown : ownAbbreviations 0 parts.flatten ≠ []) (h : base.InContext c s)
    (hbase : base.tracker = {}) (hnotes : s.NotesBlocks c.opened)
    (htyped : ∀ e ∈ parts.flatten, e.isWellTyped = true) (hsteps : Steps s parts.flatten t) :
    t.renderer.hasBlock = true := by
  induction parts generalizing c s with
  | nil => exact absurd rfl hown
  | cons part rest ih =>
    rw [List.forall_mem_cons] at hparts
    rw [List.flatten_cons] at hown htyped hsteps
    rw [List.forall_mem_append] at htyped
    obtain ⟨u, hpart, hrest⟩ := Steps.append_iff.mp hsteps
    by_cases hfirst : ownAbbreviations 0 part = []
    · have happend := ownAbbreviations_append hparts.1.balanced 0 rest.flatten
      simp only [List.count_nil, Nat.add_zero, hfirst, List.nil_append] at happend
      have hnested := OpenConstructs.run?_below hparts.1.balanced c.opened
      obtain ⟨hcontext, hopened, -⟩ := h.steps hbase hnested htyped.1 hpart
      have hnotes' := h.notesBlocks_steps hbase hnotes hnested htyped.1 hpart
      rw [← hopened] at hnotes'
      rw [happend] at hown
      exact ih hparts.2 hown hcontext hnotes' htyped.2 hrest
    · have hnoted := hparts.1.hasBlock hfirst h hbase hnotes htyped.1 hpart
      exact (hrest.keeps htyped.2).hasBlock hnoted

end IsPart

namespace Renderer

variable {r : Renderer}

theorem capturedText_setOffIn (r : Renderer) (nesting : Nesting) :
    (r.setOffIn nesting).capturedText = r.capturedText ++
      if nesting.isInLine || !r.hasBlock then [] else ['\n', '\n'] := by
  unfold setOffIn
  cases nesting.isInLine with
  | true => exact (List.append_nil _).symm
  | false =>
    refine (capturedText_setOff r).trans ?_
    cases r.hasBlock <;> rfl

/-- A document that closes adds its definitions, set off if a block was noted. -/
theorem capturedText_closed_definitions {recorded : List Abbreviation}
    {outer : List (List Abbreviation)} (h : r.abbreviations = recorded :: outer)
    (hne : recorded ≠ []) (parameters : Parameters) :
    (r.closed (.document parameters)).capturedText =
      r.capturedText ++ (if r.hasBlock then ['\n', '\n'] else []) ++
        Text.join ['\n'] (recorded.map Rendering.definitionLine) := by
  obtain ⟨first, rest, rfl⟩ := List.exists_cons_of_ne_nil hne
  simp only [closed, h, List.head?_cons, Option.getD_some]
  rw [capturedText_settled, capturedText_printed, capturedText_setOff]
  rfl

/-- A document that closes adds the block of its definitions and nothing else. -/
theorem capturedText_closed_document {recorded : List Abbreviation}
    {outer : List (List Abbreviation)} (h : r.abbreviations = recorded :: outer)
    (hblock : recorded ≠ [] → r.hasBlock = true) (parameters : Parameters) :
    (r.closed (.document parameters)).capturedText =
      r.capturedText ++ Abbreviation.definitionBlock recorded := by
  cases recorded with
  | nil =>
    simp only [closed, h, List.head?_cons, Option.getD_some]
    rw [capturedText_settled]
    exact (List.append_nil _).symm
  | cons first rest =>
    have hne : first :: rest ≠ [] := List.cons_ne_nil _ _
    rw [capturedText_closed_definitions h hne, hblock hne, List.append_assoc]
    rfl

theorem capturedText_of_printers {s : Renderer} (h : s.printers = r.printers) :
    s.capturedText = r.capturedText := by
  obtain ⟨hprinter, -⟩ := printer_eq_of_printers (h.trans r.printers_eq_cons)
  rw [capturedText, hprinter, capturedText]

end Renderer

namespace TrackedRenderer

variable {u v : TrackedRenderer}

/-- How raw text is rendered. Where it defines an abbreviation its key is written; any other is
written as it is, outside of lines as a block, and records nothing. -/
structure RendersRawText (text : Text) (u v : TrackedRenderer) : Prop where
  outer : v.renderer.printers.tail = u.renderer.printers.tail
  key : ∀ abbreviation, Abbreviation.ofRawText? text = some abbreviation →
    v.renderer.capturedText = u.renderer.capturedText ++ abbreviation.key
  verbatim : Abbreviation.ofRawText? text = none →
    v.renderer.abbreviations = u.renderer.abbreviations ∧
      v.renderer.capturedText = u.renderer.capturedText ++
        (if u.tracker.nesting.isInLine || !u.renderer.hasBlock then [] else ['\n', '\n']) ++ text

theorem Step.rendersRawText {text : Text} {markup : Value}
    (hstep : Step u (.leaf (.rawText (.str text) markup)) v)
    (htyped : (Leaf.rawText (.str text) markup).isWellTyped = true) : RendersRawText text u v := by
  cases hstep with
  | leaf hr =>
    have hwrites := Renderer.Writes.shown u.renderer u.tracker.nesting htyped
    obtain ⟨abbreviations, -, hnoted⟩ :=
      Renderer.exists_noted_eq u.renderer (.rawText (.str text) markup)
    refine ⟨?_, ?_, ?_⟩
    · have houter := hwrites.outer
      rw [hnoted] at houter
      exact houter
    · intro abbreviation habbreviation
      simp only [Renderer.shown, habbreviation]
      rw [Renderer.capturedText_printed,
        Renderer.capturedText_of_printers (Renderer.printers_defined _ abbreviation)]
    · intro hnone
      have hsame := hwrites.abbreviations
      simp only [Renderer.noted, hnone] at hsame
      refine ⟨hsame, ?_⟩
      simp only [Renderer.shown, hnone]
      rw [Renderer.capturedText_printed, Renderer.capturedText_setOffIn,
        Renderer.capturedText_of_printers (Renderer.printers_passedOver _ text),
        Renderer.hasBlock_passedOver]

end TrackedRenderer

/-- Balanced content of a document can be handled wherever the document stands. In the end it has
recorded what it defines itself. -/
theorem TrackedRenderer.InContext.exists_document_steps {base s : TrackedRenderer}
    {c : BlockContext} (h : base.InContext c s) (hbase : base.tracker = {}) {content : List Event}
    (hbalanced : OpenConstructs.run? none [] content = some [])
    (htyped : ∀ e ∈ content, e.isWellTyped = true) (parameters : Parameters) :
    ∃ t u, Step s (.opening (.document parameters)) t ∧ Steps t content u ∧
      u.renderer.abbreviations =
        Abbreviation.firstOccurrences [] (ownAbbreviations 0 content) ::
          s.renderer.abbreviations := by
  let t : TrackedRenderer :=
    ⟨s.tracker, { s.renderer with abbreviations := [] :: s.renderer.abbreviations }⟩
  have hopening : Step s (.opening (.document parameters)) t := .opening trivial trivial
  have hbase' := h.tracker hbase
  have habove : t.Above [] t := Above.refl hbase'.quotationDepth_nonneg hbase'.noLine
  obtain ⟨u, hsteps⟩ := habove.exists_steps (List.cons_ne_nil _ _) hbalanced htyped
  have hcollects : t.renderer.Collects [] [] s.renderer.abbreviations := ⟨[], rfl, rfl⟩
  obtain ⟨upper, hlength, habbreviations⟩ := hsteps.collects hcollects hbalanced htyped
  obtain rfl := List.eq_nil_of_length_eq_zero hlength
  rw [List.nil_append, Abbreviation.foldl_record (fun key => Iff.rfl)] at habbreviations
  exact ⟨t, u, hopening, hsteps, habbreviations⟩

namespace IsPart

open TrackedRenderer

/-- A document made of parts has noted a block where it has recorded anything. -/
theorem exists_document_steps {options : Options} {base s : TrackedRenderer} {c : BlockContext}
    (h : base.InContext c s) (hbase : base.tracker = {}) (hnotes : s.NotesBlocks c.opened)
    {parts : List (List Event)} (hparts : ∀ part ∈ parts, IsPart options part)
    (htyped : ∀ e ∈ parts.flatten, e.isWellTyped = true) {parameters : Parameters}
    (hparameters : Parameters.areTexts parameters = true) :
    let recorded := Abbreviation.firstOccurrences [] (ownAbbreviations 0 parts.flatten)
    ∃ t u, Step s (.opening (.document parameters)) t ∧ Steps t parts.flatten u ∧
      u.renderer.abbreviations = recorded :: s.renderer.abbreviations ∧
      (recorded ≠ [] → u.renderer.hasBlock = true) := by
  intro recorded
  obtain ⟨t, u, hopening, hsteps, habbreviations⟩ :=
    h.exists_document_steps hbase (balanced_flatten hparts) htyped parameters
  have hnested : OpenConstructs.step? none c.opened (.opening (.document parameters)) =
      some (.document :: c.opened) :=
    OpenConstructs.step?_opening_eq_some_iff.mpr ⟨rfl, rfl⟩
  have hcontext := h.step hnested hparameters hopening
  have hnotes' := h.notesBlocks_step hbase hnotes hnested hparameters hopening
  refine ⟨t, u, hopening, hsteps, habbreviations, fun hne => ?_⟩
  refine hasBlock_flatten hparts ?_ hcontext hbase hnotes' htyped hsteps
  intro hown
  exact hne (congrArg (Abbreviation.firstOccurrences []) hown)

end IsPart

namespace TrackedRendering

open TrackedRenderer

/-- The definitions of a document made of blocks and nested documents. All raw text in its content
is rendered by `RendersRawText`; in the end the document has recorded the abbreviations that it
defines itself, and it closes with the block of their definitions behind the text so far. -/
theorem run_closing_document {options : Options} {linkTarget imageTarget : Serializer}
    (hlink : linkTarget.IsTotal) (himage : imageTarget.IsTotal) {sink : SinkKind}
    {before : List Event} {opened : OpenConstructs}
    (hopened : OpenConstructs.run? none [] before = some opened)
    (hbefore : ∀ e ∈ before, e.isWellTyped = true) {s₀ : TrackedRenderer}
    (hrun : (events before).run (.start options linkTarget imageTarget sink) = .ok () s₀)
    {parts : List (List Event)} (hparts : ∀ part ∈ parts, IsPart options part)
    (htyped : ∀ e ∈ parts.flatten, e.isWellTyped = true)
    (hmacros : ∀ e ∈ parts.flatten, e.isUnhandled = true → options.unhandledMacroMode ≠ .refuse)
    {parameters parameters' : Parameters} (hparameters : Parameters.areTexts parameters = true)
    (hparameters' : Parameters.areTexts parameters' = true) :
    let recorded := Abbreviation.firstOccurrences [] (ownAbbreviations 0 parts.flatten)
    (∀ initial rest text markup,
      parts.flatten = initial ++ .leaf (.rawText (.str text) markup) :: rest →
      ∃ u v, (events (.opening (.document parameters) :: initial)).run s₀ = .ok () u ∧
        (event (.leaf (.rawText (.str text) markup))).run u = .ok () v ∧
        RendersRawText text u v) ∧
    ∃ s t, (events (.opening (.document parameters) :: parts.flatten)).run s₀ = .ok () s ∧
      s.renderer.abbreviations = recorded :: s₀.renderer.abbreviations ∧
      (event (.closing (.document parameters'))).run s = .ok () t ∧
      t.renderer.abbreviations = s₀.renderer.abbreviations ∧
      t.renderer.printers.tail = s.renderer.printers.tail ∧
      t.renderer.capturedText =
        s.renderer.capturedText ++ Abbreviation.definitionBlock recorded := by
  intro recorded
  have hstart : (TrackedRenderer.start options linkTarget imageTarget sink).renderer.Steady :=
    Renderer.start_steady hlink himage options sink
  have hsteps₀ := steps_of_run_events hstart hbefore hrun
  have hsteady₀ := hsteps₀.steady hstart hbefore
  obtain ⟨hcontext, hnotes⟩ := InContext.of_steps hopened hbefore hsteps₀
  obtain ⟨s₁, s, hopening, hsteps, hscope, hblock⟩ :=
    IsPart.exists_document_steps hcontext rfl hnotes hparts htyped hparameters
  -- the beginning of the document and any first part of its content are rendered by these steps
  have hwhole : ∀ {es : List Event} {u : TrackedRenderer}, Steps s₁ es u →
      (∀ e ∈ es, e ∈ parts.flatten) →
      (events (.opening (.document parameters) :: es)).run s₀ = .ok () u ∧
        u.renderer.Steady := by
    intro es u hes hmem
    have htyped' : ∀ e ∈ .opening (.document parameters) :: es, e.isWellTyped = true :=
      List.forall_mem_cons.mpr ⟨hparameters, fun e he => htyped e (hmem e he)⟩
    have hall : Steps s₀ (.opening (.document parameters) :: es) u := .cons hopening hes
    refine ⟨run_events_of_steps hall hsteady₀ htyped' ?_, hall.steady hsteady₀ htyped'⟩
    rw [(hsteps₀.keeps hbefore).options]
    exact List.forall_mem_cons.mpr
      ⟨fun h => absurd h Bool.false_ne_true, fun e he => hmacros e (hmem e he)⟩
  constructor
  · intro initial rest text markup hflatten
    rw [hflatten] at hsteps
    obtain ⟨u, hinitial, hrest⟩ := Steps.append_iff.mp hsteps
    obtain ⟨v, hleaf, -⟩ := Steps.cons_iff.mp hrest
    have hmem : ∀ e ∈ initial, e ∈ parts.flatten := by
      intro e he
      rw [hflatten]
      exact List.mem_append_left _ he
    have hraw : (Leaf.rawText (.str text) markup).isWellTyped = true := by
      refine htyped (.leaf (.rawText (.str text) markup)) ?_
      rw [hflatten]
      exact List.mem_append_right _ List.mem_cons_self
    obtain ⟨hu, hsteady⟩ := hwhole hinitial hmem
    exact ⟨u, v, hu, run_event_of_step hleaf hsteady hraw fun h => absurd h Bool.false_ne_true,
      hleaf.rendersRawText hraw⟩
  · obtain ⟨hs, hsteady⟩ := hwhole hsteps fun e he => he
    have hadmits : s.renderer.AdmitsClosing (.document parameters') := by
      change s.renderer.abbreviations ≠ []
      rw [hscope]
      exact List.cons_ne_nil _ _
    have hclosing : Step s (.closing (.document parameters'))
        ⟨s.tracker, s.renderer.closed (.document parameters')⟩ := .closing hadmits trivial
    have hclosed := run_event_of_step hclosing hsteady hparameters' fun h =>
      absurd h Bool.false_ne_true
    refine ⟨s, _, hs, hscope, hclosed, ?_, ?_,
      Renderer.capturedText_closed_document hscope hblock parameters'⟩
    · rw [Renderer.abbreviations_closed, hscope]
      rfl
    · exact (Renderer.writes_popped_closed s.renderer (.document parameters')).outer

/-- The abbreviation of a nested document is no definition of the document around it. -/
theorem run_closing_document_around_another :
    let markup (title key : Char) : Text := ['<', 'a', 'b', 'b', 'r', ' ', 't', 'i', 't', 'l', 'e',
      '=', '"', title, '"', '>', key, '<', '/', 'a', 'b', 'b', 'r', '>']
    let raw (title key : Char) : Event :=
      .leaf (.rawText (.str (markup title key)) (.str ['h', 't', 'm', 'l']))
    let paragraph : List Event := .opening (.paragraph (some [])) ::
      ([raw 'x' 'K'] ++ [.closing (.paragraph (some []))])
    let nested : List Event := .opening (.document (some [])) ::
      ([raw 'y' 'N'] ++ [.closing (.document (some []))])
    ∃ s t, (events (.opening (.document (some [])) :: [paragraph, nested].flatten)).run
        (.start {} .plain .plain .buffer) = .ok () s ∧
      (event (.closing (.document (some [])))).run s = .ok () t ∧
      t.renderer.capturedText = s.renderer.capturedText ++ "\n\n*[K]: x".toList := by
  intro markup raw paragraph nested
  have hparagraph : IsPart {} paragraph := .block (.construct rfl rfl rfl)
  have hnested : IsPart {} nested := .document rfl
  have hparts : ∀ part ∈ [paragraph, nested], IsPart {} part :=
    List.forall_mem_cons.mpr ⟨hparagraph, List.forall_mem_singleton.mpr hnested⟩
  have hbefore : ∀ e ∈ ([] : List Event), e.isWellTyped = true := by simp
  have hparameters : Parameters.areTexts (some []) = true := rfl
  obtain ⟨-, s, t, hs, -, ht, -, -, htext⟩ := run_closing_document Serializer.plain_isTotal
    Serializer.plain_isTotal rfl hbefore rfl hparts (by decide) (by decide) hparameters hparameters
  exact ⟨s, t, hs, ht, htext.trans rfl⟩

end TrackedRendering

end DocumentStream
