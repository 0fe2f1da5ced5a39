import DocumentStream.Proofs.Resumption
import DocumentStream.Proofs.Splitting

/-!
Blocks of a document do not depend on each other. The text of several blocks is made of the texts
that each of them has alone, with an empty line between neighbours. For the first thing that a
block does is to set itself off, which writes what was held back before it, and from there on its
rendering is in step with the one in a new document.
-/

namespace DocumentStream

/-- Whether a complete construct of this kind is a block whatever it holds. -/
def ConstructKind.isBlock : ConstructKind → Bool
  | .paragraph | .heading | .list | .quotation | .table => true
  | _ => false

/-- The events of a block: a complete construct that is set off, with any properly nested content,
or a leaf that stands for a block. A definition list has to begin with a term. -/
inductive IsBlock (options : Options) : List Event → Prop
  | construct {first last : Construct} {content : List Event} (hblock : first.kind.isBlock = true)
      (hlast : last.kind = first.kind)
      (hcontent : OpenConstructs.run? (some first.kind) [] content = some []) :
      IsBlock options (.opening first :: (content ++ [.closing last]))
  | definitionList {parameters parameters' : Parameters} {content : List Event}
      (hcontent : OpenConstructs.run? (some .definitionList) [] (.opening .term :: content) =
        some []) :
      IsBlock options (.opening (.definitionList parameters) ::
        (.opening .term :: content ++ [.closing (.definitionList parameters')]))
  | rule (parameters : Parameters) : IsBlock options [.leaf (.rule parameters)]
  | code {id content isInline : Value} {parameters : Parameters}
      (hcode : Rendering.isCode id = true) (hblock : isInline.isTruthy = false) :
      IsBlock options [.leaf (.call id content isInline parameters)]
  | call {id content isInline : Value} {parameters : Parameters}
      (hcode : Rendering.isCode id = false) (hmode : options.unhandledMacroMode = .wiki)
      (hblock : isInline.isTruthy = false) :
      IsBlock options [.leaf (.call id content isInline parameters)]
  | rawText {text markup : Value} (hplain : (Leaf.rawText text markup).isAbbreviation = false) :
      IsBlock options [.leaf (.rawText text markup)]

namespace Renderer

/-- Whether a renderer stands between two blocks of a document, compared with one that has rendered
nothing of its document yet. -/
structure Follows (f r : Renderer) : Prop where
  options : r.options = f.options
  linkTarget : r.linkTarget = f.linkTarget
  imageTarget : r.imageTarget = f.imageTarget
  settings : r.document.settings = f.document.settings
  unwritten : f.document.written = [] ∧ f.document.pending = [] ∧ f.document.lineStart = true
  captures : f.captures = [] ∧ r.captures = []
  hasBlock : f.hasBlock = false ∧ r.hasBlock = true
  listStyles : r.listStyles = f.listStyles
  tables : r.tables = f.tables
  abbreviations : ∃ scope scope', f.abbreviations = [scope] ∧ r.abbreviations = [scope']

/-- The text of a document that is written when what is held back is. -/
def output (r : Renderer) : Text := r.document.settled.written

namespace Follows

variable {f r : Renderer}

/-- Setting off the next block writes an empty line and is all that the block sees of those before
it. -/
theorem setOff (h : Follows f r) : Resumes (r.output ++ ['\n', '\n']) f.setOff r.setOff := by
  obtain ⟨hwritten, hheld, hlineStart⟩ := h.unwritten
  obtain ⟨hf, hr⟩ := h.captures
  obtain ⟨hfresh, hblock⟩ := h.hasBlock
  have hdocument : r.document.settled.write ['\n', '\n'] =
      f.document.resumed (r.output ++ ['\n', '\n']) := by
    have hsettings := (Printer.settled_settings r.document).trans h.settings
    have hpending := r.document.settled_pending
    unfold output
    generalize r.document.settled = p at hsettings hpending
    generalize f.document = q at hsettings hwritten hheld hlineStart
    cases p
    cases q
    simp_all [Printer.write, Printer.resumed, Printer.settings, Text.endsLine]
  have hfset : f.setOff = { f with hasBlock := true } := by simp [Renderer.setOff, hfresh]
  have hrset : r.setOff = { r with document := r.document.settled.write ['\n', '\n'] } := by
    simp [Renderer.setOff, hblock, printed, withPrinter, printer, hr]
  rw [hfset, hrset, hdocument]
  obtain ⟨scope, scope', hscope, hscope'⟩ := h.abbreviations
  exact ⟨h.options, h.linkTarget, h.imageTarget, rfl, hr.trans hf.symm, hblock, h.listStyles,
    h.tables, [], scope, scope', hscope, hscope'⟩

theorem passedOver (h : Follows f r) (text : Text) :
    Follows (f.passedOver text) (r.passedOver text) := by
  unfold Renderer.passedOver
  split
  · split
    · exact h
    · exact { h with }
  · exact h

end Follows

theorem output_passedOver (r : Renderer) (text : Text) : (r.passedOver text).output = r.output := by
  unfold passedOver
  split
  · split
    · rfl
    · rfl
  · rfl

/-- A renderer that resumes one between two blocks stands there too. -/
theorem Follows.of_resumes {past : Text} {f g r : Renderer} (h : Follows f g)
    (hresumes : Resumes past g r) : Follows f r where
  options := hresumes.options.trans h.options
  linkTarget := hresumes.linkTarget.trans h.linkTarget
  imageTarget := hresumes.imageTarget.trans h.imageTarget
  settings := by
    rw [hresumes.document]
    exact h.settings
  unwritten := h.unwritten
  captures := ⟨h.captures.1, hresumes.captures.trans h.captures.2⟩
  hasBlock := ⟨h.hasBlock.1, hresumes.hasBlock.trans h.hasBlock.2⟩
  listStyles := hresumes.listStyles.trans h.listStyles
  tables := hresumes.tables.trans h.tables
  abbreviations := by
    obtain ⟨scope, scope', hf, hg⟩ := h.abbreviations
    obtain ⟨upper, last, last', hg', hr⟩ := hresumes.abbreviations
    have hupper : upper = [] := by
      have hlength := congrArg List.length (hg.symm.trans hg')
      simpa using hlength
    exact ⟨scope, last', hf, by rw [hr, hupper, List.nil_append]⟩

theorem output_of_resumes {past : Text} {f r : Renderer} (h : Resumes past f r) :
    r.output = past ++ f.output := by
  rw [output, h.document, Printer.resumed_settled]
  rfl

end Renderer

namespace TrackedRenderer

/-- A new renderer that was told of a document. -/
def begun (options : Options) (linkTarget imageTarget : Serializer) : TrackedRenderer where
  renderer := { Renderer.start options linkTarget imageTarget .buffer with abbreviations := [[]] }

/-- Whether a renderer with its tracker stands between two blocks, compared with one that has
rendered nothing yet. -/
structure Follows (f s : TrackedRenderer) : Prop where
  tracker : s.tracker = f.tracker
  quotationDepth : f.tracker.quotationDepth = 0
  renderer : f.renderer.Follows s.renderer

namespace Follows

variable {f s : TrackedRenderer}

theorem opening (h : Follows f s) {construct : Construct}
    (hsetsOff : construct.setsOff (f.tracker.opened construct).nesting = true) :
    Resumes (s.renderer.output ++ ['\n', '\n'])
      ⟨f.tracker.opened construct,
        f.renderer.opened (f.tracker.opened construct).nesting construct⟩
      ⟨f.tracker.opened construct,
        s.renderer.opened (f.tracker.opened construct).nesting construct⟩ := by
  refine ⟨rfl, Renderer.Resumes.opened_of_setOff hsetsOff h.renderer.setOff, ?_⟩
  intro hpos
  dsimp only at hpos ⊢
  rw [Tracker.quotationDepth_opened, h.quotationDepth] at hpos
  rw [Renderer.previousQuotationDepth_opened, Renderer.previousQuotationDepth_opened]
  by_cases hkind : construct.kind = .quotation
  · rw [if_pos hkind, if_pos hkind]
  · rw [if_neg hkind] at hpos
    exact absurd hpos (by decide)

theorem leaf (h : Follows f s) {past : Text} {l : Leaf}
    (hshown : Renderer.Resumes past (f.renderer.shown f.tracker.nesting l)
      (s.renderer.shown f.tracker.nesting l)) :
    Resumes past ⟨f.tracker, f.renderer.shown f.tracker.nesting l⟩
      ⟨f.tracker, s.renderer.shown f.tracker.nesting l⟩ := by
  refine ⟨rfl, hshown, ?_⟩
  intro hpos
  exact absurd h.quotationDepth (Int.ne_of_gt hpos)

/-- After balanced content at the level of the document the renderer stands between two blocks. -/
theorem of_above {options : Options} {linkTarget imageTarget : Serializer}
    (h : (begun options linkTarget imageTarget).Above [] f)
    (hkeeps : (begun options linkTarget imageTarget).renderer.Keeps f.renderer)
    (hblock : f.renderer.hasBlock = true) : Follows (begun options linkTarget imageTarget) f where
  tracker := h.tracker.eq_base rfl rfl
  quotationDepth := rfl
  renderer :=
    { options := hkeeps.options
      linkTarget := hkeeps.linkTarget
      imageTarget := hkeeps.imageTarget
      settings := hkeeps.document
      unwritten := ⟨rfl, rfl, rfl⟩
      captures := ⟨rfl, List.length_eq_zero_iff.mp h.renderer.length_captures⟩
      hasBlock := ⟨rfl, hblock⟩
      listStyles := h.renderer.listStyles.eq_base
      tables := h.renderer.tables.eq_base
      abbreviations := by
        have hlength : f.renderer.abbreviations.length = 1 := h.renderer.abbreviations
        obtain ⟨scope, hscope⟩ := List.length_eq_one_iff.mp hlength
        exact ⟨[], scope, rfl, hscope⟩ }

end Follows

end TrackedRenderer

/-- A construct that is a block finds all it needs and is set off at the level of the document. -/
theorem Construct.setsOff_of_isBlock {construct : Construct}
    (hblock : construct.kind.isBlock = true) (t : Tracker) (r : Renderer) :
    t.AdmitsOpening construct ∧ r.AdmitsOpening construct ∧
      construct.setsOff (({} : Tracker).opened construct).nesting = true := by
  cases construct <;> first
    | exact absurd hblock Bool.false_ne_true
    | exact ⟨trivial, trivial, rfl⟩

namespace IsBlock

variable {options : Options} {block : List Event}

theorem balanced (h : IsBlock options block) : OpenConstructs.run? none [] block = some [] := by
  cases h with
  | @construct first last content hblock hlast hcontent =>
    have hfits : first.kind.fitsIn none = true := by
      cases hkind : first.kind <;> simp_all [ConstructKind.isBlock, ConstructKind.fitsIn,
        ConstructKind.home?]
    exact OpenConstructs.run?_construct hfits hlast hcontent
  | definitionList hcontent => exact OpenConstructs.run?_construct rfl rfl hcontent
  | _ => rfl

open TrackedRenderer

/-- A leaf that stands for a block is set off like any block. -/
theorem exists_start_of_leaf {f s : TrackedRenderer} (htracker : f.tracker = {})
    (habbreviations : f.renderer.abbreviations ≠ [] ∧ s.renderer.abbreviations ≠ [])
    (hs : Follows f s) {l : Leaf}
    (hshown : f.renderer.Follows s.renderer →
      Renderer.Resumes (s.renderer.output ++ ['\n', '\n'])
        (f.renderer.shown ({} : Tracker).nesting l) (s.renderer.shown ({} : Tracker).nesting l)) :
    ∃ head rest g t, [.leaf l] = head ++ rest ∧ Steps f head g ∧ Steps s head t ∧
      Resumes (s.renderer.output ++ ['\n', '\n']) g t := by
  have hresumes := hshown hs.renderer
  rw [← htracker] at hresumes
  obtain ⟨tracker, renderer⟩ := s
  obtain rfl : tracker = f.tracker := hs.tracker
  exact ⟨[.leaf l], [], _, _, rfl, .cons (.leaf fun _ => habbreviations.1) (.nil _),
    .cons (.leaf fun _ => habbreviations.2) (.nil _), hs.leaf hresumes⟩

/-- The first step or two of a block set it off. From there on it is rendered in step with one that
nothing comes before. -/
theorem exists_start {linkTarget imageTarget : Serializer} {s : TrackedRenderer}
    (h : IsBlock options block) (hblock : ∀ e ∈ block, e.isWellTyped = true)
    (hs : Follows (.begun options linkTarget imageTarget) s) :
    ∃ head rest f t, block = head ++ rest ∧
      Steps (.begun options linkTarget imageTarget) head f ∧ Steps s head t ∧
      Resumes (s.renderer.output ++ ['\n', '\n']) f t := by
  obtain ⟨tracker, renderer⟩ := s
  obtain rfl : tracker = {} := hs.tracker
  have hscope : renderer.abbreviations ≠ [] := by
    obtain ⟨scope, scope', -, hscope'⟩ := hs.renderer.abbreviations
    exact List.ne_nil_of_length_pos (by rw [hscope']; exact Nat.one_pos)
  have hscopes : (begun options linkTarget imageTarget).renderer.abbreviations ≠ [] ∧
      renderer.abbreviations ≠ [] := ⟨List.cons_ne_nil _ _, hscope⟩
  cases h with
  | @construct first last content hkind hlast hcontent =>
    obtain ⟨ht, hr, hsetsOff⟩ := Construct.setsOff_of_isBlock hkind {}
      (begun options linkTarget imageTarget).renderer
    obtain ⟨-, hr', -⟩ := Construct.setsOff_of_isBlock hkind {} renderer
    exact ⟨[.opening first], content ++ [.closing last], _, _, rfl,
      .cons (.opening ht hr) (.nil _), .cons (.opening ht hr') (.nil _), hs.opening hsetsOff⟩
  | @definitionList parameters parameters' content hcontent =>
    -- the list itself writes nothing, so that its first term is what is set off
    have hlist : Follows ⟨{ definitionItems := [-1] },
        (begun options linkTarget imageTarget).renderer⟩
        ⟨{ definitionItems := [-1] }, renderer⟩ := ⟨rfl, rfl, hs.renderer⟩
    have hsetsOff : Construct.term.setsOff
        (({ definitionItems := [-1] } : Tracker).opened .term).nesting = true := rfl
    have hitems : ({ definitionItems := [-1] } : Tracker).AdmitsOpening .term :=
      List.cons_ne_nil _ _
    exact ⟨[.opening (.definitionList parameters), .opening .term],
      content ++ [.closing (.definitionList parameters')], _, _, rfl,
      .cons (.opening trivial trivial) (.cons (.opening hitems trivial) (.nil _)),
      .cons (.opening trivial trivial) (.cons (.opening hitems trivial) (.nil _)),
      hlist.opening hsetsOff⟩
  | rule parameters =>
    exact exists_start_of_leaf rfl hscopes hs fun hfollows => hfollows.setOff.printed _
  | code hcode hinline =>
    refine exists_start_of_leaf rfl hscopes hs fun hfollows => ?_
    simp only [Renderer.shown, Renderer.coded, hcode, hinline, if_true, Bool.false_eq_true,
      if_false]
    exact hfollows.setOff.printed _
  | @call id content isInline parameters hcode hmode hinline =>
    have htyped : (Leaf.call id content isInline parameters).isWellTyped = true :=
      hblock _ List.mem_cons_self
    simp only [Leaf.isWellTyped, Bool.and_eq_true] at htyped
    obtain ⟨⟨⟨hid, hcontent⟩, -⟩, hparameters⟩ := htyped
    obtain ⟨entries, rfl, hentries⟩ := Parameters.exists_entries_of_areTexts hparameters
    obtain ⟨call, hcall⟩ := Rendering.exists_macroCall hid hcontent hentries
    have hmode' : renderer.options.unhandledMacroMode = .wiki := by
      rw [hs.renderer.options]
      exact hmode
    refine exists_start_of_leaf rfl hscopes hs fun hfollows => ?_
    have hfresh : (begun options linkTarget imageTarget).renderer.options.unhandledMacroMode =
        .wiki := hmode
    simp only [Renderer.shown, Renderer.called, hcode, hinline, hmode', hfresh, hcall,
      Option.getD_some, Bool.false_eq_true, if_false]
    exact hfollows.setOff.printed _
  | @rawText value markup hplain =>
    have htyped : (Leaf.rawText value markup).isWellTyped = true := hblock _ List.mem_cons_self
    simp only [Leaf.isWellTyped, Bool.and_eq_true] at htyped
    obtain ⟨text, rfl⟩ := Value.exists_text_of_isText htyped.1
    have hnone : Abbreviation.ofRawText? text = none := by simpa [Leaf.isAbbreviation] using hplain
    refine exists_start_of_leaf rfl hscopes hs fun hfollows => ?_
    have hset := (hfollows.passedOver text).setOff
    rw [Renderer.output_passedOver] at hset
    simp only [Renderer.shown, hnone]
    exact hset.printed _

/-- A block is rendered wherever it follows others, and there in step with one that nothing comes
before. -/
theorem exists_steps {linkTarget imageTarget : Serializer} {s : TrackedRenderer}
    (h : IsBlock options block) (hblock : ∀ e ∈ block, e.isWellTyped = true)
    (hs : Follows (.begun options linkTarget imageTarget) s) :
    ∃ f t, Steps (.begun options linkTarget imageTarget) block f ∧ Steps s block t ∧
      Resumes (s.renderer.output ++ ['\n', '\n']) f t ∧
      Follows (.begun options linkTarget imageTarget) f ∧
      Follows (.begun options linkTarget imageTarget) t := by
  have hbegun : (begun options linkTarget imageTarget).Above []
      (begun options linkTarget imageTarget) := Above.refl (Int.le_refl 0) fun _ => rfl
  have hdocument : (begun options linkTarget imageTarget).renderer.abbreviations ≠ [] :=
    List.cons_ne_nil _ _
  obtain ⟨f, hf⟩ := hbegun.exists_steps hdocument h.balanced hblock
  have hdone := hbegun.steps h.balanced hblock hf
  obtain ⟨head, rest, g, u, rfl, hhead, hhead', hresumes⟩ := h.exists_start hblock hs
  have htypedHead : ∀ e ∈ head, e.isWellTyped = true := fun e he =>
    hblock e (List.mem_append_left rest he)
  have htypedRest : ∀ e ∈ rest, e.isWellTyped = true := fun e he =>
    hblock e (List.mem_append_right head he)
  obtain ⟨opened, hopened, hclosed⟩ := OpenConstructs.run?_append_eq_some_iff.mp h.balanced
  obtain ⟨g', hg', hrest⟩ := Steps.append_iff.mp hf
  obtain rfl := hhead.unique hg'
  obtain ⟨t, hrest', hlast⟩ := hresumes.steps (hbegun.steps hopened htypedHead hhead) hdocument
    hclosed htypedRest hrest
  have ht : Steps s (head ++ rest) t := Steps.append_iff.mpr ⟨u, hhead', hrest'⟩
  have hfblock : f.renderer.hasBlock = true := by
    rw [← hlast.renderer.hasBlock]
    exact (ht.keeps hblock).hasBlock hs.renderer.hasBlock.2
  have hfollows := Follows.of_above hdone (hf.keeps hblock) hfblock
  refine ⟨f, t, hf, ht, hlast, hfollows, ?_⟩
  exact ⟨hlast.tracker.trans hfollows.tracker, rfl, hfollows.renderer.of_resumes hlast.renderer⟩

end IsBlock

theorem Rendering.run_text {r : Renderer} (h : r.HoldsText) (hcaptures : r.captures = [])
    (hsink : r.document.sink = .buffer) :
    text.run r = .ok r.output { r with document := r.document.settled } := by
  have hdocument : r.document.HoldsText := h _ (by simp [Renderer.printers])
  have hsettled : r.document.settled.sink = .buffer :=
    (congrArg Prod.fst (Printer.settled_settings r.document)).trans hsink
  have hlog : r.log ++ openScopesReport r.captures.length = r.log := by
    rw [hcaptures]
    exact List.append_nil r.log
  rw [run_text_eq, Printer.flush_eq_ok hdocument]
  simp only [Printer.text?, hsettled, hlog]
  rfl

namespace TrackedRendering

open TrackedRenderer

/-- The text that a new renderer gives after it was told of a document and of events in it. -/
def body (options : Options) (linkTarget imageTarget : Serializer) (parameters : Parameters)
    (es : List Event) : Except RenderFault Text :=
  match (textOf (.opening (.document parameters) :: es)).run
      (.start options linkTarget imageTarget .buffer) with
  | .ok text _ => .ok text
  | .error fault _ => .error fault

/-- Where steps end with nothing captured, the text is what the document holds then. -/
theorem body_eq_output_of_steps {options : Options} {linkTarget imageTarget : Serializer}
    {parameters : Parameters} (hlink : linkTarget.IsTotal) (himage : imageTarget.IsTotal)
    (hparameters : Parameters.areTexts parameters = true) {es : List Event}
    (hes : ∀ e ∈ es, e.isWellTyped = true)
    (hmacros : ∀ e ∈ es, e.isUnhandled = true → options.unhandledMacroMode ≠ .refuse)
    {t : TrackedRenderer} (hsteps : Steps (.begun options linkTarget imageTarget) es t)
    (hcaptures : t.renderer.captures = []) :
    body options linkTarget imageTarget parameters es = .ok t.renderer.output := by
  have hstart : (TrackedRenderer.start options linkTarget imageTarget .buffer).renderer.Steady :=
    Renderer.start_steady hlink himage options .buffer
  have hopen : Steps (.start options linkTarget imageTarget .buffer)
      (.opening (.document parameters) :: es) t := .cons (.opening trivial trivial) hsteps
  have htyped : ∀ e ∈ .opening (.document parameters) :: es, e.isWellTyped = true :=
    List.forall_mem_cons.mpr ⟨hparameters, hes⟩
  have hrun := run_events_of_steps hopen hstart htyped
    (List.forall_mem_cons.mpr ⟨fun h => absurd h Bool.false_ne_true, hmacros⟩)
  have hsink : t.renderer.document.sink = .buffer :=
    congrArg Prod.fst (hsteps.keeps hes).document
  have htext := Rendering.run_text (hopen.steady hstart htyped).holdsText hcaptures hsink
  rw [body, textOf, run_bind_of_ok hrun, run_ofRendering htext]

section

variable {options : Options} {linkTarget imageTarget : Serializer} {parameters : Parameters}
  (hmode : options.unhandledMacroMode ≠ .refuse) (hlink : linkTarget.IsTotal)
  (himage : imageTarget.IsTotal) (hparameters : Parameters.areTexts parameters = true)

include hmode hlink himage hparameters

theorem body_eq_output {es : List Event} (hes : ∀ e ∈ es, e.isWellTyped = true)
    {t : TrackedRenderer} (hsteps : Steps (.begun options linkTarget imageTarget) es t)
    (hcaptures : t.renderer.captures = []) :
    body options linkTarget imageTarget parameters es = .ok t.renderer.output :=
  body_eq_output_of_steps hlink himage hparameters hes (fun _ _ _ => hmode) hsteps hcaptures

/-- Blocks that follow others each add an empty line and the text that they have alone. -/
theorem exists_texts {blocks : List (List Event)}
    (hblocks : ∀ block ∈ blocks, IsBlock options block)
    (htyped : ∀ block ∈ blocks, ∀ e ∈ block, e.isWellTyped = true) {s : TrackedRenderer}
    (hs : Follows (.begun options linkTarget imageTarget) s) :
    ∃ texts t, blocks.mapM (body options linkTarget imageTarget parameters) = .ok texts ∧
      Steps s blocks.flatten t ∧ t.renderer.captures = [] ∧
      t.renderer.output = s.renderer.output ++ texts.flatMap (['\n', '\n'] ++ ·) := by
  induction blocks generalizing s with
  | nil => exact ⟨[], s, rfl, .nil s, hs.renderer.captures.2, (List.append_nil _).symm⟩
  | cons block rest ih =>
    have hblock := htyped block List.mem_cons_self
    obtain ⟨f, t, hf, ht, hresumes, hf', ht'⟩ :=
      (hblocks block List.mem_cons_self).exists_steps hblock hs
    obtain ⟨texts, u, hbodies, hu, hcaptures, houtput⟩ :=
      ih (fun other hother => hblocks other (List.mem_cons_of_mem _ hother))
        (fun other hother => htyped other (List.mem_cons_of_mem _ hother)) ht'
    have hbody := body_eq_output hmode hlink himage hparameters hblock hf hf'.renderer.captures.2
    refine ⟨f.renderer.output :: texts, u, ?_, ?_, hcaptures, ?_⟩
    · rw [List.mapM_cons, hbody, hbodies]
      rfl
    · exact Steps.append_iff.mpr ⟨t, ht, hu⟩
    · rw [houtput, Renderer.output_of_resumes hresumes.renderer, List.flatMap_cons]
      simp only [List.append_assoc]

/-- The text of blocks is made of the texts that they have alone, joined by empty lines. -/
theorem body_flatten {blocks : List (List Event)}
    (hblocks : ∀ block ∈ blocks, IsBlock options block)
    (htyped : ∀ block ∈ blocks, ∀ e ∈ block, e.isWellTyped = true) :
    ∃ texts, blocks.mapM (body options linkTarget imageTarget parameters) = .ok texts ∧
      body options linkTarget imageTarget parameters blocks.flatten =
        .ok (Text.join ['\n', '\n'] texts) := by
  cases blocks with
  | nil =>
    exact ⟨[], rfl, body_eq_output hmode hlink himage hparameters (by simp) (.nil _) rfl⟩
  | cons block rest =>
    have hblock := htyped block List.mem_cons_self
    -- what comes before the first block is a document in which nothing but a block was noted
    have hmarked : Follows (.begun options linkTarget imageTarget)
        ⟨{}, { (begun options linkTarget imageTarget).renderer with hasBlock := true }⟩ :=
      ⟨rfl, rfl, rfl, rfl, rfl, rfl, ⟨rfl, rfl, rfl⟩, ⟨rfl, rfl⟩, ⟨rfl, rfl⟩, rfl, rfl,
        [], [], rfl, rfl⟩
    obtain ⟨f, -, hf, -, -, hfollows, -⟩ :=
      (hblocks block List.mem_cons_self).exists_steps hblock hmarked
    obtain ⟨texts, t, hbodies, ht, hcaptures, houtput⟩ :=
      exists_texts hmode hlink himage hparameters
        (fun other hother => hblocks other (List.mem_cons_of_mem _ hother))
        (fun other hother => htyped other (List.mem_cons_of_mem _ hother)) hfollows
    have hbody :=
      body_eq_output hmode hlink himage hparameters hblock hf hfollows.renderer.captures.2
    have hflatten : ∀ e ∈ (block :: rest).flatten, e.isWellTyped = true := by
      intro e he
      obtain ⟨other, hother, he⟩ := List.mem_flatten.mp he
      exact htyped other hother e he
    refine ⟨f.renderer.output :: texts, ?_, ?_⟩
    · rw [List.mapM_cons, hbody, hbodies]
      rfl
    · rw [body_eq_output hmode hlink himage hparameters hflatten
        (Steps.append_iff.mpr ⟨f, hf, ht⟩) hcaptures, houtput, Text.join_cons]

end

/-- A paragraph and a rule. -/
theorem body_flatten_paragraph_rule :
    let paragraph : List Event := .opening (.paragraph (some [])) ::
      ([.leaf (.word (.str ['a']))] ++ [.closing (.paragraph (some []))])
    let rule : List Event := [.leaf (.rule (some []))]
    ∃ texts, [paragraph, rule].mapM (body {} .plain .plain (some [])) = .ok texts ∧
      body {} .plain .plain (some []) [paragraph, rule].flatten =
        .ok (Text.join ['\n', '\n'] texts) := by
  intro paragraph rule
  have hparagraph : IsBlock {} paragraph := .construct rfl rfl rfl
  have hrule : IsBlock {} rule := .rule _
  refine body_flatten (by decide) Serializer.plain_isTotal Serializer.plain_isTotal rfl ?_
    (by decide)
  intro block hblock
  rcases List.mem_cons.mp hblock with rfl | hblock
  · exact hparagraph
  · rwa [List.mem_singleton.mp hblock]

end TrackedRendering

end DocumentStream
