import DocumentStream.Proofs.InlineContexts
import DocumentStream.Proofs.Splitting

/-!
Quotations within quotations. Every line stands behind as many marks as there are quotations around
it, and all lines but the first behind an empty line of the quotation. How many marks that one has
depends on the quotation that was opened last, which may be closed again. The lines are counted
through all quotations, so that nowhere else a line is taken for the first one.
-/

namespace DocumentStream

/-- What an inscription writes before anything is escaped. -/
def Inscription.text : Inscription → Text
  | .nothing => []
  | .markup text => text
  | .document value => value.text?.getD []

/-- Whether an event of inline content writes no line feed, nor the target of a link that it
closes. -/
def Event.KeepsLine (mode : MacroMode) (linkTarget imageTarget : Serializer) (e : Event) : Prop :=
  (∀ i, e.inscription? mode imageTarget = some i → '\n' ∉ i.text) ∧
    ∀ reference flag parameters, e = .closing (.link reference flag parameters) →
      ∀ target, linkTarget reference = .ok target → '\n' ∉ target.display

theorem Draft.shown_inscribed (d : Draft) (i : Inscription) :
    (d.inscribed i).shown false false = d.shown false false ++ i.text := by
  cases i with
  | nothing => exact (List.append_nil _).symm
  | markup text =>
    have hpieces : [Piece.markup text].flatMap Piece.text = text := List.append_nil text
    exact (d.shown_settled_write [.markup text]).trans (congrArg (_ ++ ·) hpieces)
  | document value => exact d.shown_delay value

theorem Draft.not_mem_shown_linked {d label : Draft} {target : Text}
    (hd : '\n' ∉ d.shown false false) (hlabel : '\n' ∉ label.shown false false)
    (htarget : '\n' ∉ target) : '\n' ∉ (d.linked label target).shown false false := by
  rw [shown_unescaped] at hlabel
  unfold linked
  rw [shown_settled_write, List.mem_append, not_or]
  refine ⟨hd, ?_⟩
  split
  · simp [Piece.text, htarget]
  · simpa [Piece.text, htarget] using hlabel

/-- Content of events that keep the line is shown in one line. -/
theorem Drafted.not_mem_shown {mode : MacroMode} {linkTarget imageTarget : Serializer}
    {d d' : Draft} {content : List Event}
    (h : Drafted mode linkTarget imageTarget d content d') (hd : '\n' ∉ d.shown false false)
    (hcontent : ∀ e ∈ content, e.KeepsLine mode linkTarget imageTarget) :
    '\n' ∉ d'.shown false false := by
  induction h with
  | nil d => exact hd
  | event he hrest ih =>
    rw [List.forall_mem_cons] at hcontent
    apply ih _ hcontent.2
    rw [Draft.shown_inscribed, List.mem_append, not_or]
    exact ⟨hd, hcontent.1.1 _ he⟩
  | link hlabel htarget hrest ihlabel ih =>
    simp only [List.forall_mem_cons, List.forall_mem_append] at hcontent
    obtain ⟨-, hinner, hclosing, hlater⟩ := hcontent
    have hempty (lineStart : Bool) : '\n' ∉ Draft.shown { lineStart } false false := by
      simp [Draft.shown, Draft.settled]
    exact ih (Draft.not_mem_shown_linked hd (ihlabel (hempty _) hinner)
      (hclosing.2 _ _ _ rfl _ htarget)) hlater

mutual

/-- The lines of a quotation. There is at least one, and each holds inline content and then
quotations. -/
inductive QuotationLines where
  | last (content : InlineContent) (inner : InnerQuotations)
  | cons (content : InlineContent) (inner : InnerQuotations) (rest : QuotationLines)

/-- The quotations in a line. -/
inductive InnerQuotations where
  | nil
  | cons (parameters parameters' : Parameters) (lines : QuotationLines) (rest : InnerQuotations)

end

/-- What quotations are made of, each with the number of quotations around it: the opening of a
quotation, which counts itself, and the beginning of a line with its content. -/
inductive QuotationPart where
  | opening (depth : Nat)
  | line (depth : Nat) (content : InlineContent)

/-- A line with the number of quotations around it and with that of the quotation opened last. -/
structure QuotedLine where
  depth : Nat
  latest : Nat
  content : InlineContent

namespace QuotationPart

/-- The depth of the quotation opened last, where one of a given depth was opened before. -/
def latest (before : Nat) : List QuotationPart → Nat
  | [] => before
  | .opening depth :: rest => latest depth rest
  | .line _ _ :: rest => latest before rest

/-- The lines, where a quotation of a given depth was opened before. -/
def lines (before : Nat) : List QuotationPart → List QuotedLine
  | [] => []
  | .opening depth :: rest => lines depth rest
  | .line depth content :: rest => ⟨depth, before, content⟩ :: lines before rest

theorem latest_append (before : Nat) (first second : List QuotationPart) :
    latest before (first ++ second) = latest (latest before first) second := by
  induction first generalizing before with
  | nil => rfl
  | cons part rest ih => cases part <;> exact ih _

theorem lines_append (before : Nat) (first second : List QuotationPart) :
    lines before (first ++ second) = lines before first ++ lines (latest before first) second := by
  induction first generalizing before with
  | nil => rfl
  | cons part rest ih =>
    cases part with
    | opening depth => exact ih depth
    | line depth content => exact congrArg (_ :: ·) (ih before)

theorem line_mem_of_mem_lines {before : Nat} {parts : List QuotationPart} {line : QuotedLine}
    (h : line ∈ lines before parts) : .line line.depth line.content ∈ parts := by
  induction parts generalizing before with
  | nil => simp [lines] at h
  | cons part rest ih =>
    cases part with
    | opening depth => exact List.mem_cons_of_mem _ (ih h)
    | line depth content =>
      rcases List.mem_cons.mp h with rfl | hrest
      · exact List.mem_cons_self
      · exact List.mem_cons_of_mem _ (ih hrest)

end QuotationPart

mutual

/-- The events of lines. -/
def QuotationLines.events : QuotationLines → List Event
  | .last content inner =>
    .opening .quotationLine :: (content.events ++ (inner.events ++ [.closing .quotationLine]))
  | .cons content inner rest =>
    .opening .quotationLine ::
      (content.events ++ (inner.events ++ .closing .quotationLine :: rest.events))

/-- The events of quotations. -/
def InnerQuotations.events : InnerQuotations → List Event
  | .nil => []
  | .cons parameters parameters' lines rest =>
    .opening (.quotation parameters) ::
      (lines.events ++ .closing (.quotation parameters') :: rest.events)

end

mutual

/-- The parts of the lines of a quotation of the given depth, in the order of the document. -/
def QuotationLines.parts (depth : Nat) : QuotationLines → List QuotationPart
  | .last content inner => .line depth content :: inner.parts depth
  | .cons content inner rest => .line depth content :: (inner.parts depth ++ rest.parts depth)

/-- The parts of the quotations in a line of a quotation of the given depth. -/
def InnerQuotations.parts (depth : Nat) : InnerQuotations → List QuotationPart
  | .nil => []
  | .cons _ _ lines rest =>
    .opening (depth + 1) :: (lines.parts (depth + 1) ++ rest.parts depth)

end

namespace QuotedLine

/-- The text of a line, given that of its content. -/
def shown (line : QuotedLine) (text : Text) : Text := Text.times line.depth ['>', ' '] ++ text

/-- The empty line in front. -/
def emptyLine (line : QuotedLine) : Text := '>' :: Text.times (line.latest - 2) [' ', '>']

/-- What is written for a line that is not the first one. -/
def separated (line : QuotedLine) (text : Text) : Text :=
  Rendering.quotationSeparator line.latest ++ line.shown text

/-- The lines of text that quoted lines come to: their own, with the empty ones in between. -/
def texts (text : InlineContent → Text) : List QuotedLine → List Text
  | [] => []
  | first :: rest =>
    first.shown (text first.content) ::
      rest.flatMap fun line => [line.emptyLine, line.shown (text line.content)]

theorem separated_eq (line : QuotedLine) (text : Text) :
    line.separated text = '\n' :: line.emptyLine ++ '\n' :: line.shown text := by
  simp [separated, Rendering.quotationSeparator, emptyLine]

theorem join_texts (text : InlineContent → Text) (first : QuotedLine) (rest : List QuotedLine) :
    Text.join ['\n'] (texts text (first :: rest)) = first.shown (text first.content) ++
      rest.flatMap fun line => line.separated (text line.content) := by
  rw [texts, Text.join_cons, List.flatMap_assoc]
  congr 2
  funext line
  rw [separated_eq]
  simp

theorem length_texts (text : InlineContent → Text) {lines : List QuotedLine} (hne : lines ≠ []) :
    (texts text lines).length = 2 * lines.length - 1 := by
  obtain ⟨first, rest, rfl⟩ := List.exists_cons_of_ne_nil hne
  have hrest : ∀ rest : List QuotedLine, (rest.flatMap fun line =>
      [line.emptyLine, line.shown (text line.content)]).length = 2 * rest.length := by
    intro rest
    induction rest with
    | nil => rfl
    | cons line rest ih =>
      rw [List.flatMap_cons, List.length_append, ih]
      simp only [List.length_cons, List.length_nil]
      omega
  rw [texts, List.length_cons, hrest, List.length_cons]
  omega

theorem head?_shown {line : QuotedLine} (hdepth : 1 ≤ line.depth) (text : Text) :
    (line.shown text).head? = some '>' := by
  obtain ⟨n, hn⟩ : ∃ n, line.depth = n + 1 := ⟨line.depth - 1, by omega⟩
  rw [shown, Text.times, hn, Int.toNat_natCast, List.replicate_succ, List.flatten_cons]
  rfl

/-- The lines of text are told apart, and all of them begin as lines of a quotation, where no
content has more than one line. -/
theorem splitAtChar_join_texts {text : InlineContent → Text} {lines : List QuotedLine}
    (hne : lines ≠ []) (hdepth : ∀ line ∈ lines, 1 ≤ line.depth)
    (htext : ∀ line ∈ lines, '\n' ∉ text line.content) :
    Text.splitAtChar '\n' (Text.join ['\n'] (texts text lines)) = texts text lines ∧
      ∀ line ∈ texts text lines, line.head? = some '>' := by
  obtain ⟨first, rest, rfl⟩ := List.exists_cons_of_ne_nil hne
  have hshown : ∀ line ∈ first :: rest, '\n' ∉ line.shown (text line.content) ∧
      (line.shown (text line.content)).head? = some '>' := by
    intro line hline
    refine ⟨?_, head?_shown (hdepth line hline) _⟩
    rw [shown, List.mem_append, not_or]
    exact ⟨Text.not_mem_times (by decide), htext line hline⟩
  have hempty : ∀ line : QuotedLine, '\n' ∉ line.emptyLine := by
    intro line
    rw [emptyLine, List.mem_cons, not_or]
    exact ⟨by decide, Text.not_mem_times (by decide)⟩
  have hall : ∀ line ∈ texts text (first :: rest), '\n' ∉ line ∧ line.head? = some '>' := by
    rw [List.forall_mem_cons] at hshown
    rw [texts, List.forall_mem_cons]
    refine ⟨hshown.1, fun line hline => ?_⟩
    obtain ⟨quoted, hquoted, hmem⟩ := List.mem_flatMap.mp hline
    simp only [List.mem_cons, List.not_mem_nil, or_false] at hmem
    rcases hmem with rfl | rfl
    · exact ⟨hempty quoted, rfl⟩
    · exact hshown.2 quoted hquoted
  exact ⟨Text.splitAtChar_join (List.cons_ne_nil _ _) fun line hline => (hall line hline).1,
    fun line hline => (hall line hline).2⟩

end QuotedLine

mutual

theorem QuotationLines.mem_parts {lines : QuotationLines} {depth d : Nat}
    {content : InlineContent} (h : .line d content ∈ lines.parts depth) :
    depth ≤ d ∧ ∀ e ∈ content.events, e ∈ lines.events := by
  cases lines with
  | last first inner =>
    rcases List.mem_cons.mp h with heq | hinner
    · obtain ⟨rfl, rfl⟩ := QuotationPart.line.inj heq
      exact ⟨Nat.le_refl _, fun e he => by simp [QuotationLines.events, he]⟩
    · obtain ⟨hdepth, hevents⟩ := InnerQuotations.mem_parts hinner
      exact ⟨Nat.le_of_succ_le hdepth, fun e he => by
        simp [QuotationLines.events, hevents e he]⟩
  | cons first inner rest =>
    rcases List.mem_cons.mp h with heq | hlater
    · obtain ⟨rfl, rfl⟩ := QuotationPart.line.inj heq
      exact ⟨Nat.le_refl _, fun e he => by simp [QuotationLines.events, he]⟩
    · rcases List.mem_append.mp hlater with hinner | hrest
      · obtain ⟨hdepth, hevents⟩ := InnerQuotations.mem_parts hinner
        exact ⟨Nat.le_of_succ_le hdepth, fun e he => by
          simp [QuotationLines.events, hevents e he]⟩
      · obtain ⟨hdepth, hevents⟩ := QuotationLines.mem_parts hrest
        exact ⟨hdepth, fun e he => by simp [QuotationLines.events, hevents e he]⟩

theorem InnerQuotations.mem_parts {inner : InnerQuotations} {depth d : Nat}
    {content : InlineContent} (h : .line d content ∈ inner.parts depth) :
    depth + 1 ≤ d ∧ ∀ e ∈ content.events, e ∈ inner.events := by
  cases inner with
  | nil => simp [InnerQuotations.parts] at h
  | cons parameters parameters' lines rest =>
    rcases List.mem_cons.mp h with heq | hlater
    · cases heq
    · rcases List.mem_append.mp hlater with hlines | hrest
      · obtain ⟨hdepth, hevents⟩ := QuotationLines.mem_parts hlines
        exact ⟨hdepth, fun e he => by simp [InnerQuotations.events, hevents e he]⟩
      · obtain ⟨hdepth, hevents⟩ := InnerQuotations.mem_parts hrest
        exact ⟨hdepth, fun e he => by simp [InnerQuotations.events, hevents e he]⟩

end

mutual

/-- Lines are in order within a quotation, and leave it open all the time. -/
theorem QuotationLines.nested (lines : QuotationLines) :
    OpenConstructs.run? (some .quotation) [] lines.events = some [] := by
  cases lines with
  | last content inner =>
    have hcontent := content.run?_append (some .quotation) (inner.nested [.quotationLine])
    rw [QuotationLines.events, ← List.append_assoc,
      OpenConstructs.run?_construct_append .quotationLine .quotationLine rfl rfl hcontent]
    rfl
  | cons content inner rest =>
    have hcontent := content.run?_append (some .quotation) (inner.nested [.quotationLine])
    rw [QuotationLines.events, ← List.append_assoc,
      OpenConstructs.run?_construct_append .quotationLine .quotationLine rfl rfl hcontent]
    exact rest.nested

theorem InnerQuotations.nested (inner : InnerQuotations) (below : OpenConstructs) :
    OpenConstructs.run? none below inner.events = some below := by
  cases inner with
  | nil => rfl
  | cons parameters parameters' lines rest =>
    have hfits (kind : ConstructKind) (h : kind.fitsIn (some .quotation) = true) :
        kind.fitsIn (ConstructKind.quotation :: below).head? = true := h
    have hlines : OpenConstructs.run? none (.quotation :: below) lines.events =
        some (.quotation :: below) := OpenConstructs.run?_above hfits lines.nested
    rw [InnerQuotations.events, OpenConstructs.run?_construct_append (.quotation parameters)
      (.quotation parameters') rfl rfl hlines]
    exact rest.nested below

end

/-- Whether an event begins a line of a quotation. -/
def Event.beginsQuotationLine : Event → Bool
  | .opening .quotationLine => true
  | _ => false

namespace TrackedRenderer

variable {options : Options} {linkTarget imageTarget : Serializer} {s t : TrackedRenderer}

/-- While a quotation stays open, each line adds one to the index and nothing takes it back. -/
theorem Step.quotationLine_eq {around : Option ConstructKind} {opened next : OpenConstructs}
    {depth : Int} (hdepth : 0 < depth)
    (hopened : s.tracker.quotationDepth = depth + opened.count .quotation) {e : Event}
    (hnested : OpenConstructs.step? around opened e = some next) (hstep : Step s e t) :
    t.tracker.quotationDepth = depth + next.count .quotation ∧
      t.tracker.quotationLine = s.tracker.quotationLine + [e].countP Event.beginsQuotationLine := by
  cases hstep with
  | @opening construct ht hr =>
    have hnext : construct.kind.fitsIn (opened.head?.or around) = true ∧
        construct.kind :: opened = next := by simpa [OpenConstructs.step?] using hnested
    obtain ⟨-, rfl⟩ := hnext
    rw [Tracker.quotationDepth_opened, Tracker.quotationLine_opened, List.count_cons, hopened]
    cases construct <;> simp [Construct.kind, Event.beginsQuotationLine]
    omega
  | @closing construct hr ht =>
    obtain rfl := OpenConstructs.step?_closing_eq_some_iff.mp hnested
    rw [Tracker.quotationDepth_closed, Tracker.quotationLine_closed, hopened, List.count_cons]
    cases construct <;> simp [Construct.kind, Event.beginsQuotationLine]
    omega
  | leaf hr =>
    obtain rfl := Option.some.inj hnested
    exact ⟨hopened, (Int.add_zero _).symm⟩

theorem Steps.quotationLine_eq {around : Option ConstructKind} {opened last : OpenConstructs}
    {depth : Int} (hdepth : 0 < depth)
    (hopened : s.tracker.quotationDepth = depth + opened.count .quotation) {es : List Event}
    (hnested : OpenConstructs.run? around opened es = some last) (hsteps : Steps s es t) :
    t.tracker.quotationLine = s.tracker.quotationLine + es.countP Event.beginsQuotationLine := by
  induction hsteps generalizing opened with
  | nil s => exact (Int.add_zero _).symm
  | @cons s t u e rest hstep hrest ih =>
    obtain ⟨next, hnext, hlast⟩ := OpenConstructs.run?_cons_eq_some_iff.mp hnested
    obtain ⟨hdepth', hline⟩ := hstep.quotationLine_eq hdepth hopened hnext
    have hcount : (e :: rest).countP Event.beginsQuotationLine =
        [e].countP Event.beginsQuotationLine + rest.countP Event.beginsQuotationLine := by
      rw [← List.countP_append, List.singleton_append]
    rw [ih hdepth' hlast, hline, hcount, Int.natCast_add, Int.add_assoc]

/-- Only the opening of a quotation is remembered as such. -/
theorem Step.previousQuotationDepth_eq {e : Event} (he : e.isWellTyped = true)
    (hother : ∀ parameters, e ≠ .opening (.quotation parameters)) (hstep : Step s e t) :
    t.renderer.previousQuotationDepth = s.renderer.previousQuotationDepth := by
  cases hstep with
  | @opening construct ht hr =>
    rw [Renderer.previousQuotationDepth_opened, if_neg]
    intro hkind
    cases construct with
    | quotation parameters => exact hother parameters rfl
    | _ => cases hkind
  | closing hr ht => exact Renderer.previousQuotationDepth_closed _ _
  | leaf hr => exact Renderer.previousQuotationDepth_shown _ _ he

theorem Steps.previousQuotationDepth_eq {es : List Event} (hes : ∀ e ∈ es, e.isWellTyped = true)
    (hother : ∀ e ∈ es, ∀ parameters, e ≠ .opening (.quotation parameters))
    (hsteps : Steps s es t) :
    t.renderer.previousQuotationDepth = s.renderer.previousQuotationDepth := by
  induction hsteps with
  | nil s => rfl
  | cons hstep hrest ih =>
    rw [List.forall_mem_cons] at hes hother
    exact (ih hes.2 hother.2).trans (hstep.previousQuotationDepth_eq hes.1 hother.1)

/-- A line of a quotation opens behind its marks, with an empty line in front unless it is the first
one, and its content is written behind them. -/
theorem OnDocument.exists_quotationLine (hs : OnDocument options linkTarget imageTarget s)
    {content : InlineContent} {d : Draft}
    (hd : Drafted options.unhandledMacroMode linkTarget imageTarget {} content.events d) :
    ∃ t, Steps s (.opening .quotationLine :: content.events) t ∧
      OnDocument options linkTarget imageTarget t ∧
      t.tracker = s.tracker.opened .quotationLine ∧
      t.renderer.previousQuotationDepth = s.renderer.previousQuotationDepth ∧
      t.renderer.output = s.renderer.output ++
        (if 0 < s.tracker.quotationLine + 1 then
          Rendering.quotationSeparator s.renderer.previousQuotationDepth else []) ++
        Text.times s.tracker.quotationDepth ['>', ' '] ++
        d.shown options.escapeSpecial.isTruthy false := by
  let begun := if 0 < s.tracker.quotationLine + 1 then
    s.renderer.printed (Rendering.quotationSeparator s.renderer.previousQuotationDepth)
    else s.renderer
  have hwrites : s.renderer.Writes begun := by
    unfold begun
    split
    · exact Renderer.Writes.printed _ _
    · exact Renderer.Writes.refl _
  have hbegun : begun.output = s.renderer.output ++ if 0 < s.tracker.quotationLine + 1 then
      Rendering.quotationSeparator s.renderer.previousQuotationDepth else [] := by
    unfold begun
    split
    · exact Renderer.output_printed hs.captures _
    · exact (List.append_nil _).symm
  have hline : 0 < (s.tracker.opened .quotationLine).inlineDepth := by
    have hnonneg := hs.inlineDepth
    change 0 < s.tracker.inlineDepth + 1
    omega
  obtain ⟨t, hsteps, htdocument, ht, houtput⟩ := hs.exists_marked hwrites hline
    (Text.times s.tracker.quotationDepth ['>', ' ']) hd content.isInline.typed
  have hopen : Step s (.opening .quotationLine)
      ⟨s.tracker.opened .quotationLine,
        (begun.printed (Text.times s.tracker.quotationDepth ['>', ' '])).lineStarted⟩ :=
    .opening trivial trivial
  have hother : ∀ e ∈ Event.opening .quotationLine :: content.events, ∀ parameters,
      e ≠ .opening (.quotation parameters) := by
    rw [List.forall_mem_cons]
    refine ⟨fun _ => nofun, ?_⟩
    rintro e he parameters rfl
    cases content.isInline.inline _ he
  have hall : Steps s (.opening .quotationLine :: content.events) t := .cons hopen hsteps
  refine ⟨t, hall, htdocument, ht.tracker, ?_, ?_⟩
  · exact hall.previousQuotationDepth_eq
      (List.forall_mem_cons.mpr ⟨rfl, content.isInline.typed⟩) hother
  · rw [houtput, hbegun]

variable {text : InlineContent → Text}

/-- What the parts of quotations do to a renderer within the outermost one: all their lines are
written as lines that are not the first, and counted, and the depth of the quotation opened last is
remembered. -/
structure WritesParts (options : Options) (linkTarget imageTarget : Serializer)
    (text : InlineContent → Text) (parts : List QuotationPart) (before : Nat)
    (s t : TrackedRenderer) : Prop where
  onDocument : OnDocument options linkTarget imageTarget t
  tracker : t.tracker = { s.tracker with
    quotationLine := s.tracker.quotationLine + (QuotationPart.lines before parts).length }
  latest : t.renderer.previousQuotationDepth = QuotationPart.latest before parts
  output : t.renderer.output = s.renderer.output ++
    (QuotationPart.lines before parts).flatMap fun line => line.separated (text line.content)

theorem WritesParts.trans {u : TrackedRenderer} {parts parts' : List QuotationPart} {before : Nat}
    (h : WritesParts options linkTarget imageTarget text parts before s t)
    (h' : WritesParts options linkTarget imageTarget text parts'
      (QuotationPart.latest before parts) t u) :
    WritesParts options linkTarget imageTarget text (parts ++ parts') before s u where
  onDocument := h'.onDocument
  tracker := by
    rw [h'.tracker, h.tracker, QuotationPart.lines_append, List.length_append, Int.natCast_add,
      Int.add_assoc]
  latest :=
    h'.latest.trans (congrArg Nat.cast (QuotationPart.latest_append before parts parts').symm)
  output := by
    rw [h'.output, h.output, QuotationPart.lines_append, List.flatMap_append, List.append_assoc]

/-- Whether a renderer stands within a quotation of the given depth, where that of the quotation
opened last is also given. -/
structure Quotes (options : Options) (linkTarget imageTarget : Serializer) (depth before : Nat)
    (s : TrackedRenderer) : Prop where
  onDocument : OnDocument options linkTarget imageTarget s
  depth_pos : 0 < depth
  depth_eq : s.tracker.quotationDepth = depth
  lineDepth : 0 ≤ s.tracker.quotationLineDepth
  previous : s.renderer.previousQuotationDepth = before

theorem WritesParts.quotes {parts : List QuotationPart} {depth before : Nat}
    (h : WritesParts options linkTarget imageTarget text parts before s t)
    (hs : Quotes options linkTarget imageTarget depth before s) :
    Quotes options linkTarget imageTarget depth (QuotationPart.latest before parts) t where
  onDocument := h.onDocument
  depth_pos := hs.depth_pos
  depth_eq := by rw [h.tracker, hs.depth_eq]
  lineDepth := by
    rw [h.tracker]
    exact hs.lineDepth
  previous := h.latest

/-- What quotations in a line do. -/
def WritesQuotations (options : Options) (linkTarget imageTarget : Serializer)
    (text : InlineContent → Text) (inner : InnerQuotations) : Prop :=
  ∀ {s : TrackedRenderer} {depth before : Nat},
    Quotes options linkTarget imageTarget depth before s → 0 < s.tracker.quotationLineDepth →
    0 ≤ s.tracker.quotationLine →
    ∃ t, Steps s inner.events t ∧
      WritesParts options linkTarget imageTarget text (inner.parts depth) before s t

/-- What lines of a quotation do, of which none is the first one. -/
def WritesLines (options : Options) (linkTarget imageTarget : Serializer)
    (text : InlineContent → Text) (lines : QuotationLines) : Prop :=
  ∀ {s : TrackedRenderer} {depth before : Nat},
    Quotes options linkTarget imageTarget depth before s → 0 ≤ s.tracker.quotationLine →
    ∃ t, Steps s lines.events t ∧
      WritesParts options linkTarget imageTarget text (lines.parts depth) before s t

/-- Behind the content of a line further quotations may open. -/
theorem Quotes.exists_opened_line (htext : Reads options linkTarget imageTarget false text)
    (content : InlineContent) {depth before : Nat}
    (hs : Quotes options linkTarget imageTarget depth before s)
    (hindex : -1 ≤ s.tracker.quotationLine) :
    let line : QuotedLine := ⟨depth, before, content⟩
    ∃ t, Steps s (.opening .quotationLine :: content.events) t ∧
      Quotes options linkTarget imageTarget depth before t ∧ 0 < t.tracker.quotationLineDepth ∧
      0 ≤ t.tracker.quotationLine ∧ t.tracker = s.tracker.opened .quotationLine ∧
      t.renderer.output = s.renderer.output ++
        ((if 0 < s.tracker.quotationLine + 1 then Rendering.quotationSeparator before else []) ++
          line.shown (text content)) := by
  intro line
  obtain ⟨d, hd, hshown⟩ := htext content
  obtain ⟨t, hsteps, ht, htracker, hprevious, houtput⟩ := hs.onDocument.exists_quotationLine hd
  have hline := hs.lineDepth
  have hwithin : 0 < t.tracker.quotationLineDepth := by
    rw [htracker]
    change 0 < s.tracker.quotationLineDepth + 1
    omega
  have hcounted : 0 ≤ t.tracker.quotationLine := by
    rw [htracker]
    change 0 ≤ s.tracker.quotationLine + 1
    omega
  have hdepth : t.tracker.quotationDepth = depth := by
    rw [htracker]
    exact hs.depth_eq
  refine ⟨t, hsteps, ⟨ht, hs.depth_pos, hdepth, Int.le_of_lt hwithin,
    hprevious.trans hs.previous⟩, hwithin, hcounted, htracker, ?_⟩
  rw [houtput, hshown, hs.previous, hs.depth_eq]
  simp only [List.append_assoc, line, QuotedLine.shown]

/-- A whole line writes itself and the quotations in it. Only the first one has no empty line in
front. -/
theorem Quotes.exists_closed_line (htext : Reads options linkTarget imageTarget false text)
    {inner : InnerQuotations} (hinner : WritesQuotations options linkTarget imageTarget text inner)
    (content : InlineContent) {depth before : Nat}
    (hs : Quotes options linkTarget imageTarget depth before s)
    (hindex : -1 ≤ s.tracker.quotationLine) :
    let line : QuotedLine := ⟨depth, before, content⟩
    let rest := QuotationPart.lines before (inner.parts depth)
    ∃ t, Steps s (.opening .quotationLine ::
        (content.events ++ (inner.events ++ [.closing .quotationLine]))) t ∧
      OnDocument options linkTarget imageTarget t ∧
      t.tracker = { s.tracker with
        quotationLine := s.tracker.quotationLine + ((rest.length + 1 : Nat) : Int) } ∧
      t.renderer.previousQuotationDepth = QuotationPart.latest before (inner.parts depth) ∧
      t.renderer.output = s.renderer.output ++
        ((if 0 < s.tracker.quotationLine + 1 then Rendering.quotationSeparator before else []) ++
          line.shown (text content) ++
          rest.flatMap fun line => line.separated (text line.content)) := by
  intro line rest
  obtain ⟨u, hopen, hu, hwithin, hcounted, htracker, houtput⟩ :=
    hs.exists_opened_line htext content hindex
  obtain ⟨v, hquotations, hv⟩ := hinner hu hwithin hcounted
  let t : TrackedRenderer := ⟨v.tracker.closed .quotationLine, v.renderer.settled⟩
  have hclose : Step v (.closing .quotationLine) t := .closing trivial trivial
  have hwrites := Renderer.Writes.settled v.renderer
  have hleft : t.tracker = { s.tracker with
      quotationLine := s.tracker.quotationLine + ((rest.length + 1 : Nat) : Int) } := by
    change v.tracker.closed .quotationLine = _
    rw [hv.tracker, htracker]
    simp only [Tracker.opened, Tracker.closed, Tracker.enterLine, Tracker.leaveLine,
      Int.add_sub_cancel, Tracker.mk.injEq, true_and, and_true, rest]
    omega
  have hnonneg : 0 ≤ t.tracker.inlineDepth := by
    rw [hleft]
    exact hs.onDocument.inlineDepth
  refine ⟨t, ?_, hv.onDocument.of_writes hwrites hnonneg, hleft,
    hwrites.previousQuotationDepth.trans hv.latest, ?_⟩
  · rw [← List.cons_append]
    exact Steps.append_iff.mpr
      ⟨u, hopen, Steps.append_iff.mpr ⟨v, hquotations, .cons hclose (.nil _)⟩⟩
  · change v.renderer.settled.output = _
    rw [Renderer.output_settled hv.onDocument.captures, hv.output, houtput]
    simp only [List.append_assoc, line, rest]

/-- A line that is not the first one. -/
theorem Quotes.exists_later_line (htext : Reads options linkTarget imageTarget false text)
    {inner : InnerQuotations} (hinner : WritesQuotations options linkTarget imageTarget text inner)
    (content : InlineContent) {depth before : Nat}
    (hs : Quotes options linkTarget imageTarget depth before s)
    (hindex : 0 ≤ s.tracker.quotationLine) :
    ∃ t, Steps s (.opening .quotationLine ::
        (content.events ++ (inner.events ++ [.closing .quotationLine]))) t ∧
      WritesParts options linkTarget imageTarget text
        (.line depth content :: inner.parts depth) before s t := by
  obtain ⟨t, hsteps, ht, htracker, hlatest, houtput⟩ :=
    hs.exists_closed_line htext hinner content (by omega)
  refine ⟨t, hsteps, ht, htracker, hlatest, ?_⟩
  rw [houtput, if_pos (by omega)]
  rfl

/-- A whole quotation in a line. -/
theorem Quotes.exists_closed_quotation {lines : QuotationLines}
    (hlines : WritesLines options linkTarget imageTarget text lines)
    (parameters parameters' : Parameters) {depth before : Nat}
    (hs : Quotes options linkTarget imageTarget depth before s)
    (hline : 0 < s.tracker.quotationLineDepth) (hindex : 0 ≤ s.tracker.quotationLine) :
    ∃ t, Steps s (.opening (.quotation parameters) ::
        (lines.events ++ [.closing (.quotation parameters')])) t ∧
      WritesParts options linkTarget imageTarget text
        (.opening (depth + 1) :: lines.parts (depth + 1)) before s t := by
  have hpos := hs.depth_pos
  let u : TrackedRenderer :=
    ⟨s.tracker.opened (.quotation parameters),
      { s.renderer with previousQuotationDepth := s.tracker.quotationDepth + 1 }⟩
  have hdepth : s.tracker.quotationDepth + 1 = ((depth + 1 : Nat) : Int) := by
    rw [hs.depth_eq]
    rfl
  have hopen : Step s (.opening (.quotation parameters)) u := by
    have hwithin : (s.tracker.opened (.quotation parameters)).nesting.isInQuotationLine = true :=
      decide_eq_true hline
    have hstep : Step s (.opening (.quotation parameters))
        ⟨s.tracker.opened (.quotation parameters),
          s.renderer.opened (s.tracker.opened (.quotation parameters)).nesting
            (.quotation parameters)⟩ := .opening trivial trivial
    rw [Renderer.opened, if_pos hwithin] at hstep
    exact hstep
  have hquotes : Quotes options linkTarget imageTarget (depth + 1) (depth + 1) u :=
    ⟨⟨{ hs.onDocument.keeps with }, hs.onDocument.document, hs.onDocument.captures,
      hs.onDocument.inlineDepth⟩, Nat.succ_pos _, hdepth, hs.lineDepth, hdepth⟩
  obtain ⟨v, hsteps, hv⟩ := hlines hquotes hindex
  let t : TrackedRenderer := ⟨v.tracker.closed (.quotation parameters'), v.renderer⟩
  have hclose : Step v (.closing (.quotation parameters')) t := .closing trivial trivial
  have hopen' : ¬ s.tracker.quotationDepth = 0 := by
    rw [hs.depth_eq]
    omega
  have hleft : t.tracker = { s.tracker with quotationLine := s.tracker.quotationLine +
      (QuotationPart.lines (depth + 1) (lines.parts (depth + 1))).length } := by
    change v.tracker.closed (.quotation parameters') = _
    rw [hv.tracker]
    simp only [u, Tracker.opened, Tracker.closed, Int.add_sub_cancel, if_neg hopen']
  refine ⟨t, .cons hopen (Steps.append_iff.mpr ⟨v, hsteps, .cons hclose (.nil _)⟩), ?_, hleft,
    hv.latest, hv.output⟩
  refine hv.onDocument.of_writes (Renderer.Writes.refl _) ?_
  rw [hleft]
  exact hs.onDocument.inlineDepth

mutual

theorem Reads.writesLines (htext : Reads options linkTarget imageTarget false text)
    (lines : QuotationLines) : WritesLines options linkTarget imageTarget text lines := by
  intro s depth before hs hindex
  cases lines with
  | last content inner =>
    exact hs.exists_later_line htext (htext.writesQuotations inner) content hindex
  | cons content inner rest =>
    obtain ⟨u, hfirst, hu⟩ :=
      hs.exists_later_line htext (htext.writesQuotations inner) content hindex
    have hcounted : 0 ≤ u.tracker.quotationLine := by
      rw [hu.tracker]
      exact Int.add_nonneg hindex (Int.natCast_nonneg _)
    obtain ⟨t, hrest, ht⟩ := htext.writesLines rest (hu.quotes hs) hcounted
    have hevents : (QuotationLines.cons content inner rest).events =
        .opening .quotationLine ::
          (content.events ++ (inner.events ++ [.closing .quotationLine])) ++ rest.events := by
      simp [QuotationLines.events]
    rw [hevents]
    exact ⟨t, Steps.append_iff.mpr ⟨u, hfirst, hrest⟩, hu.trans ht⟩

theorem Reads.writesQuotations (htext : Reads options linkTarget imageTarget false text)
    (inner : InnerQuotations) : WritesQuotations options linkTarget imageTarget text inner := by
  intro s depth before hs hline hindex
  cases inner with
  | nil =>
    exact ⟨s, .nil s, hs.onDocument, by simp [InnerQuotations.parts, QuotationPart.lines],
      hs.previous, (List.append_nil _).symm⟩
  | cons parameters parameters' lines rest =>
    obtain ⟨u, hquotation, hu⟩ := hs.exists_closed_quotation (htext.writesLines lines) parameters
      parameters' hline hindex
    have hwithin : 0 < u.tracker.quotationLineDepth := by
      rw [hu.tracker]
      exact hline
    have hcounted : 0 ≤ u.tracker.quotationLine := by
      rw [hu.tracker]
      exact Int.add_nonneg hindex (Int.natCast_nonneg _)
    obtain ⟨t, hrest, ht⟩ := htext.writesQuotations rest (hu.quotes hs) hwithin hcounted
    have hevents : (InnerQuotations.cons parameters parameters' lines rest).events =
        .opening (.quotation parameters) ::
          (lines.events ++ [.closing (.quotation parameters')]) ++ rest.events := by
      simp [InnerQuotations.events]
    rw [hevents]
    exact ⟨t, Steps.append_iff.mpr ⟨u, hquotation, hrest⟩, hu.trans ht⟩

end

/-- The lines of the outermost quotation, of which the first one has nothing in front. -/
theorem Quotes.exists_first_lines (htext : Reads options linkTarget imageTarget false text)
    (lines : QuotationLines) {depth before : Nat}
    (hs : Quotes options linkTarget imageTarget depth before s)
    (hindex : s.tracker.quotationLine = -1) :
    ∃ t, Steps s lines.events t ∧ OnDocument options linkTarget imageTarget t ∧
      t.renderer.output = s.renderer.output ++ Text.join ['\n']
        (QuotedLine.texts text (QuotationPart.lines before (lines.parts depth))) := by
  have hnone : ¬ 0 < s.tracker.quotationLine + 1 := by omega
  cases lines with
  | last content inner =>
    obtain ⟨t, hsteps, ht, -, -, houtput⟩ :=
      hs.exists_closed_line htext (htext.writesQuotations inner) content (by omega)
    refine ⟨t, hsteps, ht, ?_⟩
    rw [houtput, if_neg hnone, List.nil_append, QuotationLines.parts, QuotationPart.lines,
      QuotedLine.join_texts]
  | cons content inner rest =>
    obtain ⟨u, hfirst, hu, htracker, hlatest, houtput⟩ :=
      hs.exists_closed_line htext (htext.writesQuotations inner) content (by omega)
    have hquotes : Quotes options linkTarget imageTarget depth
        (QuotationPart.latest before (inner.parts depth)) u := by
      refine ⟨hu, hs.depth_pos, ?_, ?_, hlatest⟩
      · rw [htracker, hs.depth_eq]
      · rw [htracker]
        exact hs.lineDepth
    have hcounted : 0 ≤ u.tracker.quotationLine := by
      rw [htracker]
      dsimp only
      omega
    obtain ⟨t, hrest, ht⟩ := htext.writesLines rest hquotes hcounted
    have hevents : (QuotationLines.cons content inner rest).events =
        .opening .quotationLine ::
          (content.events ++ (inner.events ++ [.closing .quotationLine])) ++ rest.events := by
      simp [QuotationLines.events]
    refine ⟨t, ?_, ht.onDocument, ?_⟩
    · rw [hevents]
      exact Steps.append_iff.mpr ⟨u, hfirst, hrest⟩
    · rw [ht.output, houtput, if_neg hnone, List.nil_append, QuotationLines.parts,
        QuotationPart.lines, QuotedLine.join_texts, QuotationPart.lines_append,
        List.flatMap_append]
      simp only [List.append_assoc]

end TrackedRenderer

namespace QuotationLines

/-- The events of a quotation with the given lines. -/
def quotationEvents (lines : QuotationLines) (parameters parameters' : Parameters) : List Event :=
  .opening (.quotation parameters) :: (lines.events ++ [.closing (.quotation parameters')])

/-- The lines of a quotation that stands alone, and of all quotations in it. -/
def quotedLines (lines : QuotationLines) : List QuotedLine :=
  QuotationPart.lines 0 (.opening 1 :: lines.parts 1)

theorem quotedLines_ne_nil (lines : QuotationLines) : lines.quotedLines ≠ [] := by
  cases lines <;> exact List.cons_ne_nil _ _

theorem mem_quotedLines {lines : QuotationLines} {line : QuotedLine}
    (h : line ∈ lines.quotedLines) :
    1 ≤ line.depth ∧ ∀ e ∈ line.content.events, e ∈ lines.events := by
  rcases List.mem_cons.mp (QuotationPart.line_mem_of_mem_lines h) with heq | hmem
  · cases heq
  · exact lines.mem_parts hmem

end QuotationLines

namespace TrackedRendering

open TrackedRenderer

variable {options : Options} {linkTarget imageTarget : Serializer} {parameters : Parameters}

/-- Wherever a line of a quotation begins that stands alone, its index is the number of lines before
it, in whatever quotations they stand. -/
theorem quotationLine_of_run_events (hlink : linkTarget.IsTotal) (himage : imageTarget.IsTotal)
    (hparameters : Parameters.areTexts parameters = true) {lines : QuotationLines}
    {first last : Parameters}
    (htyped : ∀ e ∈ lines.quotationEvents first last, e.isWellTyped = true)
    {before after : List Event} {s : TrackedRenderer}
    (hsplit : lines.quotationEvents first last = before ++ .opening .quotationLine :: after)
    (hrun : (events (.opening (.document parameters) :: before)).run
      (.start options linkTarget imageTarget .buffer) = .ok () s) :
    (s.tracker.before (.opening .quotationLine)).map (fun t => t.nesting.quotationLine) =
      some (before.countP Event.beginsQuotationLine : Int) := by
  have hstart : (TrackedRenderer.start options linkTarget imageTarget .buffer).renderer.Steady :=
    Renderer.start_steady hlink himage options .buffer
  have hbefore : ∀ e ∈ .opening (.document parameters) :: before, e.isWellTyped = true := by
    rw [hsplit] at htyped
    exact List.forall_mem_cons.mpr ⟨hparameters, fun e he => htyped e (List.mem_append_left _ he)⟩
  have hsteps := steps_of_run_events hstart hbefore hrun
  cases before with
  | nil => cases hsplit
  | cons e front =>
    obtain ⟨rfl, hlater⟩ := List.cons.inj hsplit
    obtain ⟨opened, hopened⟩ : ∃ opened,
        OpenConstructs.run? (some .quotation) [] front = some opened := by
      obtain ⟨middle, rfl, hclosing⟩ | ⟨middle, hlines, -⟩ := List.append_eq_append_iff.mp hlater
      · cases middle with
        | nil => cases hclosing
        | cons e middle => simp at hclosing
      · have hnested := lines.nested
        rw [hlines] at hnested
        obtain ⟨opened, hopened, -⟩ := OpenConstructs.run?_append_eq_some_iff.mp hnested
        exact ⟨opened, hopened⟩
    obtain ⟨r, hdocument, hsteps⟩ := Steps.cons_iff.mp hsteps
    obtain ⟨u, hquotation, hsteps⟩ := Steps.cons_iff.mp hsteps
    cases hdocument
    cases hquotation
    have hline := hsteps.quotationLine_eq Int.one_pos rfl hopened
    change some (s.tracker.quotationLine + 1) = _
    rw [hline, List.countP_cons_of_neg (by simp [Event.beginsQuotationLine])]
    change some (-1 + _ + 1) = _
    congr 1
    omega

/-- A quotation that is the only block of a document. Each line, in whatever quotation it stands, is
written behind a mark for each quotation around it and has the text that its content has in a
paragraph. In front of each but the first an empty line is written, with one mark fewer than the
depth of the quotation opened last, and at least one. Where the contents keep to their lines, these
are all lines of the output, and each begins with a mark. -/
theorem body_quotationEvents (hlink : linkTarget.IsTotal) (himage : imageTarget.IsTotal)
    (hparameters : Parameters.areTexts parameters = true) {lines : QuotationLines}
    {first last : Parameters}
    (htyped : ∀ e ∈ lines.quotationEvents first last, e.isWellTyped = true)
    (hmacros : ∀ e ∈ lines.quotationEvents first last, e.isUnhandled = true →
      options.unhandledMacroMode ≠ .refuse) :
    let quoted := lines.quotedLines
    ∃ (text : InlineContent → Text) (output : Text),
      (∀ line ∈ quoted, body options linkTarget imageTarget parameters
        ((LineBlock.paragraph (some []) (some [])).events line.content.events) =
          .ok (text line.content)) ∧
      body options linkTarget imageTarget parameters (lines.quotationEvents first last) =
        .ok output ∧
      output = Text.join ['\n'] (QuotedLine.texts text quoted) ∧
      (∀ line ∈ quoted, (∀ e ∈ line.content.events,
          e.KeepsLine options.unhandledMacroMode linkTarget imageTarget) →
        '\n' ∉ text line.content) ∧
      ((∀ line ∈ quoted, '\n' ∉ text line.content) →
        Text.splitAtChar '\n' output = QuotedLine.texts text quoted ∧
        (Text.splitAtChar '\n' output).length = 2 * quoted.length - 1 ∧
        ∀ line ∈ Text.splitAtChar '\n' output, line.head? = some '>') ∧
      ∀ (before after : List Event) (s : TrackedRenderer),
        lines.quotationEvents first last = before ++ .opening .quotationLine :: after →
        (events (.opening (.document parameters) :: before)).run
          (.start options linkTarget imageTarget .buffer) = .ok () s →
        (s.tracker.before (.opening .quotationLine)).map (fun t => t.nesting.quotationLine) =
          some (before.countP Event.beginsQuotationLine : Int) := by
  intro quoted
  obtain ⟨text, htext⟩ : ∃ text, Reads options linkTarget imageTarget false text :=
    exists_reads hlink
  have hopen : Step (.begun options linkTarget imageTarget) (.opening (.quotation first)) _ :=
    .opening trivial trivial
  have hbegun : Quotes options linkTarget imageTarget 1 1 _ :=
    ⟨⟨hopen.keeps (htyped _ List.mem_cons_self), List.cons_ne_nil _ _, rfl, Int.le_refl 0⟩,
      Nat.one_pos, rfl, Int.le_refl 0, rfl⟩
  obtain ⟨u, hsteps, hu, houtput⟩ := hbegun.exists_first_lines htext lines rfl
  have hclose : Step u (.closing (.quotation last))
      ⟨u.tracker.closed (.quotation last), u.renderer⟩ := .closing trivial trivial
  have hall : Steps (.begun options linkTarget imageTarget) (lines.quotationEvents first last) _ :=
    .cons hopen (Steps.append_iff.mpr ⟨u, hsteps, .cons hclose (.nil _)⟩)
  refine ⟨text, Text.join ['\n'] (QuotedLine.texts text quoted), ?_, ?_, rfl, ?_, ?_, ?_⟩
  · intro line hline
    apply body_paragraph_of_reads hlink himage hparameters htext
    intro e he
    exact hmacros e (List.mem_cons_of_mem _ (List.mem_append_left _
      ((QuotationLines.mem_quotedLines hline).2 e he)))
  · have hbody := body_eq_output_of_steps hlink himage hparameters htyped hmacros hall hu.captures
    rw [hbody]
    exact congrArg Except.ok houtput
  · intro line hline hkeeps hmem
    obtain ⟨d, hd, hshown⟩ := htext line.content
    rw [← hshown] at hmem
    rcases Draft.mem_shown hmem with hbackslash | hplain
    · exact absurd hbackslash (by decide)
    · exact hd.not_mem_shown (by simp [Draft.shown, Draft.settled]) hkeeps hplain
  · intro hlines
    obtain ⟨hsplit, hmarks⟩ := QuotedLine.splitAtChar_join_texts lines.quotedLines_ne_nil
      (fun line hline => (QuotationLines.mem_quotedLines hline).1) hlines
    rw [hsplit]
    exact ⟨rfl, QuotedLine.length_texts text lines.quotedLines_ne_nil, hmarks⟩
  · intro before after s hsplit hrun
    exact quotationLine_of_run_events hlink himage hparameters htyped hsplit hrun

/-- Back in the outermost quotation after two quotations within each other. -/
theorem body_quotationEvents_three_deep :
    let word (c : Char) : InlineContent :=
      ⟨[.leaf (.word (.str [c]))], rfl, by simp [Event.isInline, Leaf.isInline],
        by simp [Event.isWellTyped, Leaf.isWellTyped, Value.isText]⟩
    let third : InnerQuotations := .cons (some []) (some []) (.last (word 'c') .nil) .nil
    let second : InnerQuotations := .cons (some []) (some []) (.last (word 'b') third) .nil
    let lines : QuotationLines := .cons (word 'a') second (.last (word 'd') .nil)
    ∃ text : InlineContent → Text,
      body {} .plain .plain (some []) (lines.quotationEvents (some []) (some [])) =
        .ok (Text.join ['\n'] [['>', ' '] ++ text (word 'a'), ['>'],
          ['>', ' ', '>', ' '] ++ text (word 'b'), ['>', ' ', '>'],
          ['>', ' ', '>', ' ', '>', ' '] ++ text (word 'c'), ['>', ' ', '>'],
          ['>', ' '] ++ text (word 'd')]) := by
  intro word third second lines
  have hnone : Parameters.areTexts (some []) = true := rfl
  have htyped : ∀ e ∈ lines.quotationEvents (some []) (some []), e.isWellTyped = true := by
    decide
  have hmode : ({} : Options).unhandledMacroMode ≠ .refuse := by decide
  obtain ⟨text, output, -, hbody, houtput, -⟩ := body_quotationEvents Serializer.plain_isTotal
    Serializer.plain_isTotal hnone htyped fun _ _ _ => hmode
  refine ⟨text, hbody.trans ?_⟩
  rw [houtput]
  rfl

example : (body {} .plain .plain (some []) (QuotationLines.quotationEvents
    (.cons ⟨[.leaf (.word (.str ['a']))], rfl, by decide, by decide⟩
      (.cons (some []) (some [])
        (.last ⟨[.leaf (.word (.str ['b']))], rfl, by decide, by decide⟩ .nil) .nil)
      (.last ⟨[.leaf (.word (.str ['c']))], rfl, by decide, by decide⟩ .nil))
    (some []) (some []))).toOption = some "> a\n>\n> > b\n>\n> c".toList := by
  decide +kernel

end TrackedRendering

end DocumentStream
