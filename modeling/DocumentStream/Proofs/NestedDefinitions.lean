import DocumentStream.Proofs.InlineContexts
import DocumentStream.Proofs.Splitting

/-!
Definition lists within definition lists. Terms and descriptions stand on lines of their own,
indented by the depth of their list, a description behind a colon. All terms but the very first one
are set off by an empty line. The counts of items are in the end as they were before the list.
-/

namespace DocumentStream

mutual

/-- The terms of a list, each with its descriptions. There is at least one term. -/
inductive DefinitionGroups where
  | last (term : InlineContent) (descriptions : Descriptions)
  | cons (term : InlineContent) (descriptions : Descriptions) (rest : DefinitionGroups)

/-- The descriptions of a term. Each holds inline content and then lists. -/
inductive Descriptions where
  | nil
  | cons (content : InlineContent) (inner : InnerDefinitions) (rest : Descriptions)

/-- The lists in a description. -/
inductive InnerDefinitions where
  | nil
  | cons (parameters parameters' : Parameters) (groups : DefinitionGroups)
      (rest : InnerDefinitions)

end

/-- A term or a description as a line: how deep its list is and what it begins with. -/
structure DefinitionLine where
  depth : Nat
  isTerm : Bool
  content : InlineContent

namespace DefinitionLine

/-- The text of a term or a description, given that of its content. -/
def shown (line : DefinitionLine) (text : Text) : Text :=
  Text.times (line.depth - 1) Rendering.indent ++
    (if line.isTerm then [] else [':', ' ', ' ', ' ']) ++ text

/-- What is written for a line that is not the first one. -/
def separated (line : DefinitionLine) (text : Text) : Text :=
  (if line.isTerm then ['\n', '\n'] else ['\n']) ++ line.shown text

/-- What is written for lines, where the first one has nothing in front. -/
def texts (text : InlineContent → Text) : List DefinitionLine → Text
  | [] => []
  | first :: rest => first.shown (text first.content) ++
      rest.flatMap fun line => line.separated (text line.content)

end DefinitionLine

mutual

/-- The events of terms and their descriptions. -/
def DefinitionGroups.events : DefinitionGroups → List Event
  | .last term descriptions =>
    .opening .term :: (term.events ++ .closing .term :: descriptions.events)
  | .cons term descriptions rest =>
    .opening .term :: (term.events ++ .closing .term :: (descriptions.events ++ rest.events))

/-- The events of descriptions. -/
def Descriptions.events : Descriptions → List Event
  | .nil => []
  | .cons content inner rest =>
    .opening .description ::
      (content.events ++ (inner.events ++ .closing .description :: rest.events))

/-- The events of lists. -/
def InnerDefinitions.events : InnerDefinitions → List Event
  | .nil => []
  | .cons parameters parameters' groups rest =>
    .opening (.definitionList parameters) ::
      (groups.events ++ .closing (.definitionList parameters') :: rest.events)

end

mutual

/-- The terms and descriptions of a list of the given depth and those of the lists within it, in
the order of the document. -/
def DefinitionGroups.lines (depth : Nat) : DefinitionGroups → List DefinitionLine
  | .last term descriptions => ⟨depth, true, term⟩ :: descriptions.lines depth
  | .cons term descriptions rest =>
    ⟨depth, true, term⟩ :: (descriptions.lines depth ++ rest.lines depth)

/-- The descriptions of a term in a list of the given depth, and what is within them. -/
def Descriptions.lines (depth : Nat) : Descriptions → List DefinitionLine
  | .nil => []
  | .cons content inner rest =>
    ⟨depth, false, content⟩ :: (inner.lines depth ++ rest.lines depth)

/-- The lines of the lists in a description of a list of the given depth. -/
def InnerDefinitions.lines (depth : Nat) : InnerDefinitions → List DefinitionLine
  | .nil => []
  | .cons _ _ groups rest => groups.lines (depth + 1) ++ rest.lines depth

end

mutual

theorem DefinitionGroups.mem_lines {groups : DefinitionGroups} {depth : Nat}
    {line : DefinitionLine} (h : line ∈ groups.lines depth) :
    ∀ e ∈ line.content.events, e ∈ groups.events := by
  cases groups with
  | last term descriptions =>
    rcases List.mem_cons.mp h with rfl | hlater
    · exact fun e he => by simp [DefinitionGroups.events, he]
    · exact fun e he => by
        simp [DefinitionGroups.events, Descriptions.mem_lines hlater e he]
  | cons term descriptions rest =>
    rcases List.mem_cons.mp h with rfl | hlater
    · exact fun e he => by simp [DefinitionGroups.events, he]
    · rcases List.mem_append.mp hlater with hdescriptions | hrest
      · exact fun e he => by
          simp [DefinitionGroups.events, Descriptions.mem_lines hdescriptions e he]
      · exact fun e he => by
          simp [DefinitionGroups.events, DefinitionGroups.mem_lines hrest e he]

theorem Descriptions.mem_lines {descriptions : Descriptions} {depth : Nat}
    {line : DefinitionLine} (h : line ∈ descriptions.lines depth) :
    ∀ e ∈ line.content.events, e ∈ descriptions.events := by
  cases descriptions with
  | nil => simp [Descriptions.lines] at h
  | cons content inner rest =>
    rcases List.mem_cons.mp h with rfl | hlater
    · exact fun e he => by simp [Descriptions.events, he]
    · rcases List.mem_append.mp hlater with hinner | hrest
      · exact fun e he => by
          simp [Descriptions.events, InnerDefinitions.mem_lines hinner e he]
      · exact fun e he => by simp [Descriptions.events, Descriptions.mem_lines hrest e he]

theorem InnerDefinitions.mem_lines {inner : InnerDefinitions} {depth : Nat}
    {line : DefinitionLine} (h : line ∈ inner.lines depth) :
    ∀ e ∈ line.content.events, e ∈ inner.events := by
  cases inner with
  | nil => simp [InnerDefinitions.lines] at h
  | cons parameters parameters' groups rest =>
    rcases List.mem_append.mp h with hgroups | hrest
    · exact fun e he => by
        simp [InnerDefinitions.events, DefinitionGroups.mem_lines hgroups e he]
    · exact fun e he => by
        simp [InnerDefinitions.events, InnerDefinitions.mem_lines hrest e he]

end

mutual

theorem DefinitionGroups.nested (groups : DefinitionGroups) (below : OpenConstructs) :
    OpenConstructs.run? none (.definitionList :: below) groups.events =
      some (.definitionList :: below) := by
  cases groups with
  | last term descriptions =>
    have hterm := OpenConstructs.run?_below term.isInline.nested (.term :: .definitionList :: below)
    rw [DefinitionGroups.events, OpenConstructs.run?_construct_append .term .term rfl rfl hterm]
    exact descriptions.nested below
  | cons term descriptions rest =>
    have hterm := OpenConstructs.run?_below term.isInline.nested (.term :: .definitionList :: below)
    rw [DefinitionGroups.events, OpenConstructs.run?_construct_append .term .term rfl rfl hterm]
    exact OpenConstructs.run?_append_eq_some_iff.mpr
      ⟨_, descriptions.nested below, rest.nested below⟩

theorem Descriptions.nested (descriptions : Descriptions) (below : OpenConstructs) :
    OpenConstructs.run? none (.definitionList :: below) descriptions.events =
      some (.definitionList :: below) := by
  cases descriptions with
  | nil => rfl
  | cons content inner rest =>
    have hcontent := content.run?_append none
      (inner.nested (.description :: .definitionList :: below))
    rw [Descriptions.events, ← List.append_assoc,
      OpenConstructs.run?_construct_append .description .description rfl rfl hcontent]
    exact rest.nested below

theorem InnerDefinitions.nested (inner : InnerDefinitions) (below : OpenConstructs) :
    OpenConstructs.run? none below inner.events = some below := by
  cases inner with
  | nil => rfl
  | cons parameters parameters' groups rest =>
    rw [InnerDefinitions.events, OpenConstructs.run?_construct_append (.definitionList parameters)
      (.definitionList parameters') rfl rfl (groups.nested below)]
    exact rest.nested below

end

/-- The first line is that of a term, so that two line feeds in front set off all of them. -/
theorem DefinitionGroups.append_texts (groups : DefinitionGroups) (text : InlineContent → Text)
    (depth : Nat) :
    ['\n', '\n'] ++ DefinitionLine.texts text (groups.lines depth) =
      (groups.lines depth).flatMap fun line => line.separated (text line.content) := by
  cases groups <;> exact (List.append_assoc ..).symm

namespace TrackedRenderer

variable {options : Options} {linkTarget imageTarget : Serializer} {s t u : TrackedRenderer}
  {text : InlineContent → Text}

/-- Whether a renderer stands in a definition list behind its first term, where the number of the
latest item is given and those in the lists around. -/
structure AfterTerm (options : Options) (linkTarget imageTarget : Serializer) (index : Int)
    (outer : List Int) (s : TrackedRenderer) : Prop where
  onDocument : OnDocument options linkTarget imageTarget s
  hasBlock : s.renderer.hasBlock = true
  counted : 0 ≤ index
  items : s.tracker.definitionItems = index :: outer

/-- What terms and descriptions do to a renderer: they are written and counted. -/
structure WritesDefinitions (options : Options) (linkTarget imageTarget : Serializer)
    (index : Int) (outer : List Int) (written : Text) (s t : TrackedRenderer) : Prop where
  afterTerm : AfterTerm options linkTarget imageTarget index outer t
  tracker : t.tracker = { s.tracker with definitionItems := index :: outer }
  output : t.renderer.output = s.renderer.output ++ written

theorem AfterTerm.writes_nil {index : Int} {outer : List Int}
    (hs : AfterTerm options linkTarget imageTarget index outer s) :
    WritesDefinitions options linkTarget imageTarget index outer [] s s where
  afterTerm := hs
  tracker := by rw [← hs.items]
  output := (List.append_nil _).symm

theorem WritesDefinitions.trans {index index' : Int} {outer : List Int} {written written' : Text}
    (h : WritesDefinitions options linkTarget imageTarget index outer written s t)
    (h' : WritesDefinitions options linkTarget imageTarget index' outer written' t u) :
    WritesDefinitions options linkTarget imageTarget index' outer (written ++ written') s u where
  afterTerm := h'.afterTerm
  tracker := by rw [h'.tracker, h.tracker]
  output := by rw [h'.output, h.output, List.append_assoc]

/-- The content of a term or of a description is written behind the marker. -/
theorem OnDocument.exists_definition (htext : Reads options linkTarget imageTarget false text)
    (hs : OnDocument options linkTarget imageTarget s) {r : Renderer}
    (hwrites : s.renderer.Writes r) (hblock : r.hasBlock = true) {index : Int}
    (hcounted : 0 ≤ index) (outer : List Int) (marker : Text) (content : InlineContent) :
    let tracker := { s.tracker.enterLine with definitionItems := index :: outer }
    ∃ t, Steps ⟨tracker, (r.printed marker).lineStarted⟩ content.events t ∧
      AfterTerm options linkTarget imageTarget index outer t ∧ t.tracker = tracker ∧
      t.renderer.output = r.output ++ marker ++ text content := by
  intro tracker
  obtain ⟨d, hd, hshown⟩ := htext content
  have hline : 0 < tracker.inlineDepth := by
    have hnonneg := hs.inlineDepth
    change 0 < s.tracker.inlineDepth + 1
    omega
  obtain ⟨t, hsteps, htdocument, ht, houtput⟩ :=
    hs.exists_marked hwrites hline marker hd content.isInline.typed
  refine ⟨t, hsteps, ⟨htdocument, ?_, hcounted, ?_⟩, ht.tracker, ?_⟩
  · exact ht.renderer.keeps.hasBlock (by simp [hblock])
  · rw [ht.tracker]
  · rw [houtput, hshown]

/-- The end of a term or of a description. -/
theorem AfterTerm.writes_left {index : Int} {outer : List Int} {written : Text}
    (ht : AfterTerm options linkTarget imageTarget index outer t)
    (hs : OnDocument options linkTarget imageTarget s)
    (htracker : t.tracker = { s.tracker.enterLine with definitionItems := index :: outer })
    (houtput : t.renderer.output = s.renderer.output ++ written) :
    WritesDefinitions options linkTarget imageTarget index outer written s
      ⟨t.tracker.leaveLine, t.renderer.settled⟩ := by
  have hleft : t.tracker.leaveLine = { s.tracker with definitionItems := index :: outer } := by
    rw [htracker]
    simp [Tracker.leaveLine, Tracker.enterLine]
  have hnonneg : 0 ≤ t.tracker.leaveLine.inlineDepth := by
    rw [hleft]
    exact hs.inlineDepth
  refine ⟨⟨?_, ?_, ht.counted, ?_⟩, hleft, ?_⟩
  · exact ht.onDocument.of_writes (Renderer.Writes.settled _) hnonneg
  · simp [ht.hasBlock]
  · exact ht.items
  · exact (Renderer.output_settled ht.onDocument.captures).trans houtput

/-- A whole term. It is set off by an empty line if there is a block before it. -/
theorem OnDocument.exists_term (htext : Reads options linkTarget imageTarget false text)
    (hs : OnDocument options linkTarget imageTarget s) {index : Int} {outer : List Int}
    (hindex : -1 ≤ index) (hitems : s.tracker.definitionItems = index :: outer)
    (term : InlineContent) :
    let line : DefinitionLine := ⟨outer.length + 1, true, term⟩
    ∃ t, Steps s (.opening .term :: (term.events ++ [.closing .term])) t ∧
      WritesDefinitions options linkTarget imageTarget (index + 1) outer
        ((if s.renderer.hasBlock then ['\n', '\n'] else []) ++ line.shown (text term)) s t := by
  intro line
  have hcounted : 0 ≤ index + 1 := by omega
  let marker := Text.times outer.length Rendering.indent
  obtain ⟨u, hcontent, hu, htracker, houtput⟩ :=
    hs.exists_definition htext (Renderer.Writes.setOff s.renderer) (by simp) hcounted outer
      marker term
  have hopen : Step s (.opening .term)
      ⟨{ s.tracker.enterLine with definitionItems := (index + 1) :: outer },
        (s.renderer.setOff.printed marker).lineStarted⟩ := by
    have hadmits : s.tracker.AdmitsOpening .term := by simp [Tracker.AdmitsOpening, hitems]
    have hadmits' : s.renderer.AdmitsOpening .term := trivial
    have hstep := Step.opening hadmits hadmits'
    simpa [Tracker.opened, Tracker.enterLine, Renderer.opened, Tracker.nesting, hitems, marker]
      using hstep
  have hclose : Step u (.closing .term) ⟨u.tracker.leaveLine, u.renderer.settled⟩ :=
    .closing trivial trivial
  refine ⟨_, .cons hopen (Steps.append_iff.mpr ⟨u, hcontent, .cons hclose (.nil _)⟩), ?_⟩
  apply hu.writes_left hs htracker
  rw [houtput, Renderer.output_setOff hs.captures]
  simp [line, DefinitionLine.shown, marker]

/-- What lists in a description do: the numbers of items are in the end as they were before. -/
def WritesInner (options : Options) (linkTarget imageTarget : Serializer)
    (text : InlineContent → Text) (inner : InnerDefinitions) : Prop :=
  ∀ {s : TrackedRenderer} {index : Int} {outer : List Int},
    AfterTerm options linkTarget imageTarget index outer s →
    ∃ t, Steps s inner.events t ∧
      WritesDefinitions options linkTarget imageTarget index outer
        ((inner.lines (outer.length + 1)).flatMap fun line =>
          line.separated (text line.content)) s t

/-- What descriptions of a term do. -/
def WritesDescriptions (options : Options) (linkTarget imageTarget : Serializer)
    (text : InlineContent → Text) (descriptions : Descriptions) : Prop :=
  ∀ {s : TrackedRenderer} {index : Int} {outer : List Int},
    AfterTerm options linkTarget imageTarget index outer s →
    ∃ t last, Steps s descriptions.events t ∧
      WritesDefinitions options linkTarget imageTarget last outer
        ((descriptions.lines (outer.length + 1)).flatMap fun line =>
          line.separated (text line.content)) s t

/-- What the terms of a list do with their descriptions, where the first one of them may be the
first block of all. -/
def WritesGroups (options : Options) (linkTarget imageTarget : Serializer)
    (text : InlineContent → Text) (groups : DefinitionGroups) : Prop :=
  ∀ {s : TrackedRenderer} {index : Int} {outer : List Int},
    OnDocument options linkTarget imageTarget s → -1 ≤ index →
    s.tracker.definitionItems = index :: outer →
    ∃ t last, Steps s groups.events t ∧
      WritesDefinitions options linkTarget imageTarget last outer
        ((if s.renderer.hasBlock then ['\n', '\n'] else []) ++
          DefinitionLine.texts text (groups.lines (outer.length + 1))) s t

/-- A whole description, with the lists in it. -/
theorem AfterTerm.exists_description (htext : Reads options linkTarget imageTarget false text)
    {inner : InnerDefinitions} (hinner : WritesInner options linkTarget imageTarget text inner)
    (content : InlineContent) {index : Int} {outer : List Int}
    (hs : AfterTerm options linkTarget imageTarget index outer s) :
    let line : DefinitionLine := ⟨outer.length + 1, false, content⟩
    ∃ t, Steps s (.opening .description ::
        (content.events ++ (inner.events ++ [.closing .description]))) t ∧
      WritesDefinitions options linkTarget imageTarget (index + 1) outer
        (line.separated (text content) ++ (inner.lines (outer.length + 1)).flatMap fun line =>
          line.separated (text line.content)) s t := by
  intro line
  have hindex := hs.counted
  have hlater : 0 < index + 1 := by omega
  let marker := Text.times outer.length Rendering.indent ++ [':', ' ', ' ', ' ']
  have hopen : Step s (.opening .description)
      ⟨{ s.tracker.enterLine with definitionItems := (index + 1) :: outer },
        ((s.renderer.separated (index + 1)).printed marker).lineStarted⟩ := by
    have hadmits : s.tracker.AdmitsOpening .description := by
      simp [Tracker.AdmitsOpening, hs.items]
    have hadmits' : s.renderer.AdmitsOpening .description := trivial
    have hstep := Step.opening hadmits hadmits'
    simpa [Tracker.opened, Tracker.enterLine, Renderer.opened, Tracker.nesting, hs.items, marker]
      using hstep
  obtain ⟨u, hcontent, hu, htracker, houtput⟩ :=
    hs.onDocument.exists_definition htext (Renderer.Writes.separated s.renderer (index + 1))
      (by simp [hs.hasBlock]) (Int.le_of_lt hlater) outer marker content
  obtain ⟨v, hlists, hv⟩ := hinner hu
  have hclose : Step v (.closing .description) ⟨v.tracker.leaveLine, v.renderer.settled⟩ :=
    .closing trivial trivial
  refine ⟨_, .cons hopen (Steps.append_iff.mpr ⟨u, hcontent, Steps.append_iff.mpr
    ⟨v, hlists, .cons hclose (.nil _)⟩⟩), ?_⟩
  apply hv.afterTerm.writes_left hs.onDocument
  · rw [hv.tracker, htracker]
  · rw [hv.output, houtput, Renderer.output_separated hs.onDocument.captures, if_pos hlater]
    simp [line, DefinitionLine.separated, DefinitionLine.shown, marker]

/-- The terms of a list and its end, behind which the items of the list around count again. -/
theorem OnDocument.exists_closed_definitions {groups : DefinitionGroups}
    (hgroups : WritesGroups options linkTarget imageTarget text groups) (parameters : Parameters)
    (hs : OnDocument options linkTarget imageTarget s) {outer : List Int}
    (hitems : s.tracker.definitionItems = -1 :: outer) :
    ∃ t, Steps s (groups.events ++ [.closing (.definitionList parameters)]) t ∧
      OnDocument options linkTarget imageTarget t ∧ t.renderer.hasBlock = true ∧
      t.tracker = { s.tracker with definitionItems := outer } ∧
      t.renderer.output = s.renderer.output ++
        ((if s.renderer.hasBlock then ['\n', '\n'] else []) ++
          DefinitionLine.texts text (groups.lines (outer.length + 1))) := by
  obtain ⟨u, last, hsteps, hu⟩ := hgroups hs (Int.le_refl (-1)) hitems
  let t : TrackedRenderer := ⟨u.tracker.closed (.definitionList parameters), u.renderer⟩
  have hclose : Step u (.closing (.definitionList parameters)) t := by
    refine .closing trivial ?_
    simp [Tracker.AdmitsClosing, hu.afterTerm.items]
  have hclosed : t.tracker = { s.tracker with definitionItems := outer } := by
    change u.tracker.closed (.definitionList parameters) = _
    rw [hu.tracker]
    rfl
  have hnonneg : 0 ≤ t.tracker.inlineDepth := by
    rw [hclosed]
    exact hs.inlineDepth
  exact ⟨t, Steps.append_iff.mpr ⟨u, hsteps, .cons hclose (.nil _)⟩,
    hu.afterTerm.onDocument.of_writes (Renderer.Writes.refl _) hnonneg, hu.afterTerm.hasBlock,
    hclosed, hu.output⟩

/-- A whole list in a description. -/
theorem AfterTerm.exists_inner_list {groups : DefinitionGroups}
    (hgroups : WritesGroups options linkTarget imageTarget text groups)
    (parameters parameters' : Parameters) {index : Int} {outer : List Int}
    (hs : AfterTerm options linkTarget imageTarget index outer s) :
    ∃ t, Steps s (.opening (.definitionList parameters) ::
        (groups.events ++ [.closing (.definitionList parameters')])) t ∧
      WritesDefinitions options linkTarget imageTarget index outer
        ((groups.lines (outer.length + 2)).flatMap fun line =>
          line.separated (text line.content)) s t := by
  let u : TrackedRenderer :=
    ⟨{ s.tracker with definitionItems := -1 :: index :: outer }, s.renderer⟩
  have hopen : Step s (.opening (.definitionList parameters)) u := by
    have hstep : Step s (.opening (.definitionList parameters))
        ⟨s.tracker.opened (.definitionList parameters), s.renderer⟩ := .opening trivial trivial
    rwa [Tracker.opened, hs.items] at hstep
  have hu : OnDocument options linkTarget imageTarget u :=
    hs.onDocument.of_writes (Renderer.Writes.refl _) hs.onDocument.inlineDepth
  obtain ⟨t, hsteps, ht, hblock, htracker, houtput⟩ :=
    hu.exists_closed_definitions hgroups parameters' rfl
  have hitems : t.tracker.definitionItems = index :: outer := by rw [htracker]
  refine ⟨t, .cons hopen hsteps, ⟨ht, hblock, hs.counted, hitems⟩, htracker, ?_⟩
  rw [houtput, if_pos hs.hasBlock, List.length_cons, groups.append_texts]

mutual

theorem Reads.writesGroups (htext : Reads options linkTarget imageTarget false text)
    (groups : DefinitionGroups) : WritesGroups options linkTarget imageTarget text groups := by
  intro s index outer hs hindex hitems
  cases groups with
  | last term descriptions =>
    obtain ⟨u, hterm, hu⟩ := hs.exists_term htext hindex hitems term
    obtain ⟨t, last, hrest, ht⟩ := htext.writesDescriptions descriptions hu.afterTerm
    refine ⟨t, last, ?_, ?_⟩
    · have hevents : (DefinitionGroups.last term descriptions).events =
          .opening .term :: (term.events ++ [.closing .term]) ++ descriptions.events := by
        simp [DefinitionGroups.events]
      rw [hevents]
      exact Steps.append_iff.mpr ⟨u, hterm, hrest⟩
    · have hall := hu.trans ht
      rwa [List.append_assoc] at hall
  | cons term descriptions rest =>
    obtain ⟨u, hterm, hu⟩ := hs.exists_term htext hindex hitems term
    obtain ⟨v, counted, hdescriptions, hv⟩ := htext.writesDescriptions descriptions hu.afterTerm
    have hcounted : -1 ≤ counted := by
      have hnonneg := hv.afterTerm.counted
      omega
    obtain ⟨t, last, hrest, ht⟩ :=
      htext.writesGroups rest hv.afterTerm.onDocument hcounted hv.afterTerm.items
    rw [if_pos hv.afterTerm.hasBlock, rest.append_texts] at ht
    refine ⟨t, last, ?_, ?_⟩
    · have hevents : (DefinitionGroups.cons term descriptions rest).events =
          .opening .term :: (term.events ++ [.closing .term]) ++
            (descriptions.events ++ rest.events) := by
        simp [DefinitionGroups.events]
      rw [hevents]
      exact Steps.append_iff.mpr ⟨u, hterm, Steps.append_iff.mpr ⟨v, hdescriptions, hrest⟩⟩
    · have hall := hu.trans (hv.trans ht)
      rwa [List.append_assoc, ← List.flatMap_append] at hall

theorem Reads.writesDescriptions (htext : Reads options linkTarget imageTarget false text)
    (descriptions : Descriptions) :
    WritesDescriptions options linkTarget imageTarget text descriptions := by
  intro s index outer hs
  cases descriptions with
  | nil => exact ⟨s, index, .nil s, hs.writes_nil⟩
  | cons content inner rest =>
    obtain ⟨u, hdescription, hu⟩ :=
      hs.exists_description htext (htext.writesInner inner) content
    obtain ⟨t, last, hrest, ht⟩ := htext.writesDescriptions rest hu.afterTerm
    refine ⟨t, last, ?_, ?_⟩
    · have hevents : (Descriptions.cons content inner rest).events = .opening .description ::
          (content.events ++ (inner.events ++ [.closing .description])) ++ rest.events := by
        simp [Descriptions.events]
      rw [hevents]
      exact Steps.append_iff.mpr ⟨u, hdescription, hrest⟩
    · have hall := hu.trans ht
      rwa [List.append_assoc, ← List.flatMap_append] at hall

theorem Reads.writesInner (htext : Reads options linkTarget imageTarget false text)
    (inner : InnerDefinitions) : WritesInner options linkTarget imageTarget text inner := by
  intro s index outer hs
  cases inner with
  | nil => exact ⟨s, .nil s, hs.writes_nil⟩
  | cons parameters parameters' groups rest =>
    obtain ⟨u, hlist, hu⟩ :=
      hs.exists_inner_list (htext.writesGroups groups) parameters parameters'
    obtain ⟨t, hrest, ht⟩ := htext.writesInner rest hu.afterTerm
    refine ⟨t, ?_, ?_⟩
    · have hevents : (InnerDefinitions.cons parameters parameters' groups rest).events =
          .opening (.definitionList parameters) ::
            (groups.events ++ [.closing (.definitionList parameters')]) ++ rest.events := by
        simp [InnerDefinitions.events]
      rw [hevents]
      exact Steps.append_iff.mpr ⟨u, hlist, hrest⟩
    · have hall := hu.trans ht
      rwa [← List.flatMap_append] at hall

end

end TrackedRenderer

namespace DefinitionGroups

/-- The events of a definition list with the given terms. -/
def definitionEvents (groups : DefinitionGroups) (parameters parameters' : Parameters) :
    List Event :=
  .opening (.definitionList parameters) ::
    (groups.events ++ [.closing (.definitionList parameters')])

theorem nested_definitionEvents (groups : DefinitionGroups)
    (parameters parameters' : Parameters) :
    OpenConstructs.run? none [] (groups.definitionEvents parameters parameters') = some [] :=
  OpenConstructs.run?_construct_append (.definitionList parameters) (.definitionList parameters')
    rfl rfl (groups.nested []) []

end DefinitionGroups

namespace TrackedRendering

open TrackedRenderer

variable {options : Options} {linkTarget imageTarget : Serializer} {parameters : Parameters}

/-- A definition list that is the only block of a document. Each term and each description, at
whatever depth, is written in the order of the document, with the indentation of its depth, behind
an empty line if it is a term and behind a line feed and a colon if it is a description, and has the
text that its content has in a paragraph. Nothing is in front of the very first term. Lists in a
description leave the counts of the lists around as they were, and so their depth. -/
theorem body_definitionEvents (hlink : linkTarget.IsTotal) (himage : imageTarget.IsTotal)
    (hparameters : Parameters.areTexts parameters = true) {groups : DefinitionGroups}
    {first last : Parameters}
    (htyped : ∀ e ∈ groups.definitionEvents first last, e.isWellTyped = true)
    (hmacros : ∀ e ∈ groups.definitionEvents first last, e.isUnhandled = true →
      options.unhandledMacroMode ≠ .refuse) :
    let lines := groups.lines 1
    ∃ text : InlineContent → Text,
      (∀ line ∈ lines, body options linkTarget imageTarget parameters
        ((LineBlock.paragraph (some []) (some [])).events line.content.events) =
          .ok (text line.content)) ∧
      body options linkTarget imageTarget parameters (groups.definitionEvents first last) =
        .ok (DefinitionLine.texts text lines) ∧
      ∀ (before after : List Event) (inner : InnerDefinitions) (s : TrackedRenderer),
        groups.definitionEvents first last = before ++ (inner.events ++ after) →
        (events (.opening (.document parameters) :: before)).run
          (.start options linkTarget imageTarget .buffer) = .ok () s →
        ∃ t, (events inner.events).run s = .ok () t ∧
          t.tracker.definitionItems = s.tracker.definitionItems := by
  intro lines
  obtain ⟨text, htext⟩ : ∃ text, Reads options linkTarget imageTarget false text :=
    exists_reads hlink
  have hopen : Step (.begun options linkTarget imageTarget) (.opening (.definitionList first)) _ :=
    .opening trivial trivial
  have hbegun : OnDocument options linkTarget imageTarget _ :=
    ⟨hopen.keeps (htyped _ List.mem_cons_self), List.cons_ne_nil _ _, rfl, Int.le_refl 0⟩
  obtain ⟨t, hsteps, ht, -, -, houtput⟩ :=
    hbegun.exists_closed_definitions (htext.writesGroups groups) last rfl
  refine ⟨text, ?_, ?_, ?_⟩
  · intro line hline
    apply body_paragraph_of_reads hlink himage hparameters htext
    intro e he
    exact hmacros e (List.mem_cons_of_mem _ (List.mem_append_left _
      (DefinitionGroups.mem_lines hline e he)))
  · have hbody := body_eq_output_of_steps hlink himage hparameters htyped hmacros
      (.cons hopen hsteps) ht.captures
    rw [houtput] at hbody
    exact hbody
  · intro before after inner s hsplit hrun
    obtain ⟨t, ht, habove⟩ := exists_run_above hlink himage hparameters hsplit
      (groups.nested_definitionEvents first last) (inner.nested []) htyped hmacros hrun
    exact ⟨t, ht, habove.tracker.definitionItems.eq_base⟩

/-- A further description and a further term behind a list in a description. -/
theorem body_definitionEvents_behind_inner_list :
    let word (c : Char) : InlineContent :=
      ⟨[.leaf (.word (.str [c]))], rfl, by simp [Event.isInline, Leaf.isInline],
        by simp [Event.isWellTyped, Leaf.isWellTyped, Value.isText]⟩
    let inner : InnerDefinitions := .cons (some []) (some [])
      (.last (word 'c') (.cons (word 'd') .nil .nil)) .nil
    let groups : DefinitionGroups :=
      .cons (word 'a') (.cons (word 'b') inner (.cons (word 'e') .nil .nil))
        (.last (word 'f') .nil)
    ∃ text : InlineContent → Text,
      body {} .plain .plain (some []) (groups.definitionEvents (some []) (some [])) =
        .ok (text (word 'a') ++ "\n:   ".toList ++ text (word 'b') ++
          "\n\n    ".toList ++ text (word 'c') ++ "\n    :   ".toList ++ text (word 'd') ++
          "\n:   ".toList ++ text (word 'e') ++ "\n\n".toList ++ text (word 'f')) := by
  intro word inner groups
  have hnone : Parameters.areTexts (some []) = true := rfl
  have htyped : ∀ e ∈ groups.definitionEvents (some []) (some []), e.isWellTyped = true := by
    decide
  have hmode : ({} : Options).unhandledMacroMode ≠ .refuse := by decide
  obtain ⟨text, -, hbody, -⟩ := body_definitionEvents Serializer.plain_isTotal
    Serializer.plain_isTotal hnone htyped fun _ _ _ => hmode
  have hlines : groups.lines 1 = [⟨1, true, word 'a'⟩, ⟨1, false, word 'b'⟩, ⟨2, true, word 'c'⟩,
      ⟨2, false, word 'd'⟩, ⟨1, false, word 'e'⟩, ⟨1, true, word 'f'⟩] := rfl
  rw [hlines] at hbody
  refine ⟨text, hbody.trans ?_⟩
  simp [DefinitionLine.texts, DefinitionLine.separated, DefinitionLine.shown, Text.times,
    Rendering.indent]

example : (body {} .plain .plain (some []) (DefinitionGroups.definitionEvents
    (.cons ⟨[.leaf (.word (.str ['a']))], rfl, by decide, by decide⟩
      (.cons ⟨[.leaf (.word (.str ['b']))], rfl, by decide, by decide⟩
        (.cons (some []) (some [])
          (.last ⟨[.leaf (.word (.str ['c']))], rfl, by decide, by decide⟩
            (.cons ⟨[.leaf (.word (.str ['d']))], rfl, by decide, by decide⟩ .nil .nil)) .nil)
        .nil)
      (.last ⟨[.leaf (.word (.str ['e']))], rfl, by decide, by decide⟩ .nil))
    (some []) (some []))).toOption =
      some "a\n:   b\n\n    c\n    :   d\n\ne".toList := by
  decide +kernel

end TrackedRendering

end DocumentStream
