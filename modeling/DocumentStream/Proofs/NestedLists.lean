import DocumentStream.Proofs.InlineContexts
import DocumentStream.Proofs.Splitting

/-!
Lists within lists. Every item stands on a line of its own, indented by the depth of its list and
with the marker of its list, whatever lists the items before it hold. The stacks behind this, one of
markers and one of counts of items, are in the end as they were before the list.
-/

namespace DocumentStream

mutual

/-- The items of a list. There is at least one, and each holds inline content and then lists. -/
inductive ListItems where
  | last (content : InlineContent) (inner : InnerLists)
  | cons (content : InlineContent) (inner : InnerLists) (rest : ListItems)

/-- The lists in an item. -/
inductive InnerLists where
  | nil
  | cons (kind : ListKind) (parameters parameters' : Parameters) (items : ListItems)
      (rest : InnerLists)

end

/-- An item as a line: how deep its list is, of which kind, and what the item begins with. -/
structure ItemLine where
  depth : Nat
  kind : ListKind
  content : InlineContent

/-- The text of an item, given that of its content. -/
def ItemLine.shown (line : ItemLine) (text : Text) : Text :=
  Text.times (line.depth - 1) Rendering.indent ++ Rendering.itemMarker line.kind ++ text

mutual

/-- The events of items. -/
def ListItems.events : ListItems → List Event
  | .last content inner =>
    .opening .listItem :: (content.events ++ (inner.events ++ [.closing .listItem]))
  | .cons content inner rest =>
    .opening .listItem :: (content.events ++ (inner.events ++ .closing .listItem :: rest.events))

/-- The events of lists. -/
def InnerLists.events : InnerLists → List Event
  | .nil => []
  | .cons kind parameters parameters' items rest =>
    .opening (.list kind parameters) ::
      (items.events ++ .closing (.list kind parameters') :: rest.events)

end

mutual

/-- The items of a list of the given depth and kind and the items within them, in the order of the
document. -/
def ListItems.lines (depth : Nat) (kind : ListKind) : ListItems → List ItemLine
  | .last content inner => ⟨depth, kind, content⟩ :: inner.lines depth
  | .cons content inner rest =>
    ⟨depth, kind, content⟩ :: (inner.lines depth ++ rest.lines depth kind)

/-- The items of the lists in an item of a list of the given depth. -/
def InnerLists.lines (depth : Nat) : InnerLists → List ItemLine
  | .nil => []
  | .cons kind _ _ items rest => items.lines (depth + 1) kind ++ rest.lines depth

end

/-- Reads a line back: the depth and the kind of the list, and the text of the item. -/
def readItem? (line : Text) : Option (Nat × ListKind × Text) :=
  let depth := (line.takeWhile (· == ' ')).length / 4 + 1
  match line.dropWhile (· == ' ') with
  | '*' :: ' ' :: text => some (depth, .bulleted, text)
  | '1' :: '.' :: ' ' :: text => some (depth, .numbered, text)
  | _ => none

theorem times_indent (n : Nat) :
    Text.times n Rendering.indent = List.replicate (n * 4) ' ' := by
  have hindent : Rendering.indent = List.replicate 4 ' ' := rfl
  rw [Text.times, hindent, Int.toNat_natCast, List.flatten_replicate_replicate]

theorem ItemLine.readItem?_shown {line : ItemLine} (hdepth : 1 ≤ line.depth) (text : Text) :
    readItem? (line.shown text) = some (line.depth, line.kind, text) := by
  obtain ⟨n, hn⟩ : ∃ n, line.depth = n + 1 := ⟨line.depth - 1, by omega⟩
  have hindent : ((line.depth : Nat) : Int) - 1 = n := by omega
  have hspaces : ∀ c ∈ List.replicate (n * 4) ' ', (c == ' ') = true := by
    intro c hc
    rw [(List.mem_replicate.mp hc).2]
    rfl
  rw [readItem?, shown, hindent, times_indent, List.append_assoc,
    List.takeWhile_append_of_pos hspaces, List.dropWhile_append_of_pos hspaces]
  cases hkind : line.kind <;>
    simp [Rendering.itemMarker, hn]

theorem ItemLine.not_mem_shown (line : ItemLine) {text : Text} (h : '\n' ∉ text) :
    '\n' ∉ line.shown text := by
  have hindent : '\n' ∉ Text.times (line.depth - 1) Rendering.indent :=
    Text.not_mem_times (by decide)
  have hmarker : '\n' ∉ Rendering.itemMarker line.kind := by
    cases line.kind <;> decide
  simp only [shown, List.mem_append]
  rintro ((hmem | hmem) | hmem)
  · exact hindent hmem
  · exact hmarker hmem
  · exact h hmem

/-- Of the lines of an item only the first one reads as an item, if its text has no other that
does. -/
theorem ItemLine.filterMap_readItem?_shown {line : ItemLine} (hdepth : 1 ≤ line.depth) {text : Text}
    (hlater : ∀ later ∈ (Text.splitAtChar '\n' text).tail, readItem? later = none) :
    (Text.splitAtChar '\n' (line.shown text)).filterMap readItem? =
      [(line.depth, line.kind, (Text.splitAtChar '\n' text).headD [])] := by
  obtain ⟨piece, pieces, hpieces⟩ := Text.exists_splitAtChar_eq_cons '\n' text
  have hmarker : '\n' ∉ line.shown [] := line.not_mem_shown (by simp)
  have hshown (text : Text) : line.shown text = line.shown [] ++ text := by simp [shown]
  rw [hpieces, List.tail_cons] at hlater
  rw [hshown, Text.splitAtChar_append hmarker hpieces, ← hshown, hpieces,
    List.filterMap_cons_some (ItemLine.readItem?_shown hdepth piece),
    List.filterMap_eq_nil_iff.mpr hlater]
  rfl

mutual

theorem ListItems.mem_lines {items : ListItems} {depth : Nat} {kind : ListKind} {line : ItemLine}
    (h : line ∈ items.lines depth kind) :
    depth ≤ line.depth ∧ ∀ e ∈ line.content.events, e ∈ items.events := by
  cases items with
  | last content inner =>
    rcases List.mem_cons.mp h with rfl | hinner
    · exact ⟨Nat.le_refl _, fun e he => by simp [ListItems.events, he]⟩
    · obtain ⟨hdepth, hevents⟩ := InnerLists.mem_lines hinner
      exact ⟨Nat.le_of_succ_le hdepth, fun e he => by simp [ListItems.events, hevents e he]⟩
  | cons content inner rest =>
    rcases List.mem_cons.mp h with rfl | hlater
    · exact ⟨Nat.le_refl _, fun e he => by simp [ListItems.events, he]⟩
    · rcases List.mem_append.mp hlater with hinner | hrest
      · obtain ⟨hdepth, hevents⟩ := InnerLists.mem_lines hinner
        exact ⟨Nat.le_of_succ_le hdepth, fun e he => by simp [ListItems.events, hevents e he]⟩
      · obtain ⟨hdepth, hevents⟩ := ListItems.mem_lines hrest
        exact ⟨hdepth, fun e he => by simp [ListItems.events, hevents e he]⟩

theorem InnerLists.mem_lines {inner : InnerLists} {depth : Nat} {line : ItemLine}
    (h : line ∈ inner.lines depth) :
    depth + 1 ≤ line.depth ∧ ∀ e ∈ line.content.events, e ∈ inner.events := by
  cases inner with
  | nil => simp [InnerLists.lines] at h
  | cons kind parameters parameters' items rest =>
    rcases List.mem_append.mp h with hitems | hrest
    · obtain ⟨hdepth, hevents⟩ := ListItems.mem_lines hitems
      exact ⟨hdepth, fun e he => by simp [InnerLists.events, hevents e he]⟩
    · obtain ⟨hdepth, hevents⟩ := InnerLists.mem_lines hrest
      exact ⟨hdepth, fun e he => by simp [InnerLists.events, hevents e he]⟩

end

mutual

theorem ListItems.nested (items : ListItems) (below : OpenConstructs) :
    OpenConstructs.run? none (.list :: below) items.events = some (.list :: below) := by
  cases items with
  | last content inner =>
    have hcontent := content.run?_append none (inner.nested (.listItem :: .list :: below))
    rw [ListItems.events, ← List.append_assoc,
      OpenConstructs.run?_construct_append .listItem .listItem rfl rfl hcontent]
    rfl
  | cons content inner rest =>
    have hcontent := content.run?_append none (inner.nested (.listItem :: .list :: below))
    rw [ListItems.events, ← List.append_assoc,
      OpenConstructs.run?_construct_append .listItem .listItem rfl rfl hcontent]
    exact rest.nested below

theorem InnerLists.nested (inner : InnerLists) (below : OpenConstructs) :
    OpenConstructs.run? none below inner.events = some below := by
  cases inner with
  | nil => rfl
  | cons kind parameters parameters' items rest =>
    rw [InnerLists.events, OpenConstructs.run?_construct_append (.list kind parameters)
      (.list kind parameters') rfl rfl (items.nested below)]
    exact rest.nested below

end

theorem ListItems.lines_ne_nil (items : ListItems) (depth : Nat) (kind : ListKind) :
    items.lines depth kind ≠ [] := by
  cases items <;> exact List.cons_ne_nil _ _

/-- The items are read back from their lines. -/
theorem ListItems.filterMap_readItem?_join (items : ListItems) {depth : Nat} (hdepth : 1 ≤ depth)
    {kind : ListKind} {text : InlineContent → Text}
    (hlater : ∀ line ∈ items.lines depth kind,
      ∀ later ∈ (Text.splitAtChar '\n' (text line.content)).tail, readItem? later = none) :
    (Text.splitAtChar '\n' (Text.join ['\n'] ((items.lines depth kind).map fun line =>
        line.shown (text line.content)))).filterMap readItem? =
      (items.lines depth kind).map fun line =>
        (line.depth, line.kind, (Text.splitAtChar '\n' (text line.content)).headD []) := by
  have hne : ((items.lines depth kind).map fun line => line.shown (text line.content)) ≠ [] :=
    fun h => items.lines_ne_nil depth kind (List.map_eq_nil_iff.mp h)
  rw [Text.splitAtChar_join_eq_flatMap hne, List.flatMap_map, List.filterMap_flatMap,
    List.map_eq_flatMap, List.flatMap_def, List.flatMap_def]
  apply congrArg List.flatten
  apply List.map_congr_left
  intro line hline
  have hline' : 1 ≤ line.depth := Nat.le_trans hdepth (ListItems.mem_lines hline).1
  exact ItemLine.filterMap_readItem?_shown hline' (hlater line hline)

namespace TrackedRenderer

variable {options : Options} {linkTarget imageTarget : Serializer} {s t : TrackedRenderer}

namespace OnDocument

theorem with_listStyles (hs : OnDocument options linkTarget imageTarget s) {tracker : Tracker}
    (hdepth : 0 ≤ tracker.inlineDepth) (styles : List ListKind) :
    OnDocument options linkTarget imageTarget
      ⟨tracker, { s.renderer with listStyles := styles }⟩ :=
  ⟨{ hs.keeps with }, hs.document, hs.captures, hdepth⟩

/-- A list opens in an item of another one behind a line feed. -/
theorem exists_opened_list (hs : OnDocument options linkTarget imageTarget s) {index : Int}
    {outer : List Int} (hitems : s.tracker.listItems = index :: outer) (kind : ListKind)
    (parameters : Parameters) :
    ∃ t, Step s (.opening (.list kind parameters)) t ∧
      OnDocument options linkTarget imageTarget t ∧
      t.tracker = { s.tracker with listItems := -1 :: index :: outer } ∧
      t.renderer.listStyles = kind :: s.renderer.listStyles ∧
      t.renderer.output = s.renderer.output ++ ['\n'] := by
  let tracker : Tracker := { s.tracker with listItems := -1 :: index :: outer }
  let begun := s.renderer.printed ['\n']
  have hwrites : s.renderer.Writes begun := Renderer.Writes.printed s.renderer ['\n']
  have hbegun : OnDocument options linkTarget imageTarget ⟨s.tracker, begun⟩ :=
    hs.of_writes hwrites hs.inlineDepth
  have hopened : s.renderer.opened tracker.nesting (.list kind parameters) =
      { begun with listStyles := kind :: begun.listStyles } := by
    have hdepth : tracker.nesting.listDepth ≠ 1 := by
      simp only [Tracker.nesting, tracker, List.length_cons]
      omega
    simp only [Renderer.opened, if_neg hdepth]
    rfl
  have hopen : Step s (.opening (.list kind parameters))
      ⟨s.tracker.opened (.list kind parameters), s.renderer.opened
        (s.tracker.opened (.list kind parameters)).nesting (.list kind parameters)⟩ :=
    .opening trivial trivial
  have htracker : s.tracker.opened (.list kind parameters) = tracker := by
    simp [Tracker.opened, tracker, hitems]
  rw [htracker, hopened] at hopen
  have hdepth : 0 ≤ tracker.inlineDepth := hs.inlineDepth
  refine ⟨_, hopen, hbegun.with_listStyles hdepth _, rfl, ?_, ?_⟩
  · exact congrArg (kind :: ·) hwrites.listStyles
  · exact Renderer.output_printed hs.captures ['\n']

/-- An item opens with its marker, behind a line feed unless it is the first one of its list, and
its content starts a line. -/
theorem exists_item (hs : OnDocument options linkTarget imageTarget s) {index : Int}
    {outer : List Int} (hitems : s.tracker.listItems = index :: outer) {kind : ListKind}
    {styles : List ListKind} (hstyles : s.renderer.listStyles = kind :: styles)
    {content : List Event} {d : Draft}
    (hd : Drafted options.unhandledMacroMode linkTarget imageTarget {} content d)
    (hcontent : ∀ e ∈ content, e.isWellTyped = true) :
    ∃ t, Steps s (.opening .listItem :: content) t ∧ OnDocument options linkTarget imageTarget t ∧
      t.tracker = { s.tracker.enterLine with listItems := (index + 1) :: outer } ∧
      t.renderer.listStyles = s.renderer.listStyles ∧
      t.renderer.output = s.renderer.output ++ (if 0 < index + 1 then ['\n'] else []) ++
        (Text.times outer.length Rendering.indent ++ Rendering.itemMarker kind) ++
        d.shown options.escapeSpecial.isTruthy false := by
  let tracker : Tracker := { s.tracker.enterLine with listItems := (index + 1) :: outer }
  let marker := Text.times outer.length Rendering.indent ++ Rendering.itemMarker kind
  let u : TrackedRenderer :=
    ⟨tracker, ((s.renderer.separated (index + 1)).printed marker).lineStarted⟩
  have hopen : Step s (.opening .listItem) u := by
    have htracker : s.tracker.opened .listItem = tracker := by
      simp [Tracker.opened, Tracker.enterLine, tracker, hitems]
    have hrenderer : s.renderer.opened tracker.nesting .listItem = u.renderer := by
      simp [Renderer.opened, Tracker.nesting, tracker, u, marker, hstyles]
    have hadmits : s.tracker.AdmitsOpening .listItem := by simp [Tracker.AdmitsOpening, hitems]
    have hadmits' : s.renderer.AdmitsOpening .listItem := by
      simp [Renderer.AdmitsOpening, hstyles]
    have hstep := Step.opening hadmits hadmits'
    rw [htracker, hrenderer] at hstep
    exact hstep
  have hline : 0 < tracker.inlineDepth := by
    have hnonneg := hs.inlineDepth
    change 0 < s.tracker.inlineDepth + 1
    omega
  have hwrites := Renderer.Writes.separated s.renderer (index + 1)
  obtain ⟨t, hsteps, htdocument, ht, houtput⟩ := hs.exists_marked hwrites hline marker hd hcontent
  have hmarked := (Renderer.Writes.printed (s.renderer.separated (index + 1)) marker).trans
    (Renderer.Writes.lineStarted _)
  refine ⟨t, .cons hopen hsteps, htdocument, ht.tracker,
    ht.renderer.listStyles.trans (hwrites.trans hmarked).listStyles, ?_⟩
  rw [houtput, Renderer.output_separated hs.captures]

end OnDocument

/-- What lists in an item do: each of their items is written behind a line feed, and tracker and
markers are in the end as they were before. -/
def WritesLists (options : Options) (linkTarget imageTarget : Serializer)
    (text : InlineContent → Text) (inner : InnerLists) : Prop :=
  ∀ {s : TrackedRenderer} {index : Int} {outer : List Int},
    OnDocument options linkTarget imageTarget s → s.tracker.listItems = index :: outer →
    ∃ t, Steps s inner.events t ∧ OnDocument options linkTarget imageTarget t ∧
      t.tracker = s.tracker ∧ t.renderer.listStyles = s.renderer.listStyles ∧
      t.renderer.output = s.renderer.output ++
        (inner.lines (outer.length + 1)).flatMap fun line => '\n' :: line.shown (text line.content)

/-- What the items of a list do: they are written on lines of their own, behind a line feed unless
they are the first ones of the list, and counted on. -/
def WritesItems (options : Options) (linkTarget imageTarget : Serializer)
    (text : InlineContent → Text) (items : ListItems) : Prop :=
  ∀ {s : TrackedRenderer} {index : Int} {outer : List Int} {kind : ListKind}
    {styles : List ListKind}, OnDocument options linkTarget imageTarget s → -1 ≤ index →
    s.tracker.listItems = index :: outer → s.renderer.listStyles = kind :: styles →
    ∃ t last, Steps s items.events t ∧ OnDocument options linkTarget imageTarget t ∧ 0 ≤ last ∧
      t.tracker = { s.tracker with listItems := last :: outer } ∧
      t.renderer.listStyles = s.renderer.listStyles ∧
      t.renderer.output = s.renderer.output ++ (if 0 < index + 1 then ['\n'] else []) ++
        Text.join ['\n'] ((items.lines (outer.length + 1) kind).map fun line =>
          line.shown (text line.content))

variable {text : InlineContent → Text}

/-- A whole item writes its line and those of the lists in it. -/
theorem OnDocument.exists_closed_item (htext : Reads options linkTarget imageTarget false text)
    {inner : InnerLists} (hinner : WritesLists options linkTarget imageTarget text inner)
    (content : InlineContent) (hs : OnDocument options linkTarget imageTarget s) {index : Int}
    {outer : List Int} (hitems : s.tracker.listItems = index :: outer) {kind : ListKind}
    {styles : List ListKind} (hstyles : s.renderer.listStyles = kind :: styles) :
    ∃ t, Steps s
        (.opening .listItem :: (content.events ++ (inner.events ++ [.closing .listItem]))) t ∧
      OnDocument options linkTarget imageTarget t ∧
      t.tracker = { s.tracker with listItems := (index + 1) :: outer } ∧
      t.renderer.listStyles = s.renderer.listStyles ∧
      t.renderer.output = s.renderer.output ++ (if 0 < index + 1 then ['\n'] else []) ++
        (ItemLine.shown ⟨outer.length + 1, kind, content⟩ (text content) ++
          (inner.lines (outer.length + 1)).flatMap fun line =>
            '\n' :: line.shown (text line.content)) := by
  obtain ⟨d, hd, hshown⟩ := htext content
  obtain ⟨u, hopen, hu, htracker, hsame, houtput⟩ :=
    hs.exists_item hitems hstyles hd content.isInline.typed
  have hcounted : u.tracker.listItems = (index + 1) :: outer := by rw [htracker]
  obtain ⟨v, hlists, hv, htracker', hsame', houtput'⟩ := hinner hu hcounted
  have hleft : v.tracker.leaveLine = { s.tracker with listItems := (index + 1) :: outer } := by
    rw [htracker', htracker]
    simp [Tracker.leaveLine, Tracker.enterLine]
  have hclose : Step v (.closing .listItem) ⟨v.tracker.leaveLine, v.renderer⟩ :=
    .closing trivial trivial
  have hnonneg : 0 ≤ v.tracker.leaveLine.inlineDepth := by
    rw [hleft]
    exact hs.inlineDepth
  refine ⟨⟨v.tracker.leaveLine, v.renderer⟩, ?_, hv.of_writes (.refl _) hnonneg, hleft,
    hsame'.trans hsame, ?_⟩
  · rw [← List.cons_append]
    exact Steps.append_iff.mpr ⟨u, hopen, Steps.append_iff.mpr ⟨v, hlists, .cons hclose (.nil _)⟩⟩
  · have hdepth : ((outer.length + 1 : Nat) : Int) - 1 = outer.length := by omega
    rw [houtput', houtput, hshown, ItemLine.shown, hdepth]
    simp only [List.append_assoc]

/-- A whole list writes the lines of its items, behind what was written when it opened. -/
theorem OnDocument.exists_closed_list {items : ListItems}
    (hlist : WritesItems options linkTarget imageTarget text items) {kind : ListKind}
    (parameters : Parameters) (hs : OnDocument options linkTarget imageTarget s)
    {outer : List Int} (hitems : s.tracker.listItems = -1 :: outer) {styles : List ListKind}
    (hstyles : s.renderer.listStyles = kind :: styles) :
    ∃ t, Steps s (items.events ++ [.closing (.list kind parameters)]) t ∧
      OnDocument options linkTarget imageTarget t ∧
      t.tracker = { s.tracker with listItems := outer } ∧ t.renderer.listStyles = styles ∧
      t.renderer.output = s.renderer.output ++
        Text.join ['\n'] ((items.lines (outer.length + 1) kind).map fun line =>
          line.shown (text line.content)) := by
  obtain ⟨u, last, hsteps, hu, -, htracker, hsame, houtput⟩ :=
    hlist hs (Int.le_refl (-1)) hitems hstyles
  let left : Renderer := { u.renderer with listStyles := u.renderer.listStyles.tail }
  let t : TrackedRenderer := ⟨{ s.tracker with listItems := outer }, left.settled⟩
  have hclose : Step u (.closing (.list kind parameters)) t := by
    have hadmits : u.renderer.AdmitsClosing (.list kind parameters) := by
      simp [Renderer.AdmitsClosing, hsame, hstyles]
    have hadmits' : u.tracker.AdmitsClosing (.list kind parameters) := by
      simp [Tracker.AdmitsClosing, htracker]
    have hclosed : u.tracker.closed (.list kind parameters) = t.tracker := by
      rw [htracker]
      rfl
    have hstep := Step.closing hadmits hadmits'
    rw [hclosed] at hstep
    exact hstep
  have hwrites := Renderer.Writes.settled left
  have hdepth : 0 ≤ t.tracker.inlineDepth := hs.inlineDepth
  have hleft : OnDocument options linkTarget imageTarget ⟨t.tracker, left⟩ :=
    hu.with_listStyles hdepth _
  refine ⟨t, Steps.append_iff.mpr ⟨u, hsteps, .cons hclose (.nil _)⟩,
    hleft.of_writes hwrites hdepth, rfl, ?_, ?_⟩
  · rw [hwrites.listStyles]
    change u.renderer.listStyles.tail = styles
    rw [hsame, hstyles, List.tail_cons]
  · have hcaptures : left.captures = [] := hu.captures
    have hfirst : ¬ (0 : Int) < -1 + 1 := by omega
    change left.settled.output = _
    rw [Renderer.output_settled hcaptures]
    change u.renderer.output = _
    rw [houtput, if_neg hfirst, List.append_nil]

mutual

theorem Reads.writesItems (htext : Reads options linkTarget imageTarget false text)
    (items : ListItems) :
    WritesItems options linkTarget imageTarget text items := by
  intro s index outer kind styles hs hindex hitems hstyles
  cases items with
  | last content inner =>
    obtain ⟨t, hsteps, ht, htracker, hsame, houtput⟩ :=
      hs.exists_closed_item htext (htext.writesLists inner) content hitems hstyles
    refine ⟨t, index + 1, hsteps, ht, by omega, htracker, hsame, ?_⟩
    rw [houtput, ListItems.lines, List.map_cons, Text.join_cons, List.flatMap_map]
    rfl
  | cons content inner rest =>
    obtain ⟨u, hfirst, hu, htracker, hsame, houtput⟩ :=
      hs.exists_closed_item htext (htext.writesLists inner) content hitems hstyles
    have hcounted : u.tracker.listItems = (index + 1) :: outer := by rw [htracker]
    obtain ⟨t, last, hrest, ht, hlast, htracker', hsame', houtput'⟩ :=
      htext.writesItems rest hu (by omega) hcounted (hsame.trans hstyles)
    refine ⟨t, last, ?_, ht, hlast, ?_, hsame'.trans hsame, ?_⟩
    · have hevents : (ListItems.cons content inner rest).events = .opening .listItem ::
          (content.events ++ (inner.events ++ [.closing .listItem])) ++ rest.events := by
        simp [ListItems.events]
      rw [hevents]
      exact Steps.append_iff.mpr ⟨u, hfirst, hrest⟩
    · rw [htracker', htracker]
    · have hlater : (0 : Int) < index + 1 + 1 := by omega
      have hne : (rest.lines (outer.length + 1) kind).map (fun line =>
          line.shown (text line.content)) ≠ [] :=
        fun h => rest.lines_ne_nil _ _ (List.map_eq_nil_iff.mp h)
      rw [houtput', houtput, if_pos hlater, List.append_assoc _ ['\n'],
        ← Text.flatMap_append_eq_join _ hne, ListItems.lines, List.map_cons, Text.join_cons,
        List.map_append, List.flatMap_append, List.flatMap_map, List.flatMap_map]
      simp only [List.append_assoc]
      rfl

theorem Reads.writesLists (htext : Reads options linkTarget imageTarget false text)
    (inner : InnerLists) :
    WritesLists options linkTarget imageTarget text inner := by
  intro s index outer hs hitems
  cases inner with
  | nil => exact ⟨s, .nil s, hs, rfl, rfl, (List.append_nil _).symm⟩
  | cons kind parameters parameters' items rest =>
    obtain ⟨u, hopen, hu, hbegun, hstyles, hbehind⟩ :=
      hs.exists_opened_list hitems kind parameters
    have hnew : u.tracker.listItems = -1 :: index :: outer := by rw [hbegun]
    obtain ⟨v, hlist, hv, htracker, hsame, houtput⟩ :=
      hu.exists_closed_list (htext.writesItems items) parameters' hnew hstyles
    have hdone : v.tracker = s.tracker := by rw [htracker, hbegun, ← hitems]
    have hcounted : v.tracker.listItems = index :: outer := by rw [hdone, hitems]
    obtain ⟨t, hrest, ht, htracker', hsame', houtput'⟩ := htext.writesLists rest hv hcounted
    refine ⟨t, ?_, ht, htracker'.trans hdone, hsame'.trans hsame, ?_⟩
    · have hevents : (InnerLists.cons kind parameters parameters' items rest).events =
          .opening (.list kind parameters) ::
            (items.events ++ [.closing (.list kind parameters')] ++ rest.events) := by
        simp [InnerLists.events]
      rw [hevents]
      exact .cons hopen (Steps.append_iff.mpr ⟨v, hlist, hrest⟩)
    · have hne : (items.lines (outer.length + 1 + 1) kind).map (fun line =>
          line.shown (text line.content)) ≠ [] :=
        fun h => items.lines_ne_nil _ _ (List.map_eq_nil_iff.mp h)
      rw [houtput', houtput, hbehind, List.length_cons, List.append_assoc _ ['\n'],
        ← Text.flatMap_append_eq_join _ hne, InnerLists.lines, List.flatMap_append,
        List.flatMap_map, List.append_assoc]
      rfl

end

end TrackedRenderer

namespace ListItems

/-- The events of a list with the given items. -/
def listEvents (items : ListItems) (kind : ListKind) (parameters parameters' : Parameters) :
    List Event :=
  .opening (.list kind parameters) :: (items.events ++ [.closing (.list kind parameters')])

theorem nested_listEvents (items : ListItems) (kind : ListKind)
    (parameters parameters' : Parameters) :
    OpenConstructs.run? none [] (items.listEvents kind parameters parameters') = some [] :=
  OpenConstructs.run?_construct_append (.list kind parameters) (.list kind parameters') rfl rfl
    (items.nested []) []

end ListItems

namespace TrackedRendering

open TrackedRenderer

variable {options : Options} {linkTarget imageTarget : Serializer} {parameters : Parameters}

/-- A list that is the only block of a document. Each item, at whatever depth, has a line of its
own in the order of the document, with the indentation of its depth, the marker of its list and the
text that its content has in a paragraph. Where these texts have no further lines that read as
items, the lines that do give back the items, with their depths and kinds and the first lines of
their texts. Lists in an item leave the count and the marker of the list around as they were. -/
theorem body_listEvents (hlink : linkTarget.IsTotal) (himage : imageTarget.IsTotal)
    (hparameters : Parameters.areTexts parameters = true) {items : ListItems} {kind : ListKind}
    {first last : Parameters}
    (htyped : ∀ e ∈ items.listEvents kind first last, e.isWellTyped = true)
    (hmacros : ∀ e ∈ items.listEvents kind first last, e.isUnhandled = true →
      options.unhandledMacroMode ≠ .refuse) :
    let lines := items.lines 1 kind
    ∃ (text : InlineContent → Text) (output : Text),
      (∀ line ∈ lines, body options linkTarget imageTarget parameters
        ((LineBlock.paragraph (some []) (some [])).events line.content.events) =
          .ok (text line.content)) ∧
      body options linkTarget imageTarget parameters (items.listEvents kind first last) =
        .ok output ∧
      output = Text.join ['\n'] (lines.map fun line => line.shown (text line.content)) ∧
      ((∀ line ∈ lines, ∀ later ∈ (Text.splitAtChar '\n' (text line.content)).tail,
          readItem? later = none) →
        (Text.splitAtChar '\n' output).filterMap readItem? = lines.map fun line =>
          (line.depth, line.kind, (Text.splitAtChar '\n' (text line.content)).headD [])) ∧
      ∀ (before after : List Event) (inner : InnerLists) (s : TrackedRenderer),
        items.listEvents kind first last = before ++ (inner.events ++ after) →
        (events (.opening (.document parameters) :: before)).run
          (.start options linkTarget imageTarget .buffer) = .ok () s →
        ∃ t, (events inner.events).run s = .ok () t ∧
          t.tracker.listItems = s.tracker.listItems ∧
          t.renderer.listStyles = s.renderer.listStyles := by
  intro lines
  obtain ⟨text, htext⟩ : ∃ text, Reads options linkTarget imageTarget false text :=
    exists_reads hlink
  have hopen : Step (.begun options linkTarget imageTarget) (.opening (.list kind first)) _ :=
    .opening trivial trivial
  have hbegun : OnDocument options linkTarget imageTarget _ :=
    ⟨hopen.keeps (htyped _ List.mem_cons_self), List.cons_ne_nil _ _, rfl, Int.le_refl 0⟩
  obtain ⟨t, hsteps, ht, -, -, houtput⟩ :=
    hbegun.exists_closed_list (htext.writesItems items) last rfl rfl
  refine ⟨text, Text.join ['\n'] (lines.map fun line => line.shown (text line.content)), ?_, ?_,
    rfl, ?_, ?_⟩
  · intro line hline
    obtain ⟨-, hevents⟩ := ListItems.mem_lines hline
    apply body_paragraph_of_reads hlink himage hparameters htext
    intro e he
    exact hmacros e (List.mem_cons_of_mem _ (List.mem_append_left _ (hevents e he)))
  · have hlist := body_eq_output_of_steps hlink himage hparameters htyped hmacros
      (.cons hopen hsteps) ht.captures
    rw [houtput] at hlist
    exact hlist
  · intro hlines
    exact items.filterMap_readItem?_join (Nat.le_refl 1) hlines
  · intro before after inner s hsplit hrun
    obtain ⟨t, ht, habove⟩ := exists_run_above hlink himage hparameters hsplit
      (items.nested_listEvents kind first last) (inner.nested []) htyped hmacros hrun
    exact ⟨t, ht, habove.tracker.listItems.eq_base, habove.renderer.listStyles.eq_base⟩

/-- A numbered list in the first of two items. -/
theorem body_listEvents_numbered_in_bulleted :
    let word (c : Char) : InlineContent :=
      ⟨[.leaf (.word (.str [c]))], rfl, by simp [Event.isInline, Leaf.isInline],
        by simp [Event.isWellTyped, Leaf.isWellTyped, Value.isText]⟩
    let items : ListItems := .cons (word 'a')
      (.cons .numbered (some []) (some []) (.last (word 'b') .nil) .nil) (.last (word 'c') .nil)
    ∃ text : InlineContent → Text,
      body {} .plain .plain (some []) (items.listEvents .bulleted (some []) (some [])) =
        .ok (Text.join ['\n'] [['*', ' '] ++ text (word 'a'),
          [' ', ' ', ' ', ' '] ++ ['1', '.', ' '] ++ text (word 'b'),
          ['*', ' '] ++ text (word 'c')]) := by
  intro word items
  have hnone : Parameters.areTexts (some []) = true := rfl
  have htyped : ∀ e ∈ items.listEvents .bulleted (some []) (some []), e.isWellTyped = true := by
    decide
  have hmode : ({} : Options).unhandledMacroMode ≠ .refuse := by decide
  obtain ⟨text, output, -, hbody, houtput, -⟩ := body_listEvents Serializer.plain_isTotal
    Serializer.plain_isTotal hnone htyped fun _ _ _ => hmode
  refine ⟨text, hbody.trans ?_⟩
  rw [houtput]
  rfl

example : (body {} .plain .plain (some []) (ListItems.listEvents
    (.cons ⟨[.leaf (.word (.str ['a']))], rfl, by decide, by decide⟩
      (.cons .numbered (some []) (some [])
        (.last ⟨[.leaf (.word (.str ['b']))], rfl, by decide, by decide⟩ .nil) .nil)
      (.last ⟨[.leaf (.word (.str ['c']))], rfl, by decide, by decide⟩ .nil))
    .bulleted (some []) (some []))).toOption = some "* a\n    1. b\n* c".toList := by
  decide +kernel

end TrackedRendering

end DocumentStream
