import DocumentStream.Proofs.OpenStacks

/-!
The nesting of blocks as it is read off a stream. At every point of a stream some constructs are
open, and of each of them the events since it was opened are known. From these alone one can count
lists and quotations, the items begun directly in the innermost list, and the lines begun since the
outermost quotation. The counters of a tracker are shown to hold these numbers at every event of a
properly nested stream.
-/

namespace DocumentStream

/-- A construct around a point of a stream, with the events since it was opened, latest first. -/
structure Enclosing where
  kind : ConstructKind
  content : List Event

namespace Enclosing

/-- How many constructs some events, the latest first, opened and did not close. -/
def stillOpen : List Event → Nat
  | [] => 0
  | .opening _ :: earlier => stillOpen earlier + 1
  | .closing _ :: earlier => stillOpen earlier - 1
  | .leaf _ :: earlier | .foreign _ :: earlier => stillOpen earlier

/-- How many constructs of some kinds were begun directly in a construct, and not within another one
in it. -/
def begunDirectly (kinds : List ConstructKind) : List Event → Nat
  | [] => 0
  | .opening construct :: earlier =>
    if construct.kind ∈ kinds ∧ stillOpen earlier = 0 then begunDirectly kinds earlier + 1
    else begunDirectly kinds earlier
  | .closing _ :: earlier | .leaf _ :: earlier | .foreign _ :: earlier =>
    begunDirectly kinds earlier

/-- How many constructs of a kind were begun in a construct, at any depth. -/
def begun (kind : ConstructKind) : List Event → Nat
  | [] => 0
  | .opening construct :: earlier =>
    if construct.kind = kind then begun kind earlier + 1 else begun kind earlier
  | .closing _ :: earlier | .leaf _ :: earlier | .foreign _ :: earlier => begun kind earlier

/-- The index of the latest item, where the items are of the given kinds. -/
def itemIndex (kinds : List ConstructKind) (around : Enclosing) : Int :=
  (begunDirectly kinds around.content : Int) - 1

/-- The index of the latest quotation line. -/
def lineIndex (around : Enclosing) : Int := (begun .quotationLine around.content : Int) - 1

/-- The construct after another event in it. -/
def note (e : Event) (around : Enclosing) : Enclosing :=
  { around with content := e :: around.content }

end Enclosing

/-- The constructs around a point of a stream, innermost first. -/
abbrev Surroundings := List Enclosing

namespace Surroundings

/-- The kinds of the constructs that are open. -/
def kinds (s : Surroundings) : OpenConstructs := s.map (·.kind)

/-- The surroundings after an event. -/
def after (s : Surroundings) (e : Event) : Surroundings :=
  match e with
  | .opening construct => ⟨construct.kind, []⟩ :: s.map (·.note e)
  | .closing _ => s.tail.map (·.note e)
  | .leaf _ | .foreign _ => s.map (·.note e)

/-- The surroundings at the end of some events. -/
def of (events : List Event) : Surroundings := events.foldl after []

/-- The surroundings of an event itself. What it opens and what it closes are both around it. -/
def during (s : Surroundings) (e : Event) : Surroundings :=
  match e with
  | .opening _ => s.after e
  | _ => s

def innermost? (s : Surroundings) (kind : ConstructKind) : Option Enclosing :=
  s.find? (·.kind == kind)

def outermost? (s : Surroundings) (kind : ConstructKind) : Option Enclosing :=
  s.reverse.find? (·.kind == kind)

/-- The index of the latest item begun directly in the innermost construct of a kind. -/
def latestItem (s : Surroundings) (kind : ConstructKind) (items : List ConstructKind) : Int :=
  ((s.innermost? kind).map (·.itemIndex items)).getD (-1)

/-- The index of the latest line since the outermost quotation was opened. -/
def latestLine (s : Surroundings) : Int := ((s.outermost? .quotation).map (·.lineIndex)).getD (-1)

/-- The nesting that is read off the surroundings. -/
def nesting (s : Surroundings) : Nesting where
  listDepth := s.kinds.count .list
  listItem := s.latestItem .list [.listItem]
  definitionDepth := s.kinds.count .definitionList
  definitionItem := s.latestItem .definitionList [.term, .description]
  quotationDepth := s.kinds.count .quotation
  quotationLine := s.latestLine
  isInQuotationLine := decide (.quotationLine ∈ s.kinds)
  isInLine := s.kinds.any ConstructKind.isLine

/-- The indices of the latest items of all open constructs of a kind. -/
def itemIndices (s : Surroundings) (kind : ConstructKind) (items : List ConstructKind) :
    List Int :=
  (s.filter (·.kind == kind)).map (·.itemIndex items)

/-- Whether one more construct is still open in each enclosing construct than in the next one
inside of it. -/
def Levelled : Nat → Surroundings → Prop
  | _, [] => True
  | level, around :: outer =>
    Enclosing.stillOpen around.content = level ∧ Levelled (level + 1) outer

theorem kinds_note (s : Surroundings) (e : Event) : kinds (s.map (·.note e)) = s.kinds := by
  simp [kinds, Enclosing.note]

theorem kinds_after {s : Surroundings} {e : Event} {next : OpenConstructs}
    (h : OpenConstructs.step? none s.kinds e = some next) : (s.after e).kinds = next := by
  cases e with
  | opening construct =>
    obtain ⟨-, rfl⟩ := OpenConstructs.step?_opening_eq_some_iff.mp h
    exact congrArg (construct.kind :: ·) (kinds_note s _)
  | closing construct =>
    have hkinds := OpenConstructs.step?_closing_eq_some_iff.mp h
    have htail : kinds s.tail = next := by
      have hmap : kinds s.tail = s.kinds.tail := List.map_tail
      rw [hmap, hkinds, List.tail_cons]
    exact (kinds_note s.tail _).trans htail
  | leaf l =>
    obtain rfl := Option.some.inj h
    exact kinds_note s _
  | foreign name =>
    obtain rfl := Option.some.inj h
    exact kinds_note s _

theorem latestItem_eq (s : Surroundings) (kind : ConstructKind) (items : List ConstructKind) :
    s.latestItem kind items = (s.itemIndices kind items).head?.getD (-1) := by
  rw [latestItem, itemIndices, innermost?, List.head?_map, List.head?_filter]

/-- The items are counted through where no item is begun directly in an enclosing construct. -/
theorem itemIndices_note {s : Surroundings} {e : Event} {items : List ConstructKind}
    (h : ∀ around ∈ s, (around.note e).itemIndex items = around.itemIndex items)
    (kind : ConstructKind) :
    itemIndices (s.map (·.note e)) kind items = s.itemIndices kind items := by
  unfold itemIndices
  rw [List.filter_map, List.map_map]
  apply List.map_congr_left
  intro around haround
  exact h around (List.mem_filter.mp haround).1

theorem Levelled.mono {level : Nat} {s : Surroundings} (h : Levelled level s) {around : Enclosing}
    (haround : around ∈ s) : level ≤ Enclosing.stillOpen around.content := by
  induction s generalizing level with
  | nil => simp at haround
  | cons first outer ih =>
    obtain ⟨hfirst, houter⟩ := h
    rcases List.mem_cons.mp haround with rfl | haround
    · omega
    · have hlevel := ih houter haround
      omega

theorem Levelled.note {level next : Nat} {s : Surroundings} {e : Event} (h : Levelled level s)
    (hnext : ∀ around : Enclosing, level ≤ Enclosing.stillOpen around.content →
      Enclosing.stillOpen (e :: around.content) + level =
        Enclosing.stillOpen around.content + next) :
    Levelled next (s.map (·.note e)) := by
  induction s generalizing level next with
  | nil => trivial
  | cons first outer ih =>
    obtain ⟨hfirst, houter⟩ := h
    refine ⟨?_, ih houter ?_⟩
    · have hstep := hnext first (by omega)
      change Enclosing.stillOpen (e :: first.content) = next
      omega
    · intro around haround
      have hstep := hnext around (by omega)
      omega

theorem Levelled.after {s : Surroundings} (h : Levelled 0 s) (e : Event) :
    Levelled 0 (s.after e) := by
  cases e with
  | opening construct =>
    refine ⟨rfl, h.note ?_⟩
    intro around haround
    rfl
  | closing construct =>
    cases s with
    | nil => trivial
    | cons first outer =>
      refine h.2.note ?_
      intro around haround
      simp only [Enclosing.stillOpen]
      omega
  | leaf l => exact h.note fun around haround => rfl
  | foreign name => exact h.note fun around haround => rfl

/-- An opening counts as an item where it stands directly in a construct that it is an item of. -/
theorem itemIndex_note_opening (around : Enclosing) (construct : Construct)
    (items : List ConstructKind) :
    (around.note (.opening construct)).itemIndex items =
      if construct.kind ∈ items ∧ Enclosing.stillOpen around.content = 0 then
        around.itemIndex items + 1
      else around.itemIndex items := by
  simp only [Enclosing.itemIndex, Enclosing.note, Enclosing.begunDirectly]
  split
  · omega
  · rfl

/-- A construct that is no item leaves the indices, and adds one if it can have items itself. -/
theorem itemIndices_opening_of_not_item {s : Surroundings} {construct : Construct}
    {items : List ConstructKind} (hitem : construct.kind ∉ items) (kind : ConstructKind) :
    (s.after (.opening construct)).itemIndices kind items =
      if construct.kind = kind then -1 :: s.itemIndices kind items
      else s.itemIndices kind items := by
  have hnote : itemIndices (s.map (·.note (.opening construct))) kind items =
      s.itemIndices kind items := by
    refine itemIndices_note ?_ kind
    intro around haround
    rw [itemIndex_note_opening, if_neg fun h => hitem h.1]
  simp only [after, ← hnote]
  simp only [itemIndices, List.filter_cons, beq_iff_eq]
  split
  · rfl
  · rfl

/-- An item adds one to the index of the innermost construct that it is an item of. -/
theorem itemIndices_opening_item {s : Surroundings} (hlevelled : Levelled 0 s)
    {construct : Construct} {kind : ConstructKind} {items : List ConstructKind}
    (hitem : construct.kind ∈ items) (hhome : construct.kind.home? = some kind)
    (hfits : construct.kind.fitsIn s.kinds.head? = true) (hkind : construct.kind ≠ kind) :
    (s.after (.opening construct)).itemIndices kind items =
      (s.itemIndices kind items).modifyHead (· + 1) := by
  obtain ⟨below, hbelow⟩ := ConstructKind.exists_head_of_fitsIn hhome hfits
  cases s with
  | nil => simp [kinds] at hbelow
  | cons first outer =>
    obtain ⟨hfirst, houter⟩ := hlevelled
    obtain ⟨hfirstKind, -⟩ : first.kind = kind ∧ outer.map (·.kind) = below := by
      simpa [kinds] using hbelow
    have hnote : itemIndices (outer.map (·.note (.opening construct))) kind items =
        itemIndices outer kind items := by
      refine itemIndices_note ?_ kind
      intro around haround
      have hlevel := houter.mono haround
      rw [itemIndex_note_opening, if_neg (by omega)]
    have hindex :
        (first.note (.opening construct)).itemIndex items = first.itemIndex items + 1 := by
      rw [itemIndex_note_opening, if_pos ⟨hitem, hfirst⟩]
    have hsame : (first.note (.opening construct)).kind = kind := hfirstKind
    have hnew : (construct.kind == kind) = false := by simpa using hkind
    simp only [itemIndices] at hnote ⊢
    simp only [after, List.map_cons, List.filter_cons, hnew, hsame, hfirstKind, beq_self_eq_true,
      if_true, Bool.false_eq_true, if_false, hindex, hnote, List.modifyHead_cons]

theorem itemIndices_closing {first : Enclosing} {outer : Surroundings} (construct : Construct)
    (kind : ConstructKind) (items : List ConstructKind) :
    (after (first :: outer) (.closing construct)).itemIndices kind items =
      if first.kind = kind then (itemIndices (first :: outer) kind items).tail
      else itemIndices (first :: outer) kind items := by
  have hnote : itemIndices (outer.map (·.note (.closing construct))) kind items =
      itemIndices outer kind items := itemIndices_note (fun around haround => rfl) kind
  simp only [after, List.tail_cons, hnote]
  simp only [itemIndices, List.filter_cons, beq_iff_eq]
  split
  · rfl
  · rfl

theorem outermost?_note (s : Surroundings) (e : Event) (kind : ConstructKind) :
    outermost? (s.map (·.note e)) kind = (s.outermost? kind).map (·.note e) := by
  unfold outermost?
  rw [← List.map_reverse, List.find?_map]
  rfl

/-- A construct is the outermost one of its kind if none is around it. -/
theorem outermost?_cons (first : Enclosing) (outer : Surroundings) (kind : ConstructKind) :
    outermost? (first :: outer) kind =
      (outermost? outer kind).or (if first.kind = kind then some first else none) := by
  simp only [outermost?, List.reverse_cons, List.find?_append, List.find?_singleton, beq_iff_eq]

theorem outermost?_eq_none_iff (s : Surroundings) (kind : ConstructKind) :
    s.outermost? kind = none ↔ s.kinds.count kind = 0 := by
  rw [List.count_eq_zero]
  simp [outermost?, kinds]

theorem latestLine_note {s : Surroundings} {e : Event}
    (h : ∀ around : Enclosing, (around.note e).lineIndex = around.lineIndex) :
    latestLine (s.map (·.note e)) = s.latestLine := by
  unfold latestLine
  rw [outermost?_note, Option.map_map]
  exact congrArg (·.getD (-1)) (congrArg (Option.map · _) (funext h))

theorem lineIndex_note_opening (around : Enclosing) (construct : Construct) :
    (around.note (.opening construct)).lineIndex =
      if construct.kind = .quotationLine then around.lineIndex + 1 else around.lineIndex := by
  simp only [Enclosing.lineIndex, Enclosing.note, Enclosing.begun]
  split
  · omega
  · rfl

/-- Only a quotation line is counted, and an outermost quotation begins without any. -/
theorem latestLine_opening {s : Surroundings} {construct : Construct}
    (hfits : construct.kind.fitsIn s.kinds.head? = true) :
    (s.after (.opening construct)).latestLine =
      if construct.kind = .quotationLine then s.latestLine + 1 else s.latestLine := by
  by_cases hline : construct.kind = .quotationLine
  · have hhome : construct.kind.home? = some .quotation := by rw [hline]; rfl
    obtain ⟨below, hbelow⟩ := ConstructKind.exists_head_of_fitsIn hhome hfits
    have hsome : s.outermost? .quotation ≠ none := by
      rw [Ne, outermost?_eq_none_iff, hbelow, List.count_cons_self]
      omega
    obtain ⟨around, haround⟩ := Option.ne_none_iff_exists'.mp hsome
    have hnote := lineIndex_note_opening around construct
    rw [if_pos hline] at hnote ⊢
    simp only [latestLine, after, outermost?_cons, outermost?_note, haround, Option.map_some,
      Option.some_or, Option.getD_some, hnote]
  · have hnote : latestLine (s.map (·.note (.opening construct))) = s.latestLine := by
      apply latestLine_note
      intro around
      rw [lineIndex_note_opening, if_neg hline]
    rw [if_neg hline, ← hnote]
    simp only [latestLine, after, outermost?_cons]
    cases outermost? (s.map (·.note (.opening construct))) .quotation with
    | some around => rfl
    | none =>
      by_cases hquotation : construct.kind = .quotation
      · simp [hquotation, Enclosing.lineIndex, Enclosing.begun]
      · simp [hquotation]

/-- The count of lines goes on until the outermost quotation closes. -/
theorem latestLine_closing {first : Enclosing} {outer : Surroundings} (construct : Construct) :
    (after (first :: outer) (.closing construct)).latestLine =
      if first.kind = .quotation ∧ (kinds outer).count .quotation = 0 then -1
      else latestLine (first :: outer) := by
  have hnote : latestLine (outer.map (·.note (.closing construct))) = latestLine outer :=
    latestLine_note fun around => rfl
  simp only [after, List.tail_cons, hnote]
  simp only [latestLine, outermost?_cons, ← outermost?_eq_none_iff]
  cases outermost? outer .quotation with
  | some around => simp
  | none =>
    by_cases hquotation : first.kind = .quotation
    · simp [hquotation]
    · simp [hquotation]

end Surroundings

namespace Tracker

/-- Whether the counters of a tracker hold what is read off the surroundings. -/
structure Counts (t : Tracker) (s : Surroundings) : Prop where
  above : ({} : Tracker).Above s.kinds t
  levelled : Surroundings.Levelled 0 s
  listItems : t.listItems = s.itemIndices .list [.listItem]
  definitionItems : t.definitionItems = s.itemIndices .definitionList [.term, .description]
  quotationLine : t.quotationLine = s.latestLine

namespace Counts

variable {t : Tracker} {s : Surroundings}

theorem start : ({} : Tracker).Counts [] where
  above := Above.refl (Int.le_refl 0) fun _ => rfl
  levelled := trivial
  listItems := rfl
  definitionItems := rfl
  quotationLine := rfl

/-- The counters give the nesting that is read off the surroundings. -/
theorem nesting_eq (h : t.Counts s) : t.nesting = s.nesting := by
  have hlists := h.above.listDepth_eq
  have hdefinitions := h.above.definitionDepth_eq
  have hquotations : t.quotationDepth = 0 + s.kinds.count .quotation := h.above.quotationDepth
  have hlines := h.above.isInQuotationLine_eq
  have hinline := h.above.isInLine_eq
  simp only [Tracker.nesting] at hlists hdefinitions hlines hinline
  simp only [Tracker.nesting, Surroundings.nesting, Surroundings.latestItem_eq, ← h.listItems,
    ← h.definitionItems, ← h.quotationLine, hlists, hdefinitions, hquotations, hlines, hinline,
    Int.zero_add]

/-- Opening a construct that fits keeps the counters right. -/
theorem opening (h : t.Counts s) {construct : Construct}
    (hfits : construct.kind.fitsIn s.kinds.head? = true) :
    (t.opened construct).Counts (s.after (.opening construct)) := by
  have hnested : OpenConstructs.step? none s.kinds (.opening construct) =
      some (construct.kind :: s.kinds) :=
    OpenConstructs.step?_opening_eq_some_iff.mpr ⟨hfits, rfl⟩
  refine ⟨?_, h.levelled.after _, ?_, ?_, ?_⟩
  · rw [Surroundings.kinds_after hnested]
    exact h.above.after_opening hfits
  · rw [listItems_opened, h.listItems]
    by_cases hitem : construct.kind = .listItem
    · rw [if_pos hitem, Surroundings.itemIndices_opening_item h.levelled (by simp [hitem])
        (by rw [hitem]; rfl) hfits (by simp [hitem])]
    · rw [if_neg hitem, Surroundings.itemIndices_opening_of_not_item (by simpa using hitem)]
  · rw [definitionItems_opened, h.definitionItems]
    by_cases hitem : construct.kind ∈ [ConstructKind.term, .description]
    · have hkind : construct.kind = .term ∨ construct.kind = .description := by
        simpa using hitem
      have hhome : construct.kind.home? = some .definitionList := by
        rcases hkind with hkind | hkind <;> rw [hkind] <;> rfl
      have hother : construct.kind ≠ .definitionList := by
        rcases hkind with hkind | hkind <;> rw [hkind] <;> decide
      rw [if_pos hitem, Surroundings.itemIndices_opening_item h.levelled hitem hhome hfits hother]
    · rw [if_neg hitem, Surroundings.itemIndices_opening_of_not_item hitem]
  · rw [quotationLine_opened, h.quotationLine, Surroundings.latestLine_opening hfits]

/-- Closing the innermost construct keeps the counters right. -/
theorem closing {construct : Construct} {outer : OpenConstructs} (h : t.Counts s)
    (hkinds : s.kinds = construct.kind :: outer) :
    (t.closed construct).Counts (s.after (.closing construct)) := by
  have hnested : OpenConstructs.step? none s.kinds (.closing construct) = some outer :=
    OpenConstructs.step?_closing_eq_some_iff.mpr hkinds
  have habove := h.above
  rw [hkinds] at habove
  cases s with
  | nil => simp [Surroundings.kinds] at hkinds
  | cons first rest =>
    obtain ⟨hfirst, hrest⟩ : first.kind = construct.kind ∧ Surroundings.kinds rest = outer := by
      simpa [Surroundings.kinds] using hkinds
    refine ⟨?_, h.levelled.after _, ?_, ?_, ?_⟩
    · rw [Surroundings.kinds_after hnested]
      exact habove.after_closing
    · rw [listItems_closed, h.listItems, Surroundings.itemIndices_closing, hfirst]
    · rw [definitionItems_closed, h.definitionItems, Surroundings.itemIndices_closing, hfirst]
    · rw [quotationLine_closed, h.quotationLine, Surroundings.latestLine_closing, hfirst, hrest]
      have hdepth := habove.quotationDepth
      change _ = (0 : Int) + _ at hdepth
      have hiff : construct.kind = .quotation ∧ t.quotationDepth - 1 = 0 ↔
          construct.kind = .quotation ∧ outer.count .quotation = 0 := by
        refine and_congr_right fun hkind => ?_
        rw [hkind, List.count_cons_self] at hdepth
        omega
      simp only [hiff]

/-- Within the surroundings nothing is counted at a leaf. -/
theorem leaf (h : t.Counts s) {e : Event} (hafter : s.after e = s.map (·.note e))
    (hitems : ∀ (around : Enclosing) (items : List ConstructKind),
      (around.note e).itemIndex items = around.itemIndex items)
    (hlines : ∀ around : Enclosing, (around.note e).lineIndex = around.lineIndex) :
    t.Counts (s.after e) := by
  refine ⟨?_, h.levelled.after e, ?_, ?_, ?_⟩
  · rw [hafter, Surroundings.kinds_note]
    exact h.above
  · rw [hafter, Surroundings.itemIndices_note fun around _ => hitems around _]
    exact h.listItems
  · rw [hafter, Surroundings.itemIndices_note fun around _ => hitems around _]
    exact h.definitionItems
  · rw [hafter, Surroundings.latestLine_note hlines]
    exact h.quotationLine

/-- A properly nested event can be counted, and while it is rendered the counters hold what is read
off its surroundings. -/
theorem step (h : t.Counts s) {e : Event} {next : OpenConstructs}
    (hnested : OpenConstructs.step? none s.kinds e = some next) :
    ∃ u v, t.before e = some u ∧ u.nesting = (s.during e).nesting ∧ u.after e = some v ∧
      v.Counts (s.after e) := by
  cases e with
  | opening construct =>
    obtain ⟨hfits, -⟩ := OpenConstructs.step?_opening_eq_some_iff.mp hnested
    have hopened := h.opening hfits
    have hadmits := h.above.admitsOpening hfits
    exact ⟨_, _, openConstruct_eq_some_iff.mpr ⟨hadmits, rfl⟩, hopened.nesting_eq, rfl, hopened⟩
  | closing construct =>
    have hkinds := OpenConstructs.step?_closing_eq_some_iff.mp hnested
    have habove := h.above
    rw [hkinds] at habove
    have hclosed := h.closing hkinds
    exact ⟨_, _, rfl, h.nesting_eq,
      closeConstruct_eq_some_iff.mpr ⟨habove.admitsClosing, rfl⟩, hclosed⟩
  | leaf l =>
    exact ⟨t, t, rfl, h.nesting_eq, rfl, h.leaf rfl (fun _ _ => rfl) fun _ => rfl⟩
  | foreign name =>
    exact ⟨t, t, rfl, h.nesting_eq, rfl, h.leaf rfl (fun _ _ => rfl) fun _ => rfl⟩

end Counts

/-- The tracker after it was told of events one after another. -/
def follow? (t : Tracker) : List Event → Option Tracker
  | [] => some t
  | e :: rest => ((t.before e).bind fun u => u.after e).bind fun v => v.follow? rest

theorem Counts.follow {t : Tracker} {s : Surroundings} (h : t.Counts s) {events : List Event}
    {last : OpenConstructs} (hnested : OpenConstructs.run? none s.kinds events = some last) :
    ∃ u, t.follow? events = some u ∧ u.Counts (events.foldl Surroundings.after s) ∧
      (Surroundings.kinds (events.foldl Surroundings.after s)) = last := by
  induction events generalizing t s with
  | nil => exact ⟨t, rfl, h, Option.some.inj hnested⟩
  | cons e rest ih =>
    obtain ⟨next, hstep, hrest⟩ := OpenConstructs.run?_cons_eq_some_iff.mp hnested
    obtain ⟨u, v, hbefore, -, hafter, hcounts⟩ := h.step hstep
    rw [← Surroundings.kinds_after hstep] at hrest
    obtain ⟨w, hfollow, hlast⟩ := ih hcounts hrest
    refine ⟨w, ?_, hlast⟩
    rw [follow?, hbefore, Option.bind_some, hafter, Option.bind_some, hfollow]

/-- At every event of a properly nested stream the tracker answers what is read off the constructs
around the event. -/
theorem nesting_eq_surroundings {before rest : List Event} {e : Event} {last : OpenConstructs}
    (h : OpenConstructs.run? none [] (before ++ e :: rest) = some last) :
    ∃ t u v, ({} : Tracker).follow? before = some t ∧ t.before e = some u ∧
      u.nesting = ((Surroundings.of before).during e).nesting ∧ u.after e = some v := by
  obtain ⟨opened, hbefore, hafter⟩ := OpenConstructs.run?_append_eq_some_iff.mp h
  obtain ⟨t, hfollow, hcounts, hkinds⟩ := Counts.start.follow hbefore
  obtain ⟨next, hstep, -⟩ := OpenConstructs.run?_cons_eq_some_iff.mp hafter
  rw [← hkinds] at hstep
  obtain ⟨u, v, hu, hnesting, hv, -⟩ := hcounts.step hstep
  exact ⟨t, u, v, hfollow, hu, hnesting, hv⟩

/-- The second item of a list in a quotation line, after a list in the first item was closed. -/
theorem nesting_eq_surroundings_second_item :
    let before : List Event := [.opening (.quotation (some [])), .opening .quotationLine,
      .opening (.list .bulleted (some [])), .opening .listItem,
      .opening (.list .numbered (some [])), .opening .listItem, .closing .listItem,
      .closing (.list .numbered (some [])), .closing .listItem]
    OpenConstructs.run? none [] (before ++ .opening .listItem :: []) =
        some [.listItem, .list, .quotationLine, .quotation] ∧
      ∃ t u v, ({} : Tracker).follow? before = some t ∧ t.before (.opening .listItem) = some u ∧
        u.nesting = ⟨1, 1, 0, -1, 1, 0, true, true⟩ ∧ u.after (.opening .listItem) = some v := by
  intro before
  have hnested : OpenConstructs.run? none [] (before ++ .opening .listItem :: []) =
      some [.listItem, .list, .quotationLine, .quotation] := rfl
  obtain ⟨t, u, v, ht, hu, hnesting, hv⟩ := nesting_eq_surroundings hnested
  exact ⟨hnested, t, u, v, ht, hu, hnesting.trans rfl, hv⟩

end Tracker

end DocumentStream
