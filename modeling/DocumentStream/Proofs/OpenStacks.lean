import DocumentStream.Proofs.EventSteps

/-!
The stacks of a renderer and its tracker while properly nested events are handled. What stood on a
stack at the start stays below, and above it there is one member for each open construct that the
stack belongs to. This is enough for every properly nested event to find what it needs.
-/

namespace DocumentStream

/-- Whether a stack has a number of members above a base. -/
def Stacked {α : Type} (base : List α) (n : Nat) (stack : List α) : Prop :=
  ∃ upper, upper.length = n ∧ stack = upper ++ base

namespace Stacked

variable {α : Type} {base stack : List α} {n : Nat}

theorem refl (base : List α) : Stacked base 0 base := ⟨[], rfl, rfl⟩

theorem push (h : Stacked base n stack) (a : α) : Stacked base (n + 1) (a :: stack) := by
  obtain ⟨upper, hlength, rfl⟩ := h
  exact ⟨a :: upper, by rw [List.length_cons, hlength], rfl⟩

theorem exists_cons (h : Stacked base (n + 1) stack) :
    ∃ a rest, stack = a :: rest ∧ Stacked base n rest := by
  obtain ⟨_ | ⟨a, upper⟩, hlength, rfl⟩ := h
  · simp at hlength
  · exact ⟨a, upper ++ base, rfl, upper, by simpa using hlength, rfl⟩

theorem tail (h : Stacked base (n + 1) stack) : Stacked base n stack.tail := by
  obtain ⟨a, rest, rfl, hrest⟩ := h.exists_cons
  exact hrest

theorem modifyHead (h : Stacked base (n + 1) stack) (f : α → α) :
    Stacked base (n + 1) (stack.modifyHead f) := by
  obtain ⟨a, rest, rfl, hrest⟩ := h.exists_cons
  exact hrest.push (f a)

theorem ne_nil (h : Stacked base (n + 1) stack) : stack ≠ [] := by
  obtain ⟨a, rest, rfl, -⟩ := h.exists_cons
  exact List.cons_ne_nil a rest

theorem eq_base (h : Stacked base 0 stack) : stack = base := by
  obtain ⟨upper, hlength, rfl⟩ := h
  rw [List.length_eq_zero_iff.mp hlength, List.nil_append]

theorem length_of_nil (h : Stacked [] n stack) : stack.length = n := by
  obtain ⟨upper, hlength, rfl⟩ := h
  rw [List.append_nil, hlength]

end Stacked

namespace ConstructKind

/-- Whether the content of a construct is captured. -/
def isCaptured : ConstructKind → Bool
  | .heading | .link | .cell => true
  | _ => false

/-- Whether a construct holds inline content. -/
def isLine : ConstructKind → Bool
  | .paragraph | .heading | .listItem | .term | .description | .quotationLine | .cell => true
  | _ => false

/-- Whether a construct is on a stack of the renderer while it is open. -/
def isStacked : ConstructKind → Bool
  | .document | .heading | .list | .table | .row | .cell | .link => true
  | _ => false

/-- Whether the tracker counts a construct while it is open. -/
def isCounted : ConstructKind → Bool
  | .document | .table | .row | .format | .link => false
  | _ => true

/-- Whether a construct is a table or a part of one. -/
def isTabular : ConstructKind → Bool
  | .table | .row | .cell => true
  | _ => false

end ConstructKind

/-- Whether the tables are as the open constructs say: above the base one for each open table, and
with a row in it where a row is open. -/
inductive TablesFit (base : List (List (List Text))) :
    OpenConstructs → List (List (List Text)) → Prop
  | nil : TablesFit base [] base
  | table {opened : OpenConstructs} {tables : List (List (List Text))}
      (h : TablesFit base opened tables) (rows : List (List Text)) :
      TablesFit base (.table :: opened) (rows :: tables)
  | row {opened : OpenConstructs} {tables : List (List (List Text))}
      (h : TablesFit base opened tables) (first : List Text) (rows : List (List Text)) :
      TablesFit base (.row :: .table :: opened) ((first :: rows) :: tables)
  | cell {opened : OpenConstructs} {tables : List (List (List Text))}
      (h : TablesFit base (.row :: opened) tables) :
      TablesFit base (.cell :: .row :: opened) tables
  | other {kind : ConstructKind} {opened : OpenConstructs} {tables : List (List (List Text))}
      (hkind : kind.isTabular = false) (h : TablesFit base opened tables) :
      TablesFit base (kind :: opened) tables

namespace TablesFit

variable {base tables : List (List (List Text))} {opened : OpenConstructs}

theorem of_other {kind : ConstructKind} (hkind : kind.isTabular = false)
    (h : TablesFit base (kind :: opened) tables) : TablesFit base opened tables := by
  cases h with
  | other _ h => exact h
  | table _ _ | row _ _ _ | cell _ => simp [ConstructKind.isTabular] at hkind

theorem eq_base (h : TablesFit base [] tables) : tables = base := by
  cases h
  rfl

theorem exists_of_table (h : TablesFit base (.table :: opened) tables) :
    ∃ rows outer, tables = rows :: outer ∧ TablesFit base opened outer := by
  cases h with
  | table h rows => exact ⟨rows, _, rfl, h⟩
  | other hkind _ => simp [ConstructKind.isTabular] at hkind

theorem exists_of_row (h : TablesFit base (.row :: opened) tables) :
    ∃ first rows outer below, opened = .table :: below ∧ tables = (first :: rows) :: outer ∧
      TablesFit base below outer := by
  cases h with
  | row h first rows => exact ⟨first, rows, _, _, rfl, rfl, h⟩
  | other hkind _ => simp [ConstructKind.isTabular] at hkind

theorem exists_of_cell (h : TablesFit base (.cell :: opened) tables) :
    ∃ below, opened = .row :: below ∧ TablesFit base opened tables := by
  cases h with
  | cell h => exact ⟨_, rfl, h⟩
  | other hkind _ => simp [ConstructKind.isTabular] at hkind

end TablesFit

namespace Renderer

/-- Whether the stacks of a renderer are those of a base with the open constructs above. -/
structure Above (base : Renderer) (opened : OpenConstructs) (r : Renderer) : Prop where
  listStyles : Stacked base.listStyles (opened.count .list) r.listStyles
  abbreviations : r.abbreviations.length = base.abbreviations.length + opened.count .document
  printers : Stacked base.printers.tail (opened.countP ConstructKind.isCaptured + 1) r.printers
  tables : TablesFit base.tables opened r.tables

namespace Above

variable {base r w : Renderer} {opened : OpenConstructs}

theorem refl (base : Renderer) : base.Above [] base where
  listStyles := Stacked.refl _
  abbreviations := rfl
  printers := by
    rw [printers_eq_cons base]
    exact (Stacked.refl _).push _
  tables := .nil

theorem of_writes (h : base.Above opened r) (hw : Writes r w) : base.Above opened w where
  listStyles := by rw [hw.listStyles]; exact h.listStyles
  abbreviations := by rw [hw.abbreviations]; exact h.abbreviations
  printers := by
    rw [printers_eq_cons w, hw.outer]
    exact h.printers.tail.push _
  tables := by rw [hw.tables]; exact h.tables

theorem captures_ne_nil {kind : ConstructKind} (hkind : kind.isCaptured = true)
    (h : base.Above (kind :: opened) r) : r.captures ≠ [] := by
  intro hcaptures
  have hprinters := h.printers
  rw [List.countP_cons_of_pos hkind] at hprinters
  exact hprinters.tail.ne_nil (by simp [Renderer.printers, hcaptures])

theorem of_not_stacked {kind : ConstructKind} (hkind : kind.isStacked = false)
    (h : base.Above opened r) : base.Above (kind :: opened) r := by
  cases kind <;> first
    | exact absurd hkind (by decide)
    | exact ⟨h.listStyles, h.abbreviations, h.printers, .other rfl h.tables⟩

theorem not_stacked {kind : ConstructKind} (hkind : kind.isStacked = false)
    (h : base.Above (kind :: opened) r) : base.Above opened r := by
  cases kind <;> first
    | exact absurd hkind (by decide)
    | exact ⟨h.listStyles, h.abbreviations, h.printers, h.tables.of_other rfl⟩

theorem length_captures (h : base.Above [] r) : r.captures.length = base.captures.length := by
  obtain ⟨upper, hlength, hprinters⟩ := h.printers
  have hlengths := congrArg List.length hprinters
  simp only [Renderer.printers, List.length_append, List.length_tail, hlength,
    List.length_cons, List.length_nil, List.countP_nil] at hlengths
  omega

theorem pushed (h : base.Above opened r) (nesting : Nesting) (p : Printer)
    {construct : Construct} (hfits : construct.kind.fitsIn opened.head? = true) :
    base.Above (construct.kind :: opened) (r.pushed nesting p construct) := by
  have hcaptured : Stacked base.printers.tail (opened.countP ConstructKind.isCaptured + 1 + 1)
      (r.captured p).printers := h.printers.push p
  cases construct with
  | document parameters =>
    refine ⟨h.listStyles, ?_, h.printers, .other rfl h.tables⟩
    rw [Construct.kind, List.count_cons_self, ← Nat.add_assoc, ← h.abbreviations]
    rfl
  | heading _ _ _ | link _ _ _ =>
    refine ⟨h.listStyles, h.abbreviations, ?_, .other rfl h.tables⟩
    rwa [Construct.kind, List.countP_cons_of_pos rfl]
  | list kind parameters =>
    refine ⟨?_, h.abbreviations, h.printers, .other rfl h.tables⟩
    rw [Construct.kind, List.count_cons_self]
    exact h.listStyles.push kind
  | table parameters => exact ⟨h.listStyles, h.abbreviations, h.printers, h.tables.table []⟩
  | row parameters =>
    obtain ⟨below, rfl⟩ := ConstructKind.exists_head_of_fitsIn
      (show ConstructKind.row.home? = some .table from rfl) hfits
    obtain ⟨rows, outer, htables, hbelow⟩ := h.tables.exists_of_table
    obtain ⟨first, rest, hrows⟩ : ∃ first rest, rows ++ [[]] = first :: rest :=
      List.exists_cons_of_ne_nil (by simp)
    refine ⟨h.listStyles, h.abbreviations, h.printers, ?_⟩
    simp only [Renderer.pushed, htables, List.head?_cons, Option.getD_some, List.tail_cons, hrows]
    exact hbelow.row first rest
  | cell isHeader parameters =>
    obtain ⟨below, rfl⟩ := ConstructKind.exists_head_of_fitsIn
      (show ConstructKind.cell.home? = some .row from rfl) hfits
    refine ⟨h.listStyles, h.abbreviations, ?_, h.tables.cell⟩
    rwa [Construct.kind, List.countP_cons_of_pos rfl]
  | quotation parameters =>
    exact ⟨h.listStyles, h.abbreviations, h.printers, .other rfl h.tables⟩
  | _ => exact h.of_not_stacked rfl

/-- Below the printer of a construct that captures its content are the others. -/
theorem printers_released_of_captured {kind : ConstructKind} (hkind : kind.isCaptured = true)
    (h : base.Above (kind :: opened) r) :
    Stacked base.printers.tail (opened.countP ConstructKind.isCaptured + 1)
      r.released.printers := by
  have hprinters := h.printers
  rw [List.countP_cons_of_pos hkind] at hprinters
  rw [printers_released (h.captures_ne_nil hkind)]
  exact hprinters.tail

theorem popped {construct : Construct} (h : base.Above (construct.kind :: opened) r) :
    base.Above opened (r.popped construct) := by
  cases construct with
  | document parameters =>
    refine ⟨h.listStyles, ?_, h.printers, h.tables.of_other rfl⟩
    have hlength := h.abbreviations
    rw [Construct.kind, List.count_cons_self] at hlength
    rw [Renderer.popped, List.length_tail]
    omega
  | heading _ _ _ | link _ _ _ =>
    exact ⟨h.listStyles, h.abbreviations, h.printers_released_of_captured rfl,
      h.tables.of_other rfl⟩
  | list kind parameters =>
    have hstyles := h.listStyles
    rw [Construct.kind, List.count_cons_self] at hstyles
    exact ⟨hstyles.tail, h.abbreviations, h.printers, h.tables.of_other rfl⟩
  | table parameters =>
    obtain ⟨rows, outer, htables, hbelow⟩ := h.tables.exists_of_table
    refine ⟨h.listStyles, h.abbreviations, h.printers, ?_⟩
    rw [Renderer.popped, htables]
    exact hbelow
  | row parameters =>
    obtain ⟨first, rows, outer, below, rfl, htables, hbelow⟩ := h.tables.exists_of_row
    refine ⟨h.listStyles, h.abbreviations, h.printers, ?_⟩
    change TablesFit base.tables (.table :: below) r.tables
    rw [htables]
    exact hbelow.table _
  | cell isHeader parameters =>
    obtain ⟨below, rfl, htables⟩ := h.tables.exists_of_cell
    obtain ⟨first, rows, outer, below, rfl, htables, hbelow⟩ := htables.exists_of_row
    obtain ⟨head, rest, hcell⟩ :
        ∃ head rest, withCell (first :: rows) r.capturedText = head :: rest :=
      List.exists_cons_of_ne_nil (by simp [withCell])
    refine ⟨h.listStyles, h.abbreviations, h.printers_released_of_captured rfl, ?_⟩
    simp only [Renderer.popped, htables, List.head?_cons, Option.getD_some, List.tail_cons, hcell]
    exact hbelow.row head rest
  | _ => exact h.not_stacked rfl

theorem noted (h : base.Above opened r) (l : Leaf) : base.Above opened (r.noted l) := by
  obtain ⟨abbreviations, hlength, heq⟩ := exists_noted_eq r l
  rw [heq]
  exact ⟨h.listStyles, hlength.trans h.abbreviations, h.printers, h.tables⟩

theorem after_opening (h : base.Above opened r) (nesting : Nesting) {construct : Construct}
    (hfits : construct.kind.fitsIn opened.head? = true) :
    base.Above (construct.kind :: opened) (r.opened nesting construct) := by
  obtain ⟨w, p, hw, -, heq⟩ := exists_opened_eq_pushed r nesting construct
  rw [heq]
  exact (h.of_writes hw).pushed nesting p hfits

theorem after_closing {construct : Construct} (h : base.Above (construct.kind :: opened) r) :
    base.Above opened (r.closed construct) :=
  h.popped.of_writes (writes_popped_closed r construct)

theorem after_leaf (h : base.Above opened r) (nesting : Nesting) {l : Leaf}
    (hl : l.isWellTyped = true) : base.Above opened (r.shown nesting l) :=
  (h.noted l).of_writes (Writes.shown r nesting hl)

/-- A construct that may open directly in the innermost one finds what it needs. -/
theorem admitsOpening (h : base.Above opened r) {construct : Construct}
    (hfits : construct.kind.fitsIn opened.head? = true) : r.AdmitsOpening construct := by
  cases construct with
  | listItem =>
    obtain ⟨below, rfl⟩ := ConstructKind.exists_head_of_fitsIn
      (show ConstructKind.listItem.home? = some .list from rfl) hfits
    have hstyles := h.listStyles
    rw [List.count_cons_self] at hstyles
    exact hstyles.ne_nil
  | row parameters =>
    obtain ⟨below, rfl⟩ := ConstructKind.exists_head_of_fitsIn
      (show ConstructKind.row.home? = some .table from rfl) hfits
    obtain ⟨rows, outer, htables, -⟩ := h.tables.exists_of_table
    exact List.ne_nil_of_length_pos (by rw [htables]; exact Nat.succ_pos _)
  | _ => trivial

/-- The innermost construct finds what it needs to close. -/
theorem admitsClosing {construct : Construct} (h : base.Above (construct.kind :: opened) r) :
    r.AdmitsClosing construct := by
  cases construct with
  | document parameters =>
    have hlength := h.abbreviations
    rw [Construct.kind, List.count_cons_self] at hlength
    exact List.ne_nil_of_length_pos (by omega)
  | heading _ _ _ | link _ _ _ => exact h.captures_ne_nil rfl
  | list kind parameters =>
    have hstyles := h.listStyles
    rw [Construct.kind, List.count_cons_self] at hstyles
    exact hstyles.ne_nil
  | table parameters =>
    obtain ⟨rows, outer, htables, -⟩ := h.tables.exists_of_table
    exact List.ne_nil_of_length_pos (by rw [htables]; exact Nat.succ_pos _)
  | cell isHeader parameters =>
    obtain ⟨below, rfl, htables⟩ := h.tables.exists_of_cell
    obtain ⟨first, rows, outer, -, -, htables, -⟩ := htables.exists_of_row
    exact ⟨h.captures_ne_nil rfl, first, rows, outer, htables⟩
  | _ => trivial

end Above

end Renderer

namespace Tracker

/-- Whether the counters of a tracker are those of a base with the open constructs above. Lines of
quotations are counted through until the outermost quotation closes, so that of their number only
a bound is known, and that there is none outside of quotations. -/
structure Above (base : Tracker) (opened : OpenConstructs) (t : Tracker) : Prop where
  listItems : Stacked base.listItems (opened.count .list) t.listItems
  definitionItems :
    Stacked base.definitionItems (opened.count .definitionList) t.definitionItems
  quotationDepth : t.quotationDepth = base.quotationDepth + opened.count .quotation
  quotationLineDepth : t.quotationLineDepth = base.quotationLineDepth + opened.count .quotationLine
  inlineDepth : t.inlineDepth = base.inlineDepth + opened.countP ConstructKind.isLine
  depth_nonneg : 0 ≤ base.quotationDepth
  noLine : t.quotationDepth = 0 → t.quotationLine = -1
  line_le : 0 < base.quotationDepth → base.quotationLine ≤ t.quotationLine

namespace Above

variable {base t : Tracker} {opened : OpenConstructs}

theorem refl {base : Tracker} (hdepth : 0 ≤ base.quotationDepth)
    (hline : base.quotationDepth = 0 → base.quotationLine = -1) : base.Above [] base :=
  ⟨Stacked.refl _, Stacked.refl _, by simp, by simp, by simp, hdepth, hline, fun _ => Int.le_refl _⟩

theorem quotationDepth_nonneg (h : base.Above opened t) : 0 ≤ t.quotationDepth := by
  have hdepth := h.quotationDepth
  have hbase := h.depth_nonneg
  omega

/-- Constructs that the tracker does not count. -/
theorem of_uncounted {kind : ConstructKind} (hkind : kind.isCounted = false)
    (h : base.Above opened t) : base.Above (kind :: opened) t := by
  cases kind <;> first
    | exact absurd hkind (by decide)
    | exact ⟨h.listItems, h.definitionItems, h.quotationDepth, h.quotationLineDepth,
        h.inlineDepth, h.depth_nonneg, h.noLine, h.line_le⟩

theorem uncounted {kind : ConstructKind} (hkind : kind.isCounted = false)
    (h : base.Above (kind :: opened) t) : base.Above opened t := by
  cases kind <;> first
    | exact absurd hkind (by decide)
    | exact ⟨h.listItems, h.definitionItems, h.quotationDepth, h.quotationLineDepth,
        h.inlineDepth, h.depth_nonneg, h.noLine, h.line_le⟩

/-- Outside of quotations nothing is left of what was open. -/
theorem eq_base (h : base.Above [] t) (hdepth : base.quotationDepth = 0)
    (hline : base.quotationLine = -1) : t = base := by
  have hlistItems := h.listItems.eq_base
  have hdefinitionItems := h.definitionItems.eq_base
  have hquotationDepth : t.quotationDepth = base.quotationDepth := by simpa using h.quotationDepth
  have hquotationLineDepth : t.quotationLineDepth = base.quotationLineDepth := by
    simpa using h.quotationLineDepth
  have hinlineDepth : t.inlineDepth = base.inlineDepth := by simpa using h.inlineDepth
  have hquotationLine : t.quotationLine = base.quotationLine := by
    rw [h.noLine (hquotationDepth.trans hdepth), hline]
  cases t
  cases base
  simp_all

theorem listDepth_eq (h : ({} : Tracker).Above opened t) :
    t.nesting.listDepth = opened.count .list :=
  congrArg Nat.cast h.listItems.length_of_nil

theorem definitionDepth_eq (h : ({} : Tracker).Above opened t) :
    t.nesting.definitionDepth = opened.count .definitionList :=
  congrArg Nat.cast h.definitionItems.length_of_nil

theorem isInQuotationLine_eq (h : ({} : Tracker).Above opened t) :
    t.nesting.isInQuotationLine = decide (.quotationLine ∈ opened) := by
  have hlines : t.quotationLineDepth = 0 + opened.count .quotationLine := h.quotationLineDepth
  change decide (0 < t.quotationLineDepth) = _
  rw [decide_eq_decide, ← List.count_pos_iff]
  omega

theorem isInLine_eq (h : ({} : Tracker).Above opened t) :
    t.nesting.isInLine = opened.any ConstructKind.isLine := by
  have hinline : t.inlineDepth = 0 + opened.countP ConstructKind.isLine := h.inlineDepth
  change decide (0 < t.inlineDepth) = _
  rw [Bool.eq_iff_iff, decide_eq_true_iff, List.any_eq_true, ← List.countP_pos_iff]
  omega

theorem inlineDepth_enterLine {kind : ConstructKind} (hkind : kind.isLine = true)
    (h : base.Above opened t) :
    t.inlineDepth + 1 = base.inlineDepth + (kind :: opened).countP ConstructKind.isLine := by
  have hinline := h.inlineDepth
  rw [List.countP_cons_of_pos hkind]
  omega

theorem inlineDepth_leaveLine {kind : ConstructKind} (hkind : kind.isLine = true)
    (h : base.Above (kind :: opened) t) :
    t.inlineDepth - 1 = base.inlineDepth + opened.countP ConstructKind.isLine := by
  have hinline := h.inlineDepth
  rw [List.countP_cons_of_pos hkind] at hinline
  omega

/-- A construct that may open directly in the innermost one finds what it is counted in. -/
theorem admitsOpening (h : base.Above opened t) {construct : Construct}
    (hfits : construct.kind.fitsIn opened.head? = true) : t.AdmitsOpening construct := by
  cases construct with
  | listItem =>
    obtain ⟨below, rfl⟩ := ConstructKind.exists_head_of_fitsIn
      (show ConstructKind.listItem.home? = some .list from rfl) hfits
    have hitems := h.listItems
    rw [List.count_cons_self] at hitems
    exact hitems.ne_nil
  | term | description =>
    obtain ⟨below, rfl⟩ := ConstructKind.exists_head_of_fitsIn
      (show ConstructKind.term.home? = some .definitionList from rfl) hfits
    have hitems := h.definitionItems
    rw [List.count_cons_self] at hitems
    exact hitems.ne_nil
  | _ => trivial

/-- The innermost construct finds what it is counted in. -/
theorem admitsClosing {construct : Construct} (h : base.Above (construct.kind :: opened) t) :
    t.AdmitsClosing construct := by
  cases construct with
  | list kind parameters =>
    have hitems := h.listItems
    rw [Construct.kind, List.count_cons_self] at hitems
    exact hitems.ne_nil
  | definitionList parameters =>
    have hitems := h.definitionItems
    rw [Construct.kind, List.count_cons_self] at hitems
    exact hitems.ne_nil
  | _ => trivial

theorem after_opening (h : base.Above opened t) {construct : Construct}
    (hfits : construct.kind.fitsIn opened.head? = true) :
    base.Above (construct.kind :: opened) (t.opened construct) := by
  have hdepth := h.quotationDepth_nonneg
  cases construct with
  | paragraph _ | heading _ _ _ | cell _ _ =>
    exact ⟨h.listItems, h.definitionItems, h.quotationDepth, h.quotationLineDepth,
      h.inlineDepth_enterLine rfl, h.depth_nonneg, h.noLine, h.line_le⟩
  | list kind parameters =>
    refine ⟨?_, h.definitionItems, h.quotationDepth, h.quotationLineDepth, h.inlineDepth,
      h.depth_nonneg, h.noLine, h.line_le⟩
    rw [Construct.kind, List.count_cons_self]
    exact h.listItems.push (-1)
  | definitionList parameters =>
    refine ⟨h.listItems, ?_, h.quotationDepth, h.quotationLineDepth, h.inlineDepth,
      h.depth_nonneg, h.noLine, h.line_le⟩
    rw [Construct.kind, List.count_cons_self]
    exact h.definitionItems.push (-1)
  | listItem =>
    obtain ⟨below, rfl⟩ := ConstructKind.exists_head_of_fitsIn
      (show ConstructKind.listItem.home? = some .list from rfl) hfits
    have hitems := h.listItems
    have hinline := h.inlineDepth_enterLine (show ConstructKind.listItem.isLine = true from rfl)
    rw [List.count_cons_self] at hitems
    refine ⟨?_, h.definitionItems, h.quotationDepth, h.quotationLineDepth, hinline,
      h.depth_nonneg, h.noLine, h.line_le⟩
    change Stacked _ ((ConstructKind.list :: below).count .list) (t.listItems.modifyHead (· + 1))
    rw [List.count_cons_self]
    exact hitems.modifyHead _
  | term | description =>
    obtain ⟨below, rfl⟩ := ConstructKind.exists_head_of_fitsIn
      (show ConstructKind.term.home? = some .definitionList from rfl) hfits
    have hitems := h.definitionItems
    have hinline := h.inlineDepth_enterLine (show ConstructKind.term.isLine = true from rfl)
    rw [List.count_cons_self] at hitems
    refine ⟨h.listItems, ?_, h.quotationDepth, h.quotationLineDepth, hinline,
      h.depth_nonneg, h.noLine, h.line_le⟩
    change Stacked _ ((ConstructKind.definitionList :: below).count .definitionList)
      (t.definitionItems.modifyHead (· + 1))
    rw [List.count_cons_self]
    exact hitems.modifyHead _
  | quotation parameters =>
    refine ⟨h.listItems, h.definitionItems, ?_, h.quotationLineDepth, h.inlineDepth,
      h.depth_nonneg, ?_, h.line_le⟩
    · have hcount := h.quotationDepth
      simp only [Construct.kind, List.count_cons_self, Tracker.opened]
      omega
    · intro hzero
      simp only [Tracker.opened] at hzero
      omega
  | quotationLine =>
    obtain ⟨below, rfl⟩ := ConstructKind.exists_head_of_fitsIn
      (show ConstructKind.quotationLine.home? = some .quotation from rfl) hfits
    have hcount := h.quotationDepth
    have hlines := h.quotationLineDepth
    have hinline :=
      h.inlineDepth_enterLine (show ConstructKind.quotationLine.isLine = true from rfl)
    have hbase := h.depth_nonneg
    rw [List.count_cons_self] at hcount
    refine ⟨h.listItems, h.definitionItems, h.quotationDepth, ?_, hinline, h.depth_nonneg, ?_, ?_⟩
    · simp only [Construct.kind, List.count_cons_self, Tracker.opened, enterLine]
      omega
    · intro hzero
      simp only [Tracker.opened, enterLine] at hzero
      omega
    · intro hpos
      have hline := h.line_le hpos
      simp only [Tracker.opened, enterLine]
      omega
  | _ => exact h.of_uncounted rfl

theorem after_closing {construct : Construct} (h : base.Above (construct.kind :: opened) t) :
    base.Above opened (t.closed construct) := by
  cases construct with
  | paragraph _ | heading _ _ _ | cell _ _ | listItem | term | description =>
    exact ⟨h.listItems, h.definitionItems, h.quotationDepth, h.quotationLineDepth,
      h.inlineDepth_leaveLine rfl, h.depth_nonneg, h.noLine, h.line_le⟩
  | list kind parameters =>
    have hitems := h.listItems
    rw [Construct.kind, List.count_cons_self] at hitems
    exact ⟨hitems.tail, h.definitionItems, h.quotationDepth, h.quotationLineDepth,
      h.inlineDepth, h.depth_nonneg, h.noLine, h.line_le⟩
  | definitionList parameters =>
    have hitems := h.definitionItems
    rw [Construct.kind, List.count_cons_self] at hitems
    exact ⟨h.listItems, hitems.tail, h.quotationDepth, h.quotationLineDepth,
      h.inlineDepth, h.depth_nonneg, h.noLine, h.line_le⟩
  | quotation parameters =>
    have hcount := h.quotationDepth
    have hbase := h.depth_nonneg
    rw [Construct.kind, List.count_cons_self] at hcount
    refine ⟨h.listItems, h.definitionItems, ?_, h.quotationLineDepth, h.inlineDepth,
      h.depth_nonneg, ?_, ?_⟩
    · simp only [Tracker.closed]
      omega
    · intro hzero
      exact if_pos hzero
    · -- inside a quotation of the base this one is not the outermost, so the count goes on
      intro hpos
      have hline := h.line_le hpos
      simp only [Tracker.closed]
      rwa [if_neg (by omega)]
  | quotationLine =>
    have hlines := h.quotationLineDepth
    have hinline := h.inlineDepth_leaveLine rfl
    rw [Construct.kind, List.count_cons_self] at hlines
    refine ⟨h.listItems, h.definitionItems, h.quotationDepth, ?_, hinline, h.depth_nonneg,
      h.noLine, h.line_le⟩
    simp only [Tracker.closed, leaveLine]
    omega
  | _ => exact h.uncounted rfl

end Above

end Tracker

namespace TrackedRenderer

/-- Whether the stacks of a renderer and its tracker are those of a base with the open constructs
above. -/
structure Above (base : TrackedRenderer) (opened : OpenConstructs) (s : TrackedRenderer) :
    Prop where
  renderer : base.renderer.Above opened s.renderer
  tracker : base.tracker.Above opened s.tracker

namespace Above

variable {base s t : TrackedRenderer} {opened next : OpenConstructs} {e : Event}

/-- A properly nested event can be handled, provided that an abbreviation finds a document. -/
theorem exists_step (h : base.Above opened s)
    (hnested : OpenConstructs.step? none opened e = some next) (he : e.isWellTyped = true)
    (hdocument : e.isAbbreviation = true → s.renderer.abbreviations ≠ []) : ∃ t, Step s e t := by
  cases e with
  | opening construct =>
    obtain ⟨hfits, -⟩ := OpenConstructs.step?_opening_eq_some_iff.mp hnested
    exact ⟨_, .opening (h.tracker.admitsOpening hfits) (h.renderer.admitsOpening hfits)⟩
  | closing construct =>
    obtain rfl := OpenConstructs.step?_closing_eq_some_iff.mp hnested
    exact ⟨_, .closing h.renderer.admitsClosing h.tracker.admitsClosing⟩
  | leaf l => exact ⟨_, .leaf hdocument⟩
  | foreign name => simp [Event.isWellTyped] at he

/-- The stacks follow the open constructs. -/
theorem step (h : base.Above opened s)
    (hnested : OpenConstructs.step? none opened e = some next) (he : e.isWellTyped = true)
    (hstep : Step s e t) : base.Above next t := by
  cases hstep with
  | opening ht hr =>
    obtain ⟨hfits, rfl⟩ := OpenConstructs.step?_opening_eq_some_iff.mp hnested
    exact ⟨h.renderer.after_opening _ hfits, h.tracker.after_opening hfits⟩
  | closing hr ht =>
    obtain rfl := OpenConstructs.step?_closing_eq_some_iff.mp hnested
    exact ⟨h.renderer.after_closing, h.tracker.after_closing⟩
  | leaf hr =>
    obtain rfl := Option.some.inj hnested
    exact ⟨h.renderer.after_leaf _ he, h.tracker⟩

end Above

end TrackedRenderer

end DocumentStream
