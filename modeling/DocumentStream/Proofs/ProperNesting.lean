import DocumentStream.Event

/-!
Properly nested streams. A closing event closes the construct that was opened last, which is of the
same kind, and items, terms, lines, rows and cells stand directly in the construct they belong to.
Content is judged by the construct around it, and what is in order on its own is in order wherever
that construct stands.
-/

namespace DocumentStream

/-- A construct without its fields. -/
inductive ConstructKind where
  | document
  | paragraph
  | heading
  | list
  | listItem
  | definitionList
  | term
  | description
  | quotation
  | quotationLine
  | table
  | row
  | cell
  | format
  | link
  deriving DecidableEq, Repr

/-- The kind of a construct. -/
def Construct.kind : Construct → ConstructKind
  | .document _ => .document
  | .paragraph _ => .paragraph
  | .heading .. => .heading
  | .list .. => .list
  | .listItem => .listItem
  | .definitionList _ => .definitionList
  | .term => .term
  | .description => .description
  | .quotation _ => .quotation
  | .quotationLine => .quotationLine
  | .table _ => .table
  | .row _ => .row
  | .cell .. => .cell
  | .format .. => .format
  | .link .. => .link

namespace ConstructKind

/-- The kind that a construct has to stand directly in, if it is bound to one. -/
def home? : ConstructKind → Option ConstructKind
  | .listItem => some .list
  | .term | .description => some .definitionList
  | .quotationLine => some .quotation
  | .row => some .table
  | .cell => some .row
  | _ => none

/-- Whether a construct may open directly in another one, or outside of all. -/
def fitsIn (kind : ConstructKind) (around : Option ConstructKind) : Bool :=
  kind.home?.isNone || kind.home? == around

theorem exists_head_of_fitsIn {kind home : ConstructKind} {opened : List ConstructKind}
    (hhome : kind.home? = some home) (hfits : kind.fitsIn opened.head? = true) :
    ∃ below, opened = home :: below := by
  rw [fitsIn, hhome] at hfits
  cases opened with
  | nil => simp at hfits
  | cons first below =>
    obtain rfl : home = first := by simpa using hfits
    exact ⟨below, rfl⟩

end ConstructKind

/-- The constructs that are open at a point of a stream, innermost first. -/
abbrev OpenConstructs := List ConstructKind

namespace OpenConstructs

/-- The open constructs after an event, inside a given construct; nothing if the event breaks the
nesting. -/
def step? (around : Option ConstructKind) (opened : OpenConstructs) :
    Event → Option OpenConstructs
  | .opening construct =>
    if construct.kind.fitsIn (opened.head?.or around) then some (construct.kind :: opened) else none
  | .closing construct =>
    match opened with
    | [] => none
    | kind :: outer => if kind = construct.kind then some outer else none
  | .leaf _ | .foreign _ => some opened

/-- The open constructs after some events. -/
def run? (around : Option ConstructKind) : OpenConstructs → List Event → Option OpenConstructs
  | opened, [] => some opened
  | opened, first :: rest => (step? around opened first).bind fun next => run? around next rest

theorem step?_opening_eq_some_iff {opened next : OpenConstructs} {construct : Construct} :
    step? none opened (.opening construct) = some next ↔
      construct.kind.fitsIn opened.head? = true ∧ construct.kind :: opened = next := by
  simp [step?]

theorem step?_closing_eq_some_iff {around : Option ConstructKind} {opened next : OpenConstructs}
    {construct : Construct} :
    step? around opened (.closing construct) = some next ↔ opened = construct.kind :: next := by
  cases opened <;> simp [step?]

theorem run?_cons_eq_some_iff {around : Option ConstructKind} {opened last : OpenConstructs}
    {first : Event} {rest : List Event} :
    run? around opened (first :: rest) = some last ↔
      ∃ next, step? around opened first = some next ∧ run? around next rest = some last :=
  Option.bind_eq_some_iff

theorem run?_append (around : Option ConstructKind) (opened : OpenConstructs)
    (first second : List Event) :
    run? around opened (first ++ second) =
      (run? around opened first).bind fun next => run? around next second := by
  induction first generalizing opened with
  | nil => rfl
  | cons event rest ih =>
    simp only [List.cons_append, run?, Option.bind_assoc]
    exact congrArg (step? around opened event).bind (funext ih)

theorem run?_append_eq_some_iff {around : Option ConstructKind} {opened last : OpenConstructs}
    {first second : List Event} :
    run? around opened (first ++ second) = some last ↔
      ∃ next, run? around opened first = some next ∧ run? around next second = some last := by
  rw [run?_append]
  exact Option.bind_eq_some_iff

/-- A step that is in order inside a construct is in order on top of any open constructs that offer
what the construct offers. -/
theorem step?_above {around : Option ConstructKind} {opened next below : OpenConstructs}
    {event : Event}
    (hfits : ∀ kind : ConstructKind, kind.fitsIn around = true → kind.fitsIn below.head? = true)
    (h : step? around opened event = some next) :
    step? none (opened ++ below) event = some (next ++ below) := by
  cases event with
  | opening construct =>
    have hopen : construct.kind.fitsIn (opened.head?.or around) = true ∧
        construct.kind :: opened = next := by
      simpa [step?] using h
    obtain ⟨hfit, rfl⟩ := hopen
    have habove : construct.kind.fitsIn (opened ++ below).head? = true := by
      cases opened with
      | nil => exact hfits _ hfit
      | cons kind outer => exact hfit
    simp only [step?, Option.or_none]
    rw [if_pos habove, List.cons_append]
  | closing construct =>
    cases opened with
    | nil => simp [step?] at h
    | cons kind outer =>
      have hclose : kind = construct.kind ∧ outer = next := by simpa [step?] using h
      obtain ⟨rfl, rfl⟩ := hclose
      simp [step?]
  | leaf l =>
    obtain rfl : opened = next := Option.some.inj h
    rfl
  | foreign name =>
    obtain rfl : opened = next := Option.some.inj h
    rfl

/-- Content that is in order inside a construct is in order on top of any open constructs that
offer what the construct offers. -/
theorem run?_above {around : Option ConstructKind} {opened last below : OpenConstructs}
    {events : List Event}
    (hfits : ∀ kind : ConstructKind, kind.fitsIn around = true → kind.fitsIn below.head? = true)
    (h : run? around opened events = some last) :
    run? none (opened ++ below) events = some (last ++ below) := by
  induction events generalizing opened with
  | nil =>
    obtain rfl : opened = last := Option.some.inj h
    rfl
  | cons event rest ih =>
    obtain ⟨next, hstep, hrest⟩ := run?_cons_eq_some_iff.mp h
    exact run?_cons_eq_some_iff.mpr ⟨next ++ below, step?_above hfits hstep, ih hrest⟩

/-- A complete construct in front of further events opens and closes and changes nothing else. -/
theorem run?_construct_append {around : Option ConstructKind} {below : OpenConstructs}
    (first last : Construct) {content : List Event}
    (hfits : first.kind.fitsIn (below.head?.or around) = true) (hlast : last.kind = first.kind)
    (hcontent : run? around (first.kind :: below) content = some (first.kind :: below))
    (rest : List Event) :
    run? around below (.opening first :: (content ++ .closing last :: rest)) =
      run? around below rest := by
  have hopen : step? around below (.opening first) = some (first.kind :: below) := if_pos hfits
  have hclose : step? around (first.kind :: below) (.closing last) = some below :=
    if_pos hlast.symm
  rw [run?, hopen, Option.bind_some, run?_append, hcontent, Option.bind_some, run?, hclose,
    Option.bind_some]

/-- A complete construct is in order on its own if its content is in order inside it. -/
theorem run?_construct {first last : Construct} {content : List Event}
    (hfits : first.kind.fitsIn none = true) (hlast : last.kind = first.kind)
    (hcontent : run? (some first.kind) [] content = some []) :
    run? none [] (.opening first :: (content ++ [.closing last])) = some [] := by
  have habove : run? none ([] ++ [first.kind]) content = some ([] ++ [first.kind]) :=
    run?_above (fun _ h => h) hcontent
  have houtside : first.kind.fitsIn (([] : OpenConstructs).head?.or none) = true := hfits
  exact run?_construct_append first last houtside hlast habove []

/-- A document is in order if its content is in order on its own. -/
theorem run?_document {first last : Parameters} {content : List Event}
    (hcontent : run? none [] content = some []) :
    run? none [] (.opening (.document first) :: (content ++ [.closing (.document last)])) =
      some [] := by
  have hfits : ∀ kind : ConstructKind, kind.fitsIn none = true →
      kind.fitsIn (some .document) = true := by
    intro kind
    cases kind <;> decide
  have hinside : run? none ([] ++ [.document]) content = some ([] ++ [.document]) :=
    run?_above hfits hcontent
  exact run?_append_eq_some_iff.mpr ⟨_, hinside, rfl⟩

/-- Content made of leaves and complete constructs, each with such content of its own. -/
inductive Balanced : List Event → Prop
  | nil : Balanced []
  | leaf (l : Leaf) {rest : List Event} (hrest : Balanced rest) : Balanced (.leaf l :: rest)
  | foreign (name : Text) {rest : List Event} (hrest : Balanced rest) :
      Balanced (.foreign name :: rest)
  | construct {first last : Construct} {content rest : List Event}
      (hlast : last.kind = first.kind) (hcontent : Balanced content) (hrest : Balanced rest) :
      Balanced (.opening first :: (content ++ .closing last :: rest))

/-- Events that close everything begin with balanced content, and behind it they close the innermost
construct, if there is one. -/
theorem exists_balanced_front {around : Option ConstructKind} (n : Nat) :
    ∀ {events : List Event} {opened : OpenConstructs}, events.length ≤ n →
      run? around opened events = some [] →
      ∃ front rest, events = front ++ rest ∧ Balanced front ∧
        ((opened = [] ∧ rest = []) ∨
          ∃ last later outer, rest = .closing last :: later ∧ opened = last.kind :: outer ∧
            run? around outer later = some []) := by
  induction n with
  | zero =>
    intro events opened hlength hrun
    obtain rfl := List.eq_nil_of_length_eq_zero (Nat.le_zero.mp hlength)
    exact ⟨[], [], rfl, .nil, Or.inl ⟨Option.some.inj hrun, rfl⟩⟩
  | succ n ih =>
    intro events opened hlength hrun
    cases events with
    | nil => exact ⟨[], [], rfl, .nil, Or.inl ⟨Option.some.inj hrun, rfl⟩⟩
    | cons e tail =>
      have htail : tail.length ≤ n := by simpa using hlength
      obtain ⟨next, hstep, hnext⟩ := run?_cons_eq_some_iff.mp hrun
      cases e with
      | leaf l =>
        obtain rfl : opened = next := Option.some.inj hstep
        obtain ⟨front, rest, rfl, hfront, hrest⟩ := ih htail hnext
        exact ⟨.leaf l :: front, rest, rfl, .leaf l hfront, hrest⟩
      | foreign name =>
        obtain rfl : opened = next := Option.some.inj hstep
        obtain ⟨front, rest, rfl, hfront, hrest⟩ := ih htail hnext
        exact ⟨.foreign name :: front, rest, rfl, .foreign name hfront, hrest⟩
      | closing last =>
        exact ⟨[], .closing last :: tail, rfl, .nil, Or.inr ⟨last, tail, next, rfl,
          step?_closing_eq_some_iff.mp hstep, hnext⟩⟩
      | opening first =>
        obtain rfl : first.kind :: opened = next := by
          have hopen : first.kind.fitsIn (opened.head?.or around) = true ∧
              first.kind :: opened = next := by simpa [step?] using hstep
          exact hopen.2
        obtain ⟨content, rest, rfl, hcontent, hrest⟩ := ih htail hnext
        obtain ⟨hempty, -⟩ | ⟨last, later, outer, rfl, hopened, hlater⟩ := hrest
        · simp at hempty
        · obtain ⟨hkind, rfl⟩ := List.cons.inj hopened
          have hshort : later.length ≤ n := by
            simp only [List.length_append, List.length_cons] at htail
            omega
          obtain ⟨front, rest, rfl, hfront, hrest⟩ := ih hshort hlater
          exact ⟨.opening first :: (content ++ .closing last :: front), rest, by simp,
            .construct hkind.symm hcontent hfront, hrest⟩

/-- Properly nested content that leaves nothing open is balanced. -/
theorem balanced_of_run? {around : Option ConstructKind} {events : List Event}
    (h : run? around [] events = some []) : Balanced events := by
  obtain ⟨front, rest, rfl, hfront, ⟨-, rfl⟩ | ⟨last, later, outer, -, hopened, -⟩⟩ :=
    exists_balanced_front events.length (Nat.le_refl _) h
  · rwa [List.append_nil]
  · simp at hopened

end OpenConstructs

end DocumentStream
