import DocumentStream.Proofs.InlineContent
import DocumentStream.Proofs.Mirroring
import DocumentStream.Proofs.OpenStacks

/-!
Events told to two renderers that correspond. Every event leaves them corresponding, with the
accounts of the open scopes that it makes, if the markup it has in it corresponds and the texts that
it holds back do, which may be others in the one renderer than in the other. Stacks may be compared
printer by printer, which asks less of the comparison.
-/

namespace DocumentStream

namespace Mirror

/-- The accounts of the open scopes, innermost first, after the innermost scope is closed and its
text goes to the scope around it. -/
def joinInner : List Account → List Account
  | inner :: outer :: rest => (outer ++ inner) :: rest
  | accounts => accounts

/-- The accounts of the open scopes after a construct is opened. -/
def opened (accounts : List Account) : Construct → List Account
  | .heading .. | .cell .. | .link .. => [] :: accounts
  | _ => accounts

/-- The accounts of the open scopes after a construct is closed. What was in a cell is left to the
table. -/
def closed (accounts : List Account) : Construct → List Account
  | .heading .. | .link .. => joinInner accounts
  | .cell .. => accounts.tail
  | _ => accounts

/-- The accounts of the open scopes after an event. -/
def accounts (accounts : List Account) : Event → List Account
  | .opening construct => opened accounts construct
  | .closing construct => closed accounts construct
  | .leaf l => accounts.modifyHead (· ++ (Event.leaf l).addedText?.toList)
  | .foreign _ => accounts

theorem accounts_of_delayed {e : Event} (h : e.delayed? ≠ none) (texts : List Account) :
    accounts texts e = texts.modifyHead (· ++ e.addedText?.toList) := by
  cases e with
  | leaf l => rfl
  | _ => exact absurd rfl h

theorem length_opened (texts : List Account) (construct : Construct) :
    (opened texts construct).length =
      texts.length + if construct.kind.isCaptured then 1 else 0 := by
  cases construct <;> rfl

theorem length_closed {texts : List Account} (h : 1 < texts.length) (construct : Construct) :
    (closed texts construct).length + (if construct.kind.isCaptured then 1 else 0) =
      texts.length := by
  match texts, h with
  | inner :: outer :: rest, _ => cases construct <;> rfl

theorem closed_of_not_captured {construct : Construct}
    (h : construct.kind.isCaptured = false) (texts : List Account) :
    closed texts construct = texts := by
  cases construct <;> first | rfl | cases h

/-- There is one account for each open construct that is captured, and one for the document. -/
theorem length_accounts {opened next : OpenConstructs} {e : Event} {texts : List Account}
    (h : OpenConstructs.step? none opened e = some next)
    (hlength : texts.length = opened.countP ConstructKind.isCaptured + 1) :
    (accounts texts e).length = next.countP ConstructKind.isCaptured + 1 := by
  cases e with
  | opening construct =>
    obtain ⟨-, rfl⟩ := OpenConstructs.step?_opening_eq_some_iff.mp h
    rw [accounts, length_opened, hlength, List.countP_cons]
    omega
  | closing construct =>
    obtain rfl := OpenConstructs.step?_closing_eq_some_iff.mp h
    rw [List.countP_cons] at hlength
    cases hcaptured : construct.kind.isCaptured with
    | true =>
      rw [if_pos hcaptured] at hlength
      have htwo : 1 < texts.length := by omega
      have hclosed := length_closed htwo construct
      rw [if_pos hcaptured, hlength] at hclosed
      rw [accounts]
      omega
    | false =>
      rw [if_neg (by simp [hcaptured])] at hlength
      rw [accounts, closed_of_not_captured hcaptured, hlength]
  | leaf l =>
    obtain rfl := Option.some.inj h
    rw [accounts, List.length_modifyHead, hlength]
  | foreign name =>
    obtain rfl := Option.some.inj h
    exact hlength

theorem length_foldl_accounts {opened last : OpenConstructs} {es : List Event}
    {texts : List Account}
    (h : OpenConstructs.run? none opened es = some last)
    (hlength : texts.length = opened.countP ConstructKind.isCaptured + 1) :
    (es.foldl accounts texts).length = last.countP ConstructKind.isCaptured + 1 := by
  induction es generalizing opened texts with
  | nil =>
    obtain rfl := Option.some.inj h
    exact hlength
  | cons e rest ih =>
    obtain ⟨next, hnext, hrest⟩ := OpenConstructs.run?_cons_eq_some_iff.mp h
    exact ih hrest (length_accounts hnext hlength)

/-- Whether the markup that an event has in it corresponds in both renderers. -/
def Fits (m : Mirror) : Event → Prop
  | .closing (.heading level _ _) =>
    m.Verbatim ∨ ∀ n ∈ [1, 2], Rendering.compareLevel? level n ≠ some .eq
  | .closing (.cell ..) | .closing (.table _) | .leaf (.rawText ..) | .leaf (.call ..) => m.Verbatim
  | .closing (.link reference _ _) =>
    m.Verbatim ∨ ∀ target, m.linkTarget reference = .ok target → '\\' ∉ target.display
  | .leaf (.image reference alt _ parameters) =>
    m.Verbatim ∨ (∀ target, m.imageTarget reference = .ok target → '\\' ∉ target.display) ∧
      (∀ text, alt = .str text → '\\' ∉ text) ∧
      ∀ entries ∈ parameters, ∀ text,
        entries.get? "alt".toList = some (.str text) → '\\' ∉ text
  | _ => True

/-- Where equal texts correspond all markup does. -/
theorem Verbatim.fits {m : Mirror} (h : m.Verbatim) (e : Event) : m.Fits e := by
  cases e with
  | closing construct =>
    cases construct with
    | heading level id parameters => exact .inl h
    | link reference isFreeStanding parameters => exact .inl h
    | cell | table => exact h
    | _ => exact trivial
  | leaf l =>
    cases l with
    | image reference alt isFreeStanding parameters => exact .inl h
    | rawText | call => exact h
    | _ => exact trivial
  | _ => exact trivial

namespace Respected

open Renderer Rendering

variable {m : Mirror} {accounts outer : List Account} {account : Account} {r s : Renderer}
  (hm : m.Respected)

include hm

theorem openHeading (level : Value) :
    InStep (m.Beside accounts) (m.Beside ([] :: accounts)) m.Failed
      (Rendering.openHeading level) := by
  have hopen : InStep (m.Beside accounts) (m.Beside ([] :: accounts)) m.Failed (do
      let r ← get
      openScope (r.capture r.printer.escapesPipes)) :=
    hm.openScope_capture (fun r => r.printer.escapesPipes) hm.escapesPipes_printer
  have hmarked : InStep (m.Beside accounts) (m.Beside ([] :: accounts)) m.Failed (do
      if compareLevel? level 2 = some .gt then
        Rendering.print ((← timesLevel level ['=']) ++ [' '])
      let r ← get
      openScope (r.capture r.printer.escapesPipes)) := by
    refine InStep.ite (hm.timesLevel_bind fun n => (hm.print ?_).bind fun _ => hopen) hopen
    simp [not_mem_times]
  refine hm.printEmptyLine.bind fun _ => InStep.ite ?_ hmarked
  exact (hm.throw _).bind fun _ => hmarked

theorem closeHeading {level : Value}
    (hlevel : m.Verbatim ∨ ∀ n ∈ [1, 2], compareLevel? level n ≠ some .eq) :
    InStep (m.Beside accounts) (m.Beside (joinInner accounts)) m.Failed
      (Rendering.closeHeading level) := by
  refine hm.closeScope_bind fun {inner around} haccounts {x y} halike {r s} hbeside => ?_
  obtain ⟨account, outer, rfl⟩ := hbeside.exists_accounts_eq
  obtain rfl := haccounts
  refine (hm.agree_print halike hbeside).bind fun _ r s hbeside => ?_
  have hlast : m.Together ((account ++ inner) :: outer) (do
      Rendering.print (' ' :: (← timesLevel level ['=']))) :=
    hm.timesLevel_bind fun n => hm.print (by simp [not_mem_times])
  rcases hlevel with hverbatim | hlevel
  · obtain rfl := hverbatim.eq halike
    refine InStep.ite (hm.print ?_) (InStep.ite (hm.print ?_) hlast) hbeside
    · simp
    · simp
  · rw [if_neg (hlevel 1 (by decide)), if_neg (hlevel 2 (by decide)),
      if_neg (hlevel 1 (by decide)), if_neg (hlevel 2 (by decide))]
    exact hlast hbeside

theorem openList (nesting : Nesting) (kind : ListKind) :
    m.Together accounts (Rendering.openList nesting kind) := by
  have hstyle : m.Together accounts
      (MonadState.modifyGet fun r => ((), { r with listStyles := kind :: r.listStyles })) :=
    modify fun _ _ ⟨hfixed, hlength, hdepth, hprinters⟩ => .intro hfixed hlength hdepth hprinters
  exact InStep.ite (hm.printEmptyLine.bind fun _ => hstyle)
    ((hm.print (by decide)).bind fun _ => hstyle)

theorem closeList : m.Together accounts Rendering.closeList := by
  refine get_bind (fun r s ⟨_, _, _, _⟩ => rfl) fun r _ => ?_
  split
  · exact hm.throw _
  · refine InStep.bind ?_ fun _ => hm.flushes
    exact modify fun _ _ ⟨hfixed, hlength, hdepth, hprinters⟩ =>
      .intro hfixed hlength hdepth hprinters

theorem openItem (nesting : Nesting) : m.Together accounts (Rendering.openItem nesting) := by
  refine get_bind (fun r s ⟨_, _, _, _⟩ => rfl) fun r _ => ?_
  split
  · exact hm.throw _
  · rename_i style _ _
    refine hm.separated _ (hm.startLine ?_)
    cases style <;> simp [not_mem_times, indent, itemMarker]

theorem openTerm (nesting : Nesting) : m.Together accounts (Rendering.openTerm nesting) :=
  hm.printEmptyLine.bind fun _ => hm.startLine (by simp [not_mem_times, indent])

theorem openDescription (nesting : Nesting) :
    m.Together accounts (Rendering.openDescription nesting) :=
  hm.separated _ (hm.startLine (by simp [not_mem_times, indent]))

theorem openQuotation (nesting : Nesting) :
    m.Together accounts (Rendering.openQuotation nesting) := by
  have hdepth : m.Together accounts (MonadState.modifyGet fun r =>
      ((), { r with previousQuotationDepth := nesting.quotationDepth })) :=
    modify fun _ _ ⟨hfixed, hlength, hdepth, hprinters⟩ => .intro hfixed hlength hdepth hprinters
  unfold Rendering.openQuotation
  split
  · exact hdepth
  · exact hm.printEmptyLine.bind fun _ => hdepth

theorem openQuotationLine (nesting : Nesting) :
    m.Together accounts (Rendering.openQuotationLine nesting) := by
  have hline : m.Together accounts (do
      Rendering.print (Text.times nesting.quotationDepth ['>', ' '])
      startLineContent) := hm.startLine (by simp [not_mem_times])
  refine InStep.ite (get_bind (fun r s ⟨_, _, _, _⟩ => rfl) fun r _ => ?_) hline
  refine (hm.print ?_).bind fun _ => hline
  simp [quotationSeparator, not_mem_times]

theorem closeCell (hverbatim : m.Verbatim) :
    InStep (m.Beside accounts) (m.Beside accounts.tail) m.Failed Rendering.closeCell := by
  refine hm.closeScope_bind fun haccounts x y halike r s hbeside => ?_
  obtain rfl := haccounts
  obtain rfl := hverbatim.eq halike
  refine ((hm.currentRows _).bind fun rows => ?_) hbeside
  split
  · exact hm.throw _
  · exact setRows _

theorem closeTable (hverbatim : m.Verbatim) : m.Together accounts Rendering.closeTable := by
  refine (hm.currentRows _).bind fun rows => ?_
  refine InStep.bind ?_ fun _ => hm.print_alike (hverbatim.markup _)
  exact modify fun _ _ ⟨hfixed, hlength, hdepth, hprinters⟩ =>
    .intro hfixed hlength hdepth hprinters

theorem closeDocument : m.Together accounts Rendering.closeDocument := by
  refine get_bind (fun r s ⟨_, _, _, _⟩ => rfl) fun r hfixed => ?_
  split
  · exact hm.throw _
  rename_i scope outer hscopes
  have hverbatim : m.Verbatim ∨ scope = [] := by
    refine hfixed.abbreviations.imp id fun hempty => hempty scope ?_
    rw [hscopes]
    exact List.mem_cons_self
  have houter : m.Verbatim ∨ ∀ scope ∈ outer, scope = [] := by
    refine hfixed.abbreviations.imp id fun hempty scope' hscope' => hempty scope' ?_
    rw [hscopes]
    exact List.mem_cons_of_mem _ hscope'
  refine InStep.bind (modify fun _ _ ⟨hfixed, hlength, hdepth, hprinters⟩ => ?_) fun _ => ?_
  · exact .intro ⟨hfixed.options, hfixed.linkTarget, hfixed.imageTarget, houter⟩ hlength hdepth
      hprinters
  rcases hverbatim with hverbatim | rfl
  · split
    · exact hm.flushes
    · exact hm.printEmptyLine.bind fun _ =>
        (hm.print_alike (hverbatim.markup _)).bind fun _ => hm.flushes
  · exact hm.flushes

/-- What a serializer supplies corresponds to itself if it is clean. -/
theorem alike_of_clean {text : Text} (hclean : m.Verbatim ∨ '\\' ∉ text) : m.alike [] text text :=
  hclean.elim (fun hverbatim => hverbatim.markup text) hm.markup

/-- Text that corresponds may have markup on both sides. -/
theorem alike_between (before after : Text) {shown : Account} {x y : Text}
    (hbefore : m.alike [] before before) (h : m.alike shown x y) (hafter : m.alike [] after after) :
    m.alike shown (before ++ x ++ after) (before ++ y ++ after) := by
  have hboth := hm.append (hm.append hbefore h) hafter
  rwa [List.nil_append, List.append_nil] at hboth

theorem ofField_bind {α β : Type} {after : Renderer → Renderer → Prop}
    {result : Except FieldFault α} {next : α → Rendering β}
    (hnext : ∀ a, result = .ok a → InStep (m.Beside accounts) after m.Failed (next a)) :
    InStep (m.Beside accounts) after m.Failed (Rendering.ofField result >>= next) := by
  cases result with
  | ok a => exact hnext a rfl
  | error fault => exact fun r s h => .error _ (h.failed hm)

theorem asEntries_bind {α : Type} {after : Renderer → Renderer → Prop} {parameters : Parameters}
    {next : Entries → Rendering α}
    (hnext : ∀ entries ∈ parameters, InStep (m.Beside accounts) after m.Failed (next entries)) :
    InStep (m.Beside accounts) after m.Failed (Rendering.asEntries parameters >>= next) := by
  cases parameters with
  | some entries => exact hnext entries rfl
  | none => exact fun r s h => .error _ (h.failed hm)

/-- Links correspond if their labels do: either both labels are empty or neither is. -/
theorem alike_link {shown : Account} {target x y : Text} (htarget : m.alike [] target target)
    (h : m.alike shown x y) :
    m.alike shown
      (if x.isEmpty then ['[', '['] ++ target ++ [']', ']']
        else '[' :: x ++ ']' :: '(' :: target ++ [')'])
      (if y.isEmpty then ['[', '['] ++ target ++ [']', ']']
        else '[' :: y ++ ']' :: '(' :: target ++ [')']) := by
  have hclose : m.alike [] (']' :: '(' :: target ++ [')']) (']' :: '(' :: target ++ [')']) :=
    hm.alike_between [']', '('] [')'] (hm.markup (by decide)) htarget (hm.markup (by decide))
  rw [← hm.isEmpty h]
  split
  · rename_i hempty
    obtain rfl := List.isEmpty_iff.mp hempty
    obtain rfl : y = [] := List.isEmpty_iff.mp (hm.isEmpty h ▸ hempty)
    have hall := hm.append h (hm.alike_between ['[', '['] [']', ']'] (hm.markup (by decide))
      htarget (hm.markup (by decide)))
    rwa [List.append_nil] at hall
  · have hall := hm.alike_between ['['] _ (hm.markup (by decide)) h hclose
    simpa only [List.cons_append, List.nil_append, List.append_assoc] using hall

theorem closeLink {reference : Reference}
    (hclean : m.Verbatim ∨ ∀ target, m.linkTarget reference = .ok target → '\\' ∉ target.display) :
    InStep (m.Beside accounts) (m.Beside (joinInner accounts)) m.Failed
      (Rendering.closeLink reference) := by
  refine hm.closeScope_bind fun {inner around} haccounts {x y} halike {r s} hbeside => ?_
  obtain ⟨account, outer, rfl⟩ := hbeside.exists_accounts_eq
  obtain rfl := haccounts
  have hsame : r.linkTarget = m.linkTarget ∧ s.linkTarget = m.linkTarget := by
    obtain ⟨hfixed, -, -, -⟩ := hbeside
    exact ⟨hfixed.linkTarget, hfixed.linkTarget⟩
  rw [run_get_bind, run_get_bind, hsame.1, hsame.2]
  cases htarget : m.linkTarget reference with
  | error fault =>
    have hlink (label : Text) : reference.link m.linkTarget label = .error fault := by
      rw [Reference.link, htarget]
      rfl
    rw [hlink, hlink]
    exact .error _ (hbeside.failed hm)
  | ok target =>
    rw [Reference.link_eq_ok htarget, Reference.link_eq_ok htarget]
    have hdisplay := hm.alike_of_clean (hclean.imp id fun h => h target htarget)
    exact hm.agree_print (hm.alike_link hdisplay halike) hbeside

theorem openConstruct (nesting : Nesting) (construct : Construct) :
    InStep (m.Beside accounts) (m.Beside (opened accounts construct)) m.Failed
      (Rendering.openConstruct nesting construct) := by
  cases construct with
  | document parameters =>
    refine modify fun _ _ ⟨hfixed, hlength, hdepth, hprinters⟩ => ?_
    refine .intro ⟨hfixed.options, hfixed.linkTarget, hfixed.imageTarget, ?_⟩ hlength hdepth
      hprinters
    exact hfixed.abbreviations.imp id fun hempty => List.forall_mem_cons.mpr ⟨rfl, hempty⟩
  | paragraph parameters => exact hm.printEmptyLine
  | heading level id parameters => exact hm.openHeading level
  | list kind parameters => exact hm.openList nesting kind
  | listItem => exact hm.openItem nesting
  | definitionList parameters => exact InStep.pure ()
  | term => exact hm.openTerm nesting
  | description => exact hm.openDescription nesting
  | quotation parameters => exact hm.openQuotation nesting
  | quotationLine => exact hm.openQuotationLine nesting
  | table parameters =>
    refine hm.printEmptyLine.bind fun _ => ?_
    exact modify fun _ _ ⟨hfixed, hlength, hdepth, hprinters⟩ =>
      .intro hfixed hlength hdepth hprinters
  | row parameters => exact (hm.currentRows _).bind fun rows => setRows _
  | cell isHeader parameters => exact hm.openScope_capture (fun _ => true) fun _ => rfl
  | format style parameters => exact hm.print (by cases style <;> decide)
  | link reference isFreeStanding parameters => exact hm.openLink

theorem closeConstruct {construct : Construct} (hfits : m.Fits (.closing construct)) :
    InStep (m.Beside accounts) (m.Beside (Mirror.closed accounts construct)) m.Failed
      (Rendering.closeConstruct construct) := by
  cases construct with
  | document parameters => exact hm.closeDocument
  | heading level id parameters => exact hm.closeHeading hfits
  | list kind parameters => exact hm.closeList
  | term | description | quotationLine => exact hm.flushes
  | table parameters => exact hm.closeTable hfits
  | cell isHeader parameters => exact hm.closeCell hfits
  | format style parameters => exact hm.print (by cases style <;> decide)
  | link reference isFreeStanding parameters => exact hm.closeLink hfits
  | paragraph _ | listItem | definitionList _ | quotation _ | row _ => exact InStep.pure ()

/-- The markup of an image corresponds to itself if the target and the text shown do. -/
theorem alike_image {serialize : Serializer} {reference : Reference} {alt : Value} {markup : Text}
    (htarget : ∀ target, serialize reference = .ok target →
      m.alike [] target.display target.display)
    (halt : ∀ text, alt = .str text → m.alike [] text text)
    (h : reference.image serialize alt = .ok markup) : m.alike [] markup markup := by
  have hmarkup {shown target : Text} (hshown : m.alike [] shown shown)
      (htarget : m.alike [] target target) :
      m.alike [] ('!' :: '[' :: shown ++ ']' :: '(' :: target ++ [')'])
        ('!' :: '[' :: shown ++ ']' :: '(' :: target ++ [')']) := by
    have hlabel := hm.alike_between ['!', '['] [']', '('] (hm.markup (by decide)) hshown
      (hm.markup (by decide))
    have hall := hm.alike_between _ [')'] hlabel htarget (hm.markup (by decide))
    simpa only [List.cons_append, List.nil_append, List.append_assoc] using hall
  unfold Reference.image at h
  cases hserialize : serialize reference with
  | error fault =>
    rw [hserialize] at h
    cases h
  | ok target =>
    rw [hserialize] at h
    have hdisplay := htarget target hserialize
    cases alt with
    | null =>
      cases h
      exact hmarkup hdisplay hdisplay
    | str text =>
      cases h
      refine hmarkup ?_ hdisplay
      split
      · exact hdisplay
      · exact halt text rfl
    | _ => cases h

theorem image {reference : Reference} {alt : Value} {isFreeStanding : Value}
    {parameters : Parameters}
    (hfits : m.Fits (.leaf (.image reference alt isFreeStanding parameters))) :
    m.Together accounts (Rendering.image reference alt parameters) := by
  have htarget : ∀ target, m.imageTarget reference = .ok target →
      m.alike [] target.display target.display := fun target htarget =>
    hm.alike_of_clean (hfits.imp id fun h => h.1 target htarget)
  have hprint {shown : Value} (hshown : ∀ text, shown = .str text → m.alike [] text text) :
      m.Together accounts (do
        Rendering.print (← Rendering.ofField (reference.image (← get).imageTarget shown))) := by
    refine get_bind (fun r s ⟨_, _, _, _⟩ => rfl) fun r hfixed => ?_
    refine hm.ofField_bind fun markup hmarkup => hm.print_alike ?_
    rw [hfixed.imageTarget] at hmarkup
    exact hm.alike_image htarget hshown hmarkup
  have hgiven := hprint fun text htext =>
    hm.alike_of_clean (hfits.imp id fun h => h.2.1 text htext)
  have hshown (isGiven : Bool) : m.Together accounts (do
      let shown ←
        if isGiven then
          pure alt
        else
          pure (((← Rendering.asEntries parameters).get? "alt".toList).getD .null)
      Rendering.print (← Rendering.ofField (reference.image (← get).imageTarget shown))) := by
    refine InStep.ite hgiven (hm.asEntries_bind fun entries hentries => hprint fun text htext => ?_)
    refine hm.alike_of_clean (hfits.imp id fun h => h.2.2 entries hentries text ?_)
    cases hget : entries.get? "alt".toList with
    | none =>
      rw [hget] at htext
      cases htext
    | some value =>
      rw [hget] at htext
      exact congrArg some htext
  refine InStep.ite ?_ (hshown false)
  split
  · exact hshown _
  · exact (hm.throw _).bind fun _ => hshown _

theorem rawText (hverbatim : m.Verbatim) (nesting : Nesting) (text : Value) :
    m.Together accounts (Rendering.rawText nesting text) := by
  have hprint (markup : Text) : m.Together accounts (Rendering.print markup) :=
    hm.print_alike (hverbatim.markup markup)
  unfold Rendering.rawText
  split
  · refine (abbreviation? _).bind fun abbreviation => ?_
    split
    · exact (hm.define hverbatim _).bind fun _ => hprint _
    · exact (hm.separateBlock nesting).bind fun _ => hprint _
  · exact hm.throw _

theorem code (hverbatim : m.Verbatim) (nesting : Nesting) (content isInline : Value)
    (parameters : Parameters) :
    m.Together accounts (Rendering.code nesting content isInline parameters) := by
  have hprint (markup : Text) : m.Together accounts (Rendering.print markup) :=
    hm.print_alike (hverbatim.markup markup)
  refine InStep.ite ((hm.asText _).bind fun _ => hprint _) ?_
  refine (hm.separateBlock nesting).bind fun _ => (hm.asEntries _).bind fun entries => ?_
  split
  · exact (hm.asText _).bind fun _ => hprint _
  · exact (hm.asText _).bind fun _ => (hm.asText _).bind fun _ => hprint _

theorem unhandledMacro (hverbatim : m.Verbatim) (nesting : Nesting) (id content isInline : Value)
    (parameters : Parameters) :
    m.Together accounts (Rendering.unhandledMacro nesting id content isInline parameters) := by
  have hcall : m.Together accounts (do
      let parameters ← Rendering.asEntries parameters
      Rendering.print (← Rendering.ofField (MacroCall.ofFields id parameters content)).text) :=
    (hm.asEntries _).bind fun _ => (hm.ofField _).bind fun _ =>
      hm.print_alike (hverbatim.markup _)
  have hsame {r s : Renderer} (h : m.Beside accounts r s) :
      s.options.unhandledMacroMode = r.options.unhandledMacroMode := by
    obtain ⟨hfixed, -, -, -⟩ := h
    rw [hfixed.options]
    exact hm.unhandledMacroMode
  refine get_bind (fun r s h => by simp only [hsame h]) fun r _ => ?_
  split
  · exact hm.throw _
  · exact report _ _
  · split
    · exact hcall
    · exact (hm.separateBlock nesting).bind fun _ => hcall

theorem symbol {value : Value} (hvalue : (Event.leaf (.symbol value)).delayed? = none) :
    m.Together accounts (Rendering.symbol value) := by
  unfold Rendering.symbol
  split
  · exact hm.throw _
  rename_i hkey
  have hsome : value.key?.isSome = true := by simpa [Option.isSome_iff_ne_none] using hkey
  cases hmarkup : symbolMarkup? value with
  | none => simp [Event.delayed?, hmarkup, hsome] at hvalue
  | some markup =>
    refine hm.print ?_
    unfold symbolMarkup? at hmarkup
    split at hmarkup <;> cases hmarkup <;> decide

theorem leaf (nesting : Nesting) {l : Leaf} (hl : (Event.leaf l).delayed? = none)
    (hfits : m.Fits (.leaf l)) : m.Together accounts (Rendering.leaf nesting l) := by
  cases l with
  | word text => exact absurd hl (Option.some_ne_none _)
  | space => exact absurd hl (Option.some_ne_none _)
  | lineBreak => exact hm.print (by decide)
  | symbol value => exact hm.symbol hl
  | rawText text markup => exact hm.rawText hfits nesting text
  | image reference alt isFreeStanding parameters => exact hm.image hfits
  | call id content isInline parameters =>
    exact InStep.ite (hm.code hfits nesting _ _ _) (hm.unhandledMacro hfits nesting _ _ _ _)
  | rule parameters => exact hm.printEmptyLine.bind fun _ => hm.print (by decide)

/-- An event that holds no text back keeps corresponding renderers so. -/
theorem event (nesting : Nesting) {e : Event} (he : e.delayed? = none) (hfits : m.Fits e) :
    InStep (m.Beside accounts) (m.Beside (Mirror.accounts accounts e)) m.Failed
      (Rendering.event nesting e) := by
  cases e with
  | opening construct => exact hm.openConstruct nesting construct
  | closing construct => exact hm.closeConstruct hfits
  | leaf l =>
    have hsame : Mirror.accounts accounts (.leaf l) = accounts := by
      rw [Mirror.accounts, Event.addedText?, he]
      cases accounts with
      | nil => rfl
      | cons account outer => exact congrArg (· :: outer) (List.append_nil account)
    rw [hsame]
    exact hm.leaf nesting he hfits
  | foreign name => exact hm.throw _

end Respected

/-- Two renderers that follow the same nesting and correspond otherwise. -/
structure Tracked (m : Mirror) (accounts : List Account) (s t : TrackedRenderer) : Prop where
  tracker : t.tracker = s.tracker
  renderer : m.Beside accounts s.renderer t.renderer

/-- What two renderers that follow the nesting have in common if they failed. -/
def TrackedFailed (m : Mirror) (s t : TrackedRenderer) : Prop := m.Failed s.renderer t.renderer

/-- Whether holding back a value in the one renderer and another in the other adds texts to the
account. -/
def Delays (m : Mirror) (added : Account) (value value' : Value) : Prop :=
  ∀ ⦃account : Account⦄ ⦃accounts : List Account⦄ ⦃p q : Printer⦄ ⦃ps qs : List Printer⦄,
    m.related (account :: accounts) (p :: ps) (q :: qs) →
      m.related ((account ++ added) :: accounts) (p.delay value :: ps) (q.delay value' :: qs)

/-- Whether two renderers can be told two events in place of one: that event itself, if it holds
nothing back, or else events that hold values back which add its text. -/
inductive Exchanges (m : Mirror) (e : Event) : Event → Event → Prop
  | same (h : e.delayed? = none) : Exchanges m e e e
  | delayed {left right : Event} {value value' : Value} (h : e.delayed? ≠ none)
      (hleft : left.delayed? = some value) (hright : right.delayed? = some value')
      (hdelays : m.Delays e.addedText?.toList value value') : Exchanges m e left right

theorem Exchanges.refl {m : Mirror} {e : Event}
    (h : ∀ value, e.delayed? = some value → m.Delays e.addedText?.toList value value) :
    m.Exchanges e e e := by
  cases he : e.delayed? with
  | none => exact .same he
  | some value => exact .delayed (by simp [he]) he he (h value he)

namespace Respected

open TrackedRendering

variable {m : Mirror} {accounts : List Account} (hm : m.Respected)

include hm

theorem track (step : Tracker → Event → Option Tracker) (e : Event) :
    InStep (m.Tracked accounts) (m.Tracked accounts) m.TrackedFailed
      (TrackedRendering.track step e) := by
  intro s t hbeside
  rw [TrackedRendering.track, run_get_bind, run_get_bind, hbeside.tracker]
  cases step s.tracker e with
  | some tracker => exact .ok () ⟨rfl, hbeside.renderer⟩
  | none => exact .error _ (hbeside.renderer.failed hm)

/-- Events in place of one leave the renderers corresponding, with the accounts that this makes. -/
theorem agree_event {e left right : Event} (hfits : m.Fits e)
    (hexchanges : m.Exchanges e left right) {s t : TrackedRenderer} (h : m.Tracked accounts s t) :
    Agree (m.Tracked (Mirror.accounts accounts e)) m.TrackedFailed
      ((TrackedRendering.event left).run s) ((TrackedRendering.event right).run t) := by
  cases hexchanges with
  | same he =>
    refine ((hm.track _ e).bind fun _ => ?_) h
    rintro ⟨_, r⟩ ⟨tracker, s⟩ ⟨rfl, hbeside⟩
    rw [run_get_bind, run_get_bind]
    have hevent := hm.event tracker.nesting he hfits hbeside
    refine Agree.bind ((agree_ofRendering hevent).mono fun _ _ h => ?_) fun _ =>
      hm.track Tracker.after e
    exact ⟨h.1, h.2⟩
  | delayed he hleft hright hdelays =>
    rw [run_event_of_delayed hleft, run_event_of_delayed hright]
    obtain ⟨account, outer, rfl⟩ := h.renderer.exists_accounts_eq
    have haccounts : Mirror.accounts (account :: outer) e =
        (account ++ e.addedText?.toList) :: outer := by
      rw [Mirror.accounts_of_delayed he]
      rfl
    rw [haccounts]
    exact .ok () ⟨h.tracker, h.renderer.withPrinter rfl (hdelays h.renderer.current)⟩

/-- So do streams in place of one, event by event. -/
theorem agree_events {left right : Event → Event} {stream : List Event}
    (hfits : ∀ e ∈ stream, m.Fits e)
    (hexchanges : ∀ e ∈ stream, m.Exchanges e (left e) (right e)) {s t : TrackedRenderer}
    (h : m.Tracked accounts s t) :
    Agree (m.Tracked (stream.foldl Mirror.accounts accounts)) m.TrackedFailed
      ((TrackedRendering.events (stream.map left)).run s)
      ((TrackedRendering.events (stream.map right)).run t) := by
  induction stream generalizing accounts s t with
  | nil => exact .ok () h
  | cons e rest ih =>
    rw [List.forall_mem_cons] at hfits hexchanges
    exact (hm.agree_event hfits.1 hexchanges.1 h).bind fun _ _ _ => ih hfits.2 hexchanges.2

/-- An event leaves the renderers corresponding if both are told it. -/
theorem trackedEvent {e : Event} (hfits : m.Fits e)
    (hdelays : ∀ value, e.delayed? = some value → m.Delays e.addedText?.toList value value) :
    InStep (m.Tracked accounts) (m.Tracked (Mirror.accounts accounts e)) m.TrackedFailed
      (TrackedRendering.event e) :=
  fun _ _ h => hm.agree_event hfits (.refl hdelays) h

theorem trackedEvents {stream : List Event} (hfits : ∀ e ∈ stream, m.Fits e)
    (hdelays : ∀ e ∈ stream, ∀ value, e.delayed? = some value →
      m.Delays e.addedText?.toList value value) :
    InStep (m.Tracked accounts) (m.Tracked (stream.foldl Mirror.accounts accounts))
      m.TrackedFailed (TrackedRendering.events stream) := by
  intro s t h
  have hexchanges : ∀ e ∈ stream, m.Exchanges e (id e) (id e) := fun e he => .refl (hdelays e he)
  have hevents := hm.agree_events hfits hexchanges h
  rwa [List.map_id] at hevents

end Respected

/-- Two stacks of printers that are related one by one, each pair with its account. -/
inductive Pairs (related : Account → Printer → Printer → Prop) :
    List Account → List Printer → List Printer → Prop
  | nil : Pairs related [] [] []
  | cons {account : Account} {p q : Printer} {accounts : List Account} {ps qs : List Printer}
      (h : related account p q) (houter : Pairs related accounts ps qs) :
      Pairs related (account :: accounts) (p :: ps) (q :: qs)

/-- The account and the printers at the bottom are related. -/
theorem Pairs.exists_last {related : Account → Printer → Printer → Prop} {accounts : List Account}
    {p q : Printer} {ps qs : List Printer} (hlength : qs.length = ps.length)
    (h : Pairs related accounts (ps ++ [p]) (qs ++ [q])) :
    ∃ inner account, accounts = inner ++ [account] ∧ related account p q := by
  induction ps generalizing qs accounts with
  | nil =>
    obtain rfl := List.length_eq_zero_iff.mp hlength
    obtain _ | ⟨hlast, ⟨⟩⟩ := h
    exact ⟨[], _, rfl, hlast⟩
  | cons p' outer ih =>
    obtain ⟨q', outer', rfl⟩ := List.exists_cons_of_length_eq_add_one hlength
    obtain _ | ⟨-, houter⟩ := h
    obtain ⟨inner, account, rfl, hlast⟩ := ih (Nat.succ.inj hlength) houter
    exact ⟨_ :: inner, account, rfl, hlast⟩

/-- A way to compare printers, and from it renderers, that everything they do respects. -/
structure Pairwise (left right : Options) (alike : Account → Text → Text → Prop)
    (related : Account → Printer → Printer → Prop) : Prop where
  tablePipeEscape : right.tablePipeEscape = left.tablePipeEscape
  unhandledMacroMode : right.unhandledMacroMode = left.unhandledMacroMode
  markup {text : Text} (h : '\\' ∉ text) : alike [] text text
  append {shown shown' : Account} {x y x' y' : Text} (h : alike shown x y)
    (h' : alike shown' x' y') : alike (shown ++ shown') (x ++ x') (y ++ y')
  isEmpty {shown : Account} {x y : Text} (h : alike shown x y) : x.isEmpty = y.isEmpty
  flush {account : Account} {p q : Printer} (h : related account p q) :
    p.FlushesAlike q (related account)
  write {account : Account} {p q : Printer} (h : related account p q) (hp : p.pending = [])
    (hq : q.pending = []) {shown : Account} {x y : Text} (halike : alike shown x y) :
    related (account ++ shown) (p.write x) (q.write y)
  lineStarted {account : Account} {p q : Printer} (h : related account p q) :
    related account (p.setLineStart true) (q.setLineStart true)
  escapesPipes {account : Account} {p q : Printer} (h : related account p q) :
    p.escapesPipes = q.escapesPipes
  captured (escapesPipes : Bool) :
    related [] { escapes := left.escapeSpecial.isTruthy, escapesPipes }
      { escapes := right.escapeSpecial.isTruthy, escapesPipes }
  linked {account : Account} {p q : Printer} (h : related account p q) (escapesPipes : Bool) :
    related []
      { escapes := left.escapeSpecial.isTruthy, escapesPipes, lineStart := p.isOnNewLine }
      { escapes := right.escapeSpecial.isTruthy, escapesPipes, lineStart := q.isOnNewLine }
  written {account : Account} {p q : Printer} (h : related account p q) (hp : p.pending = [])
    (hq : q.pending = []) : alike account p.written q.written

/-- Comparing renderers printer by printer. -/
def ofPairs (left right : Options) (linkTarget imageTarget : Serializer)
    (alike : Account → Text → Text → Prop) (related : Account → Printer → Printer → Prop) :
    Mirror where
  left
  right
  linkTarget
  imageTarget
  alike
  related := Pairs related
  failed _ _ := True

theorem Pairwise.respected {left right : Options} {alike : Account → Text → Text → Prop}
    {related : Account → Printer → Printer → Prop} (h : Pairwise left right alike related)
    (linkTarget imageTarget : Serializer) :
    (ofPairs left right linkTarget imageTarget alike related).Respected where
  tablePipeEscape := h.tablePipeEscape
  unhandledMacroMode := h.unhandledMacroMode
  markup := h.markup
  append := h.append
  isEmpty := h.isEmpty
  flush := by
    rintro _ p q ps qs (_ | ⟨hpq, houter⟩)
    rcases h.flush hpq with ⟨hp, hq, hflushed⟩ | ⟨hp, hq⟩
    · exact .ok hp hq (.cons hflushed houter)
    · exact .error hp hq
  write := by
    rintro account accounts p q ps qs (_ | ⟨hpq, houter⟩) hp hq shown x y halike
    exact .cons (h.write hpq hp hq halike) houter
  lineStarted := by
    rintro _ p q ps qs (_ | ⟨hpq, houter⟩) - -
    exact .cons (h.lineStarted hpq) houter
  escapesPipes := by
    rintro _ p q ps qs (_ | ⟨hpq, -⟩)
    exact h.escapesPipes hpq
  captured hrelated pipes := .cons (h.captured pipes) hrelated
  linked := by
    rintro accounts p q ps qs hrelated pipes
    refine .cons ?_ hrelated
    obtain _ | ⟨hpq, -⟩ := hrelated
    exact h.linked hpq pipes
  closed := by
    rintro account accounts p q ps qs (_ | ⟨hpq, houter⟩)
    rcases h.flush hpq with ⟨hp, hq, hflushed⟩ | ⟨hp, hq⟩
    · refine .ok hp hq ⟨?_, houter⟩
      exact h.written hflushed (Printer.pending_of_flush hp) (Printer.pending_of_flush hq)
    · exact .error hp hq
  fail _ := trivial
  failClosed _ := trivial

/-- The printers of the documents are related by the outermost account, and as many scopes are open
in one renderer as in the other. -/
theorem Tracked.exists_last {left right : Options} {linkTarget imageTarget : Serializer}
    {alike : Account → Text → Text → Prop} {related : Account → Printer → Printer → Prop}
    {accounts : List Account} {s t : TrackedRenderer}
    (h : (ofPairs left right linkTarget imageTarget alike related).Tracked accounts s t) :
    ∃ inner account, accounts = inner ++ [account] ∧
      related account s.renderer.document t.renderer.document ∧
      inner.length = s.renderer.captures.length ∧ inner.length = t.renderer.captures.length := by
  obtain ⟨-, hbeside⟩ := h
  revert hbeside
  generalize s.renderer = r
  generalize t.renderer = r'
  rintro ⟨-, hlength, hdepth, hprinters⟩
  obtain ⟨inner, account, rfl, hdocument⟩ := Pairs.exists_last hlength hprinters
  have hinner : inner.length = r.captures.length := by
    rw [List.length_append] at hdepth
    exact Nat.succ.inj hdepth
  exact ⟨inner, account, rfl, hdocument, hinner, hinner.trans hlength.symm⟩

end Mirror

end DocumentStream
