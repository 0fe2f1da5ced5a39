import DocumentStream.Proofs.Streaming

/-!
What an event does to the scopes and lists of a renderer, even if it fails. Some events put a
printer or a list on their stack or take one off. Everything else that rendering does leaves these
stacks as they are, and the settings of all printers.
-/

namespace DocumentStream

/-- Whether a construct has a printer of its own while it is open, or is a list. -/
def Construct.isScoped : Construct → Bool
  | .heading .. | .list .. | .cell .. | .link .. => true
  | _ => false

namespace Renderer

/-- Renderers with the same options, the same lists and printers with the same settings. Where only
values of the declared kinds are rendered, nothing but text is held back either. -/
structure SameScopes (typed : Prop) (r s : Renderer) : Prop where
  options : s.options = r.options
  listStyles : s.listStyles = r.listStyles
  settings : s.printers.map Printer.settings = r.printers.map Printer.settings
  holdsText : typed → r.HoldsText → s.HoldsText

namespace SameScopes

variable {typed : Prop} {r s : Renderer}

theorem refl (r : Renderer) : SameScopes typed r r := ⟨rfl, rfl, rfl, fun _ h => h⟩

theorem trans (r s t : Renderer) (h : SameScopes typed r s) (h' : SameScopes typed s t) :
    SameScopes typed r t where
  options := h'.options.trans h.options
  listStyles := h'.listStyles.trans h.listStyles
  settings := h'.settings.trans h.settings
  holdsText htyped hr := h'.holdsText htyped (h.holdsText htyped hr)

theorem untyped (h : SameScopes typed r s) : SameScopes False r s :=
  ⟨h.options, h.listStyles, h.settings, False.elim⟩

/-- What else a renderer keeps has nothing to do with scopes and lists. -/
theorem of_eq (hoptions : s.options = r.options) (hstyles : s.listStyles = r.listStyles)
    (hprinters : s.printers = r.printers) : SameScopes typed r s where
  options := hoptions
  listStyles := hstyles
  settings := congrArg (List.map Printer.settings) hprinters
  holdsText _ hr p hp := hr p (hprinters ▸ hp)

theorem withPrinter (r : Renderer) {p : Printer} (hsettings : p.settings = r.printer.settings)
    (hp : typed → r.HoldsText → p.HoldsText) : SameScopes typed r (r.withPrinter p) := by
  refine ⟨?_, ?_, ?_, fun htyped hr q hq => ?_⟩
  · cases h : r.captures <;> simp [Renderer.withPrinter, h]
  · cases h : r.captures <;> simp [Renderer.withPrinter, h]
  · rw [printers_withPrinter, List.map_cons, hsettings, ← List.map_cons, ← printers_eq_cons]
  · rw [printers_withPrinter] at hq
    rcases List.mem_cons.mp hq with rfl | hq
    · exact hp htyped hr
    · exact hr.tail hq

theorem escapesPipes (h : SameScopes typed r s) :
    s.printer.escapesPipes = r.printer.escapesPipes := by
  have hsettings := h.settings
  rw [r.printers_eq_cons, s.printers_eq_cons, List.map_cons, List.map_cons,
    List.cons.injEq] at hsettings
  exact congrArg (fun settings => settings.2.2) hsettings.1

theorem captured (h : SameScopes typed r s) {p q : Printer} (hsettings : q.settings = p.settings)
    (hq : q.pending = []) : SameScopes typed (r.captured p) (s.captured q) where
  options := h.options
  listStyles := h.listStyles
  settings := by
    have hrest := h.settings
    simp only [printers, Renderer.captured, List.cons_append, List.map_cons, hsettings] at hrest ⊢
    rw [hrest]
  holdsText htyped hr := by
    refine (h.holdsText htyped fun other hother => hr other ?_).captured hq
    exact List.mem_cons_of_mem p hother

end SameScopes

/-- The renderer with the printer or the list on its stack that an event puts there, or without the
one that it takes off. -/
def rescoped (r : Renderer) : Event → Renderer
  | .opening (.list kind _) => { r with listStyles := kind :: r.listStyles }
  | .closing (.list ..) => { r with listStyles := r.listStyles.tail }
  | .opening (.heading ..) | .opening (.link ..) => r.captured (r.capture r.printer.escapesPipes)
  | .opening (.cell ..) => r.captured (r.capture true)
  | .closing (.heading ..) | .closing (.link ..) | .closing (.cell ..) => r.released
  | _ => r

theorem rescoped_opening (r : Renderer) {construct : Construct}
    (h : construct.isScoped = false) : r.rescoped (.opening construct) = r := by
  cases construct <;> first | rfl | cases h

theorem rescoped_closing (r : Renderer) {construct : Construct}
    (h : construct.isScoped = false) : r.rescoped (.closing construct) = r := by
  cases construct <;> first | rfl | cases h

theorem released_of_nil {r : Renderer} (hcaptures : r.captures = []) : r.released = r := by
  obtain ⟨_, _, _, _, captures⟩ := r
  cases hcaptures
  rfl

theorem HoldsText.rescoped {r : Renderer} (h : r.HoldsText) (e : Event) :
    (r.rescoped e).HoldsText := by
  have hreleased : r.released.HoldsText := by
    by_cases hcaptures : r.captures = []
    · rwa [released_of_nil hcaptures]
    · exact h.released hcaptures
  cases e with
  | opening construct =>
    cases construct with
    | heading | link | cell => exact h.captured rfl
    | _ => exact h
  | closing construct =>
    cases construct with
    | heading | link | cell => exact hreleased
    | _ => exact h
  | leaf | foreign => exact h

end Renderer

namespace Rendering

open Renderer

/-- Steps that leave the scopes and lists as they are, even if they fail, and that do not fail
because of an item outside of a list. -/
abbrev LeavesScopes {α : Type} (typed : Prop) (act : Rendering α) : Prop :=
  StaysWithin (SameScopes typed) act (· ≠ .rendering .itemOutsideList)

namespace LeavesScopes

variable {typed : Prop} {α β : Type}

theorem pure (a : α) : LeavesScopes typed (Pure.pure a) := StaysWithin.pure SameScopes.refl a

theorem throw {fault : RenderFault} (h : fault ≠ .rendering .itemOutsideList) :
    LeavesScopes typed (MonadExcept.throw fault : Rendering α) :=
  StaysWithin.throw SameScopes.refl h

theorem bind {first : Rendering α} {next : α → Rendering β} (h : LeavesScopes typed first)
    (hnext : ∀ a, LeavesScopes typed (next a)) : LeavesScopes typed (first >>= next) :=
  StaysWithin.bind SameScopes.trans h hnext

theorem get_bind {next : Renderer → Rendering α} (h : ∀ r, LeavesScopes typed (next r)) :
    LeavesScopes typed (get >>= next) :=
  StaysWithin.get_bind h

theorem modify {f : Renderer → Renderer} (h : ∀ r, SameScopes typed r (f r)) :
    LeavesScopes typed (modify f) :=
  StaysWithin.modify h

theorem ofField (result : Except FieldFault α) : LeavesScopes typed (Rendering.ofField result) := by
  cases result with
  | ok a => exact pure a
  | error fault => exact throw (by simp)

theorem onPrinter {act : Printer → Except FieldFault Printer}
    (hsettings : ∀ p q, act p = .ok q → q.settings = p.settings)
    (hholds : typed → ∀ p q, act p = .ok q → p.HoldsText → q.HoldsText) :
    LeavesScopes typed (Rendering.onPrinter act) := by
  refine .of_run (SameScopes typed) fun r => ?_
  cases hact : act r.printer with
  | ok p =>
    have hsame : SameScopes typed r (r.withPrinter p) :=
      .withPrinter r (hsettings _ _ hact) fun htyped hr => hholds htyped _ _ hact hr.printer
    exact ⟨Pure.pure (), r.withPrinter p, by rw [run_onPrinter_eq, hact]; rfl, pure (),
      fun s h => hsame.trans _ _ _ h⟩
  | error fault =>
    exact ⟨MonadExcept.throw (.field fault), r, by rw [run_onPrinter_eq, hact]; rfl,
      throw (by simp), fun _ h => h⟩

theorem flush : LeavesScopes typed Rendering.flush :=
  onPrinter (fun _ _ h => Printer.settings_of_flush h) fun _ _ _ h _ =>
    Printer.holdsText_of_pending_eq_nil (Printer.pending_of_flush h)

theorem print (markup : Text) : LeavesScopes typed (Rendering.print markup) :=
  onPrinter (fun _ _ h => Printer.settings_of_print h) fun _ _ _ h _ =>
    Printer.holdsText_of_pending_eq_nil (Printer.pending_of_print h)

theorem printText {value : Value} (hvalue : typed → value.isText = true) :
    LeavesScopes typed (Rendering.printText value) := by
  refine onPrinter ?_ ?_
  · rintro p _ ⟨⟩
    rfl
  · rintro htyped p _ ⟨⟩ hp
    exact hp.delay (hvalue htyped)

theorem startLineContent : LeavesScopes typed Rendering.startLineContent := by
  refine onPrinter ?_ ?_
  · rintro p _ ⟨⟩
    rfl
  · rintro - p _ ⟨⟩ hp
    exact hp

theorem printEmptyLine : LeavesScopes typed Rendering.printEmptyLine := by
  refine get_bind fun r => ?_
  split
  · exact print _
  · exact modify fun r => .of_eq rfl rfl rfl

theorem report (level : LogLevel) (message : Text) :
    LeavesScopes typed (Rendering.report level message) :=
  modify fun _ => .of_eq rfl rfl rfl

/-! ### Leaves -/

theorem symbol {value : Value} (hvalue : typed → value.isText = true) :
    LeavesScopes typed (Rendering.symbol value) := by
  unfold Rendering.symbol
  split
  · exact throw (by simp)
  · split
    · exact print _
    · exact printText hvalue

theorem asText (value : Value) : LeavesScopes typed (Rendering.asText value) := by
  unfold Rendering.asText
  split
  · exact pure _
  · exact throw (by simp)

theorem asEntries (parameters : Parameters) :
    LeavesScopes typed (Rendering.asEntries parameters) := by
  cases parameters with
  | some entries => exact pure _
  | none => exact throw (by simp)

theorem image (reference : Reference) (alt : Value) (parameters : Parameters) :
    LeavesScopes typed (Rendering.image reference alt parameters) := by
  have hprint (shown : Value) : LeavesScopes typed (do
      Rendering.print (← Rendering.ofField (reference.image (← get).imageTarget shown))) :=
    get_bind fun _ => bind (ofField _) fun _ => print _
  have hchoose (isGiven : Bool) : LeavesScopes typed (do
      let shown ←
        if isGiven then Pure.pure alt
        else Pure.pure (((← Rendering.asEntries parameters).get? "alt".toList).getD .null)
      Rendering.print (← Rendering.ofField (reference.image (← get).imageTarget shown))) := by
    cases isGiven with
    | true => exact hprint alt
    | false => exact bind (asEntries parameters) fun _ => hprint _
  unfold Rendering.image
  split
  · split
    · exact hchoose _
    · exact bind (throw (by simp)) hchoose
  · exact hchoose false

theorem separateBlock (nesting : Nesting) :
    LeavesScopes typed (Rendering.separateBlock nesting) := by
  unfold Rendering.separateBlock
  split
  · exact pure _
  · exact printEmptyLine

theorem abbreviation? (text : Text) : LeavesScopes typed (Rendering.abbreviation? text) := by
  unfold Rendering.abbreviation?
  split
  · split
    · exact pure _
    · exact bind (report _ _) fun _ => pure _
  · exact pure _

theorem define (abbreviation : Abbreviation) :
    LeavesScopes typed (Rendering.define abbreviation) := by
  refine get_bind fun r => ?_
  split
  · exact throw (by simp)
  · split
    · exact modify fun r => .of_eq rfl rfl rfl
    · exact pure _

theorem rawText (nesting : Nesting) (value : Value) :
    LeavesScopes typed (Rendering.rawText nesting value) := by
  unfold Rendering.rawText
  split
  · refine bind (abbreviation? _) fun found => ?_
    split
    · exact bind (define _) fun _ => print _
    · exact bind (separateBlock nesting) fun _ => print _
  · exact throw (by simp)

theorem code (nesting : Nesting) (content isInline : Value) (parameters : Parameters) :
    LeavesScopes typed (Rendering.code nesting content isInline parameters) := by
  unfold Rendering.code
  dsimp only
  split
  · exact bind (asText _) fun _ => print _
  · refine bind (separateBlock nesting) fun _ => bind (asEntries parameters) fun _ => ?_
    split
    · exact bind (asText _) fun _ => print _
    · exact bind (asText _) fun _ => bind (asText _) fun _ => print _

theorem unhandledMacro (nesting : Nesting) (id content isInline : Value)
    (parameters : Parameters) :
    LeavesScopes typed (Rendering.unhandledMacro nesting id content isInline parameters) := by
  have hprint : LeavesScopes typed (do
      let entries ← Rendering.asEntries parameters
      Rendering.print (← Rendering.ofField (MacroCall.ofFields id entries content)).text) :=
    bind (asEntries parameters) fun _ => bind (ofField _) fun _ => print _
  refine get_bind fun r => ?_
  split
  · exact throw (by simp)
  · exact report _ _
  · cases isInline.isTruthy with
    | true => exact hprint
    | false => exact bind (separateBlock nesting) fun _ => hprint

theorem leaf (nesting : Nesting) {l : Leaf} (hl : typed → l.isWellTyped = true) :
    LeavesScopes typed (Rendering.leaf nesting l) := by
  cases l with
  | word text => exact printText hl
  | space => exact printText fun _ => rfl
  | lineBreak => exact print _
  | symbol value =>
    refine symbol fun htyped => ?_
    obtain ⟨c, rfl⟩ := Leaf.exists_char_of_symbol (hl htyped)
    rfl
  | rawText text markup => exact rawText nesting text
  | image reference alt isFreeStanding parameters => exact image reference alt parameters
  | call id content isInline parameters =>
    rw [Rendering.leaf]
    split
    · exact code nesting content isInline parameters
    · exact unhandledMacro nesting id content isInline parameters
  | rule parameters => exact bind printEmptyLine fun _ => print _

/-! ### Constructs -/

theorem timesLevel (level : Value) (markup : Text) :
    LeavesScopes typed (Rendering.timesLevel level markup) := by
  unfold Rendering.timesLevel
  split
  · exact pure _
  · exact throw (by simp)

theorem currentRows (event : String) : LeavesScopes typed (Rendering.currentRows event) := by
  refine get_bind fun r => ?_
  split
  · exact throw (by simp)
  · exact pure _

theorem setRows (rows : List (List Text)) : LeavesScopes typed (Rendering.setRows rows) :=
  modify fun _ => .of_eq rfl rfl rfl

theorem openDescription (nesting : Nesting) :
    LeavesScopes typed (Rendering.openDescription nesting) := by
  unfold Rendering.openDescription
  split
  · exact bind (print _) fun _ => bind (print _) fun _ => startLineContent
  · exact bind (print _) fun _ => startLineContent

theorem openQuotation (nesting : Nesting) :
    LeavesScopes typed (Rendering.openQuotation nesting) := by
  have hnote : LeavesScopes typed (MonadState.modifyGet
      fun r : Renderer => ((), { r with previousQuotationDepth := nesting.quotationDepth })) :=
    modify fun _ => .of_eq rfl rfl rfl
  unfold Rendering.openQuotation
  split
  · exact hnote
  · exact bind printEmptyLine fun _ => hnote

theorem openQuotationLine (nesting : Nesting) :
    LeavesScopes typed (Rendering.openQuotationLine nesting) := by
  unfold Rendering.openQuotationLine
  split
  · exact get_bind fun r => bind (print _) fun _ => bind (print _) fun _ => startLineContent
  · exact bind (print _) fun _ => startLineContent

theorem closeTable : LeavesScopes typed Rendering.closeTable :=
  bind (currentRows _) fun _ =>
    bind (modify fun _ => .of_eq rfl rfl rfl) fun _ => print _

theorem closeDocument : LeavesScopes typed Rendering.closeDocument := by
  refine get_bind fun r => ?_
  split
  · exact throw (by simp)
  · refine bind (modify fun _ => .of_eq rfl rfl rfl) fun _ => ?_
    split
    · exact flush
    · exact bind printEmptyLine fun _ => bind (print _) fun _ => flush

theorem openConstruct (nesting : Nesting) {construct : Construct}
    (h : construct.isScoped = false) (hitem : construct ≠ .listItem) :
    LeavesScopes typed (Rendering.openConstruct nesting construct) := by
  cases construct with
  | document => exact modify fun _ => .of_eq rfl rfl rfl
  | paragraph => exact printEmptyLine
  | definitionList => exact pure ()
  | term => exact bind printEmptyLine fun _ => bind (print _) fun _ => startLineContent
  | description => exact openDescription nesting
  | quotation => exact openQuotation nesting
  | quotationLine => exact openQuotationLine nesting
  | table => exact bind printEmptyLine fun _ => modify fun _ => .of_eq rfl rfl rfl
  | row => exact bind (currentRows _) fun _ => setRows _
  | format style => exact print _
  | heading | list | cell | link => cases h
  | listItem => exact absurd rfl hitem

theorem closeConstruct {construct : Construct} (h : construct.isScoped = false) :
    LeavesScopes typed (Rendering.closeConstruct construct) := by
  cases construct with
  | document => exact closeDocument
  | paragraph | listItem | definitionList | quotation | row => exact pure ()
  | term | description | quotationLine => exact flush
  | table => exact closeTable
  | format style => exact print _
  | heading | list | cell | link => cases h

end LeavesScopes

variable {typed : Prop}

/-- What follows on closing a scope finds it closed, even if it fails. -/
theorem staysWithin_closeScope_bind {next : Text → Rendering Unit}
    (hnext : ∀ text, LeavesScopes typed (next text)) :
    StaysWithin (fun r s => SameScopes typed r.released s) (closeScope >>= next)
      (· ≠ .rendering .itemOutsideList) := by
  refine .of_run (SameScopes typed) fun r => ?_
  by_cases hcaptures : r.captures = []
  · refine ⟨fail .noOpenScope, r.released, ?_, LeavesScopes.throw (by simp), fun _ h => h⟩
    rw [EStateM.run_bind, run_closeScope_of_nil hcaptures, released_of_nil hcaptures]
    rfl
  · refine ⟨do next (← ofField r.printer.flush).written, r.released, ?_,
      LeavesScopes.bind (.ofField _) fun _ => hnext _, fun _ h => h⟩
    rw [EStateM.run_bind, run_closeScope_eq, if_neg hcaptures]
    cases r.printer.flush <;> rfl

theorem staysWithin_closeList :
    StaysWithin (fun r s => SameScopes typed { r with listStyles := r.listStyles.tail } s) closeList
      (· ≠ .rendering .itemOutsideList) := by
  refine .of_run (SameScopes typed) fun r => ?_
  rw [closeList, run_get_bind]
  cases hstyles : r.listStyles with
  | nil =>
    refine ⟨fail .noOpenList, r, rfl, LeavesScopes.throw (by simp), fun s h => ?_⟩
    exact ⟨h.options, h.listStyles.trans hstyles, h.settings, h.holdsText⟩
  | cons style outer =>
    exact ⟨flush, { r with listStyles := outer }, rfl, LeavesScopes.flush, fun _ h => h⟩

theorem staysWithin_openCell :
    StaysWithin (fun r s => SameScopes typed (r.captured (r.capture true)) s)
      (do openScope ((← get).capture true)) (· ≠ .rendering .itemOutsideList) :=
  .of_run (SameScopes typed) fun r =>
    ⟨pure (), r.captured (r.capture true), rfl, LeavesScopes.pure (), fun _ h => h⟩

theorem staysWithin_openLink :
    StaysWithin (fun r s => SameScopes typed (r.captured (r.capture r.printer.escapesPipes)) s)
      openLink (· ≠ .rendering .itemOutsideList) := by
  refine .of_run (SameScopes typed) fun r => ⟨pure (), _, rfl, LeavesScopes.pure (), fun s h => ?_⟩
  let label := r.capture r.printer.escapesPipes
  have hlabel : SameScopes typed (r.captured label)
      (r.captured (label.setLineStart r.printer.isOnNewLine)) :=
    (SameScopes.refl r).captured rfl rfl
  exact hlabel.trans _ _ _ h

theorem staysWithin_openItem (nesting : Nesting) :
    StaysWithin (SameScopes typed) (openItem nesting) := by
  have hitem (style : ListKind) : LeavesScopes typed (do
      if 0 < nesting.listItem then print ['\n']
      print (Text.times (nesting.listDepth - 1) indent ++ itemMarker style)
      startLineContent) := by
    split
    · exact LeavesScopes.bind (.print _) fun _ =>
        LeavesScopes.bind (.print _) fun _ => .startLineContent
    · exact LeavesScopes.bind (.print _) fun _ => .startLineContent
  refine .get_bind fun r => ?_
  split
  · exact .throw SameScopes.refl trivial
  · exact (hitem _).mono (fun _ _ h => h) fun _ _ => trivial

/-- Opening a construct other than a heading or a list leaves the scopes and lists as it says, even
if it fails, and only an item fails for want of a list. -/
theorem staysWithin_openConstruct (typed : Prop) (nesting : Nesting) (construct : Construct)
    (hheading : construct.kind ≠ .heading) (hlist : construct.kind ≠ .list) :
    StaysWithin (fun r s => SameScopes typed (r.rescoped (.opening construct)) s)
      (openConstruct nesting construct)
      (fun fault => fault = .rendering .itemOutsideList → construct = .listItem) := by
  have hfaults (fault : RenderFault) (hne : fault ≠ .rendering .itemOutsideList)
      (heq : fault = .rendering .itemOutsideList) : construct = .listItem := absurd heq hne
  cases hscoped : construct.isScoped with
  | true =>
    cases construct with
    | heading => exact absurd rfl hheading
    | list => exact absurd rfl hlist
    | cell => exact staysWithin_openCell.mono (fun _ _ h => h) hfaults
    | link => exact staysWithin_openLink.mono (fun _ _ h => h) hfaults
    | _ => cases hscoped
  | false =>
    by_cases hitem : construct = .listItem
    · subst hitem
      exact (staysWithin_openItem nesting).mono (fun _ _ h => h) fun _ _ _ => rfl
    · have hleaves : LeavesScopes typed (openConstruct nesting construct) :=
        .openConstruct nesting hscoped hitem
      refine hleaves.mono (fun r s h => ?_) hfaults
      rwa [rescoped_opening r hscoped]

/-- Closing a construct leaves the scopes and lists as it says, even if it fails. -/
theorem staysWithin_closeConstruct (typed : Prop) (construct : Construct) :
    StaysWithin (fun r s => SameScopes typed (r.rescoped (.closing construct)) s)
      (closeConstruct construct) (· ≠ .rendering .itemOutsideList) := by
  cases hscoped : construct.isScoped with
  | true =>
    cases construct with
    | heading level id parameters =>
      refine staysWithin_closeScope_bind fun heading => ?_
      refine .bind (.print _) fun _ => ?_
      split
      · exact .print _
      · split
        · exact .print _
        · exact .bind (.timesLevel _ _) fun _ => .print _
    | cell isHeader parameters =>
      refine staysWithin_closeScope_bind fun text => ?_
      refine .bind (.currentRows _) fun rows => ?_
      split
      · exact .throw (by simp)
      · exact .setRows _
    | link reference isFreeStanding parameters =>
      refine staysWithin_closeScope_bind fun label => ?_
      exact .get_bind fun _ => .bind (.ofField _) fun _ => .print _
    | list => exact staysWithin_closeList
    | _ => cases hscoped
  | false =>
    have hleaves : LeavesScopes typed (closeConstruct construct) := .closeConstruct hscoped
    refine hleaves.mono (fun r s h => ?_) fun _ h => h
    rwa [rescoped_closing r hscoped]

variable {r s : Renderer}

/-- Opening a heading, if it goes well, puts its printer on the stack. -/
theorem sameScopes_of_run_openHeading {level : Value}
    (h : (openHeading level).run r = .ok () s) :
    SameScopes typed (r.captured (r.capture r.printer.escapesPipes)) s := by
  have hopen {t : Renderer} (hsame : SameScopes typed r t)
      (hrun : (do
        let r ← get
        openScope (r.capture r.printer.escapesPipes) : Rendering Unit).run t = .ok () s) :
      SameScopes typed (r.captured (r.capture r.printer.escapesPipes)) s := by
    cases hrun
    refine hsame.captured ?_ rfl
    simp only [Printer.settings, capture, hsame.options, hsame.escapesPipes]
  unfold openHeading at h
  obtain ⟨_, t, hset, h⟩ := exists_of_run_bind_eq_ok h
  have hsame : SameScopes typed r t := LeavesScopes.printEmptyLine.succeeds _ _ hset
  dsimp only at h
  split at h
  · obtain ⟨_, u, hthrow, -⟩ := exists_of_run_bind_eq_ok h
    cases hthrow
  · split at h
    · obtain ⟨mark, u, hmark, h⟩ := exists_of_run_bind_eq_ok h
      obtain ⟨_, v, hprint, h⟩ := exists_of_run_bind_eq_ok h
      have hmarked : SameScopes typed t u := (LeavesScopes.timesLevel _ _).succeeds _ _ hmark
      have hprinted : SameScopes typed u v := (LeavesScopes.print _).succeeds _ _ hprint
      exact hopen ((hsame.trans _ _ _ hmarked).trans _ _ _ hprinted) h
    · exact hopen hsame h

/-- Opening a list, if it goes well, puts it on its stack. -/
theorem sameScopes_of_run_openList {nesting : Nesting} {kind : ListKind}
    (h : (openList nesting kind).run r = .ok () s) :
    SameScopes typed { r with listStyles := kind :: r.listStyles } s := by
  have hopen {begin : Rendering Unit} (hleaves : LeavesScopes typed begin)
      (hrun : (begin >>= fun _ => modify fun r => { r with listStyles := kind :: r.listStyles }).run
        r = .ok () s) : SameScopes typed { r with listStyles := kind :: r.listStyles } s := by
    obtain ⟨_, t, hbegun, hrest⟩ := exists_of_run_bind_eq_ok hrun
    have hsame := hleaves.succeeds _ _ hbegun
    cases hrest
    exact ⟨hsame.options, congrArg (kind :: ·) hsame.listStyles, hsame.settings, hsame.holdsText⟩
  unfold openList at h
  split at h
  · exact hopen .printEmptyLine h
  · exact hopen (.print _) h

/-- An event that goes well leaves the scopes and lists as it says. -/
theorem sameScopes_of_run_event {nesting : Nesting} {e : Event}
    (he : typed → e.isWellTyped = true) (h : (event nesting e).run r = .ok () s) :
    SameScopes typed (r.rescoped e) s := by
  cases e with
  | opening construct =>
    cases construct with
    | heading => exact sameScopes_of_run_openHeading h
    | list => exact sameScopes_of_run_openList h
    | _ => exact (staysWithin_openConstruct typed nesting _ (by simp [Construct.kind])
        (by simp [Construct.kind])).succeeds _ _ h
  | closing construct => exact (staysWithin_closeConstruct typed construct).succeeds _ _ h
  | leaf l => exact (LeavesScopes.leaf nesting he).succeeds _ _ h
  | foreign name => cases h

/-- An event of the declared kind that fails leaves the scopes and lists as it says all the same,
and only an item fails for want of a list. -/
theorem sameScopes_of_run_event_error (hr : r.HoldsText) {nesting : Nesting} {e : Event}
    (he : e.isWellTyped = true) {fault : RenderFault}
    (h : (event nesting e).run r = .error fault s) :
    SameScopes True (r.rescoped e) s ∧
      (fault = .rendering .itemOutsideList → e = .opening .listItem ∧ r.listStyles = []) := by
  cases e with
  | opening construct =>
    have hnot : ¬ r.AdmitsOpening construct := by
      intro hadmits
      have hok := run_openConstruct hr nesting he hadmits
      rw [event] at h
      rw [hok] at h
      cases h
    cases construct with
    | listItem =>
      have hopen := staysWithin_openConstruct True nesting .listItem (by simp [Construct.kind])
        (by simp [Construct.kind])
      exact ⟨hopen.fails _ _ h, fun _ => ⟨rfl, Classical.not_not.mp hnot⟩⟩
    | row parameters =>
      have hopen := staysWithin_openConstruct True nesting (.row parameters)
        (by simp [Construct.kind]) (by simp [Construct.kind])
      refine ⟨hopen.fails _ _ h, fun hfault => ?_⟩
      cases hopen.fault _ _ h hfault
    | _ => exact absurd trivial hnot
  | closing construct =>
    have hclose := staysWithin_closeConstruct True construct
    exact ⟨hclose.fails _ _ h, fun hfault => absurd hfault (hclose.fault _ _ h)⟩
  | leaf l =>
    have hleaf : LeavesScopes True (leaf nesting l) := .leaf nesting fun _ => he
    exact ⟨hleaf.fails _ _ h, fun hfault => absurd hfault (hleaf.fault _ _ h)⟩
  | foreign name => cases he

end Rendering

namespace TrackedRenderer

open Renderer

/-- How handling an event ends: the tracker does not find what the event needs, or the renderer
fails, or the tracker finds nothing to close, or all goes well. -/
inductive Handled (s : TrackedRenderer) (e : Event) :
    EStateM.Result RenderFault TrackedRenderer Unit → Prop
  | untracked (hbefore : s.tracker.before e = none) :
      Handled s e (.error (.rendering (.noEnclosingBlock e.name)) s)
  | failed {during : Tracker} {fault : RenderFault} {r : Renderer}
      (hbefore : s.tracker.before e = some during)
      (hrun : (Rendering.event during.nesting e).run s.renderer = .error fault r) :
      Handled s e (.error fault ⟨during, r⟩)
  | unclosed {during : Tracker} {r : Renderer} (hbefore : s.tracker.before e = some during)
      (hrun : (Rendering.event during.nesting e).run s.renderer = .ok () r)
      (hafter : during.after e = none) :
      Handled s e (.error (.rendering (.noEnclosingBlock e.name)) ⟨during, r⟩)
  | done {during after : Tracker} {r : Renderer} (hbefore : s.tracker.before e = some during)
      (hrun : (Rendering.event during.nesting e).run s.renderer = .ok () r)
      (hafter : during.after e = some after) : Handled s e (.ok () ⟨after, r⟩)

theorem handled (s : TrackedRenderer) (e : Event) :
    s.Handled e ((TrackedRendering.event e).run s) := by
  unfold TrackedRendering.event
  cases hbefore : s.tracker.before e with
  | none =>
    rw [TrackedRendering.run_bind_of_error (TrackedRendering.run_track_of_none hbefore)]
    exact .untracked hbefore
  | some during =>
    rw [TrackedRendering.run_bind_of_ok (TrackedRendering.run_track hbefore),
      TrackedRendering.run_get_bind]
    cases hrun : (Rendering.event during.nesting e).run s.renderer with
    | error fault r =>
      have herror := TrackedRendering.run_ofRendering_of_error (s := ⟨during, s.renderer⟩) hrun
      rw [TrackedRendering.run_bind_of_error herror]
      exact .failed hbefore hrun
    | ok a r =>
      have hok := TrackedRendering.run_ofRendering (s := ⟨during, s.renderer⟩) hrun
      rw [TrackedRendering.run_bind_of_ok hok]
      cases hafter : during.after e with
      | none =>
        rw [TrackedRendering.run_track_of_none (s := ⟨during, r⟩) hafter]
        exact .unclosed hbefore hrun hafter
      | some after =>
        rw [TrackedRendering.run_track (s := ⟨during, r⟩) hafter]
        exact .done hbefore hrun hafter

/-- What holds of the state after an event holds in each of the ways in which handling it ends. -/
@[elab_as_elim]
theorem told_cases {motive : TrackedRenderer → Prop} (s : TrackedRenderer) (e : Event)
    (untracked : s.tracker.before e = none → motive s)
    (failed : ∀ during fault r, s.tracker.before e = some during →
      (Rendering.event during.nesting e).run s.renderer = .error fault r → motive ⟨during, r⟩)
    (unclosed : ∀ during r, s.tracker.before e = some during →
      (Rendering.event during.nesting e).run s.renderer = .ok () r → during.after e = none →
      motive ⟨during, r⟩)
    (done : ∀ during r after, s.tracker.before e = some during →
      (Rendering.event during.nesting e).run s.renderer = .ok () r → during.after e = some after →
      motive ⟨after, r⟩) : motive (s.told e) := by
  have hhandled := s.handled e
  unfold told
  revert hhandled
  generalize (TrackedRendering.event e).run s = result
  intro hhandled
  cases hhandled with
  | untracked hbefore => exact untracked hbefore
  | failed hbefore hrun => exact failed _ _ _ hbefore hrun
  | unclosed hbefore hrun hafter => exact unclosed _ _ hbefore hrun hafter
  | done hbefore hrun hafter => exact done _ _ _ hbefore hrun hafter

theorem rescoped_of_untracked (r : Renderer) {t : Tracker} {e : Event} (h : t.before e = none) :
    r.rescoped e = r := by
  cases e with
  | opening construct =>
    refine r.rescoped_opening ?_
    cases construct <;> first | rfl | cases h
  | _ => cases h

/-- An event of the declared kind leaves the scopes and lists as it says, whether or not it goes
well. -/
theorem sameScopes_told {s : TrackedRenderer} (hs : s.renderer.HoldsText) {e : Event}
    (he : e.isWellTyped = true) :
    SameScopes True (s.renderer.rescoped e) (s.told e).renderer := by
  refine told_cases s e ?untracked ?failed ?unclosed ?done
  case untracked =>
    intro hbefore
    rw [rescoped_of_untracked s.renderer hbefore]
    exact .refl _
  case failed =>
    intro during fault r _ hrun
    exact (Rendering.sameScopes_of_run_event_error hs he hrun).1
  case unclosed =>
    intro during r _ hrun _
    exact Rendering.sameScopes_of_run_event (fun _ => he) hrun
  case done =>
    intro during r after _ hrun _
    exact Rendering.sameScopes_of_run_event (fun _ => he) hrun

theorem holdsText_told {s : TrackedRenderer} (hs : s.renderer.HoldsText) {e : Event}
    (he : e.isWellTyped = true) : (s.told e).renderer.HoldsText :=
  (sameScopes_told hs he).holdsText trivial (hs.rescoped e)

end TrackedRenderer

end DocumentStream
