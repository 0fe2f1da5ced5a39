import DocumentStream.Proofs.Agreement

/-!
Two renderers that are told the same events though they may be set up differently. What they write
need not be equal, and neither need their printers: it is enough that texts and stacks of printers
are related in ways that writing, opening a scope and closing one respect. For every open scope
there is an account of the document texts that went into it, which move to the scope around it when
the scope closes. What a renderer does to write keeps two such renderers in step.
-/

namespace DocumentStream

/-- The texts of the document that went into a scope. -/
abbrev Mirror.Account := List Text

/-- A way to compare two renderers. -/
structure Mirror where
  /-- The options of the first renderer. -/
  left : Options
  /-- The options of the second one. -/
  right : Options
  linkTarget : Serializer
  imageTarget : Serializer
  /-- Whether two texts correspond, with the texts of the document that they show. -/
  alike : Mirror.Account → Text → Text → Prop
  /-- Whether two stacks of printers correspond, with the texts that each pair received. -/
  related : List Mirror.Account → List Printer → List Printer → Prop
  /-- What is still known of the stacks after a failure. -/
  failed : List Printer → List Printer → Prop

namespace Mirror

/-- A way to compare renderers that everything they do respects. -/
structure Respected (m : Mirror) : Prop where
  tablePipeEscape : m.right.tablePipeEscape = m.left.tablePipeEscape
  unhandledMacroMode : m.right.unhandledMacroMode = m.left.unhandledMacroMode
  markup {text : Text} (h : '\\' ∉ text) : m.alike [] text text
  append {shown shown' : Account} {x y x' y' : Text} (h : m.alike shown x y)
    (h' : m.alike shown' x' y') : m.alike (shown ++ shown') (x ++ x') (y ++ y')
  isEmpty {shown : Account} {x y : Text} (h : m.alike shown x y) : x.isEmpty = y.isEmpty
  flush {accounts : List Account} {p q : Printer} {ps qs : List Printer}
    (h : m.related accounts (p :: ps) (q :: qs)) :
    p.FlushesAlike q fun p' q' => m.related accounts (p' :: ps) (q' :: qs)
  write {account : Account} {accounts : List Account} {p q : Printer} {ps qs : List Printer}
    (h : m.related (account :: accounts) (p :: ps) (q :: qs)) (hp : p.pending = [])
    (hq : q.pending = []) {shown : Account} {x y : Text} (halike : m.alike shown x y) :
    m.related ((account ++ shown) :: accounts) (p.write x :: ps) (q.write y :: qs)
  lineStarted {accounts : List Account} {p q : Printer} {ps qs : List Printer}
    (h : m.related accounts (p :: ps) (q :: qs)) (hp : p.pending = []) (hq : q.pending = []) :
    m.related accounts (p.setLineStart true :: ps) (q.setLineStart true :: qs)
  escapesPipes {accounts : List Account} {p q : Printer} {ps qs : List Printer}
    (h : m.related accounts (p :: ps) (q :: qs)) : p.escapesPipes = q.escapesPipes
  captured {accounts : List Account} {p q : Printer} {ps qs : List Printer}
    (h : m.related accounts (p :: ps) (q :: qs)) (pipes : Bool) :
    m.related ([] :: accounts)
      ({ escapes := m.left.escapeSpecial.isTruthy, escapesPipes := pipes } :: p :: ps)
      ({ escapes := m.right.escapeSpecial.isTruthy, escapesPipes := pipes } :: q :: qs)
  linked {accounts : List Account} {p q : Printer} {ps qs : List Printer}
    (h : m.related accounts (p :: ps) (q :: qs)) (pipes : Bool) :
    m.related ([] :: accounts)
      ({ escapes := m.left.escapeSpecial.isTruthy, escapesPipes := pipes,
         lineStart := p.isOnNewLine } :: p :: ps)
      ({ escapes := m.right.escapeSpecial.isTruthy, escapesPipes := pipes,
         lineStart := q.isOnNewLine } :: q :: qs)
  /-- What is left when a scope closes, with the texts that it captured. -/
  closed {account : Account} {accounts : List Account} {p q : Printer} {ps qs : List Printer}
    (h : m.related (account :: accounts) (p :: ps) (q :: qs)) :
    p.FlushesAlike q fun p' q' =>
      m.alike account p'.written q'.written ∧ m.related accounts ps qs
  fail {accounts : List Account} {ps qs : List Printer} (h : m.related accounts ps qs) :
    m.failed ps qs
  /-- A scope is closed even if flushing its printer fails. -/
  failClosed {accounts : List Account} {p q : Printer} {ps qs : List Printer}
    (h : m.related accounts (p :: ps) (q :: qs)) : m.failed ps qs

/-- Whether corresponding texts are equal, and all equal ones correspond. -/
structure Verbatim (m : Mirror) : Prop where
  markup (text : Text) : m.alike [] text text
  eq {shown : Account} {x y : Text} (h : m.alike shown x y) : x = y

/-- What the renderers compared keep from beginning to end. -/
structure Fixed (m : Mirror) (options : Options) (linkTarget imageTarget : Serializer)
    (abbreviations : List (List Abbreviation)) : Prop where
  options : options = m.left
  linkTarget : linkTarget = m.linkTarget
  imageTarget : imageTarget = m.imageTarget
  /-- Abbreviations are defined by raw text, which has to be shown verbatim. -/
  abbreviations : m.Verbatim ∨ ∀ scope ∈ abbreviations, scope = []

/-- Two renderers that differ in their options and printers only, and correspond. -/
inductive Beside (m : Mirror) (accounts : List Account) (r : Renderer) : Renderer → Prop
  | intro {document : Printer} {captures : List Printer}
      (hfixed : m.Fixed r.options r.linkTarget r.imageTarget r.abbreviations)
      (hlength : captures.length = r.captures.length)
      (haccounts : accounts.length = r.captures.length + 1)
      (hprinters : m.related accounts r.printers (captures ++ [document])) :
      Beside m accounts r { r with options := m.right, document, captures }

/-- What two renderers have in common that failed. -/
structure Failed (m : Mirror) (r s : Renderer) : Prop where
  log : r.log = s.log
  printers : m.failed r.printers s.printers

/-- Pairs of stacks of which the current printers hold nothing back. -/
def flushed (m : Mirror) : Mirror where
  left := m.left
  right := m.right
  linkTarget := m.linkTarget
  imageTarget := m.imageTarget
  alike := m.alike
  failed := m.failed
  related accounts ps qs :=
    m.related accounts ps qs ∧ (∀ p ∈ ps.head?, p.pending = []) ∧ ∀ q ∈ qs.head?, q.pending = []

namespace Beside

variable {m : Mirror} {accounts accounts' : List Account} {r s : Renderer}

theorem printers (h : m.Beside accounts r s) : m.related accounts r.printers s.printers := by
  obtain ⟨-, -, -, hprinters⟩ := h
  exact hprinters

theorem failed (h : m.Beside accounts r s) (hm : m.Respected) : m.Failed r s := by
  obtain ⟨-, -, -, hprinters⟩ := h
  exact ⟨rfl, hm.fail hprinters⟩

/-- The relation of the printers with the current ones in front. -/
theorem current (h : m.Beside accounts r s) :
    m.related accounts (r.printer :: r.printers.tail) (s.printer :: s.printers.tail) := by
  rw [← Renderer.printers_eq_cons, ← Renderer.printers_eq_cons]
  exact h.printers

/-- There is an account for the current scope. -/
theorem exists_accounts_eq (h : m.Beside accounts r s) :
    ∃ account outer, accounts = account :: outer := by
  obtain ⟨-, -, haccounts, -⟩ := h
  exact List.exists_cons_of_length_eq_add_one haccounts

theorem withPrinter (h : m.Beside accounts r s) {p q : Printer}
    (haccounts : accounts'.length = accounts.length)
    (hprinters : m.related accounts' (p :: r.printers.tail) (q :: s.printers.tail)) :
    m.Beside accounts' (r.withPrinter p) (s.withPrinter q) := by
  obtain ⟨hfixed, hlength, hdepth, -⟩ := h
  rename_i document captures
  obtain ⟨options, linkTarget, imageTarget, document', captures', hasBlock⟩ := r
  rw [← haccounts] at hdepth
  cases captures' with
  | nil =>
    obtain rfl := List.length_eq_zero_iff.mp hlength
    exact .intro hfixed rfl hdepth hprinters
  | cons p' outer' =>
    obtain ⟨q', outer, rfl⟩ := List.exists_cons_of_length_eq_add_one hlength
    exact .intro hfixed hlength hdepth hprinters

theorem captured (h : m.Beside accounts r s) {p q : Printer}
    (hprinters : m.related ([] :: accounts) (p :: r.printers) (q :: s.printers)) :
    m.Beside ([] :: accounts) (r.captured p) (s.captured q) := by
  obtain ⟨hfixed, hlength, hdepth, -⟩ := h
  exact .intro hfixed (congrArg (· + 1) hlength) (congrArg (· + 1) hdepth) hprinters

theorem captures_eq_nil_iff (h : m.Beside accounts r s) : r.captures = [] ↔ s.captures = [] := by
  obtain ⟨-, hlength, -, -⟩ := h
  rw [← List.length_eq_zero_iff, ← hlength, List.length_eq_zero_iff]

theorem released {account : Account} (h : m.Beside (account :: accounts) r s)
    (hcaptures : r.captures ≠ [])
    (hprinters : m.related accounts r.printers.tail s.printers.tail) :
    m.Beside accounts r.released s.released := by
  rw [← Renderer.printers_released hcaptures,
    ← Renderer.printers_released (mt h.captures_eq_nil_iff.mpr hcaptures)] at hprinters
  obtain ⟨hfixed, hlength, hdepth, -⟩ := h
  have hpos : 0 < r.captures.length := List.length_pos_iff.mpr hcaptures
  refine .intro hfixed ?_ ?_ hprinters
  · rw [Renderer.released, List.length_tail, List.length_tail, hlength]
  · rw [List.length_cons] at hdepth
    rw [Renderer.released, List.length_tail]
    omega

theorem flushed (h : m.Beside accounts r s) (hr : r.printer.pending = [])
    (hs : s.printer.pending = []) : m.flushed.Beside accounts r s := by
  have hcurrent : (∀ p ∈ r.printers.head?, p.pending = []) ∧
      ∀ q ∈ s.printers.head?, q.pending = [] := by
    rw [Renderer.printers_eq_cons r, Renderer.printers_eq_cons s]
    exact ⟨by rintro p ⟨⟩; exact hr, by rintro q ⟨⟩; exact hs⟩
  obtain ⟨⟨hoptions, hlink, himage, habbreviations⟩, hlength, hdepth, hprinters⟩ := h
  have hverbatim : m.flushed.Verbatim ∨ ∀ scope ∈ r.abbreviations, scope = [] :=
    habbreviations.imp (fun hv => ⟨hv.markup, hv.eq⟩) id
  exact .intro ⟨hoptions, hlink, himage, hverbatim⟩ hlength hdepth ⟨hprinters, hcurrent⟩

theorem ofFlushed (h : m.flushed.Beside accounts r s) : m.Beside accounts r s := by
  obtain ⟨⟨hoptions, hlink, himage, habbreviations⟩, hlength, hdepth, hprinters⟩ := h
  have hverbatim : m.Verbatim ∨ ∀ scope ∈ r.abbreviations, scope = [] :=
    habbreviations.imp (fun hv => ⟨hv.markup, hv.eq⟩) id
  exact .intro ⟨hoptions, hlink, himage, hverbatim⟩ hlength hdepth hprinters.1

end Beside

/-- What a step has to satisfy to keep corresponding renderers so. -/
abbrev Together (m : Mirror) (accounts : List Account) {α : Type} (act : Rendering α) : Prop :=
  InStep (m.Beside accounts) (m.Beside accounts) m.Failed act

theorem not_mem_times {c : Char} {text : Text} {n : Int} (h : c ∉ text) :
    c ∉ Text.times n text := by
  intro hc
  rw [Text.times] at hc
  obtain ⟨piece, hpiece, hc⟩ := List.mem_flatten.mp hc
  rw [List.eq_of_mem_replicate hpiece] at hc
  exact h hc

namespace Respected

open Renderer Rendering

variable {m : Mirror} {accounts outer : List Account} {account : Account} {r s : Renderer}
  (hm : m.Respected)

include hm

theorem throw {α : Type} (fault : RenderFault) :
    m.Together accounts (MonadExcept.throw fault : Rendering α) :=
  InStep.throw (fun _ _ h => h.failed hm) fault

theorem ofField {α : Type} (result : Except FieldFault α) :
    m.Together accounts (Rendering.ofField result) := by
  cases result with
  | ok a => exact InStep.pure a
  | error fault => exact hm.throw _

theorem timesLevel_bind {α : Type} {after : Renderer → Renderer → Prop} {level : Value}
    {markup : Text} {next : Text → Rendering α}
    (hnext : ∀ n, InStep (m.Beside accounts) after m.Failed (next (Text.times n markup))) :
    InStep (m.Beside accounts) after m.Failed (timesLevel level markup >>= next) := by
  unfold timesLevel
  split
  · rw [pure_bind]
    exact hnext _
  · exact fun r s h => .error _ (h.failed hm)

theorem asText (value : Value) : m.Together accounts (Rendering.asText value) := by
  unfold Rendering.asText
  split
  · exact InStep.pure _
  · exact hm.throw _

theorem asEntries (parameters : Parameters) :
    m.Together accounts (Rendering.asEntries parameters) := by
  cases parameters with
  | some entries => exact InStep.pure _
  | none => exact hm.throw _

omit hm in
/-- A change of something else than the printers. -/
theorem modify {f : Renderer → Renderer}
    (hf : ∀ r s, m.Beside accounts r s → m.Beside accounts (f r) (f s)) :
    m.Together accounts (modify f) :=
  fun r s h => .ok () (hf r s h)

omit hm in
theorem report (level : LogLevel) (message : Text) :
    m.Together accounts (Rendering.report level message) :=
  modify fun _ _ ⟨hfixed, hlength, hdepth, hprinters⟩ =>
    .intro hfixed hlength hdepth hprinters

omit hm in
/-- A step that looks at the renderer, but not at its printers or its options. -/
theorem get_bind {α : Type} {next : Renderer → Rendering α}
    (hsame : ∀ ⦃r s⦄, m.Beside accounts r s → next s = next r)
    (hnext : ∀ r, m.Fixed r.options r.linkTarget r.imageTarget r.abbreviations →
      m.Together accounts (next r)) :
    m.Together accounts (get >>= next) := by
  intro r s h
  rw [run_get_bind, run_get_bind, hsame h]
  have hfixed : m.Fixed r.options r.linkTarget r.imageTarget r.abbreviations := by
    obtain ⟨hfixed, -, -, -⟩ := h
    exact hfixed
  exact hnext r hfixed h

theorem currentRows (event : String) : m.Together accounts (Rendering.currentRows event) := by
  refine get_bind (fun r s ⟨_, _, _, _⟩ => rfl) fun r _ => ?_
  split
  · exact hm.throw _
  · exact InStep.pure _

omit hm in
theorem setRows (rows : List (List Text)) : m.Together accounts (Rendering.setRows rows) :=
  modify fun _ _ ⟨hfixed, hlength, hdepth, hprinters⟩ => .intro hfixed hlength hdepth hprinters

omit hm in
theorem abbreviation? (text : Text) :
    m.Together accounts (Rendering.abbreviation? text) := by
  unfold Rendering.abbreviation?
  refine InStep.ite ?_ (InStep.pure _)
  split
  · exact InStep.pure _
  · exact (report _ _).bind fun _ => InStep.pure _

theorem define (hverbatim : m.Verbatim) (abbreviation : Abbreviation) :
    m.Together accounts (Rendering.define abbreviation) := by
  refine get_bind (fun r s ⟨_, _, _, _⟩ => rfl) fun r _ => ?_
  split
  · exact hm.throw _
  · refine InStep.ite (modify fun _ _ ⟨hfixed, hlength, hdepth, hprinters⟩ => ?_) (InStep.pure ())
    exact .intro ⟨hfixed.options, hfixed.linkTarget, hfixed.imageTarget, .inl hverbatim⟩ hlength
      hdepth hprinters

/-- Both flush the current printer and do then what leaves the printers corresponding. -/
theorem agree_onPrinter (h : m.Beside accounts r s) {f g : Printer → Printer}
    (hf : ∀ p, (f p).pending = p.pending) (hg : ∀ q, (g q).pending = q.pending)
    {after : List Account} (hafter : after.length = accounts.length)
    (hfg : ∀ {p q ps qs}, m.related accounts (p :: ps) (q :: qs) → p.pending = [] →
      q.pending = [] → m.related after (f p :: ps) (g q :: qs)) :
    Agree (m.flushed.Beside after) m.Failed
      ((onPrinter fun p => return f (← p.flush)).run r)
      ((onPrinter fun q => return g (← q.flush)).run s) := by
  rw [run_onPrinter_eq, run_onPrinter_eq]
  rcases hm.flush h.current with ⟨hp, hq, hflushed⟩ | ⟨hp, hq⟩
  · have hp' := Printer.pending_of_flush hp
    have hq' := Printer.pending_of_flush hq
    rw [hp, hq]
    refine .ok () ((h.withPrinter hafter (hfg hflushed hp' hq')).flushed ?_ ?_)
    · rw [printer_withPrinter, hf, hp']
    · rw [printer_withPrinter, hg, hq']
  · rw [hp, hq]
    exact .error _ (h.failed hm)

omit hm in
theorem ofFlushed {act : Rendering Unit} {after : List Account}
    (h : InStep (m.Beside accounts) (m.flushed.Beside after) m.Failed act) :
    InStep (m.Beside accounts) (m.Beside after) m.Failed act :=
  h.mono fun _ _ hbeside => hbeside.ofFlushed

/-- Writing texts that correspond adds what they show to the account of the current scope. -/
theorem agree_print_flushed {shown : Account} {x y : Text} (halike : m.alike shown x y)
    (h : m.Beside (account :: outer) r s) :
    Agree (m.flushed.Beside ((account ++ shown) :: outer)) m.Failed ((Rendering.print x).run r)
      ((Rendering.print y).run s) :=
  hm.agree_onPrinter h (fun p => p.write_pending x) (fun q => q.write_pending y) rfl
    fun hrelated hp hq => hm.write hrelated hp hq halike

theorem agree_print {shown : Account} {x y : Text} (halike : m.alike shown x y)
    (h : m.Beside (account :: outer) r s) :
    Agree (m.Beside ((account ++ shown) :: outer)) m.Failed ((Rendering.print x).run r)
      ((Rendering.print y).run s) :=
  (hm.agree_print_flushed halike h).mono fun _ _ hbeside => hbeside.ofFlushed

theorem flushed_print {markup : Text} (h : m.alike [] markup markup) :
    InStep (m.Beside accounts) (m.flushed.Beside accounts) m.Failed (Rendering.print markup) := by
  intro r s hbeside
  obtain ⟨account, outer, rfl⟩ := hbeside.exists_accounts_eq
  have hprint := hm.agree_print_flushed h hbeside
  rwa [List.append_nil] at hprint

theorem print_alike {markup : Text} (h : m.alike [] markup markup) :
    m.Together accounts (Rendering.print markup) :=
  ofFlushed (hm.flushed_print h)

theorem print {markup : Text} (h : '\\' ∉ markup) : m.Together accounts (Rendering.print markup) :=
  hm.print_alike (hm.markup h)

theorem flushes : m.Together accounts Rendering.flush := by
  intro r s hbeside
  have hflush := hm.agree_onPrinter hbeside (f := id) (g := id) (fun _ => rfl) (fun _ => rfl) rfl
    fun hrelated _ _ => hrelated
  simp only [id, bind_pure] at hflush
  exact hflush.mono fun _ _ h => h.ofFlushed

theorem startLine {markup : Text} (h : '\\' ∉ markup) :
    m.Together accounts (do
      Rendering.print markup
      startLineContent) := by
  refine InStep.bind (hm.flushed_print (hm.markup h)) fun _ r s hbeside => ?_
  rw [startLineContent, run_onPrinter_eq, run_onPrinter_eq]
  obtain ⟨hrelated, hp, hq⟩ := hbeside.current
  exact .ok () (hbeside.ofFlushed.withPrinter rfl (hm.lineStarted hrelated (hp _ rfl) (hq _ rfl)))

theorem printEmptyLine : m.Together accounts Rendering.printEmptyLine := by
  rintro r s hbeside
  obtain ⟨hfixed, hlength, hdepth, hprinters⟩ := id hbeside
  rw [Rendering.printEmptyLine, run_get_bind, run_get_bind]
  dsimp only
  split
  · exact hm.print (by decide) hbeside
  · exact .ok () (.intro hfixed hlength hdepth hprinters)

theorem separateBlock (nesting : Nesting) :
    m.Together accounts (Rendering.separateBlock nesting) := by
  unfold Rendering.separateBlock
  split
  · exact InStep.pure ()
  · exact hm.printEmptyLine

theorem separated (index : Int) {next : Rendering Unit} (hnext : m.Together accounts next) :
    m.Together accounts (do
      if 0 < index then Rendering.print ['\n']
      next) :=
  InStep.ite ((hm.print (by decide)).bind fun _ => hnext) hnext

/-- Both renderers capture with printers that differ in whether they escape only. -/
theorem capture_eq (h : m.Beside accounts r s) (inCell : Bool) :
    r.capture inCell = { escapes := m.left.escapeSpecial.isTruthy
                         escapesPipes := inCell && m.left.tablePipeEscape.isTruthy } ∧
      s.capture inCell = { escapes := m.right.escapeSpecial.isTruthy
                           escapesPipes := inCell && m.left.tablePipeEscape.isTruthy } := by
  obtain ⟨hfixed, -, -, -⟩ := h
  constructor
  · rw [capture, hfixed.options]
  · rw [capture, hm.tablePipeEscape]

theorem openScope_capture (inCell : Renderer → Bool)
    (hinCell : ∀ {r s}, m.Beside accounts r s → inCell r = inCell s) :
    InStep (m.Beside accounts) (m.Beside ([] :: accounts)) m.Failed (do
      let r ← get
      openScope (r.capture (inCell r))) := by
  intro r s hbeside
  have hcaptured := hm.captured hbeside.current (inCell r && m.left.tablePipeEscape.isTruthy)
  rw [← printers_eq_cons, ← printers_eq_cons] at hcaptured
  obtain ⟨hr, hs⟩ := hm.capture_eq hbeside (inCell r)
  rw [run_get_bind, run_get_bind, ← hinCell hbeside, hr, hs]
  exact .ok () (hbeside.captured hcaptured)

theorem escapesPipes_printer (h : m.Beside accounts r s) :
    r.printer.escapesPipes = s.printer.escapesPipes := hm.escapesPipes h.current

theorem openLink :
    InStep (m.Beside accounts) (m.Beside ([] :: accounts)) m.Failed Rendering.openLink := by
  intro r s hbeside
  have hpipes := hm.escapesPipes_printer hbeside
  have hlinked := hm.linked hbeside.current
    (r.printer.escapesPipes && m.left.tablePipeEscape.isTruthy)
  rw [← printers_eq_cons, ← printers_eq_cons] at hlinked
  obtain ⟨hr, hs⟩ := hm.capture_eq hbeside r.printer.escapesPipes
  rw [Rendering.openLink, run_get_bind, run_get_bind, ← hpipes, hr, hs]
  exact .ok () (hbeside.captured hlinked)

/-- Closing a scope gives texts that correspond by the account of the scope, which is then left to
what the texts are used for. -/
theorem closeScope_bind {α : Type} {after : Renderer → Renderer → Prop}
    {next : Text → Rendering α}
    (hnext : ∀ {account : Account} {outer : List Account}, accounts = account :: outer →
      ∀ {x y : Text}, m.alike account x y → ∀ {r s : Renderer}, m.Beside outer r s →
        Agree after m.Failed ((next x).run r) ((next y).run s)) :
    InStep (m.Beside accounts) after m.Failed (closeScope >>= next) := by
  intro r s hbeside
  obtain ⟨account, outer, rfl⟩ := hbeside.exists_accounts_eq
  rw [EStateM.run_bind, EStateM.run_bind, run_closeScope_eq, run_closeScope_eq]
  by_cases hcaptures : r.captures = []
  · rw [if_pos hcaptures, if_pos (hbeside.captures_eq_nil_iff.mp hcaptures)]
    exact .error _ (hbeside.failed hm)
  have hcaptures' := mt hbeside.captures_eq_nil_iff.mpr hcaptures
  rw [if_neg hcaptures, if_neg hcaptures']
  rcases hm.closed hbeside.current with ⟨hp, hq, halike, houter⟩ | ⟨hp, hq⟩
  · rw [hp, hq]
    exact hnext rfl halike (hbeside.released hcaptures houter)
  · rw [hp, hq]
    have hlog : r.released.log = s.released.log := (hbeside.failed hm).log
    refine .error _ ⟨hlog, ?_⟩
    rw [printers_released hcaptures, printers_released hcaptures']
    exact hm.failClosed hbeside.current

end Respected

end Mirror

end DocumentStream
