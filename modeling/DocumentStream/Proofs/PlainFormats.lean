import DocumentStream.Proofs.Fragmentation

/-!
Formats without a marker. Opening or closing one still writes the text that is held back, so that
the text before it and the text behind it are escaped apart. That makes no difference where nothing
is escaped, and none where no underscore inside a word loses a neighbour and no list marker is cut.
-/

namespace DocumentStream

/-- Whether an event opens or closes a format that has no marker. -/
def Event.isPlainFormat : Event → Bool
  | .opening (.format .plain _) | .closing (.format .plain _) => true
  | _ => false

/-- The events without those that open or close a plain format. -/
def withoutPlainFormats (stream : List Event) : List Event :=
  stream.filter fun e => !e.isPlainFormat

theorem withoutPlainFormats_cons {e : Event} (rest : List Event) :
    withoutPlainFormats (e :: rest) =
      if e.isPlainFormat then withoutPlainFormats rest else e :: withoutPlainFormats rest := by
  rw [withoutPlainFormats, List.filter_cons]
  cases e.isPlainFormat <;> rfl

namespace TrackedRendering

theorem run_event_of_isPlainFormat {e : Event} (h : e.isPlainFormat = true) {s : TrackedRenderer}
    (hs : s.renderer.printer.HoldsText) :
    (event e).run s = .ok () { s with renderer := s.renderer.settled } := by
  have hprint : (Rendering.print []).run s.renderer = .ok () s.renderer.settled :=
    Rendering.run_onPrinter (by rw [Printer.print, Printer.flush_eq_ok hs]; rfl)
  unfold Event.isPlainFormat at h
  split at h
  · exact run_event_of_run rfl hprint rfl
  · exact run_event_of_run rfl hprint rfl
  · cases h

end TrackedRendering

namespace Printer

/-- Two printers that escape nothing and have the same text, written or held back. -/
structure Unescaped (p q : Printer) : Prop where
  escapes : p.escapes = false
  settings : q.settings = p.settings
  holds : p.HoldsText ∧ q.HoldsText
  text : q.written ++ q.heldText = p.written ++ p.heldText

namespace Unescaped

variable {p q : Printer}

theorem symm (h : p.Unescaped q) : q.Unescaped p where
  escapes := (settings_eq_iff.mp h.settings).2.1.trans h.escapes
  settings := h.settings.symm
  holds := h.holds.symm
  text := h.text.symm

theorem settled_left (h : p.Unescaped q) : p.settled.Unescaped q where
  escapes := (settings_eq_iff.mp p.settled_settings).2.1.trans h.escapes
  settings := h.settings.trans p.settled_settings.symm
  holds := ⟨.settled p, h.holds.2⟩
  text := by
    rw [h.text, heldText_of_pending_eq_nil p.settled_pending, written_settled, h.escapes]
    exact (List.append_nil _).symm

theorem settled (h : p.Unescaped q) : p.settled.Unescaped q.settled :=
  h.settled_left.symm.settled_left.symm

theorem written_eq (h : p.Unescaped q) : p.settled.written = q.settled.written := by
  have htext := h.settled.text
  rw [heldText_of_pending_eq_nil p.settled_pending, heldText_of_pending_eq_nil q.settled_pending,
    List.append_nil, List.append_nil] at htext
  exact htext.symm

theorem flushesAlike (h : p.Unescaped q) {after : Printer → Printer → Prop}
    (hafter : after p.settled q.settled) : p.FlushesAlike q after :=
  .ok (flush_eq_ok h.holds.1) (flush_eq_ok h.holds.2) hafter

theorem delay (h : p.Unescaped q) {value : Value} (hvalue : value.isText = true) :
    (p.delay value).Unescaped (q.delay value) where
  escapes := h.escapes
  settings := h.settings
  holds := ⟨h.holds.1.delay hvalue, h.holds.2.delay hvalue⟩
  text := by
    rw [heldText_delay, heldText_delay, ← List.append_assoc, ← List.append_assoc]
    exact congrArg (· ++ _) h.text

end Unescaped

end Printer

open Printer in
/-- Where nothing is escaped it makes no difference what is written already. -/
theorem respected_unescaped : Respected false (List.Forall₂ Unescaped) where
  flush h := by
    obtain ⟨hp, hps⟩ := List.forall₂_cons.mp h
    exact hp.flushesAlike (.cons hp.settled hps)
  write h hp hq markup := by
    obtain ⟨hpq, hps⟩ := List.forall₂_cons.mp h
    refine .cons ⟨?_, ?_, ?_, ?_⟩ hps
    · exact (settings_eq_iff.mp (write_settings _ _)).2.1.trans hpq.escapes
    · rw [write_settings, write_settings, hpq.settings]
    · exact ⟨holdsText_of_pending_eq_nil ((write_pending _ _).trans hp),
        holdsText_of_pending_eq_nil ((write_pending _ _).trans hq)⟩
    · have htext := hpq.text
      rw [heldText_of_pending_eq_nil hp, heldText_of_pending_eq_nil hq, List.append_nil,
        List.append_nil] at htext
      rw [heldText_of_pending_eq_nil ((write_pending _ _).trans hp),
        heldText_of_pending_eq_nil ((write_pending _ _).trans hq), written_write, written_write,
        htext]
  lineStarted h _ _ := by
    obtain ⟨hpq, hps⟩ := List.forall₂_cons.mp h
    exact .cons ⟨hpq.escapes, hpq.settings, hpq.holds, hpq.text⟩ hps
  escapesPipes h := (settings_eq_iff.mp (List.forall₂_cons.mp h).1.settings).2.2.symm
  captured h pipes := .cons ⟨rfl, rfl, ⟨nofun, nofun⟩, rfl⟩ h
  linked h pipes := .cons ⟨rfl, rfl, ⟨nofun, nofun⟩, rfl⟩ h
  closed h := by
    obtain ⟨hp, hps⟩ := List.forall₂_cons.mp h
    exact hp.flushesAlike ⟨hp.written_eq, hps⟩
  text hlength h := by
    rename_i p q ps qs
    have hpq : Unescaped p q := by
      have hlast := List.forall₂_drop_append _ _ _ h
      rw [List.drop_left' hlength.symm] at hlast
      exact (List.forall₂_cons.mp hlast).1
    refine hpq.flushesAlike ?_
    rw [text?, text?, hpq.written_eq, (settings_eq_iff.mp hpq.settled.settings).1]

namespace TrackedRendering

open TrackedRenderer

/-- Where nothing is escaped the events go on alike without the plain formats. -/
theorem agree_events_unescaped {stream : List Event}
    (htexts : ∀ e ∈ stream, ∀ value, e.delayed? = some value → value.isText = true)
    {s t : TrackedRenderer} (hbeside : Beside false (List.Forall₂ Printer.Unescaped) s t) :
    Agree (Beside false (List.Forall₂ Printer.Unescaped)) SameLog ((events stream).run s)
      ((events (withoutPlainFormats stream)).run t) := by
  induction stream generalizing s t with
  | nil => exact .ok () hbeside
  | cons e rest ih =>
    rw [List.forall_mem_cons] at htexts
    obtain ⟨hcurrent, houter⟩ := List.forall₂_cons.mp hbeside.renderer.current
    rw [withoutPlainFormats_cons]
    cases hplain : e.isPlainFormat with
    | true =>
      rw [events, run_bind_of_ok (run_event_of_isPlainFormat hplain hcurrent.holds.1)]
      refine ih htexts.2 ⟨hbeside.tracker, ?_⟩
      have hsettled := hbeside.renderer.withPrinter
        (List.Forall₂.cons hcurrent.settled_left houter)
      rwa [Renderer.withPrinter_printer] at hsettled
    | false =>
      rw [if_neg Bool.false_ne_true, events, events]
      cases he : e.delayed? with
      | none => exact (event_inStep respected_unescaped he hbeside).bind fun _ _ _ => ih htexts.2
      | some value =>
        rw [run_bind_of_ok (run_event_of_delayed he s), run_bind_of_ok (run_event_of_delayed he t)]
        refine ih htexts.2 ⟨hbeside.tracker, hbeside.renderer.withPrinter ?_⟩
        exact .cons (hcurrent.delay (htexts.1 value he)) houter

end TrackedRendering

namespace Printer

section

variable {p : Printer} (hholds : p.HoldsText) (hne : p.heldText ≠ [])
  (hline : Text.endsLine p.heldText = false)

include hholds

theorem settled_eq :
    p.settled = ({ p with pending := [] } : Printer).write (p.escaped p.heldText) := by
  have hflush := flush_eq_of_joinTexts? (joinTexts?_eq_some hholds)
  exact Except.ok.inj ((flush_eq_ok hholds).symm.trans hflush)

include hne hline

/-- Behind the text that was held back no line starts. -/
theorem lineStart_settled : p.settled.lineStart = false := by
  have hlast : (p.escaped p.heldText).getLast? = p.heldText.getLast? := by
    unfold escaped
    split
    · exact Escape.getLast?_text _ _
    · rfl
  have hfilled : p.escaped p.heldText ≠ [] := by
    rw [← List.getLast?_isSome, hlast, List.getLast?_isSome]
    exact hne
  rw [settled_eq hholds, write, if_neg (by simpa using hfilled), Text.endsLine, hlast]
  exact hline

/-- Text that can be written by itself may be written before the text behind it is known. -/
theorem flushesAlike_settled {more : List Value}
    (hdivides : ∀ second, joinTexts? more = some second →
      Escape.Divides p.lineStart p.heldText second)
    {after : Printer → Printer → Prop} (hafter : ∀ p', after p' p') :
    (p.holding more).FlushesAlike (p.settled.holding more) after := by
  have hpending : (p.settled.holding more).pending = more := by
    rw [holding, settled_pending, List.nil_append]
  have hjoined : joinTexts? (p.holding more).pending =
      (joinTexts? more).map (p.heldText ++ ·) := by
    rw [holding, joinTexts?_append, joinTexts?_eq_some hholds]
    rfl
  cases hmore : joinTexts? more with
  | none =>
    have hfirst : joinTexts? (p.holding more).pending = none := by
      rw [hjoined, hmore]
      rfl
    have hsecond : joinTexts? (p.settled.holding more).pending = none := by
      rw [hpending, hmore]
    exact .error (flush_eq_of_joinTexts?_eq_none hfirst) (flush_eq_of_joinTexts?_eq_none hsecond)
  | some second =>
    have hfirst : joinTexts? (p.holding more).pending = some (p.heldText ++ second) := by
      rw [hjoined, hmore]
      rfl
    have hsecond : joinTexts? (p.settled.holding more).pending = some second := by
      rw [hpending, hmore]
    have hsettings := settings_eq_iff.mp p.settled_settings
    have hescaped : p.escaped (p.heldText ++ second) =
        p.escaped p.heldText ++ (p.settled.holding more).escaped second := by
      simp only [escaped, holding, hsettings.2.1, hsettings.2.2,
        lineStart_settled hholds hne hline]
      split
      · exact Escape.text_append hne (hdivides second hmore)
      · rfl
    have hsame : ({ p.settled.holding more with pending := [] } : Printer) = p.settled := by
      have hsettled := p.settled_pending
      generalize p.settled = q at hsettled ⊢
      rw [holding, ← hsettled]
    have hwritten : ({ p.holding more with pending := [] } : Printer).write
          ((p.holding more).escaped (p.heldText ++ second)) =
        ({ p.settled.holding more with pending := [] } : Printer).write
          ((p.settled.holding more).escaped second) := by
      calc
        _ = ({ p with pending := [] } : Printer).write (p.escaped p.heldText ++ _) :=
          congrArg _ hescaped
        _ = _ := by rw [write_append, ← settled_eq hholds, hsame]
    refine .ok (flush_eq_of_joinTexts? hfirst) (flush_eq_of_joinTexts? hsecond) ?_
    rw [hwritten]
    exact hafter _

end

theorem holding_nil (p : Printer) : p.holding [] = p := by
  rw [holding, List.append_nil]

/-- Printers of which one, with the given ones around it, either holds a text back together with
what comes behind it or has already written the text and holds back only the rest. -/
inductive Divided (p : Printer) (outer : List Printer) (fits : Text → Prop) :
    List Printer → List Printer → Prop
  | same (ps : List Printer) : Divided p outer fits ps ps
  | here {more : List Value} (h : ∀ second, joinTexts? more = some second → fits second) :
      Divided p outer fits (p.holding more :: outer) (p.settled.holding more :: outer)
  | within (q : Printer) {ps qs : List Printer} (h : Divided p outer fits ps qs) :
      Divided p outer fits (q :: ps) (q :: qs)

namespace Divided

variable {p : Printer} {outer : List Printer} {fits : Text → Prop}

theorem weaken {ps qs : List Printer} (h : Divided p outer fits ps qs) :
    Divided p outer (fun _ => True) ps qs := by
  induction h with
  | same ps => exact .same ps
  | here h => exact .here fun _ _ => trivial
  | within q h ih => exact .within q ih

theorem strengthen {ps qs : List Printer} (h : Divided p outer (fun _ => True) ps qs)
    (hfits : ∀ inner more second, ps = inner ++ p.holding more :: outer →
      joinTexts? more = some second → fits second) : Divided p outer fits ps qs := by
  induction h with
  | same ps => exact .same ps
  | here h => exact .here fun second hsecond => hfits [] _ second rfl hsecond
  | within q h ih =>
    refine .within q (ih fun inner more second heq => hfits (q :: inner) more second ?_)
    rw [heq]
    rfl

theorem delay {q q' : Printer} {ps qs : List Printer}
    (h : Divided p outer (fun _ => True) (q :: ps) (q' :: qs)) (value : Value) :
    Divided p outer (fun _ => True) (q.delay value :: ps) (q'.delay value :: qs) := by
  have hdelay (r : Printer) (more : List Value) :
      (r.holding more).delay value = r.holding (more ++ [value]) := by
    simp [holding, Printer.delay]
  cases h with
  | same => exact .same _
  | here h =>
    rw [hdelay, hdelay]
    exact .here fun _ _ => trivial
  | within _ h => exact .within _ h

/-- The outermost printers are the same or the ones that are divided. -/
theorem last {q q' : Printer} {ps qs : List Printer} (hlength : qs.length = ps.length)
    (h : Divided p outer fits (ps ++ [q]) (qs ++ [q'])) :
    q = q' ∨ ∃ more, (∀ second, joinTexts? more = some second → fits second) ∧
      q = p.holding more ∧ q' = p.settled.holding more := by
  induction ps generalizing qs with
  | nil =>
    obtain rfl := List.length_eq_zero_iff.mp hlength
    cases h with
    | same => exact Or.inl rfl
    | here h => exact Or.inr ⟨_, h, rfl, rfl⟩
    | within _ h => exact Or.inl rfl
  | cons r ps ih =>
    obtain ⟨r', qs, rfl⟩ := List.exists_cons_of_length_eq_add_one hlength
    have hsame (heq : ps ++ [q] = qs ++ [q']) : q = q' := by
      obtain ⟨-, hlast⟩ := List.append_inj' heq rfl
      exact List.singleton_inj.mp hlast
    generalize hps : (r :: ps) ++ [q] = all at h
    generalize hqs : (r' :: qs) ++ [q'] = all' at h
    cases h with
    | same =>
      subst hps
      exact Or.inl (hsame (List.cons.inj hqs).2.symm)
    | here h => exact Or.inl (hsame ((List.cons.inj hps).2.trans (List.cons.inj hqs).2.symm))
    | within _ h =>
      rw [← (List.cons.inj hps).2, ← (List.cons.inj hqs).2] at h
      exact ih (Nat.succ.inj hlength) h

end Divided

end Printer

open Printer in
theorem respected_divided (escapes : Bool) {p : Printer} (outer : List Printer)
    (hholds : p.HoldsText) (hne : p.heldText ≠ []) (hline : Text.endsLine p.heldText = false) :
    Respected escapes (Divided p outer (Escape.Divides p.lineStart p.heldText)) where
  flush h := by
    cases h with
    | same => exact .refl _ fun _ _ => .same _
    | here h => exact flushesAlike_settled hholds hne hline h fun _ => .same _
    | within _ h => exact .refl _ fun _ _ => .within _ h
  write h hp hq markup := by
    cases h with
    | same => exact .same _
    | here h =>
      refine absurd (heldText_of_pending_eq_nil ?_) hne
      exact (List.append_eq_nil_iff.mp hp).1
    | within _ h => exact .within _ h
  lineStarted h hp hq := by
    cases h with
    | same => exact .same _
    | here h =>
      refine absurd (heldText_of_pending_eq_nil ?_) hne
      exact (List.append_eq_nil_iff.mp hp).1
    | within _ h => exact .within _ h
  escapesPipes h := by
    cases h with
    | same | within => rfl
    | here h => exact (settings_eq_iff.mp p.settled_settings).2.2.symm
  captured h pipes := .within _ h
  linked h pipes := by
    cases h with
    | same => exact .same _
    | here h =>
      have hleft : ∀ more, (p.holding more).isOnNewLine = false := by
        intro more
        have hpending : p.pending ≠ [] := fun hnil => hne (heldText_of_pending_eq_nil hnil)
        simp [isOnNewLine, holding, hpending]
      have hright : ∀ more, (p.settled.holding more).isOnNewLine = false := by
        intro more
        simp [isOnNewLine, holding, lineStart_settled hholds hne hline]
      rw [hleft, hright]
      exact .within _ (.here h)
    | within _ h => exact .within _ (.within _ h)
  closed h := by
    cases h with
    | same => exact .refl _ fun _ _ => ⟨rfl, .same _⟩
    | here h => exact flushesAlike_settled hholds hne hline h fun _ => ⟨rfl, .same _⟩
    | within _ h => exact .refl _ fun _ _ => ⟨rfl, h⟩
  text hlength h := by
    rcases h.last hlength with rfl | ⟨more, hdivides, rfl, rfl⟩
    · exact .refl _ fun _ _ => rfl
    · exact flushesAlike_settled hholds hne hline hdivides fun _ => rfl

theorem lasting_holdsText (escapes : Bool) : Lasting escapes Printer.HoldsText where
  flush h hflush := by
    rw [Printer.flush_eq_ok h] at hflush
    cases hflush
    exact .settled _
  write h markup := by rwa [Printer.HoldsText, Printer.write_pending]
  lineStarted h := h
  captured _ _ := nofun

/-- Writing the text that is held back leaves printers that are divided. -/
theorem Renderer.beside_settled (r : Renderer) :
    Beside r.options.escapeSpecial.isTruthy (r.printer.Divided r.printers.tail fun _ => True) r
      r.settled := by
  have hsame : Beside r.options.escapeSpecial.isTruthy Eq r r := .intro rfl rfl rfl
  have hhere : r.printer.Divided r.printers.tail (fun _ => True)
      (r.printer.holding [] :: r.printers.tail) (r.printer.settled.holding [] :: r.printers.tail) :=
    .here fun _ _ => trivial
  rw [Printer.holding_nil, Printer.holding_nil] at hhere
  have hsettled := hsame.withPrinter hhere
  rwa [withPrinter_printer] at hsettled

namespace TrackedRenderer.Beside

variable {escapes : Bool} {p : Printer} {outer : List Printer} {fits : Text → Prop}
  {s t : TrackedRenderer}

theorem weaken (h : Beside escapes (p.Divided outer fits) s t) :
    Beside escapes (p.Divided outer fun _ => True) s t :=
  ⟨h.tracker, h.renderer.mono fun hprinters => hprinters.weaken⟩

theorem strengthen (h : Beside escapes (p.Divided outer fun _ => True) s t)
    (hfits : ∀ inner more second, s.renderer.printers = inner ++ p.holding more :: outer →
      Printer.joinTexts? more = some second → fits second) :
    Beside escapes (p.Divided outer fits) s t :=
  ⟨h.tracker, h.renderer.mono fun hprinters => hprinters.strengthen hfits⟩

end TrackedRenderer.Beside

namespace TrackedRendering

open TrackedRenderer

/-- What holds of every state that the rendering of events passes through, and of the events that
are still to come there. -/
def Throughout (P : TrackedRenderer → List Event → Prop) : TrackedRenderer → List Event → Prop
  | s, [] => P s []
  | s, e :: rest => P s (e :: rest) ∧ ∀ t, (event e).run s = .ok () t → Throughout P t rest

theorem Throughout.of_forall {P : TrackedRenderer → List Event → Prop} (h : ∀ s rest, P s rest)
    (s : TrackedRenderer) (stream : List Event) : Throughout P s stream := by
  induction stream generalizing s with
  | nil => exact h s []
  | cons e rest ih => exact ⟨h s (e :: rest), fun t _ => ih t⟩

theorem Throughout.cons_of_run {P : TrackedRenderer → List Event → Prop} {e : Event}
    {rest : List Event} {s t : TrackedRenderer} (h : P s (e :: rest))
    (hrun : (event e).run s = .ok () t) (hrest : Throughout P t rest) :
    Throughout P s (e :: rest) := by
  refine ⟨h, fun u hu => ?_⟩
  obtain rfl : t = u := by simpa using hrun.symm.trans hu
  exact hrest

/-- Whether the text that is held back can be written by itself. There may be none. If there is
some, no line ends with it, and whenever anything else than text follows while it is still held
back, the text behind it that has come by then is escaped apart as it is escaped together. -/
def WritesApart (s : TrackedRenderer) (after : List Event) : Prop :=
  let p := s.renderer.printer
  p.pending = [] ∨
    p.heldText ≠ [] ∧ Text.endsLine p.heldText = false ∧
      Throughout (fun t rest => (∀ e ∈ rest.head?, e.delayed? = none) →
        ∀ inner more second,
          t.renderer.printers = inner ++ p.holding more :: s.renderer.printers.tail →
            Printer.joinTexts? more = some second →
              Escape.Divides p.lineStart p.heldText second) s after

/-- Whether a plain format that is opened or closed first leaves no trace. -/
def PassesOver (s : TrackedRenderer) : List Event → Prop
  | [] => True
  | e :: after => e.isPlainFormat = true → WritesApart s (withoutPlainFormats after)

/-- Whatever comes, it makes no difference whether text that can be written by itself is written
already. -/
theorem agree_textOf_divided {escapes : Bool} {p : Printer} {outer : List Printer}
    (hholds : p.HoldsText) (hne : p.heldText ≠ []) (hline : Text.endsLine p.heldText = false)
    {stream : List Event} {s t : TrackedRenderer}
    (hstream : Throughout (fun u rest => (∀ e ∈ rest.head?, e.delayed? = none) →
      ∀ inner more second, u.renderer.printers = inner ++ p.holding more :: outer →
        Printer.joinTexts? more = some second → Escape.Divides p.lineStart p.heldText second) s
      stream)
    (hbeside : Beside escapes (p.Divided outer fun _ => True) s t) :
    Agree SameLog SameLog ((textOf stream).run s) ((textOf stream).run t) := by
  have hrespected := respected_divided escapes outer hholds hne hline
  induction stream generalizing s t with
  | nil =>
    have hnow := hbeside.strengthen (hstream nofun)
    have hnil : Agree _ SameLog ((events []).run s) ((events []).run t) := .ok () hnow
    exact agree_textOf hrespected hnil
  | cons e rest ih =>
    obtain ⟨hfits, hrest⟩ := hstream
    rw [textOf_cons, EStateM.run_bind, EStateM.run_bind]
    cases he : e.delayed? with
    | none =>
      have hnow := hbeside.strengthen (hfits (by rintro _ ⟨⟩; exact he))
      have hevent := event_inStep hrespected he hnow
      revert hevent hrest
      generalize (event e).run s = result
      generalize (event e).run t = result'
      rintro hrest (⟨a, hafter⟩ | ⟨fault, hlog⟩)
      · exact ih (hrest _ rfl) hafter.weaken
      · exact .error fault hlog
    | some value =>
      have hheld : (event e).run s = .ok () { s with renderer := s.renderer.held value } :=
        run_event_of_delayed he s
      rw [hheld, run_event_of_delayed he t]
      refine ih (hrest _ hheld) ⟨hbeside.tracker, hbeside.renderer.withPrinter ?_⟩
      exact hbeside.renderer.current.delay value

/-- Without the plain formats that leave no trace everything is rendered as it was. -/
theorem agree_textOf_withoutPlainFormats {stream : List Event}
    (htexts : ∀ e ∈ stream, ∀ value, e.delayed? = some value → value.isText = true)
    {s : TrackedRenderer} (hs : s.renderer.HoldsText) (hstream : Throughout PassesOver s stream) :
    Agree SameLog SameLog ((textOf stream).run s)
      ((textOf (withoutPlainFormats stream)).run s) := by
  have hrefl (result : EStateM.Result RenderFault TrackedRenderer Text) :
      Agree SameLog SameLog result result := .refl .refl .refl result
  induction stream generalizing s with
  | nil => exact hrefl _
  | cons e rest ih =>
    obtain ⟨hfirst, hrest⟩ := hstream
    rw [List.forall_mem_cons] at htexts
    rw [withoutPlainFormats_cons]
    cases hplain : e.isPlainFormat with
    | true =>
      have hrun := run_event_of_isPlainFormat hplain hs.printer
      rw [if_pos rfl, textOf_cons, run_bind_of_ok hrun]
      refine (ih htexts.2 ((Renderer.Writes.settled _).holdsText hs) (hrest _ hrun)).trans ?_
        (fun _ _ _ => .trans) (fun _ _ _ => .trans)
      rcases hfirst hplain with hpending | ⟨hne, hline, hafter⟩
      · rw [Renderer.settled, Printer.settled_eq_self hpending, Renderer.withPrinter_printer]
        exact hrefl _
      · have hbeside : Beside _ _ s { s with renderer := s.renderer.settled } :=
          ⟨rfl, s.renderer.beside_settled⟩
        exact (agree_textOf_divided hs.printer hne hline hafter hbeside).symm
          (fun _ _ => .symm) (fun _ _ => .symm)
    | false =>
      rw [if_neg Bool.false_ne_true, textOf_cons, textOf_cons, EStateM.run_bind, EStateM.run_bind]
      cases hrun : (event e).run s with
      | ok _ t =>
        have hevents : (events [e]).run s = .ok () t := by
          rw [events, run_bind_of_ok hrun]
          rfl
        have hholds : t.renderer.HoldsText := by
          refine (lasting_of_run_events (lasting_holdsText _) ?_ rfl hs hevents).2
          intro e' he' value hvalue p hp
          obtain rfl := List.mem_singleton.mp he'
          exact hp.delay (htexts.1 value hvalue)
        exact ih htexts.2 hholds (hrest t hrun)
      | error fault t => exact hrefl _

end TrackedRendering

/-- Plain formats can be left out where nothing is escaped, and else where each of them comes when
the text held back, if there is any, can be written by itself. -/
theorem Conversion.ofEvents_withoutPlainFormats {options : Options}
    {linkTarget imageTarget : Serializer} {sink : SinkKind} {stream : List Event}
    (htexts : ∀ e ∈ stream, ∀ value, e.delayed? = some value → value.isText = true)
    (hapart : options.escapeSpecial.isTruthy = true →
      TrackedRendering.Throughout TrackedRendering.PassesOver
        { renderer := .start options linkTarget imageTarget sink } stream) :
    ofEvents (.start options linkTarget imageTarget sink) (withoutPlainFormats stream) =
      ofEvents (.start options linkTarget imageTarget sink) stream := by
  refine (ofEvents_eq ?_).symm
  cases hescapes : options.escapeSpecial.isTruthy with
  | true =>
    refine TrackedRendering.agree_textOf_withoutPlainFormats htexts ?_ (hapart hescapes)
    exact fun p hp => by rw [List.mem_singleton.mp hp]; exact nofun
  | false =>
    have hdocument : Printer.Unescaped { sink, escapes := options.escapeSpecial.isTruthy }
        { sink, escapes := options.escapeSpecial.isTruthy } :=
      ⟨hescapes, rfl, ⟨nofun, nofun⟩, rfl⟩
    refine TrackedRendering.agree_textOf respected_unescaped
      (TrackedRendering.agree_events_unescaped htexts ⟨rfl, ?_⟩)
    exact .intro hescapes rfl (.cons hdocument .nil)

/-- A span of a word with an underscore between blanks. -/
theorem Conversion.ofEvents_withoutPlainFormats_words :
    let word (text : String) : Event := .leaf (.word (.str text.toList))
    let span : Construct := .format .plain (some [])
    let stream := [word "a", .leaf .space, .opening span, word "b_c", .closing span, .leaf .space]
    let start : Renderer := .start {} .plain .plain .buffer
    ofEvents start [word "a", .leaf .space, word "b_c", .leaf .space] = ofEvents start stream := by
  intro word span stream start
  let state (written : Text) (lineStart : Bool) (pending : List Value) : TrackedRenderer :=
    { renderer := { document := { written, lineStart, pending } } }
  have hopening : ∀ second, Escape.Divides true "a ".toList second :=
    Escape.divides_of_endsBlank rfl (by decide)
  have hclosing : Escape.Divides false "b_c".toList [' '] :=
    Escape.divides_of_startsBlank _ (by decide)
  have hfirst : (TrackedRendering.event (word "a")).run { renderer := start } =
    .ok () (state [] true [.str ['a']]) := rfl
  have hspace : (TrackedRendering.event (.leaf .space)).run (state [] true [.str ['a']]) =
    .ok () (state [] true [.str ['a'], .str [' ']]) := rfl
  have hopen : (TrackedRendering.event (.opening span)).run
      (state [] true [.str ['a'], .str [' ']]) = .ok () (state ['a', ' '] false []) := rfl
  have hword : (TrackedRendering.event (word "b_c")).run (state ['a', ' '] false []) =
    .ok () (state ['a', ' '] false [.str "b_c".toList]) := rfl
  have hlast : (TrackedRendering.event (.leaf .space)).run
      (state ['a', ' '] false [.str "b_c".toList]) =
    .ok () (state ['a', ' '] false [.str "b_c".toList, .str [' ']]) := rfl
  refine @Conversion.ofEvents_withoutPlainFormats {} .plain .plain .buffer stream ?_ fun _ => ?_
  · decide
  refine .cons_of_run nofun hfirst (.cons_of_run nofun hspace (.cons_of_run ?_ hopen
    (.cons_of_run nofun hword ⟨?_, ?_⟩)))
  · exact fun _ => Or.inr ⟨by decide, by decide,
      .of_forall (fun _ _ _ _ _ second _ _ => hopening second) _ _⟩
  · refine fun _ => Or.inr ⟨by decide, by decide, .cons_of_run (fun hnext => ?_) hlast ?_⟩
    · exact absurd (hnext _ rfl) (Option.some_ne_none _)
    · rintro - inner more second hprinters hmore
      obtain ⟨rfl, hprinter⟩ : inner = [] ∧ _ := by
        cases inner with
        | nil => exact ⟨rfl, (List.cons.inj hprinters).1⟩
        | cons p inner => simp [Renderer.printers, state] at hprinters
      obtain rfl : [.str [' ']] = more := (List.cons.inj (congrArg Printer.pending hprinter)).2
      obtain rfl := Option.some.inj hmore
      exact hclosing
  · rintro t -
    exact ⟨nofun, fun _ _ => trivial⟩

/-- A plain format inside a word makes an underscore be escaped that stands between letters. -/
theorem TrackedRendering.body_plain_format_in_word :
    let word (text : String) : Event := .leaf (.word (.str text.toList))
    let span : Construct := .format .plain (some [])
    let stream := [.opening (.paragraph (some [])), word "snake", .opening span, word "_case",
      .closing span, .closing (.paragraph (some []))]
    (body {} .plain .plain (some []) stream).toOption = some "snake\\_case".toList ∧
      (body {} .plain .plain (some []) (withoutPlainFormats stream)).toOption =
        some "snake_case".toList := by
  decide +kernel

end DocumentStream
