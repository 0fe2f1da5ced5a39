import DocumentStream.Proofs.BlockSeparation
import DocumentStream.Proofs.Escaping
import DocumentStream.Proofs.Lockstep
import Mathlib.Data.List.Forall2

/-!
How text is split into events does not matter. Words, spaces and symbols without a markup of their
own are held back and joined before they are escaped, so that two runs of them with the same text
leave two renderers that cannot be told apart any more, whatever events follow.
-/

namespace DocumentStream

/-- The text of events that all add some. -/
def addedText? : List Event → Option Text
  | [] => some []
  | e :: rest => do return (← e.addedText?) ++ (← addedText? rest)

namespace Printer

/-- The printer that goes on to hold further values back. -/
def holding (p : Printer) (values : List Value) : Printer :=
  { p with pending := p.pending ++ values }

theorem heldText_of_joinTexts? {values : List Value} {text : Text}
    (h : joinTexts? values = some text) (p : Printer) (hpending : p.pending = []) :
    (p.holding values).HoldsText ∧ (p.holding values).heldText = text := by
  rw [HoldsText, heldText, holding, hpending, List.nil_append]
  dsimp only
  induction values generalizing text with
  | nil => exact ⟨fun value hvalue => absurd hvalue List.not_mem_nil, Option.some.inj h⟩
  | cons value rest ih =>
    cases value with
    | str first =>
      obtain ⟨second, hsecond, rfl⟩ := Option.map_eq_some_iff.mp h
      obtain ⟨hholds, hheld⟩ := ih hsecond
      exact ⟨List.forall_mem_cons.mpr ⟨rfl, hholds⟩, congrArg (first ++ ·) hheld⟩
    | _ => cases h

/-- Two printers that hold back the same text, though it may be in other pieces. -/
inductive Alike (p : Printer) : Printer → Prop
  | intro {pending : List Value} (hjoined : joinTexts? pending = joinTexts? p.pending)
      (hempty : pending.isEmpty = p.pending.isEmpty) : Alike p { p with pending }

namespace Alike

variable {p q : Printer}

theorem refl (p : Printer) : Alike p p := .intro rfl rfl

theorem eq_of_pending (h : Alike p q) (hp : p.pending = []) : q = p := by
  obtain ⟨-, hempty⟩ := h
  rename_i pending
  rw [hp, List.isEmpty_nil, List.isEmpty_iff] at hempty
  rw [hempty, ← hp]

theorem flush_eq (h : Alike p q) : q.flush = p.flush := by
  by_cases hp : p.pending = []
  · rw [h.eq_of_pending hp]
  · obtain ⟨hjoined, hempty⟩ := h
    unfold flush
    dsimp only
    rw [hjoined, hempty]
    simp [hp]

theorem flushesAlike (h : Alike p q) {after : Printer → Printer → Prop}
    (hafter : ∀ p', p.flush = .ok p' → after p' p') : p.FlushesAlike q after := by
  cases hp : p.flush with
  | ok p' => exact .ok hp (h.flush_eq.trans hp) (hafter p' hp)
  | error fault => exact .error hp (h.flush_eq.trans hp)

theorem append (p : Printer) {values values' : List Value}
    (hjoined : joinTexts? values' = joinTexts? values)
    (hempty : values'.isEmpty = values.isEmpty) :
    Alike (p.holding values) (p.holding values') := by
  refine @Alike.intro _ (p.pending ++ values') ?_ ?_
  · rw [holding, joinTexts?_append, joinTexts?_append, hjoined]
  · rw [holding]
    cases p.pending with
    | nil => exact hempty
    | cons value rest => rfl

theorem delay (h : Alike p q) (value : Value) : Alike (p.delay value) (q.delay value) := by
  obtain ⟨hjoined, hempty⟩ := h
  refine @Alike.intro _ (_ ++ [value]) ?_ ?_
  · rw [Printer.delay, joinTexts?_append, joinTexts?_append, hjoined]
  · rw [Printer.delay, List.isEmpty_eq_false_iff.mpr (by simp),
      List.isEmpty_eq_false_iff.mpr (by simp)]

end Alike

end Printer

open Printer in
/-- Printers that differ only in the pieces of the text they hold back go on writing the same. -/
theorem respected_alike (escapes : Bool) : Respected escapes (List.Forall₂ Alike) where
  flush h := by
    obtain ⟨hp, hps⟩ := List.forall₂_cons.mp h
    exact hp.flushesAlike fun p' _ => .cons (.refl p') hps
  write h hp hq markup := by
    obtain ⟨halike, hps⟩ := List.forall₂_cons.mp h
    rw [halike.eq_of_pending hp]
    exact .cons (.refl _) hps
  lineStarted h hp hq := by
    obtain ⟨halike, hps⟩ := List.forall₂_cons.mp h
    rw [halike.eq_of_pending hp]
    exact .cons (.refl _) hps
  escapesPipes h := by
    obtain ⟨⟨-, -⟩, -⟩ := List.forall₂_cons.mp h
    rfl
  captured h pipes := .cons (.refl _) h
  linked h pipes := by
    refine .cons ?_ h
    obtain ⟨⟨hjoined, hempty⟩, -⟩ := List.forall₂_cons.mp h
    rw [isOnNewLine, isOnNewLine, hempty]
    exact .refl _
  closed h := by
    obtain ⟨hp, hps⟩ := List.forall₂_cons.mp h
    exact hp.flushesAlike fun p' _ => ⟨rfl, hps⟩
  text hlength h := by
    rename_i p q ps qs
    have hp : Alike p q := by
      have hlast := List.forall₂_drop_append _ _ _ h
      rw [List.drop_left' hlength.symm] at hlast
      exact (List.forall₂_cons.mp hlast).1
    exact hp.flushesAlike fun p' _ => rfl

namespace Renderer

/-- The renderer after values are held back one after another. -/
def heldAll (r : Renderer) (values : List Value) : Renderer :=
  r.withPrinter (r.printer.holding values)

theorem heldAll_nil (r : Renderer) : r.heldAll [] = r := by
  rw [heldAll, Printer.holding, List.append_nil, withPrinter_printer]

theorem heldAll_cons (r : Renderer) (value : Value) (values : List Value) :
    (r.held value).heldAll values = r.heldAll (value :: values) := by
  simp [heldAll, held, Printer.holding, Printer.delay]

/-- Values with the same text leave renderers that differ only in the pieces of it. -/
theorem beside_heldAll (r : Renderer) {values values' : List Value}
    (hjoined : Printer.joinTexts? values' = Printer.joinTexts? values)
    (hempty : values'.isEmpty = values.isEmpty) :
    Beside r.options.escapeSpecial.isTruthy (List.Forall₂ Printer.Alike) (r.heldAll values)
      (r.heldAll values') := by
  have hsame : Beside r.options.escapeSpecial.isTruthy (List.Forall₂ Printer.Alike) r r :=
    .intro rfl rfl (List.forall₂_same.mpr fun p _ => .refl p)
  have hcurrent := Printer.Alike.append r.printer hjoined hempty
  exact hsame.withPrinter (.cons hcurrent (List.forall₂_same.mpr fun p _ => .refl p))

end Renderer

namespace TrackedRendering

/-- Events that all add some text hold it back, in pieces or not. -/
theorem exists_heldAll {es : List Event} {text : Text} (h : addedText? es = some text) :
    ∃ values, Printer.joinTexts? values = some text ∧ values.isEmpty = text.isEmpty ∧
      ∀ s, (events es).run s = .ok () { s with renderer := s.renderer.heldAll values } := by
  induction es generalizing text with
  | nil =>
    obtain rfl := Option.some.inj h
    exact ⟨[], rfl, rfl, fun s => by rw [Renderer.heldAll_nil]; rfl⟩
  | cons e rest ih =>
    simp only [addedText?, Option.bind_eq_bind, Option.bind_eq_some_iff, Option.pure_def,
      Option.some.injEq] at h
    obtain ⟨first, hfirst, second, hsecond, rfl⟩ := h
    obtain ⟨values, hjoined, -, hrun⟩ := ih hsecond
    obtain ⟨he, hne⟩ := Event.delayed?_of_addedText? hfirst
    refine ⟨.str first :: values, by rw [Printer.joinTexts?, hjoined]; rfl, ?_, fun s => ?_⟩
    · simp [hne]
    · rw [events, run_bind_of_ok (run_event_of_delayed he s), hrun, Renderer.heldAll_cons]

variable {text : Text} {first second : List Event}

/-- After two runs with the same text everything that follows is rendered alike. -/
theorem agree_events_of_addedText? (hfirst : addedText? first = some text)
    (hsecond : addedText? second = some text) (after : List Event) (s : TrackedRenderer) :
    Agree (TrackedRenderer.Beside s.renderer.options.escapeSpecial.isTruthy
        (List.Forall₂ Printer.Alike)) TrackedRenderer.SameLog
      ((events (first ++ after)).run s) ((events (second ++ after)).run s) := by
  obtain ⟨values, hjoined, hempty, hrun⟩ := exists_heldAll hfirst
  obtain ⟨values', hjoined', hempty', hrun'⟩ := exists_heldAll hsecond
  have hbeside := Renderer.beside_heldAll s.renderer (hjoined'.trans hjoined.symm)
    (hempty'.trans hempty.symm)
  rw [events_append, events_append, run_bind_of_ok (hrun s), run_bind_of_ok (hrun' s)]
  refine events_inStep (respected_alike _) (fun e _ value _ p q ps qs hrelated => ?_)
    ⟨rfl, hbeside⟩
  obtain ⟨halike, hps⟩ := List.forall₂_cons.mp hrelated
  exact .cons (halike.delay value) hps

/-- Whatever stands around them, two runs with the same text are rendered alike. -/
theorem agree_textOf_of_addedText? (hfirst : addedText? first = some text)
    (hsecond : addedText? second = some text) (before after : List Event) (s : TrackedRenderer) :
    Agree TrackedRenderer.SameLog TrackedRenderer.SameLog
      ((textOf (before ++ first ++ after)).run s) ((textOf (before ++ second ++ after)).run s) := by
  rw [List.append_assoc, List.append_assoc, textOf_append before, textOf_append before]
  have hbefore : Agree Eq TrackedRenderer.SameLog ((events before).run s)
      ((events before).run s) := Agree.refl (fun _ => rfl) .refl _
  refine hbefore.bind fun _ t u htu => ?_
  subst htu
  exact agree_textOf (respected_alike _) (agree_events_of_addedText? hfirst hsecond after t)

theorem body_eq_of_addedText? (options : Options) (linkTarget imageTarget : Serializer)
    (parameters : Parameters) (before after : List Event) (hfirst : addedText? first = some text)
    (hsecond : addedText? second = some text) :
    body options linkTarget imageTarget parameters (before ++ first ++ after) =
      body options linkTarget imageTarget parameters (before ++ second ++ after) := by
  have hagree := agree_textOf_of_addedText? hfirst hsecond
    (.opening (.document parameters) :: before) after
    (.start options linkTarget imageTarget .buffer)
  simp only [body, List.cons_append] at hagree ⊢
  revert hagree
  generalize (textOf _).run (TrackedRenderer.start options linkTarget imageTarget .buffer) = result
  generalize (textOf _).run (TrackedRenderer.start options linkTarget imageTarget .buffer) = result'
  rintro (_ | _) <;> rfl

/-- The text of a paragraph that is a single word. -/
theorem body_paragraph_word (options : Options) (linkTarget imageTarget : Serializer)
    (parameters parameters' parameters'' : Parameters) (text : Text) :
    body options linkTarget imageTarget parameters
      ([.opening (.paragraph parameters')] ++ [.leaf (.word (.str text))] ++
        [.closing (.paragraph parameters'')]) =
      .ok (if options.escapeSpecial.isTruthy then Escape.text text true false else text) := by
  let printer : Printer :=
    { escapes := options.escapeSpecial.isTruthy, pending := [.str text] }
  let held : Renderer :=
    { options, linkTarget, imageTarget, document := printer, hasBlock := true,
      abbreviations := [[]] }
  have hholds : held.HoldsText := by
    intro p hp
    obtain rfl : p = printer := by simpa [Renderer.printers, held] using hp
    exact fun value hvalue => by rw [List.mem_singleton.mp hvalue]; rfl
  have hrun : (events (.opening (.document parameters) :: ([.opening (.paragraph parameters')] ++
      [.leaf (.word (.str text))] ++ [.closing (.paragraph parameters'')]))).run
      (.start options linkTarget imageTarget .buffer) = .ok () ⟨{}, held⟩ := rfl
  have houtput : held.output =
      if options.escapeSpecial.isTruthy then Escape.text text true false else text := by
    have htext : printer.heldText = text := List.append_nil text
    have hsettled : printer.settled = ({ printer with pending := [] } : Printer).write
        (if printer.escapes then Escape.text printer.heldText true false else printer.heldText) :=
      rfl
    rw [Renderer.output, hsettled, Printer.written_write, htext]
    rfl
  rw [body, textOf, run_bind_of_ok hrun, run_ofRendering (Rendering.run_text hholds rfl rfl),
    houtput]

end TrackedRendering

/-- How text is split into words, spaces and symbols changes nothing of what is rendered. A word
with underscores inside it is shown as it is, however it is split. -/
theorem Conversion.ofEvents_eq_of_sameText :
    (∀ (start : Renderer) (before after first second : List Event) (text : Text),
      addedText? first = some text → addedText? second = some text →
        ofEvents start (before ++ first ++ after) = ofEvents start (before ++ second ++ after)) ∧
    ∀ (options : Options) (linkTarget imageTarget : Serializer)
      (parameters parameters' parameters'' : Parameters) (run : List Event) (text : Text),
      Escape.IsIdentifier text → addedText? run = some text →
        TrackedRendering.body options linkTarget imageTarget parameters
          ([.opening (.paragraph parameters')] ++ run ++
            [.closing (.paragraph parameters'')]) = .ok text := by
  constructor
  · intro start before after first second text hfirst hsecond
    exact ofEvents_eq (TrackedRendering.agree_textOf_of_addedText? hfirst hsecond before after _)
  · intro options linkTarget imageTarget parameters parameters' parameters'' run text htext hrun
    have hword : addedText? [.leaf (.word (.str text))] = some text := by
      simp [addedText?, Event.addedText?, Event.delayed?, htext.ne_nil]
    rw [TrackedRendering.body_eq_of_addedText? options linkTarget imageTarget parameters _ _ hrun
      hword, TrackedRendering.body_paragraph_word, Escape.text_eq_of_isIdentifier htext, ite_self]

/-- A name with an underscore, split behind the underscore and in front of it, in the label of a
link and in a paragraph. -/
theorem Conversion.ofEvents_eq_of_sameText_underscore :
    let word (text : String) : Event := .leaf (.word (.str text.toList))
    let link : Construct := .link { target := .str ['x'] } (.bool false) (some [])
    ofEvents {} ([.opening link] ++ [word "snake_", word "case"] ++ [.closing link]) =
        ofEvents {} ([.opening link] ++ [word "snake", .leaf (.symbol (.str ['_'])), word "case"] ++
          [.closing link]) ∧
      TrackedRendering.body {} .plain .plain (some []) ([.opening (.paragraph (some []))] ++
        [word "snake_", word "case"] ++ [.closing (.paragraph (some []))]) =
          .ok "snake_case".toList := by
  intro word link
  have hname : Escape.IsIdentifier ("snake".toList ++ '_' :: "case".toList) :=
    .cons (by decide) (List.all_eq_true.mp (by decide))
      (.word (by decide) (List.all_eq_true.mp (by decide)))
  exact ⟨Conversion.ofEvents_eq_of_sameText.1 _ _ _ _ _ "snake_case".toList (by rfl) (by rfl),
    Conversion.ofEvents_eq_of_sameText.2 _ _ _ _ _ _ _ _ hname (by rfl)⟩

end DocumentStream
