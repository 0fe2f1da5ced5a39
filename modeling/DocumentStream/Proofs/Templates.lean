import DocumentStream.Proofs.BlockComposition
import DocumentStream.Proofs.MirroredEvents

/-!
What of a rendered text is markup and what is text of the document. In a template the characters of
the markup stand between places for whole texts. Two renderers that are told the same events, except
that these hold other texts back, fill one template, each with its own texts and in its own manner,
for instance with escaping or without.
-/

namespace DocumentStream

/-- A part of a template: a character of the markup, or a place with a text of the document. -/
inductive Template.Part where
  | markup (c : Char)
  | document (text : Text)

/-- A rendered text of which it is known where the texts of the document stand. -/
abbrev Template := List Template.Part

namespace Template

namespace Part

def text? : Part → Option Text
  | .markup _ => none
  | .document text => some text

def fill (change : Text → Text) : Part → Text
  | .markup c => [c]
  | .document text => change text

/-- Whether a part is no backslash of the markup and no empty text. -/
def IsProper : Part → Prop
  | .markup c => c ≠ '\\'
  | .document text => text ≠ []

end Part

/-- The texts of the document, in order. -/
def texts (template : Template) : List Text := template.filterMap Part.text?

/-- The rendered text when each text of the document is changed. -/
def fill (change : Text → Text) (template : Template) : Text := template.flatMap (Part.fill change)

def IsProper (template : Template) : Prop := ∀ part ∈ template, part.IsProper

def ofMarkup (markup : Text) : Template := markup.map .markup

def ofTexts (texts : List Text) : Template := texts.map .document

theorem texts_append (template template' : Template) :
    texts (template ++ template') = template.texts ++ template'.texts :=
  List.filterMap_append

theorem fill_append (change : Text → Text) (template template' : Template) :
    fill change (template ++ template') = template.fill change ++ template'.fill change :=
  List.flatMap_append

theorem texts_ofMarkup (markup : Text) : (ofMarkup markup).texts = [] := by
  simp [texts, ofMarkup, Part.text?]

theorem texts_ofTexts (texts : List Text) : (ofTexts texts).texts = texts := by
  rw [Template.texts, ofTexts, List.filterMap_map]
  exact List.filterMap_some

theorem fill_ofMarkup (change : Text → Text) (markup : Text) :
    (ofMarkup markup).fill change = markup := by
  simp [fill, ofMarkup, Part.fill, List.flatMap_map]

theorem fill_ofTexts (change : Text → Text) (texts : List Text) :
    (ofTexts texts).fill change = (texts.map change).flatten := by
  rw [fill, ofTexts, List.flatMap_map]
  exact List.flatMap_def

theorem isProper_append {template template' : Template} (h : template.IsProper)
    (h' : template'.IsProper) : IsProper (template ++ template') := by
  intro part hpart
  exact (List.mem_append.mp hpart).elim (h part) (h' part)

theorem isProper_ofMarkup {markup : Text} (h : '\\' ∉ markup) : (ofMarkup markup).IsProper := by
  intro part hpart
  obtain ⟨c, hc, rfl⟩ := List.mem_map.mp hpart
  rintro rfl
  exact h hc

theorem isProper_ofTexts {texts : List Text} (h : [] ∉ texts) : (ofTexts texts).IsProper := by
  intro part hpart
  obtain ⟨text, htext, rfl⟩ := List.mem_map.mp hpart
  rintro rfl
  exact h htext

/-- Filling leaves nothing only if there is nothing to fill. -/
theorem isEmpty_fill {change : Text → Text}
    (hchange : ∀ text, (change text).isEmpty = text.isEmpty) {template : Template}
    (h : template.IsProper) : (template.fill change).isEmpty = template.isEmpty := by
  cases template with
  | nil => rfl
  | cons part rest =>
    have hpart := h part List.mem_cons_self
    cases part with
    | markup c => rfl
    | document text =>
      have hfilled : change text ≠ [] := by
        intro hempty
        have htext := hchange text
        rw [hempty] at htext
        exact hpart (List.isEmpty_iff.mp htext.symm)
      simp [fill, Part.fill, hfilled]

/-- The text with a mark in front of each character, so that no two texts look alike in front of
a backslash. -/
def marked (text : Text) : Text := text.flatMap fun c => ['.', c]

theorem eq_of_marked_append_eq {text text' rest rest' : Text}
    (h : marked text ++ '\\' :: rest = marked text' ++ '\\' :: rest') :
    text = text' ∧ rest = rest' := by
  induction text generalizing text' with
  | nil =>
    cases text' with
    | nil => exact ⟨rfl, (List.cons.inj h).2⟩
    | cons c text' => exact absurd (List.cons.inj h).1 (by decide)
  | cons c text ih =>
    cases text' with
    | nil => exact absurd (List.cons.inj h).1 (by decide)
    | cons c' text' =>
      obtain ⟨rfl, hrest⟩ := List.cons.inj (List.cons.inj h).2
      obtain ⟨rfl, rfl⟩ := ih hrest
      exact ⟨rfl, rfl⟩

/-- A text that can be told from markup without backslashes around it. -/
def delimited (text : Text) : Text :=
  if text.isEmpty then [] else '\\' :: (marked text ++ ['\\'])

theorem isEmpty_delimited (text : Text) : (delimited text).isEmpty = text.isEmpty := by
  cases text <;> rfl

theorem delimited_append {text : Text} (h : text ≠ []) (rest : Text) :
    delimited text ++ rest = '\\' :: (marked text ++ '\\' :: rest) := by
  rw [delimited, if_neg (by simpa using h), List.cons_append, List.append_assoc]
  rfl

/-- A template can be read off what it gives with delimited texts. -/
theorem eq_of_fill_delimited_eq {template template' : Template} (h : template.IsProper)
    (h' : template'.IsProper) (heq : template.fill delimited = template'.fill delimited) :
    template = template' := by
  induction template generalizing template' with
  | nil =>
    have hempty := isEmpty_fill isEmpty_delimited h'
    rw [← heq] at hempty
    exact (List.isEmpty_iff.mp hempty.symm).symm
  | cons part rest ih =>
    cases template' with
    | nil =>
      have hempty := isEmpty_fill isEmpty_delimited h
      rw [heq] at hempty
      exact List.isEmpty_iff.mp hempty.symm
    | cons part' rest' =>
      obtain ⟨hpart, hrest⟩ := List.forall_mem_cons.mp h
      obtain ⟨hpart', hrest'⟩ := List.forall_mem_cons.mp h'
      rw [fill, fill, List.flatMap_cons, List.flatMap_cons] at heq
      cases part with
      | markup c =>
        cases part' with
        | markup c' =>
          obtain ⟨rfl, hsame⟩ := List.cons.inj heq
          rw [ih hrest hrest' hsame]
        | document text' =>
          rw [Part.fill, Part.fill, delimited_append hpart'] at heq
          exact absurd (List.cons.inj heq).1 hpart
      | document text =>
        rw [Part.fill, delimited_append hpart] at heq
        cases part' with
        | markup c' => exact absurd (List.cons.inj heq).1.symm hpart'
        | document text' =>
          rw [Part.fill, delimited_append hpart'] at heq
          obtain ⟨rfl, hsame⟩ := eq_of_marked_append_eq (List.cons.inj heq).2
          rw [ih hrest hrest' hsame]

end Template

/-- A manner of filling templates. The texts are exchanged for others, and perhaps escaped. -/
structure Manner where
  escapes : Bool
  change : Text → Text
  /-- Whether a text shows a template in this manner. -/
  shows : Template → Text → Prop

/-- A manner that goes with the way in which printers write. -/
structure Manner.Sound (manner : Manner) : Prop where
  isEmpty_change (text : Text) : (manner.change text).isEmpty = text.isEmpty
  markup {markup : Text} (h : '\\' ∉ markup) : manner.shows (.ofMarkup markup) markup
  document {texts : List Text} (h : [] ∉ texts) (lineStart pipes : Bool) :
    manner.shows (.ofTexts texts)
      (if manner.escapes then Escape.text (texts.map manner.change).flatten lineStart pipes
        else (texts.map manner.change).flatten)
  append {template template' : Template} {text text' : Text} (h : manner.shows template text)
    (h' : manner.shows template' text') : manner.shows (template ++ template') (text ++ text')
  isEmpty {template : Template} {text : Text} (hproper : template.IsProper)
    (h : manner.shows template text) : text.isEmpty = template.isEmpty

/-- The manner in which texts are changed and not escaped. -/
def Manner.plain (change : Text → Text) : Manner where
  escapes := false
  change
  shows template text := text = template.fill change

theorem Manner.sound_plain {change : Text → Text}
    (hchange : ∀ text, (change text).isEmpty = text.isEmpty) : (plain change).Sound where
  isEmpty_change := hchange
  markup _ := (Template.fill_ofMarkup _ _).symm
  document _ _ _ := (Template.fill_ofTexts _ _).symm
  append := by
    rintro template template' - - rfl rfl
    exact (Template.fill_append change template template').symm
  isEmpty := by
    rintro template - hproper rfl
    exact Template.isEmpty_fill hchange hproper

/-- Two texts that show one template, which has the texts of the account in it. -/
def Manner.Alike (manner manner' : Manner) (account : Mirror.Account) (x y : Text) : Prop :=
  ∃ template : Template, template.IsProper ∧ template.texts = account ∧ manner.shows template x ∧
    manner'.shows template y

namespace Value

/-- The value with its text changed, if it is one. -/
def withText (change : Text → Text) : Value → Value
  | .str text => .str (change text)
  | value => value

/-- The text that a value adds to what is held back, if there is any. -/
def filledText? : Value → Option Text
  | .str text => if text.isEmpty then none else some text
  | _ => none

theorem nil_not_mem_filledTexts (values : List Value) : [] ∉ values.filterMap filledText? := by
  intro hmem
  obtain ⟨value, -, hvalue⟩ := List.mem_filterMap.mp hmem
  cases value with
  | str text => simp [filledText?] at hvalue
  | _ => cases hvalue

end Value

namespace Event

theorem addedText?_eq_bind (e : Event) : e.addedText? = e.delayed?.bind Value.filledText? := by
  unfold addedText?
  cases e.delayed? with
  | none => rfl
  | some value => cases value <;> rfl

/-- The event with the text that it holds back changed. -/
def withText (change : Text → Text) (e : Event) : Event :=
  match e.delayed? with
  | some (.str text) => if change text = text then e else .leaf (.word (.str (change text)))
  | _ => e

theorem withText_id (e : Event) : e.withText id = e := by
  unfold withText
  split
  · exact if_pos rfl
  · rfl

theorem withText_of_delayed?_eq_none {e : Event} (h : e.delayed? = none) (change : Text → Text) :
    e.withText change = e := by
  rw [withText, h]

theorem delayed?_withText {e : Event} {value : Value} (h : e.delayed? = some value)
    (change : Text → Text) : (e.withText change).delayed? = some (value.withText change) := by
  rw [withText, h]
  cases value with
  | str text =>
    dsimp only
    split
    · rename_i hsame
      rw [h, Value.withText, hsame]
    · rfl
  | _ => exact h

end Event

namespace Printer

theorem joinTexts?_map_withText {change : Text → Text}
    (hchange : ∀ text, (change text).isEmpty = text.isEmpty) {values : List Value} :
    joinTexts? (values.map (Value.withText change)) =
      (joinTexts? values).map fun _ =>
        ((values.filterMap Value.filledText?).map change).flatten := by
  induction values with
  | nil => rfl
  | cons value rest ih =>
    cases value with
    | str text =>
      rw [List.map_cons, Value.withText, joinTexts?, ih, joinTexts?, Option.map_map, Option.map_map]
      refine Option.map_congr fun _ _ => ?_
      by_cases htext : text = []
      · have hempty : change text = [] := by simpa [htext] using hchange text
        simp [Value.filledText?, htext, htext ▸ hempty]
      · simp [Value.filledText?, htext]
    | _ => rfl

/-- What a printer wrote in some manner: a template, and values that it holds back. -/
structure Filled (manner : Manner) (template : Template) (values : List Value) (p : Printer) :
    Prop where
  sink : p.sink = .buffer
  escapes : p.escapes = manner.escapes
  pending : p.pending = values.map (Value.withText manner.change)
  written : manner.shows template p.written

namespace Filled

variable {manner : Manner} {template : Template} {values : List Value} {p : Printer}

theorem write (hmanner : manner.Sound) (h : p.Filled manner template values) {added : Template}
    {text : Text} (hshows : manner.shows added text) :
    (p.write text).Filled manner (template ++ added) values := by
  have hwritten := hmanner.append h.written hshows
  unfold Printer.write
  split
  · rename_i hempty
    rw [List.isEmpty_iff.mp hempty, List.append_nil] at hwritten
    exact { h with written := hwritten }
  · exact { h with written := hwritten }

theorem delay (h : p.Filled manner template values) (value : Value) :
    (p.delay (value.withText manner.change)).Filled manner template (values ++ [value]) where
  sink := h.sink
  escapes := h.escapes
  pending := by rw [Printer.delay, h.pending, List.map_append, List.map_singleton]
  written := h.written

/-- Values that are not all texts cannot be written. -/
theorem flush_eq_error (hmanner : manner.Sound) (h : p.Filled manner template values)
    (hvalues : joinTexts? values = none) : p.flush = .error .wrongKind := by
  apply flush_eq_of_joinTexts?_eq_none
  rw [h.pending, joinTexts?_map_withText hmanner.isEmpty_change, hvalues]
  rfl

/-- The texts held back are written one behind the other. -/
theorem exists_flush (hmanner : manner.Sound) (h : p.Filled manner template values) {text : Text}
    (hvalues : joinTexts? values = some text) :
    ∃ p', p.flush = .ok p' ∧
      p'.Filled manner (template ++ .ofTexts (values.filterMap Value.filledText?)) [] ∧
      p'.escapesPipes = p.escapesPipes := by
  have hjoined : joinTexts? p.pending =
      some ((values.filterMap Value.filledText?).map manner.change).flatten := by
    rw [h.pending, joinTexts?_map_withText hmanner.isEmpty_change, hvalues]
    rfl
  have hflush := flush_eq_of_joinTexts? hjoined
  have hemptied : ({ p with pending := [] } : Printer).Filled manner template [] :=
    ⟨h.sink, h.escapes, rfl, h.written⟩
  refine ⟨_, hflush, hemptied.write hmanner ?_, ?_⟩
  · rw [escaped, h.escapes]
    exact hmanner.document (Value.nil_not_mem_filledTexts values) _ _
  · exact congrArg (·.2.2) (settings_of_flush hflush)

end Filled

/-- Printers that wrote one template, each in its own manner, and hold back the same values but for
the change of texts. The account has the texts of both. -/
inductive FilledBeside (manner manner' : Manner) (account : Mirror.Account) (p q : Printer) : Prop
  | intro {template : Template} {values : List Value} (hproper : template.IsProper)
      (haccount : account = template.texts ++ values.filterMap Value.filledText?)
      (hp : p.Filled manner template values) (hq : q.Filled manner' template values)
      (hpipes : p.escapesPipes = q.escapesPipes)

namespace FilledBeside

variable {manner manner' : Manner} {account : Mirror.Account} {p q : Printer}

/-- Printers that wrote nothing yet. -/
theorem start {escapes escapes' : Bool} (hmanner : manner.Sound) (hmanner' : manner'.Sound)
    (hescapes : escapes = manner.escapes) (hescapes' : escapes' = manner'.escapes)
    (pipes lineStart lineStart' : Bool) :
    FilledBeside manner manner' []
      { escapes, escapesPipes := pipes, lineStart }
      { escapes := escapes', escapesPipes := pipes, lineStart := lineStart' } := by
  have hnil : '\\' ∉ ([] : Text) := List.not_mem_nil
  have haccount : ([] : Mirror.Account) = Template.texts [] ++ [].filterMap Value.filledText? := rfl
  exact .intro (Template.isProper_ofMarkup hnil) haccount
    ⟨rfl, hescapes, rfl, hmanner.markup hnil⟩ ⟨rfl, hescapes', rfl, hmanner'.markup hnil⟩ rfl

theorem alike (h : p.FilledBeside manner manner' account q) (hpending : p.pending = []) :
    manner.Alike manner' account p.written q.written := by
  obtain ⟨hproper, rfl, hp, hq, -⟩ := h
  rw [hp.pending, List.map_eq_nil_iff] at hpending
  subst hpending
  exact ⟨_, hproper, (List.append_nil _).symm, hp.written, hq.written⟩

theorem write (hmanner : manner.Sound) (hmanner' : manner'.Sound)
    (h : p.FilledBeside manner manner' account q) (hpending : p.pending = [])
    {shown : Mirror.Account} {x y : Text} (halike : manner.Alike manner' shown x y) :
    (p.write x).FilledBeside manner manner' (account ++ shown) (q.write y) := by
  obtain ⟨hproper, rfl, hp, hq, hpipes⟩ := h
  obtain ⟨added, hadded, rfl, hx, hy⟩ := halike
  rw [hp.pending, List.map_eq_nil_iff] at hpending
  subst hpending
  refine .intro (Template.isProper_append hproper hadded) ?_ (hp.write hmanner hx)
    (hq.write hmanner' hy) ?_
  · simp [Template.texts_append]
  · have hp' := congrArg (·.2.2) (write_settings p x)
    have hq' := congrArg (·.2.2) (write_settings q y)
    exact hp'.trans (hpipes.trans hq'.symm)

theorem flushesAlike (hmanner : manner.Sound) (hmanner' : manner'.Sound)
    (h : p.FilledBeside manner manner' account q) :
    p.FlushesAlike q (FilledBeside manner manner' account) := by
  obtain ⟨hproper, rfl, hp, hq, hpipes⟩ := h
  rename_i template values
  cases hvalues : joinTexts? values with
  | none => exact .error (hp.flush_eq_error hmanner hvalues) (hq.flush_eq_error hmanner' hvalues)
  | some text =>
    obtain ⟨p', hflush, hp', hpipes'⟩ := hp.exists_flush hmanner hvalues
    obtain ⟨q', hflush', hq', hqpipes'⟩ := hq.exists_flush hmanner' hvalues
    have htexts := Template.isProper_ofTexts (Value.nil_not_mem_filledTexts values)
    refine .ok hflush hflush' (.intro (Template.isProper_append hproper htexts) ?_ hp' hq' ?_)
    · rw [Template.texts_append, Template.texts_ofTexts]
      exact (List.append_nil _).symm
    · rw [hpipes', hpipes, hqpipes']

theorem delay (h : p.FilledBeside manner manner' account q) (value : Value) :
    (p.delay (value.withText manner.change)).FilledBeside manner manner'
      (account ++ value.filledText?.toList) (q.delay (value.withText manner'.change)) := by
  obtain ⟨hproper, rfl, hp, hq, hpipes⟩ := h
  refine .intro hproper ?_ (hp.delay value) (hq.delay value) hpipes
  rw [List.filterMap_append, List.append_assoc]
  cases hvalue : value.filledText? <;> simp [hvalue]

end FilledBeside

end Printer

/-- Renderers of which each writes in its own manner. -/
def Mirror.ofManners (manner manner' : Manner) (options : Options) (value value' : Value)
    (linkTarget imageTarget : Serializer) : Mirror :=
  .ofPairs { options with escapeSpecial := value } { options with escapeSpecial := value' }
    linkTarget imageTarget (manner.Alike manner') (Printer.FilledBeside manner manner')

section

variable {manner manner' : Manner} (hmanner : manner.Sound) (hmanner' : manner'.Sound)
  {value value' : Value} (hvalue : value.isTruthy = manner.escapes)
  (hvalue' : value'.isTruthy = manner'.escapes)

include hmanner hmanner' hvalue hvalue'

theorem Mirror.pairwise_filledBeside (options : Options) :
    Pairwise { options with escapeSpecial := value } { options with escapeSpecial := value' }
      (manner.Alike manner') (Printer.FilledBeside manner manner') where
  tablePipeEscape := rfl
  unhandledMacroMode := rfl
  markup h := ⟨_, Template.isProper_ofMarkup h, Template.texts_ofMarkup _, hmanner.markup h,
    hmanner'.markup h⟩
  append := by
    rintro - - x y x' y' ⟨template, hproper, rfl, hx, hy⟩ ⟨template', hproper', rfl, hx', hy'⟩
    exact ⟨_, Template.isProper_append hproper hproper', Template.texts_append _ _,
      hmanner.append hx hx', hmanner'.append hy hy'⟩
  isEmpty := by
    rintro - x y ⟨template, hproper, -, hx, hy⟩
    rw [hmanner.isEmpty hproper hx, hmanner'.isEmpty hproper hy]
  flush h := h.flushesAlike hmanner hmanner'
  write h hp _ _ _ _ halike := h.write hmanner hmanner' hp halike
  lineStarted := by
    rintro account p q ⟨hproper, haccount, hp, hq, hpipes⟩
    exact .intro hproper haccount ⟨hp.sink, hp.escapes, hp.pending, hp.written⟩
      ⟨hq.sink, hq.escapes, hq.pending, hq.written⟩ hpipes
  escapesPipes := by
    rintro account p q ⟨-, -, -, -, hpipes⟩
    exact hpipes
  captured pipes := Printer.FilledBeside.start hmanner hmanner' hvalue hvalue' pipes true true
  linked _ pipes := Printer.FilledBeside.start hmanner hmanner' hvalue hvalue' pipes _ _
  written h hp _ := h.alike hp

end

namespace Mirror

/-- An event adds its text to the accounts, unless it ends a cell, whose texts are left to the
table. -/
theorem flatten_accounts {texts : List Account} (htexts : texts ≠ []) {e : Event}
    (he : ∀ isHeader parameters, e ≠ .closing (.cell isHeader parameters)) :
    accounts texts e ≠ [] ∧
      (accounts texts e).reverse.flatten = texts.reverse.flatten ++ e.addedText?.toList := by
  cases e with
  | opening construct =>
    have hopened : opened texts construct = texts ∨ opened texts construct = [] :: texts := by
      cases construct <;> first | exact .inl rfl | exact .inr rfl
    rw [accounts]
    rcases hopened with h | h
    · rw [h]
      exact ⟨htexts, (List.append_nil _).symm⟩
    · rw [h]
      exact ⟨List.cons_ne_nil _ _, by simp [Event.addedText?, Event.delayed?]⟩
  | closing construct =>
    have hclosed : closed texts construct = texts ∨ closed texts construct = joinInner texts := by
      cases construct with
      | heading | link => exact .inr rfl
      | cell isHeader parameters => exact absurd rfl (he isHeader parameters)
      | _ => exact .inl rfl
    rw [accounts]
    rcases hclosed with h | h
    · rw [h]
      exact ⟨htexts, (List.append_nil _).symm⟩
    · rw [h]
      obtain ⟨inner, outer, rfl⟩ := List.exists_cons_of_ne_nil htexts
      cases outer with
      | nil => exact ⟨List.cons_ne_nil _ _, (List.append_nil _).symm⟩
      | cons around rest =>
        exact ⟨List.cons_ne_nil _ _, by simp [joinInner, Event.addedText?, Event.delayed?]⟩
  | leaf l =>
    obtain ⟨account, outer, rfl⟩ := List.exists_cons_of_ne_nil htexts
    exact ⟨List.cons_ne_nil _ _, by simp [accounts, List.modifyHead]⟩
  | foreign name => exact ⟨htexts, (List.append_nil _).symm⟩

theorem flatten_foldl_accounts {texts : List Account} (htexts : texts ≠ []) {es : List Event}
    (hes : ∀ e ∈ es, ∀ isHeader parameters, e ≠ .closing (.cell isHeader parameters)) :
    (es.foldl accounts texts).reverse.flatten =
      texts.reverse.flatten ++ es.filterMap Event.addedText? := by
  induction es generalizing texts with
  | nil => exact (List.append_nil _).symm
  | cons e rest ih =>
    rw [List.forall_mem_cons] at hes
    obtain ⟨hnext, hflatten⟩ := flatten_accounts htexts hes.1
    rw [List.foldl_cons, ih hnext hes.2, hflatten, List.append_assoc, List.filterMap_cons]
    cases e.addedText? <;> rfl

end Mirror

/-- The texts of documents that were filled beside each other. -/
theorem Rendering.run_text_of_filledBeside {manner manner' : Manner} (hmanner : manner.Sound)
    (hmanner' : manner'.Sound) {account : Mirror.Account} {r s : Renderer}
    (h : r.document.FilledBeside manner manner' account s.document) :
    (∃ fault r' s', text.run r = .error fault r' ∧ text.run s = .error fault s') ∨
      ∃ x y r' s', text.run r = .ok x r' ∧ text.run s = .ok y s' ∧
        manner.Alike manner' account x y := by
  rw [run_text_eq, run_text_eq]
  rcases h.flushesAlike hmanner hmanner' with @⟨p, q, hp, hq, hflushed⟩ | ⟨hp, hq⟩
  · have halike := hflushed.alike (Printer.pending_of_flush hp)
    obtain ⟨-, -, hp', hq', -⟩ := hflushed
    rw [hp, hq]
    dsimp only [Printer.text?]
    rw [hp'.sink, hq'.sink]
    exact .inr ⟨_, _, _, _, rfl, rfl, halike⟩
  · rw [hp, hq]
    exact .inl ⟨_, _, _, rfl, rfl⟩

namespace TrackedRendering

open TrackedRenderer

/-- The outcome of rendering events in some manner: their texts are changed first. -/
def filled (manner : Manner) (options : Options) (value : Value)
    (linkTarget imageTarget : Serializer) (stream : List Event) :
    EStateM.Result RenderFault TrackedRenderer Text :=
  (textOf (stream.map (Event.withText manner.change))).run
    (.start { options with escapeSpecial := value } linkTarget imageTarget .buffer)

variable {manner manner' : Manner} (hmanner : manner.Sound) (hmanner' : manner'.Sound)
  (options : Options) {value value' : Value} (hvalue : value.isTruthy = manner.escapes)
  (hvalue' : value'.isTruthy = manner'.escapes) {linkTarget imageTarget : Serializer}
  {stream : List Event}

include hmanner hmanner' hvalue hvalue'

/-- Events go alike in both manners. -/
theorem agree_events_filled
    (hfits : ∀ e ∈ stream,
      (Mirror.ofManners manner manner' options value value' linkTarget imageTarget).Fits e) :
    let m := Mirror.ofManners manner manner' options value value' linkTarget imageTarget
    Agree (m.Tracked (stream.foldl Mirror.accounts [[]])) m.TrackedFailed
      ((events (stream.map (Event.withText manner.change))).run
        (.start { options with escapeSpecial := value } linkTarget imageTarget .buffer))
      ((events (stream.map (Event.withText manner'.change))).run
        (.start { options with escapeSpecial := value' } linkTarget imageTarget .buffer)) := by
  intro m
  have hpairs := Mirror.pairwise_filledBeside hmanner hmanner' hvalue hvalue' options
  refine (hpairs.respected linkTarget imageTarget).agree_events hfits (fun e _ => ?_) ⟨rfl, ?_⟩
  · cases he : e.delayed? with
    | none =>
      rw [Event.withText_of_delayed?_eq_none he, Event.withText_of_delayed?_eq_none he]
      exact .same he
    | some held =>
      refine .delayed (by simp [he]) (Event.delayed?_withText he _)
        (Event.delayed?_withText he _) ?_
      rintro account accounts p q ps qs (_ | ⟨hpq, houter⟩)
      rw [Event.addedText?_eq_bind, he]
      exact .cons (hpq.delay held) houter
  · refine .intro ⟨rfl, rfl, rfl, .inr nofun⟩ rfl rfl (.cons ?_ .nil)
    exact hpairs.captured false

/-- In both manners rendering fails alike or fills one template. The texts in it are those of the
events in front of the scopes that are still open. -/
theorem exists_template_of_filled
    (hfits : ∀ e ∈ stream,
      (Mirror.ofManners manner manner' options value value' linkTarget imageTarget).Fits e)
    (hcells : ∀ e ∈ stream, ∀ isHeader parameters, e ≠ .closing (.cell isHeader parameters)) :
    (∃ fault s t,
      filled manner options value linkTarget imageTarget stream = .error fault s ∧
      filled manner' options value' linkTarget imageTarget stream = .error fault t) ∨
    ∃ template x y s t,
      filled manner options value linkTarget imageTarget stream = .ok x s ∧
      filled manner' options value' linkTarget imageTarget stream = .ok y t ∧
      template.IsProper ∧ manner.shows template x ∧ manner'.shows template y ∧
      template.texts <+: stream.filterMap Event.addedText? ∧
      (OpenConstructs.run? none [] stream = some [] →
        template.texts = stream.filterMap Event.addedText?) := by
  have hevents := agree_events_filled hmanner hmanner' options hvalue hvalue' hfits
  rw [filled, filled]
  rcases hevents.exists_eq with ⟨fault, s, t, hleft, hright, -⟩ | ⟨_, s, t, hleft, hright, htracked⟩
  · exact .inl ⟨fault, s, t, run_bind_of_error hleft _, run_bind_of_error hright _⟩
  obtain ⟨inner, account, haccounts, hdocuments, -, -⟩ := Mirror.Tracked.exists_last htracked
  rw [textOf, textOf, run_bind_of_ok hleft, run_bind_of_ok hright]
  rcases Rendering.run_text_of_filledBeside hmanner hmanner' hdocuments with
    ⟨fault, r, r', hr, hr'⟩ | ⟨x, y, r, r', hr, hr', template, hproper, rfl, hx, hy⟩
  · exact .inl ⟨fault, _, _, run_ofRendering_of_error hr, run_ofRendering_of_error hr'⟩
  have htotal := Mirror.flatten_foldl_accounts (List.cons_ne_nil [] []) hcells
  rw [haccounts, List.reverse_append, List.flatten_append] at htotal
  have hshown : template.texts ++ inner.reverse.flatten = stream.filterMap Event.addedText? := by
    simpa using htotal
  refine .inr ⟨template, x, y, _, _, run_ofRendering hr, run_ofRendering hr', hproper, hx, hy,
    ⟨_, hshown⟩, fun hnested => ?_⟩
  -- no scope is open in the end, so that no text is left out
  have hlength : (stream.foldl Mirror.accounts [[]]).length = 1 :=
    Mirror.length_foldl_accounts hnested rfl
  rw [haccounts, List.length_append] at hlength
  obtain rfl : inner = [] := List.eq_nil_of_length_eq_zero (Nat.succ.inj hlength)
  rwa [List.reverse_nil, List.flatten_nil, List.append_nil] at hshown

end TrackedRendering

end DocumentStream
