import DocumentStream.Proofs.Escaping
import DocumentStream.Proofs.Templates

/-!
Escaping inserts backslashes and does nothing else. With it and without a stream of events fills one
template, which has the texts of the events in it, each whole and once, in order. The rest of the
template is markup without backslashes, which stays as it is when the events have other texts in
them. So reading a backslash and the character behind it as this character turns the one text into
the other, unless an event writes markup that could have backslashes in it or that is as long as a
text.
-/

namespace DocumentStream

namespace Escape

/-- The text that is left when each backslash is dropped in front of the character that it escapes.
A text that ends with a backslash in front of nothing has no such reading. -/
def plain? : Text → Option Text
  | [] => some []
  | ['\\'] => none
  | '\\' :: c :: rest => (plain? rest).map (c :: ·)
  | c :: rest => (plain? rest).map (c :: ·)

theorem plain?_backslash (c : Char) (rest : Text) :
    plain? ('\\' :: c :: rest) = (plain? rest).map (c :: ·) := rfl

theorem plain?_cons {c : Char} (hc : c ≠ '\\') (rest : Text) :
    plain? (c :: rest) = (plain? rest).map (c :: ·) := by
  rw [plain?]
  · rintro rfl
    exact absurd rfl hc
  · rintro _ _ rfl
    exact absurd rfl hc

theorem plain?_append {text : Text} (h : '\\' ∉ text) (rest : Text) :
    plain? (text ++ rest) = (plain? rest).map (text ++ ·) := by
  induction text with
  | nil => exact Option.map_id'.symm
  | cons c text ih =>
    rw [List.mem_cons, not_or] at h
    rw [List.cons_append, plain?_cons (Ne.symm h.1), ih h.2, Option.map_map]
    rfl

theorem plain?_charsFrom_append (pipes lineStart : Bool) (before : Option Char)
    (text rest : Text) :
    plain? (charsFrom pipes lineStart before text ++ rest) = (plain? rest).map (text ++ ·) := by
  induction text generalizing lineStart before with
  | nil => exact Option.map_id'.symm
  | cons c text ih =>
    rw [charsFrom]
    split
    · rw [List.append_assoc, List.cons_append, List.cons_append, plain?_backslash,
        List.nil_append, ih, Option.map_map]
      rfl
    · rename_i hescaped
      -- a backslash would have been escaped
      have hc : c ≠ '\\' := by
        rintro rfl
        simp [isSpecial] at hescaped
      rw [List.append_assoc, List.cons_append, plain?_cons hc, List.nil_append, ih,
        Option.map_map]
      rfl

theorem plain?_listMarker_append (text rest : Text) :
    plain? (listMarker text ++ rest) = plain? (text ++ rest) := by
  obtain ⟨number, marked, rfl, hnumber, hmarked⟩ := exists_digits text
  rw [listMarker_append_digits hnumber hmarked]
  split
  · rename_i hstarts
    have hdigits : '\\' ∉ number := fun hmem => absurd (hnumber _ hmem) (by decide)
    rw [startsList_append_digits hnumber hmarked] at hstarts
    obtain ⟨after, rfl⟩ : ∃ after, marked = '.' :: after := by
      cases marked with
      | nil => simp at hstarts
      | cons c after =>
        obtain rfl : c = '.' := by simp_all
        exact ⟨after, rfl⟩
    rw [List.append_assoc, List.append_assoc, plain?_append hdigits, plain?_append hdigits,
      List.cons_append, List.cons_append, plain?_backslash, plain?_cons (by decide)]
  · rfl

/-- Whether a text reads as another one, whatever stands behind it. -/
def ReadsAs (text plain : Text) : Prop :=
  ∀ rest, plain? (text ++ rest) = (plain? rest).map (plain ++ ·)

namespace ReadsAs

variable {text text' plain plain' : Text}

theorem nil : ReadsAs [] [] := fun _ => Option.map_id'.symm

theorem append (h : ReadsAs text plain) (h' : ReadsAs text' plain') :
    ReadsAs (text ++ text') (plain ++ plain') := by
  intro rest
  rw [List.append_assoc, h, h', Option.map_map]
  exact congrArg (Option.map · _) (funext fun after => (List.append_assoc _ _ _).symm)

theorem of_not_mem (h : '\\' ∉ text) : ReadsAs text text := plain?_append h

/-- A text that is escaped reads as it was before. -/
theorem escaped (text : Text) (lineStart pipes : Bool) :
    ReadsAs (Escape.text text lineStart pipes) text := by
  intro rest
  unfold Escape.text
  dsimp only
  split
  · rw [plain?_listMarker_append, plain?_charsFrom_append]
  · exact plain?_charsFrom_append pipes lineStart none text rest

theorem plain?_eq (h : ReadsAs text plain) : plain? text = some plain := by
  have hplain := h []
  rwa [List.append_nil, plain?, Option.map_some, List.append_nil] at hplain

end ReadsAs

end Escape

namespace Template

/-- Whether a text shows a template with the texts of the document escaped. Texts without markup
between them are escaped as one. -/
inductive Escaped : Template → Text → Prop
  | markup {markup : Text} (h : '\\' ∉ markup) : Escaped (ofMarkup markup) markup
  | document {texts : List Text} (h : [] ∉ texts) (lineStart pipes : Bool) :
      Escaped (ofTexts texts) (Escape.text texts.flatten lineStart pipes)
  | append {template template' : Template} {text text' : Text} (h : Escaped template text)
      (h' : Escaped template' text') : Escaped (template ++ template') (text ++ text')

namespace Escaped

variable {template : Template} {text : Text}

/-- An escaped text reads as the template shows it otherwise. -/
theorem readsAs (h : template.Escaped text) : Escape.ReadsAs text (template.fill id) := by
  induction h with
  | markup h =>
    rw [fill_ofMarkup]
    exact .of_not_mem h
  | @document texts h lineStart pipes =>
    rw [fill_ofTexts, List.map_id]
    exact .escaped texts.flatten lineStart pipes
  | append h h' ih ih' =>
    rw [fill_append]
    exact ih.append ih'

theorem isEmpty_eq (h : template.Escaped text) : text.isEmpty = template.isEmpty := by
  induction h with
  | markup h => exact List.isEmpty_map.symm
  | @document texts h lineStart pipes =>
    have hflatten : texts.flatten.isEmpty = (ofTexts texts).isEmpty := by
      cases texts with
      | nil => rfl
      | cons text rest =>
        rw [List.mem_cons, not_or] at h
        simp [ofTexts, Ne.symm h.1]
    rw [← hflatten, Bool.eq_iff_iff, List.isEmpty_iff, List.isEmpty_iff,
      ← List.getLast?_eq_none_iff, ← List.getLast?_eq_none_iff, Escape.getLast?_text]
  | append h h' ih ih' =>
    rw [Bool.eq_iff_iff] at ih ih' ⊢
    simp_all [List.isEmpty_iff]

end Escaped

end Template

/-- The manner in which texts are escaped. -/
def Manner.escaped : Manner := ⟨true, id, Template.Escaped⟩

theorem Manner.sound_escaped : escaped.Sound where
  isEmpty_change _ := rfl
  markup := .markup
  document {texts} h lineStart pipes := by
    rw [escaped, if_pos rfl, List.map_id]
    exact .document h lineStart pipes
  append := .append
  isEmpty _ h := h.isEmpty_eq

/-- Whether an event writes no markup that could have backslashes in it or that is as long as a
text: it ends no table or cell and no heading of the first two levels, it is neither raw text nor a
macro, and it shows references and alternative texts without backslashes. -/
def Event.WritesPlainly (linkTarget imageTarget : Serializer) : Event → Prop
  | .closing (.heading level _ _) =>
    ∀ n ∈ [1, 2], Rendering.compareLevel? level n ≠ some .eq
  | .closing (.table _) | .closing (.cell ..) | .leaf (.rawText ..) | .leaf (.call ..) => False
  | .closing (.link reference _ _) =>
    ∀ target, linkTarget reference = .ok target → '\\' ∉ target.display
  | .leaf (.image reference alt _ parameters) =>
    (∀ target, imageTarget reference = .ok target → '\\' ∉ target.display) ∧
      (∀ text, alt = .str text → '\\' ∉ text) ∧
      ∀ entries ∈ parameters, ∀ text,
        entries.get? "alt".toList = some (.str text) → '\\' ∉ text
  | _ => True

theorem Event.WritesPlainly.not_cell {linkTarget imageTarget : Serializer} {e : Event}
    (h : e.WritesPlainly linkTarget imageTarget) (isHeader : Value) (parameters : Parameters) :
    e ≠ .closing (.cell isHeader parameters) := by
  rintro rfl
  exact h

theorem Event.WritesPlainly.fits {m : Mirror} {e : Event}
    (h : e.WritesPlainly m.linkTarget m.imageTarget) : m.Fits e := by
  cases e with
  | closing construct =>
    cases construct with
    | heading level id parameters => exact .inr h
    | link reference isFreeStanding parameters => exact .inr h
    | cell | table => exact h.elim
    | _ => exact trivial
  | leaf l =>
    cases l with
    | image reference alt isFreeStanding parameters => exact .inr h
    | rawText | call => exact h.elim
    | _ => exact trivial
  | _ => exact trivial

namespace TrackedRendering

open TrackedRenderer

section

variable (options : Options) {on off : Value} (hon : on.isTruthy = true)
  (hoff : off.isTruthy = false) {linkTarget imageTarget : Serializer} {stream : List Event}
  (hstream : ∀ e ∈ stream, e.WritesPlainly linkTarget imageTarget)

include hoff hstream in
/-- What texts are rendered to can be told from what they are rendered to when they are delimited,
which has the template in it. -/
theorem exists_filled_plain {template : Template} (hproper : template.IsProper)
    {s : TrackedRenderer}
    (hdelimited : filled (.plain Template.delimited) options off linkTarget imageTarget stream =
      .ok (template.fill Template.delimited) s)
    (change : Text → Text) (hchange : ∀ text, (change text).isEmpty = text.isEmpty) :
    ∃ u, filled (.plain change) options off linkTarget imageTarget stream =
      .ok (template.fill change) u := by
  rcases exists_template_of_filled (Manner.sound_plain Template.isEmpty_delimited)
      (Manner.sound_plain hchange) options hoff hoff (fun e he => (hstream e he).fits)
      (fun e he => (hstream e he).not_cell) with
    ⟨_, _, _, hfault, -⟩ | ⟨other, x, y, _, u, hother, hright, hotherProper, rfl, rfl, -⟩
  · rw [hdelimited] at hfault
    cases hfault
  · rw [hdelimited] at hother
    obtain rfl := Template.eq_of_fill_delimited_eq hproper hotherProper
      (EStateM.Result.ok.inj hother).1
    exact ⟨u, hright⟩

include hon hoff hstream

/-- Escaping does nothing but insert backslashes. Rendering fails in the same way with it and
without. Otherwise it fills one template: with escaping on, the texts of the document in it are
escaped, and each backslash dropped in front of the character that it escapes gives the text that
it is with escaping off. This shows the texts as they are, and with other texts in the events it
would show those instead and nothing else would change. The texts of the template are those of the
events, each once, up to the scopes that are still open. -/
theorem plain?_textOf :
    (∃ fault s t,
      (textOf stream).run (.start { options with escapeSpecial := on } linkTarget imageTarget
        .buffer) = .error fault s ∧
      (textOf stream).run (.start { options with escapeSpecial := off } linkTarget imageTarget
        .buffer) = .error fault t) ∨
    ∃ (template : Template) (escaped : Text) (s t : TrackedRenderer),
      (textOf stream).run (.start { options with escapeSpecial := on } linkTarget imageTarget
        .buffer) = .ok escaped s ∧
      (textOf stream).run (.start { options with escapeSpecial := off } linkTarget imageTarget
        .buffer) = .ok (template.fill id) t ∧
      Escape.plain? escaped = some (template.fill id) ∧ template.Escaped escaped ∧
      (∀ change : Text → Text, (∀ text, (change text).isEmpty = text.isEmpty) → ∃ u,
        (textOf (stream.map (Event.withText change))).run
          (.start { options with escapeSpecial := off } linkTarget imageTarget .buffer) =
            .ok (template.fill change) u) ∧
      template.texts <+: stream.filterMap Event.addedText? ∧
      (OpenConstructs.run? none [] stream = some [] →
        template.texts = stream.filterMap Event.addedText?) := by
  have hsame : stream.map (Event.withText id) = stream := List.map_id'' Event.withText_id stream
  have hid : ∀ text : Text, (id text).isEmpty = text.isEmpty := fun _ => rfl
  have hescaped : filled .escaped options on linkTarget imageTarget stream =
      (textOf stream).run
        (.start { options with escapeSpecial := on } linkTarget imageTarget .buffer) := by
    rw [filled, Manner.escaped, hsame]
  have hplain : filled (.plain id) options off linkTarget imageTarget stream =
      (textOf stream).run
        (.start { options with escapeSpecial := off } linkTarget imageTarget .buffer) := by
    rw [filled, Manner.plain, hsame]
  have hfits {manner manner' : Manner} {value value' : Value} : ∀ e ∈ stream,
      (Mirror.ofManners manner manner' options value value' linkTarget imageTarget).Fits e :=
    fun e he => (hstream e he).fits
  have hcells := fun e he => (hstream e he).not_cell
  rw [← hescaped, ← hplain]
  -- with delimited texts the same is rendered as with escaped ones, and from it the template read
  rcases exists_template_of_filled (Manner.sound_plain Template.isEmpty_delimited)
      Manner.sound_escaped options hoff hon hfits hcells with
    ⟨fault, s, t, hdelimited, hfault⟩ |
      ⟨template, x, escaped, s, t, hdelimited, hrun, hproper, rfl, hshows, hprefix, hall⟩
  · rcases exists_template_of_filled (Manner.sound_plain Template.isEmpty_delimited)
        (Manner.sound_plain hid) options hoff hoff hfits hcells with
      ⟨fault', _, u, hdelimited', hfault'⟩ | ⟨_, _, _, _, _, hdelimited', -⟩
    · rw [hdelimited] at hdelimited'
      cases hdelimited'
      exact .inl ⟨fault, t, u, hfault, hfault'⟩
    · rw [hdelimited] at hdelimited'
      cases hdelimited'
  · have hchanged := exists_filled_plain options hoff hstream hproper hdelimited
    obtain ⟨u, hu⟩ := hchanged id hid
    exact .inr ⟨template, escaped, t, u, hrun, hu, hshows.readsAs.plain?_eq, hshows, hchanged,
      hprefix, hall⟩

end

theorem toOption_body_of_run {options : Options} {linkTarget imageTarget : Serializer}
    {parameters : Parameters} {es : List Event} {text : Text} {s : TrackedRenderer}
    (h : (textOf (.opening (.document parameters) :: es)).run
      (.start options linkTarget imageTarget .buffer) = .ok text s) :
    (body options linkTarget imageTarget parameters es).toOption = some text := by
  rw [body, h]
  rfl

theorem toOption_body_of_fault {options : Options} {linkTarget imageTarget : Serializer}
    {parameters : Parameters} {es : List Event} {fault : RenderFault} {s : TrackedRenderer}
    (h : (textOf (.opening (.document parameters) :: es)).run
      (.start options linkTarget imageTarget .buffer) = .error fault s) :
    (body options linkTarget imageTarget parameters es).toOption = none := by
  rw [body, h]
  rfl

/-- A paragraph that begins like a list, with a bracket in the label of a link. With the texts
doubled the same markup stands around them. -/
theorem plain?_textOf_link :
    let link : Construct := .link { target := .str ['u'] } (.bool false) (some [])
    let content : List Event := [.opening (.paragraph (some [])),
      .leaf (.word (.str ['1', '.', ' ', '*'])), .opening link, .leaf (.word (.str ['a', ']'])),
      .closing link, .closing (.paragraph (some [])), .closing (.document (some []))]
    let on : Options := { ({} : Options) with escapeSpecial := .bool true }
    let off : Options := { ({} : Options) with escapeSpecial := .bool false }
    let double (text : Text) : Text := text ++ text
    (body on .plain .plain (some []) content).toOption = some "1\\. \\*[a\\]](u)".toList ∧
      (body off .plain .plain (some []) content).toOption = some "1. *[a]](u)".toList ∧
      Escape.plain? "1\\. \\*[a\\]](u)".toList = some "1. *[a]](u)".toList ∧
      ∃ template : Template, template.Escaped "1\\. \\*[a\\]](u)".toList ∧
        template.texts = ["1. *".toList, "a]".toList] ∧
        template.fill id = "1. *[a]](u)".toList ∧
        template.fill double = "1. *1. *[a]a]](u)".toList := by
  intro link content on off double
  have hescaped : (body on .plain .plain (some []) content).toOption =
      some "1\\. \\*[a\\]](u)".toList := by decide +kernel
  have hplain : (body off .plain .plain (some []) content).toOption =
      some "1. *[a]](u)".toList := by decide +kernel
  have hdoubled :
      (body off .plain .plain (some []) (content.map (Event.withText double))).toOption =
        some "1. *1. *[a]a]](u)".toList := by decide +kernel
  refine ⟨hescaped, hplain, ?_⟩
  have hon : (Value.bool true).isTruthy = true := rfl
  have hoff : (Value.bool false).isTruthy = false := rfl
  have hlink : Event.WritesPlainly .plain .plain (.closing link) := by
    rintro _ ⟨⟩
    decide
  have hstream : ∀ e ∈ .opening (.document (some [])) :: content,
      e.WritesPlainly .plain .plain := by
    simp only [content, List.forall_mem_cons]
    exact ⟨trivial, trivial, trivial, trivial, trivial, hlink, trivial, trivial, nofun⟩
  have hopened : Event.withText double (.opening (.document (some []))) =
      .opening (.document (some [])) := rfl
  rcases plain?_textOf {} hon hoff hstream with ⟨fault, s, t, hfault, -⟩ |
    ⟨template, escaped, s, t, hrun, hrun', hread, hshows, hchange, -, htexts⟩
  · cases hescaped.symm.trans (toOption_body_of_fault hfault)
  · obtain ⟨u, hu⟩ := hchange double fun text => by cases text <;> rfl
    rw [List.map_cons, hopened] at hu
    obtain rfl := Option.some.inj ((toOption_body_of_run hrun).symm.trans hescaped)
    have hfilled := Option.some.inj ((toOption_body_of_run hrun').symm.trans hplain)
    have hdouble := Option.some.inj ((toOption_body_of_run hu).symm.trans hdoubled)
    exact ⟨hfilled ▸ hread, template, hshows, htexts rfl, hfilled, hdouble⟩

end TrackedRendering

end DocumentStream
