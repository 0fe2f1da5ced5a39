import DocumentStream.Proofs.Writing

/-!
What a leaf does to a renderer, as a function. Where the fields of the leaf have their declared
kinds, rendering it succeeds with just this effect, unless it is an abbreviation and there is no
document to define it in.
-/

namespace DocumentStream

/-- The abbreviation that raw text defines. -/
def Abbreviation.ofRawText? (text : Text) : Option Abbreviation :=
  if "<abbr ".toList.isPrefixOf text then (ofMarkup text).toOption else none

/-- Whether a leaf is raw text that defines an abbreviation. -/
def Leaf.isAbbreviation : Leaf → Bool
  | .rawText (.str text) _ => (Abbreviation.ofRawText? text).isSome
  | _ => false

/-- Whether a leaf is a macro that Markdown has no form for. -/
def Leaf.isUnhandled : Leaf → Bool
  | .call id _ _ _ => !Rendering.isCode id
  | _ => false

namespace Serializer

/-- Whether every reference with fields of the declared kinds is serialized. -/
def IsTotal (serialize : Serializer) : Prop :=
  ∀ reference : Reference, reference.isWellTyped = true → ∃ value, serialize reference = .ok value

theorem target_isText {reference : Reference} (h : reference.isWellTyped = true) :
    ∃ text, reference.target = .str text := by
  simp only [Reference.isWellTyped, Bool.and_eq_true] at h
  exact Value.exists_text_of_isText h.1.1.1

theorem plain_isTotal : plain.IsTotal := by
  intro reference h
  obtain ⟨text, htext⟩ := target_isText h
  by_cases hmail : reference.type = .mailto <;> simp [plain, htext, hmail]

end Serializer

namespace Renderer

/-- The renderer after a block is set off, unless the leaf stands within a line. -/
def setOffIn (r : Renderer) (nesting : Nesting) : Renderer :=
  if nesting.isInLine then r else r.setOff

/-- The renderer after an abbreviation is recorded in the innermost document. -/
def defined (r : Renderer) (abbreviation : Abbreviation) : Renderer :=
  match r.abbreviations with
  | [] => r
  | scope :: outer =>
    if scope.all fun known => known.key != abbreviation.key then
      { r with abbreviations := (scope ++ [abbreviation]) :: outer }
    else r

/-- The renderer after the abbreviation that a leaf may be is recorded. -/
def noted (r : Renderer) : Leaf → Renderer
  | .rawText (.str text) _ =>
    match Abbreviation.ofRawText? text with
    | some abbreviation => r.defined abbreviation
    | none => r
  | _ => r

/-- The renderer after raw text is looked at that is no abbreviation; one that began as one is
reported. -/
def passedOver (r : Renderer) (text : Text) : Renderer :=
  if "<abbr ".toList.isPrefixOf text then
    match Abbreviation.ofMarkup text with
    | .ok _ => r
    | .error error =>
      r.logged .debug ("Keeping abbreviation markup verbatim: ".toList ++ error.message.toList)
  else r

/-- The alternative text of an image, which a parameter may supply. -/
def alternative (alt : Value) (parameters : Parameters) : Value :=
  let given :=
    match alt with
    | .str text => !text.isEmpty && !text.isAllBlank
    | _ => false
  if given then alt else ((Entries.get? "alt".toList (parameters.getD [])).getD .null)

/-- The markup of code outside of a line. -/
def codeBlock (content : Text) (parameters : Parameters) : Text :=
  match Entries.get? "language".toList (parameters.getD []) with
  | some (.str language) =>
    Rendering.fence ++ language ++ '\n' :: content ++ '\n' :: Rendering.fence
  | _ =>
    Text.join ['\n']
      ((Text.dropEmptyTail (Text.codeLines content)).map (Rendering.indent ++ ·))

/-- The renderer after code. -/
def coded (r : Renderer) (nesting : Nesting) (content isInline : Value)
    (parameters : Parameters) : Renderer :=
  let text := content.text?.getD []
  if isInline.isTruthy then r.printed (Rendering.codeMark :: text ++ [Rendering.codeMark])
  else (r.setOffIn nesting).printed (codeBlock text parameters)

/-- The renderer after a macro that Markdown has no form for. -/
def called (r : Renderer) (nesting : Nesting) (id content isInline : Value)
    (parameters : Parameters) : Renderer :=
  match r.options.unhandledMacroMode with
  | .refuse => r
  | .drop =>
    r.logged .warning ("Dropping macro '".toList ++ id.display ++
      "' which has no Markdown rendering".toList)
  | .wiki =>
    match MacroCall.ofFields id (parameters.getD []) content with
    | .ok call => (if isInline.isTruthy then r else r.setOffIn nesting).printed call.text
    | .error _ => r

/-- The renderer after a leaf. -/
def shown (r : Renderer) (nesting : Nesting) : Leaf → Renderer
  | .word text => r.held text
  | .space => r.held (.str [' '])
  | .lineBreak => r.printed [' ', ' ', '\n']
  | .symbol value =>
    match Rendering.symbolMarkup? value with
    | some markup => r.printed markup
    | none => r.held value
  | .rawText (.str text) _ =>
    match Abbreviation.ofRawText? text with
    | some abbreviation => (r.defined abbreviation).printed abbreviation.key
    | none => ((r.passedOver text).setOffIn nesting).printed text
  | .rawText _ _ => r
  | .image reference alt _ parameters =>
    match reference.image r.imageTarget (alternative alt parameters) with
    | .ok markup => r.printed markup
    | .error _ => r
  | .call id content isInline parameters =>
    if Rendering.isCode id then r.coded nesting content isInline parameters
    else r.called nesting id content isInline parameters
  | .rule _ => r.setOff.printed ['-', '-', '-']

theorem printers_defined (r : Renderer) (abbreviation : Abbreviation) :
    (r.defined abbreviation).printers = r.printers := by
  unfold defined
  split
  · rfl
  · split <;> rfl

/-- A leaf may add to the abbreviations of the innermost document, and records nothing else. -/
theorem exists_noted_eq (r : Renderer) (l : Leaf) :
    ∃ abbreviations : List (List Abbreviation),
      abbreviations.length = r.abbreviations.length ∧
        r.noted l = { r with abbreviations := abbreviations } := by
  unfold noted defined
  split
  · split
    · split
      · exact ⟨r.abbreviations, rfl, rfl⟩
      · rename_i scope outer hscope
        split
        · exact ⟨_, by simp [hscope], rfl⟩
        · exact ⟨r.abbreviations, rfl, rfl⟩
    · exact ⟨r.abbreviations, rfl, rfl⟩
  · exact ⟨r.abbreviations, rfl, rfl⟩

/-- A renderer that nothing can go wrong with but the order of the events and a macro that it is to
refuse. -/
structure Steady (r : Renderer) : Prop where
  linkTarget : r.linkTarget.IsTotal
  imageTarget : r.imageTarget.IsTotal
  holdsText : r.HoldsText

/-- A renderer that nothing can go wrong with but the order of the events. -/
structure Sound (r : Renderer) : Prop where
  mode : r.options.unhandledMacroMode ≠ .refuse
  linkTarget : r.linkTarget.IsTotal
  imageTarget : r.imageTarget.IsTotal
  holdsText : r.HoldsText

theorem Sound.steady {r : Renderer} (h : r.Sound) : r.Steady :=
  ⟨h.linkTarget, h.imageTarget, h.holdsText⟩

theorem Steady.of_keeps {r s : Renderer} (h : r.Steady) (hkeeps : Keeps r s)
    (hholds : s.HoldsText) : s.Steady where
  linkTarget := by rw [hkeeps.linkTarget]; exact h.linkTarget
  imageTarget := by rw [hkeeps.imageTarget]; exact h.imageTarget
  holdsText := hholds

theorem Sound.of_keeps {r s : Renderer} (h : r.Sound) (hkeeps : Keeps r s)
    (hholds : s.HoldsText) : s.Sound where
  mode := by rw [hkeeps.options]; exact h.mode
  linkTarget := by rw [hkeeps.linkTarget]; exact h.linkTarget
  imageTarget := by rw [hkeeps.imageTarget]; exact h.imageTarget
  holdsText := hholds

namespace Writes

theorem setOffIn (r : Renderer) (nesting : Nesting) : Writes r (r.setOffIn nesting) := by
  unfold Renderer.setOffIn
  split
  · exact refl r
  · exact setOff r

theorem passedOver (r : Renderer) (text : Text) : Writes r (r.passedOver text) := by
  unfold Renderer.passedOver
  split
  · split
    · exact refl r
    · exact logged r _ _
  · exact refl r

theorem coded (r : Renderer) (nesting : Nesting) (content isInline : Value)
    (parameters : Parameters) : Writes r (r.coded nesting content isInline parameters) := by
  unfold Renderer.coded
  split
  · exact printed r _
  · exact (setOffIn r nesting).trans (printed _ _)

theorem called (r : Renderer) (nesting : Nesting) (id content isInline : Value)
    (parameters : Parameters) : Writes r (r.called nesting id content isInline parameters) := by
  unfold Renderer.called
  split
  · exact refl r
  · exact logged r _ _
  · split
    · split
      · exact printed r _
      · exact (setOffIn r nesting).trans (printed _ _)
    · exact refl r

/-- A leaf records the abbreviation that it is, and then only writes. -/
theorem shown (r : Renderer) (nesting : Nesting) {l : Leaf} (hl : l.isWellTyped = true) :
    Writes (r.noted l) (r.shown nesting l) := by
  cases l with
  | word text => exact held r hl
  | space => exact held r rfl
  | lineBreak => exact printed r _
  | symbol value =>
    obtain ⟨c, rfl⟩ := Leaf.exists_char_of_symbol hl
    simp only [Renderer.shown]
    split
    · exact printed r _
    · exact held r rfl
  | rawText value markup =>
    simp only [Leaf.isWellTyped, Bool.and_eq_true] at hl
    obtain ⟨text, rfl⟩ := Value.exists_text_of_isText hl.1
    simp only [Renderer.shown, Renderer.noted]
    cases Abbreviation.ofRawText? text with
    | some abbreviation => exact printed _ _
    | none => exact ((passedOver r text).trans (setOffIn _ nesting)).trans (printed _ _)
  | image reference alt isFreeStanding parameters =>
    simp only [Renderer.shown]
    split
    · exact printed r _
    · exact refl r
  | call id content isInline parameters =>
    simp only [Renderer.shown]
    split
    · exact coded r nesting content isInline parameters
    · exact called r nesting id content isInline parameters
  | rule parameters => exact (setOff r).trans (printed _ _)

end Writes

end Renderer

namespace Rendering

variable {r : Renderer}

theorem run_separateBlock (h : r.HoldsText) (nesting : Nesting) :
    (separateBlock nesting).run r = .ok () (r.setOffIn nesting) := by
  unfold separateBlock Renderer.setOffIn
  cases hline : nesting.isInLine with
  | true => simp
  | false => simpa using run_printEmptyLine h

theorem run_symbol (h : r.HoldsText) {value : Value}
    (hvalue : (Leaf.symbol value).isWellTyped = true) :
    (symbol value).run r =
      .ok () (match symbolMarkup? value with
        | some markup => r.printed markup
        | none => r.held value) := by
  obtain ⟨c, rfl⟩ := Leaf.exists_char_of_symbol hvalue
  have hkey : (Value.str [c]).key?.isNone = false := rfl
  simp only [symbol, hkey]
  cases symbolMarkup? (.str [c]) with
  | some markup => exact run_print h markup
  | none => exact run_printText r _

theorem run_abbreviation? (r : Renderer) (text : Text) :
    (abbreviation? text).run r = .ok (Abbreviation.ofRawText? text) (r.passedOver text) := by
  unfold abbreviation? Abbreviation.ofRawText? Renderer.passedOver
  split
  · cases Abbreviation.ofMarkup text <;> rfl
  · rfl

theorem run_define {scope : List Abbreviation} {outer : List (List Abbreviation)}
    (hscope : r.abbreviations = scope :: outer) (abbreviation : Abbreviation) :
    (define abbreviation).run r = .ok () (r.defined abbreviation) := by
  simp only [define, Renderer.defined, EStateM.run_bind, EStateM.run_get, hscope]
  split
  · rw [EStateM.run_modify]
  · rw [EStateM.run_pure]

theorem run_define_of_nil (hscope : r.abbreviations = []) (abbreviation : Abbreviation) :
    (define abbreviation).run r = .error (.rendering .abbreviationOutsideDocument) r := by
  simp [define, hscope, fail]

theorem passedOver_of_isSome {text : Text} {abbreviation : Abbreviation}
    (h : Abbreviation.ofRawText? text = some abbreviation) : r.passedOver text = r := by
  unfold Abbreviation.ofRawText? at h
  unfold Renderer.passedOver
  split at h
  · rename_i hprefix
    rw [if_pos hprefix]
    cases hmarkup : Abbreviation.ofMarkup text with
    | ok found => rfl
    | error error =>
      rw [hmarkup] at h
      cases h
  · cases h

/-- Raw text that is no abbreviation stands as a block of its own outside of lines. -/
theorem run_rawText (h : r.HoldsText) (nesting : Nesting) {text : Text}
    (hnone : Abbreviation.ofRawText? text = none) :
    (rawText nesting (.str text)).run r =
      .ok () (((r.passedOver text).setOffIn nesting).printed text) := by
  have hpassed := (Renderer.Writes.passedOver r text).holdsText h
  have hset := (Renderer.Writes.setOffIn (r.passedOver text) nesting).holdsText hpassed
  have hlook := run_abbreviation? r text
  rw [hnone] at hlook
  rw [rawText, run_bind_of_ok hlook]
  dsimp only
  rw [run_bind_of_ok (run_separateBlock hpassed nesting), run_print hset]

theorem run_rawText_abbreviation (h : r.HoldsText) (nesting : Nesting) {text : Text}
    {abbreviation : Abbreviation} (hsome : Abbreviation.ofRawText? text = some abbreviation)
    (hscope : r.abbreviations ≠ []) :
    (rawText nesting (.str text)).run r =
      .ok () ((r.defined abbreviation).printed abbreviation.key) := by
  obtain ⟨scope, outer, hscope⟩ := List.exists_cons_of_ne_nil hscope
  have hlook := run_abbreviation? r text
  rw [hsome, passedOver_of_isSome hsome] at hlook
  have hdefined : (r.defined abbreviation).HoldsText := by
    rw [Renderer.HoldsText, Renderer.printers_defined]
    exact h
  rw [rawText, run_bind_of_ok hlook]
  dsimp only
  rw [run_bind_of_ok (run_define hscope abbreviation), run_print hdefined]

theorem run_rawText_of_nil (nesting : Nesting) {text : Text}
    {abbreviation : Abbreviation} (hsome : Abbreviation.ofRawText? text = some abbreviation)
    (hscope : r.abbreviations = []) :
    (rawText nesting (.str text)).run r =
      .error (.rendering .abbreviationOutsideDocument) r := by
  have hlook := run_abbreviation? r text
  rw [hsome, passedOver_of_isSome hsome] at hlook
  rw [rawText, run_bind_of_ok hlook]
  dsimp only
  rw [EStateM.run_bind, run_define_of_nil hscope]

theorem alternative_isOptionalText {alt : Value} {entries : Entries}
    (halt : alt.isOptionalText = true) (hentries : Entries.areTexts entries = true) :
    (Renderer.alternative alt (some entries)).isOptionalText = true := by
  have hget : ((Entries.get? "alt".toList entries).getD .null).isOptionalText = true := by
    rcases Entries.get?_eq_text hentries "alt".toList with hget | ⟨text, hget⟩ <;> rw [hget] <;> rfl
  rcases Value.eq_null_or_text_of_isOptionalText halt with rfl | ⟨text, rfl⟩
  · exact hget
  · simp only [Renderer.alternative, Option.getD_some]
    split
    · rfl
    · exact hget

theorem exists_image {serialize : Serializer} (hserialize : serialize.IsTotal)
    {reference : Reference} (hreference : reference.isWellTyped = true) {alt : Value}
    (halt : alt.isOptionalText = true) :
    ∃ markup, reference.image serialize alt = .ok markup := by
  obtain ⟨target, htarget⟩ := hserialize reference hreference
  rcases Value.eq_null_or_text_of_isOptionalText halt with rfl | ⟨text, rfl⟩
  · exact ⟨_, by rw [Reference.image, htarget]; rfl⟩
  · exact ⟨_, by rw [Reference.image, htarget]; rfl⟩

/-- Which alternative text is shown depends on nothing but the fields. -/
theorem image_eq (reference : Reference) {alt : Value} (halt : alt.isOptionalText = true)
    (entries : Entries) :
    image reference alt (some entries) = (do
      let r ← get
      let markup ← ofField (reference.image r.imageTarget
        (Renderer.alternative alt (some entries)))
      print markup) := by
  rcases Value.eq_null_or_text_of_isOptionalText halt with rfl | ⟨text, rfl⟩
  · rfl
  · cases text with
    | nil => rfl
    | cons c rest =>
      cases hblank : Text.isAllBlank (c :: rest) with
      | true => simp [image, Renderer.alternative, Value.isTruthy, asEntries, hblank]
      | false => simp [image, Renderer.alternative, Value.isTruthy, hblank]

theorem run_image (h : r.Steady) (nesting : Nesting) {reference : Reference}
    {alt isFreeStanding : Value} {parameters : Parameters}
    (hl : (Leaf.image reference alt isFreeStanding parameters).isWellTyped = true) :
    (image reference alt parameters).run r =
      .ok () (r.shown nesting (.image reference alt isFreeStanding parameters)) := by
  simp only [Leaf.isWellTyped, Bool.and_eq_true] at hl
  obtain ⟨⟨⟨hreference, halt⟩, -⟩, hparameters⟩ := hl
  obtain ⟨entries, rfl, hentries⟩ := Parameters.exists_entries_of_areTexts hparameters
  obtain ⟨markup, hmarkup⟩ :=
    exists_image h.imageTarget hreference (alternative_isOptionalText halt hentries)
  rw [image_eq reference halt, run_get_bind]
  simp only [Renderer.shown, hmarkup, ofField, pure_bind]
  exact run_print h.holdsText markup

theorem run_code (h : r.HoldsText) (nesting : Nesting) {id content isInline : Value}
    {parameters : Parameters}
    (hl : (Leaf.call id content isInline parameters).isWellTyped = true) :
    (code nesting content isInline parameters).run r =
      .ok () (r.coded nesting content isInline parameters) := by
  simp only [Leaf.isWellTyped, Bool.and_eq_true] at hl
  obtain ⟨⟨⟨-, hcontent⟩, -⟩, hparameters⟩ := hl
  obtain ⟨entries, rfl, hentries⟩ := Parameters.exists_entries_of_areTexts hparameters
  have htext : (if content.isTruthy then content else .str []) =
      .str (content.text?.getD []) := by
    rcases Value.eq_null_or_text_of_isOptionalText hcontent with rfl | ⟨text, rfl⟩
    · rfl
    · cases text <;> rfl
  have hset := (Renderer.Writes.setOffIn r nesting).holdsText h
  simp only [code, htext, Renderer.coded]
  split
  · exact run_print h _
  · rw [run_bind_of_ok (run_separateBlock h nesting)]
    rcases Entries.get?_eq_text hentries "language".toList with hget | ⟨language, hget⟩
    · simp only [Renderer.codeBlock, Option.getD_some, hget, asEntries, asText, pure_bind,
        Option.getD_none]
      exact run_print hset _
    · simp only [Renderer.codeBlock, Option.getD_some, hget, asEntries, asText, pure_bind]
      exact run_print hset _

theorem exists_textParameters {entries : Entries} (h : Entries.areTexts entries = true) :
    ∃ parameters, MacroCall.textParameters entries = .ok parameters := by
  induction entries with
  | nil => exact ⟨[], rfl⟩
  | cons entry rest ih =>
    obtain ⟨key, value⟩ := entry
    have hall : (key.toValue.isText = true ∧ value.isText = true) ∧
        Entries.areTexts rest = true := by
      simpa only [Entries.areTexts, List.all_cons, Bool.and_eq_true] using h
    obtain ⟨text, rfl⟩ := Value.exists_text_of_isText hall.1.2
    obtain ⟨parameters, hparameters⟩ := ih hall.2
    exact ⟨(key.display, text) :: parameters, by rw [MacroCall.textParameters, hparameters]; rfl⟩

theorem exists_macroCall {id content : Value} {entries : Entries} (hid : id.isText = true)
    (hcontent : content.isOptionalText = true) (hentries : Entries.areTexts entries = true) :
    ∃ call, MacroCall.ofFields id entries content = .ok call := by
  obtain ⟨parameters, hparameters⟩ := exists_textParameters hentries
  obtain ⟨name, rfl⟩ := Value.exists_text_of_isText hid
  rcases Value.eq_null_or_text_of_isOptionalText hcontent with rfl | ⟨text, rfl⟩
  · exact ⟨_, by rw [MacroCall.ofFields, hparameters]; rfl⟩
  · exact ⟨_, by rw [MacroCall.ofFields, hparameters]; rfl⟩

theorem run_unhandledMacro (h : r.HoldsText) (hrefuse : r.options.unhandledMacroMode ≠ .refuse)
    (nesting : Nesting) {id content isInline : Value} {parameters : Parameters}
    (hl : (Leaf.call id content isInline parameters).isWellTyped = true) :
    (unhandledMacro nesting id content isInline parameters).run r =
      .ok () (r.called nesting id content isInline parameters) := by
  simp only [Leaf.isWellTyped, Bool.and_eq_true] at hl
  obtain ⟨⟨⟨hid, hcontent⟩, -⟩, hparameters⟩ := hl
  obtain ⟨entries, rfl, hentries⟩ := Parameters.exists_entries_of_areTexts hparameters
  obtain ⟨call, hcall⟩ := exists_macroCall hid hcontent hentries
  simp only [unhandledMacro, Renderer.called, EStateM.run_bind, EStateM.run_get]
  cases hmode : r.options.unhandledMacroMode with
  | refuse => exact absurd hmode hrefuse
  | drop => rfl
  | wiki =>
    dsimp only
    have hset := (Renderer.Writes.setOffIn r nesting).holdsText h
    by_cases hinline : isInline.isTruthy = true
    · simp only [hinline, asEntries, hcall, ofField, pure_bind, Option.getD_some]
      simpa using run_print h call.text
    · simp only [hinline, asEntries, hcall, ofField, pure_bind, Option.getD_some]
      simpa [run_separateBlock h nesting] using run_print hset call.text

theorem run_unhandledMacro_of_refuse (hmode : r.options.unhandledMacroMode = .refuse)
    (nesting : Nesting) (id content isInline : Value) (parameters : Parameters) :
    (unhandledMacro nesting id content isInline parameters).run r =
      .error (.rendering (.unhandledMacro id)) r := by
  rw [unhandledMacro, run_get_bind]
  simp only [hmode]
  rfl

/-- An abbreviation needs a document to be defined in, and nothing else that a leaf does can
fail. -/
theorem run_leaf (h : r.Steady) (nesting : Nesting) {l : Leaf} (hl : l.isWellTyped = true)
    (hmode : l.isUnhandled = true → r.options.unhandledMacroMode ≠ .refuse)
    (hscope : l.isAbbreviation = true → r.abbreviations ≠ []) :
    (leaf nesting l).run r = .ok () (r.shown nesting l) := by
  cases l with
  | word text => exact run_printText r text
  | space => exact run_printText r _
  | lineBreak => exact run_print h.holdsText _
  | symbol value => exact run_symbol h.holdsText hl
  | rawText value markup =>
    simp only [Leaf.isWellTyped, Bool.and_eq_true] at hl
    obtain ⟨text, rfl⟩ := Value.exists_text_of_isText hl.1
    cases habbreviation : Abbreviation.ofRawText? text with
    | none =>
      simp only [Renderer.shown, habbreviation]
      exact run_rawText h.holdsText nesting habbreviation
    | some abbreviation =>
      simp only [Renderer.shown, habbreviation]
      refine run_rawText_abbreviation h.holdsText nesting habbreviation (hscope ?_)
      rw [Leaf.isAbbreviation, habbreviation]
      rfl
  | image reference alt isFreeStanding parameters => exact run_image h nesting hl
  | call id content isInline parameters =>
    simp only [leaf, Renderer.shown]
    cases hcode : isCode id with
    | true => exact run_code h.holdsText nesting hl
    | false =>
      have hunhandled : (Leaf.call id content isInline parameters).isUnhandled = true := by
        rw [Leaf.isUnhandled, hcode, Bool.not_false]
      exact run_unhandledMacro h.holdsText (hmode hunhandled) nesting hl
  | rule parameters =>
    have hset := (Renderer.Writes.setOff r).holdsText h.holdsText
    rw [leaf, run_bind_of_ok (run_printEmptyLine h.holdsText), run_print hset]
    rfl

theorem run_leaf_of_refuse (hmode : r.options.unhandledMacroMode = .refuse) (nesting : Nesting)
    {l : Leaf} (hl : l.isUnhandled = true) :
    ∃ error, (leaf nesting l).run r = .error (.rendering error) r := by
  cases l with
  | call id content isInline parameters =>
    have hcode : isCode id = false := by simpa [Leaf.isUnhandled] using hl
    refine ⟨.unhandledMacro id, ?_⟩
    simp only [leaf, hcode, Bool.false_eq_true, if_false]
    exact run_unhandledMacro_of_refuse hmode nesting id content isInline parameters
  | _ => exact absurd hl Bool.false_ne_true

theorem run_leaf_of_nil (nesting : Nesting) {l : Leaf} (habbreviation : l.isAbbreviation = true)
    (hscope : r.abbreviations = []) :
    (leaf nesting l).run r = .error (.rendering .abbreviationOutsideDocument) r := by
  unfold Leaf.isAbbreviation at habbreviation
  split at habbreviation
  · rename_i text markup
    obtain ⟨abbreviation, hsome⟩ := Option.isSome_iff_exists.mp habbreviation
    exact run_rawText_of_nil nesting hsome hscope
  · simp at habbreviation

end Rendering

end DocumentStream
