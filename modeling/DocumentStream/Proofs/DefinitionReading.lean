import DocumentStream.Proofs.AbbreviationDefinitions
import DocumentStream.Proofs.FallibleSearch

/-!
The definitions behind a document, read back. Each stands on a line of its own and its key ends at
the first bracket that closes. A line feed in a key or in an expansion makes a line more, and a
bracket in a key ends it too early; without them reading the lines gives what was recorded.
-/

namespace DocumentStream

namespace Text

/-- There is one piece more than there are separators. -/
theorem length_splitAtChar (separator : Char) (text : Text) :
    (splitAtChar separator text).length = text.count separator + 1 := by
  induction text with
  | nil => rfl
  | cons c rest ih =>
    obtain ⟨piece, pieces, hpieces⟩ := exists_splitAtChar_eq_cons separator rest
    rw [hpieces] at ih
    by_cases hc : c = separator
    · rw [splitAtChar, if_pos hc, hpieces, List.length_cons, ih, hc, List.count_cons_self]
    · rw [splitAtChar, if_neg hc, hpieces, List.count_cons_of_ne hc, List.length_cons]
      exact ih

/-- Joined texts have as many pieces as texts were joined, and one more for each separator in
them. -/
theorem length_splitAtChar_join {separator : Char} {texts : List Text} (hne : texts ≠ []) :
    (splitAtChar separator (join [separator] texts)).length =
      texts.length + texts.flatten.count separator := by
  rw [splitAtChar_join_eq_flatMap hne]
  clear hne
  induction texts with
  | nil => rfl
  | cons text rest ih =>
    rw [List.flatMap_cons, List.length_append, ih, length_splitAtChar, List.length_cons,
      List.flatten_cons, List.count_append]
    omega

end Text

namespace Abbreviation

/-- The abbreviation that a line defines. Its key stands in brackets and ends with the first one
that closes; all behind the colon and a space is its expansion. -/
def ofLine? (line : Text) : Option Abbreviation :=
  (Text.after? ['*', '['] line).bind fun rest =>
    (Text.after? [']', ':', ' '] (rest.dropWhile (· != ']'))).map fun title =>
      ⟨rest.takeWhile (· != ']'), title⟩

/-- Whether neither the key nor the expansion breaks out of the line of a definition. -/
def FitsLine (abbreviation : Abbreviation) : Prop :=
  '\n' ∉ abbreviation.key ∧ '\n' ∉ abbreviation.title ∧ ']' ∉ abbreviation.key

instance (abbreviation : Abbreviation) : Decidable abbreviation.FitsLine :=
  inferInstanceAs (Decidable (_ ∧ _ ∧ _))

variable {abbreviation : Abbreviation}

/-- The key that is read from a line ends at the first bracket that closes. -/
theorem key_of_ofLine? {front rest : Text} (hfront : ']' ∉ front)
    (h : ofLine? ('*' :: '[' :: (front ++ ']' :: rest)) = some abbreviation) :
    abbreviation.key = front := by
  obtain ⟨-, -, rfl⟩ := Option.map_eq_some_iff.mp h
  exact Text.takeWhile_append_mark hfront rest

/-- A definition is read back from its line if its key has no bracket that closes. -/
theorem ofLine?_definitionLine_iff (abbreviation : Abbreviation) :
    ofLine? (Rendering.definitionLine abbreviation) = some abbreviation ↔
      ']' ∉ abbreviation.key := by
  have hline : Rendering.definitionLine abbreviation =
      '*' :: '[' :: (abbreviation.key ++ ']' :: ':' :: ' ' :: abbreviation.title) := rfl
  constructor
  · intro h hmem
    obtain ⟨front, back, hcut, hfront⟩ := List.eq_append_cons_of_mem hmem
    rw [hline, hcut, List.append_assoc, List.cons_append] at h
    have hlength := congrArg List.length (key_of_ofLine? hfront h)
    rw [hcut] at hlength
    simp at hlength
  · intro hfree
    rw [hline]
    simp only [ofLine?, Text.after?, if_true, Option.bind_some]
    rw [Text.dropWhile_append_mark hfree, Text.takeWhile_append_mark hfree]
    rfl

theorem count_flatten_definitionLines (recorded : List Abbreviation) :
    (recorded.map Rendering.definitionLine).flatten.count '\n' =
      (recorded.flatMap fun abbreviation => abbreviation.key ++ abbreviation.title).count '\n' := by
  induction recorded with
  | nil => rfl
  | cons first rest ih =>
    rw [List.map_cons, List.flatten_cons, List.count_append, ih, List.flatMap_cons,
      List.count_append]
    simp [Rendering.definitionLine, List.count_append]

theorem firstOccurrences_ne_nil {met : List Abbreviation} (hmet : met ≠ []) :
    firstOccurrences [] met ≠ [] := by
  obtain ⟨first, rest, rfl⟩ := List.exists_cons_of_ne_nil hmet
  exact List.cons_ne_nil _ _

variable {recorded : List Abbreviation}

/-- The definitions have a line each, and one more for each line feed in them. -/
theorem length_definitionLines (hne : recorded ≠ []) :
    (Text.splitAtChar '\n' (Text.join ['\n'] (recorded.map Rendering.definitionLine))).length =
      recorded.length + (recorded.flatMap fun abbreviation =>
        abbreviation.key ++ abbreviation.title).count '\n' := by
  rw [Text.length_splitAtChar_join (mt List.map_eq_nil_iff.mp hne), List.length_map,
    count_flatten_definitionLines]

/-- The definitions are read back line by line exactly if none of them breaks out of its line. -/
theorem map_ofLine?_eq_iff (hne : recorded ≠ []) :
    (Text.splitAtChar '\n' (Text.join ['\n'] (recorded.map Rendering.definitionLine))).map ofLine? =
        recorded.map some ↔
      ∀ abbreviation ∈ recorded, abbreviation.FitsLine := by
  have hlines (hfree : ∀ abbreviation ∈ recorded,
      '\n' ∉ abbreviation.key ∧ '\n' ∉ abbreviation.title) :
      Text.splitAtChar '\n' (Text.join ['\n'] (recorded.map Rendering.definitionLine)) =
        recorded.map Rendering.definitionLine := by
    refine Text.splitAtChar_join (mt List.map_eq_nil_iff.mp hne) ?_
    intro line hline
    obtain ⟨abbreviation, hmem, rfl⟩ := List.mem_map.mp hline
    obtain ⟨hkey, htitle⟩ := hfree abbreviation hmem
    simp [Rendering.definitionLine, hkey, htitle]
  constructor
  · intro hread
    -- as many lines as definitions leave no room for a line feed
    have hlength := congrArg List.length hread
    rw [List.length_map, List.length_map, length_definitionLines hne, Nat.add_eq_left,
      List.count_eq_zero] at hlength
    have hfree : ∀ abbreviation ∈ recorded,
        '\n' ∉ abbreviation.key ∧ '\n' ∉ abbreviation.title := by
      intro abbreviation hmem
      rw [← not_or, ← List.mem_append]
      exact fun hfeed => hlength (List.mem_flatMap.mpr ⟨abbreviation, hmem, hfeed⟩)
    rw [hlines hfree, List.map_map, List.map_inj_left] at hread
    intro abbreviation hmem
    obtain ⟨hkey, htitle⟩ := hfree abbreviation hmem
    exact ⟨hkey, htitle, (ofLine?_definitionLine_iff abbreviation).mp (hread abbreviation hmem)⟩
  · intro hfits
    have hfree : ∀ abbreviation ∈ recorded,
        '\n' ∉ abbreviation.key ∧ '\n' ∉ abbreviation.title := fun abbreviation hmem =>
      ⟨(hfits abbreviation hmem).1, (hfits abbreviation hmem).2.1⟩
    rw [hlines hfree, List.map_map, List.map_inj_left]
    intro abbreviation hmem
    exact (ofLine?_definitionLine_iff abbreviation).mpr (hfits abbreviation hmem).2.2

end Abbreviation

namespace TrackedRendering

open TrackedRenderer

/-- The definitions behind a document, read back. Any balanced content can be rendered wherever the
document stands, and where abbreviations were recorded the document closes with a block that has
their definitions in order. It has one line for each of them and one more for each line feed in
them; its lines are read back as what was recorded exactly if all of them fit. -/
theorem run_closing_document_readsBack {options : Options} {linkTarget imageTarget : Serializer}
    (hlink : linkTarget.IsTotal) (himage : imageTarget.IsTotal) {sink : SinkKind}
    {before : List Event} {opened : OpenConstructs}
    (hopened : OpenConstructs.run? none [] before = some opened)
    (hbefore : ∀ e ∈ before, e.isWellTyped = true) {s₀ : TrackedRenderer}
    (hrun : (events before).run (.start options linkTarget imageTarget sink) = .ok () s₀)
    {content : List Event} (hbalanced : OpenConstructs.run? none [] content = some [])
    (htyped : ∀ e ∈ content, e.isWellTyped = true)
    (hmacros : ∀ e ∈ content, e.isUnhandled = true → options.unhandledMacroMode ≠ .refuse)
    {parameters parameters' : Parameters} (hparameters : Parameters.areTexts parameters = true)
    (hparameters' : Parameters.areTexts parameters' = true)
    (hown : ownAbbreviations 0 content ≠ []) :
    let recorded := Abbreviation.firstOccurrences [] (ownAbbreviations 0 content)
    ∃ s t block, (events (.opening (.document parameters) :: content)).run s₀ = .ok () s ∧
      s.renderer.abbreviations = recorded :: s₀.renderer.abbreviations ∧
      (event (.closing (.document parameters'))).run s = .ok () t ∧
      t.renderer.printers.tail = s.renderer.printers.tail ∧
      t.renderer.capturedText = s.renderer.capturedText ++
        (if s.renderer.hasBlock then ['\n', '\n'] else []) ++ block ∧
      (Text.splitAtChar '\n' block).length = recorded.length +
        (recorded.flatMap fun abbreviation => abbreviation.key ++ abbreviation.title).count '\n' ∧
      ((Text.splitAtChar '\n' block).map Abbreviation.ofLine? = recorded.map some ↔
        ∀ abbreviation ∈ recorded, abbreviation.FitsLine) := by
  intro recorded
  have hstart : (TrackedRenderer.start options linkTarget imageTarget sink).renderer.Steady :=
    Renderer.start_steady hlink himage options sink
  have hsteps₀ := steps_of_run_events hstart hbefore hrun
  have hsteady₀ := hsteps₀.steady hstart hbefore
  obtain ⟨hcontext, -⟩ := InContext.of_steps hopened hbefore hsteps₀
  obtain ⟨s₁, s, hopening, hsteps, hscope⟩ :=
    hcontext.exists_document_steps rfl hbalanced htyped parameters
  have hall : Steps s₀ (.opening (.document parameters) :: content) s := .cons hopening hsteps
  have htyped' : ∀ e ∈ .opening (.document parameters) :: content, e.isWellTyped = true :=
    List.forall_mem_cons.mpr ⟨hparameters, htyped⟩
  have hs : (events (.opening (.document parameters) :: content)).run s₀ = .ok () s := by
    refine run_events_of_steps hall hsteady₀ htyped' ?_
    rw [(hsteps₀.keeps hbefore).options]
    exact List.forall_mem_cons.mpr ⟨fun h => absurd h Bool.false_ne_true, hmacros⟩
  have hsteady := hall.steady hsteady₀ htyped'
  have hadmits : s.renderer.AdmitsClosing (.document parameters') := by
    change s.renderer.abbreviations ≠ []
    rw [hscope]
    exact List.cons_ne_nil _ _
  have hclosing : Step s (.closing (.document parameters'))
      ⟨s.tracker, s.renderer.closed (.document parameters')⟩ := .closing hadmits trivial
  have hne : recorded ≠ [] := Abbreviation.firstOccurrences_ne_nil hown
  exact ⟨s, _, _, hs, hscope,
    run_event_of_step hclosing hsteady hparameters' fun h => absurd h Bool.false_ne_true,
    (Renderer.writes_popped_closed s.renderer (.document parameters')).outer,
    Renderer.capturedText_closed_definitions hscope hne parameters',
    Abbreviation.length_definitionLines hne, Abbreviation.map_ofLine?_eq_iff hne⟩

/-- Brackets in the expansion, and ones in the key that open, do no harm. -/
theorem run_closing_document_readsBack_brackets :
    let raw : Event := .leaf (.rawText
      (.str "<abbr title=\"x]: y\">a[b</abbr>".toList) (.str ['h', 't', 'm', 'l']))
    let content : List Event := [.opening (.paragraph (some [])), raw,
      .closing (.paragraph (some []))]
    ∃ s t block, (events (.opening (.document (some [])) :: content)).run
        (.start {} .plain .plain .buffer) = .ok () s ∧
      (event (.closing (.document (some [])))).run s = .ok () t ∧
      t.renderer.capturedText = s.renderer.capturedText ++
        (if s.renderer.hasBlock then ['\n', '\n'] else []) ++ block ∧
      (Text.splitAtChar '\n' block).map Abbreviation.ofLine? =
        [some ⟨"a[b".toList, "x]: y".toList⟩] := by
  intro raw content
  have hown : ownAbbreviations 0 content = [⟨"a[b".toList, "x]: y".toList⟩] := by decide
  have hbefore : ∀ e ∈ ([] : List Event), e.isWellTyped = true := by simp
  have hparameters : Parameters.areTexts (some []) = true := rfl
  have hmacros : ∀ e ∈ content, e.isUnhandled = true →
      ({} : Options).unhandledMacroMode ≠ .refuse := by decide
  obtain ⟨s, t, block, hs, -, ht, -, htext, -, hread⟩ := run_closing_document_readsBack
    Serializer.plain_isTotal Serializer.plain_isTotal rfl hbefore rfl rfl (by decide) hmacros
    hparameters hparameters (by rw [hown]; exact List.cons_ne_nil _ _)
  refine ⟨s, t, block, hs, ht, htext, ?_⟩
  rw [hown] at hread
  exact hread.mpr (by decide)

/-- A line feed in an expansion, given by a character reference, makes two lines of one definition,
and a bracket in a key ends the key that is read. -/
theorem body_definitions_break_out :
    let raw (markup : String) : Event :=
      .leaf (.rawText (.str markup.toList) (.str ['h', 't', 'm', 'l']))
    let content (markup : String) : List Event := [.opening (.paragraph (some [])), raw markup,
      .closing (.paragraph (some []))]
    let text (markup : String) : Except RenderFault Text :=
      body {} .plain .plain (some []) (content markup ++ [.closing (.document (some []))])
    (ownAbbreviations 0 (content "<abbr title=\"x&#10;y\">K</abbr>") = [⟨['K'], "x\ny".toList⟩] ∧
      text "<abbr title=\"x&#10;y\">K</abbr>" = .ok "K\n\n*[K]: x\ny".toList ∧
      (Text.splitAtChar '\n' "*[K]: x\ny".toList).map Abbreviation.ofLine? =
        [some ⟨['K'], ['x']⟩, none]) ∧
    (ownAbbreviations 0 (content "<abbr title=\"x\">a]: b</abbr>") = [⟨"a]: b".toList, ['x']⟩] ∧
      text "<abbr title=\"x\">a]: b</abbr>" = .ok "a]: b\n\n*[a]: b]: x".toList ∧
      (Text.splitAtChar '\n' "*[a]: b]: x".toList).map Abbreviation.ofLine? =
        [some ⟨['a'], "b]: x".toList⟩]) :=
  ⟨⟨by decide, eq_ok_of_toOption (by decide +kernel), by decide⟩,
    by decide, eq_ok_of_toOption (by decide +kernel), by decide⟩

end TrackedRendering

end DocumentStream
