import Mathlib.Data.List.DropRight
import DocumentStream.Proofs.BlockSeparation

/-!
Code as an indented block. Cutting code into lines is splitting it at its line feeds once they have
lost their carriage returns, and leaving out the empty lines at the end drops the line feeds there.
So the code can be read back from the block, which is nothing but these lines behind four spaces
each.
-/

namespace DocumentStream

namespace Text

theorem codeLines_eq (text : Text) : codeLines text = splitAtChar '\n' (plainLineEnds text) := by
  fun_induction codeLines text with
  | case1 => rfl
  | case2 rest ih => rw [plainLineEnds, splitAtChar, if_pos rfl, ih]
  | case3 rest hreturn ih =>
    rw [plainLineEnds, splitAtChar, if_pos rfl, ih]
    exact hreturn
  | case4 c rest hreturn hfeed hlines ih =>
    rw [plainLineEnds, splitAtChar, if_neg hfeed, ← ih, hlines]
    exact hreturn
  | case5 c rest hreturn hfeed line lines hlines ih =>
    rw [plainLineEnds, splitAtChar, if_neg hfeed, ← ih, hlines]
    exact hreturn

/-- Carriage returns stay where no line feed follows them. -/
theorem plainLineEnds_eq_self {text : Text} (h : ¬ ['\r', '\n'] <:+: text) :
    plainLineEnds text = text := by
  fun_induction plainLineEnds text with
  | case1 => rfl
  | case2 rest ih => exact absurd ⟨[], rest, rfl⟩ h
  | case3 c rest hreturn ih =>
    rw [ih fun hrest => h (List.infix_cons hrest)]

theorem codeLines_ne_nil (text : Text) : codeLines text ≠ [] := by
  obtain ⟨line, lines, hlines⟩ := exists_splitAtChar_eq_cons '\n' (plainLineEnds text)
  rw [codeLines_eq, hlines]
  exact List.cons_ne_nil _ _

theorem dropEmptyTail_ne_nil {lines : List Text} (h : lines ≠ []) : dropEmptyTail lines ≠ [] := by
  obtain ⟨line, rest, rfl⟩ := List.exists_cons_of_ne_nil h
  rw [dropEmptyTail]
  split <;> exact List.cons_ne_nil _ _

theorem mem_of_mem_dropEmptyTail {lines : List Text} {line : Text}
    (h : line ∈ dropEmptyTail lines) : line ∈ lines := by
  induction lines with
  | nil => exact h
  | cons first rest ih =>
    rw [dropEmptyTail] at h
    split at h
    · rw [List.mem_singleton.mp h]
      exact List.mem_cons_self
    · rcases List.mem_cons.mp h with rfl | hmem
      · exact List.mem_cons_self
      · exact List.mem_cons_of_mem _ (ih hmem)

theorem rdropWhile_append_cons {p : Char → Bool} (front rest : Text) {c : Char} (hc : p c = true) :
    (front ++ c :: rest).rdropWhile p =
      if rest.rdropWhile p = [] then front.rdropWhile p else front ++ c :: rest.rdropWhile p := by
  simp only [List.rdropWhile, List.reverse_append, List.reverse_cons, List.append_assoc,
    List.dropWhile_append, List.reverse_eq_nil_iff]
  by_cases hrest : rest.reverse.dropWhile p = []
  · simp [hrest, hc]
  · simp [hrest]

/-- Lines that are joined to nothing are one empty line. -/
theorem eq_of_join_eq_nil {lines : List Text} (hne : lines ≠ []) (h : join ['\n'] lines = []) :
    lines = [[]] := by
  obtain ⟨first, rest, rfl⟩ := List.exists_cons_of_ne_nil hne
  cases rest with
  | nil => simpa [join] using h
  | cons second rest =>
    rw [join_cons_of_ne_nil _ _ (List.cons_ne_nil _ _)] at h
    simp at h

/-- Leaving out the empty lines at the end drops the line feeds at the end. -/
theorem join_dropEmptyTail {lines : List Text} (h : ∀ line ∈ lines, '\n' ∉ line) :
    join ['\n'] (dropEmptyTail lines) = (join ['\n'] lines).rdropWhile (· == '\n') := by
  induction lines with
  | nil => rfl
  | cons line rest ih =>
    obtain ⟨hline, hrest⟩ := List.forall_mem_cons.mp h
    have hkept : line.rdropWhile (· == '\n') = line := by
      rw [List.rdropWhile_eq_self_iff]
      intro hne hlast
      exact hline (beq_iff_eq.mp hlast ▸ List.getLast_mem hne)
    cases rest with
    | nil => simpa [dropEmptyTail, join] using hkept.symm
    | cons second rest =>
      have hne : dropEmptyTail (second :: rest) ≠ [] := dropEmptyTail_ne_nil (List.cons_ne_nil _ _)
      have hfeed : ('\n' == '\n') = true := beq_self_eq_true _
      rw [join_cons_of_ne_nil _ _ (List.cons_ne_nil _ _), List.singleton_append,
        rdropWhile_append_cons (p := (· == '\n')) _ _ hfeed, ← ih hrest, hkept, dropEmptyTail]
      split
      · rename_i hempty
        rw [hempty, if_pos (show join ['\n'] [[]] = [] from rfl)]
        exact List.intercalate_singleton
      · rename_i hlines
        rw [if_neg fun hnil => hlines (eq_of_join_eq_nil hne hnil), join_cons_of_ne_nil _ _ hne,
          List.singleton_append]

/-- Lines behind a margin in which no line feed stands are found again by splitting. -/
theorem splitAtChar_join_margin {margin : Text} (hmargin : '\n' ∉ margin) {lines : List Text}
    (hne : lines ≠ []) (hlines : ∀ line ∈ lines, '\n' ∉ line) :
    splitAtChar '\n' (join ['\n'] (lines.map (margin ++ ·))) = lines.map (margin ++ ·) := by
  refine splitAtChar_join (List.map_eq_nil_iff.not.mpr hne) ?_
  intro text htext
  obtain ⟨line, hline, rfl⟩ := List.mem_map.mp htext
  exact List.not_mem_append hmargin (hlines line hline)

end Text

namespace TrackedRendering

open TrackedRenderer

/-- A block of code without a language writes its lines behind a margin, and the end of the
document adds nothing. -/
theorem exists_steps_of_indentedCode (options : Options) (linkTarget imageTarget : Serializer)
    {id isInline : Value} (content : Value) {entries : Entries}
    (hcode : Rendering.isCode id = true) (hblock : isInline.isTruthy = false)
    (hlanguage : entries.get? "language".toList = none) {ending : List Event}
    (hending : ending = [] ∨ ∃ last, ending = [.closing (.document last)]) :
    ∃ t, Steps (.begun options linkTarget imageTarget)
        (.leaf (.call id content isInline (some entries)) :: ending) t ∧
      t.renderer.captures = [] ∧ t.renderer.output =
        Text.join ['\n'] ((Text.dropEmptyTail (Text.codeLines (content.text?.getD []))).map
          (Rendering.indent ++ ·)) := by
  let begun : TrackedRenderer := .begun options linkTarget imageTarget
  let markup := Renderer.codeBlock (content.text?.getD []) (some entries)
  let first : Renderer := { begun.renderer with hasBlock := true }
  let coded : Renderer := first.printed markup
  have hshown : begun.renderer.shown begun.tracker.nesting
      (.call id content isInline (some entries)) = coded := by
    simp only [Renderer.shown, Renderer.coded, hcode, hblock, if_true, Bool.false_eq_true, if_false]
    rfl
  have hmarkup : markup = Text.join ['\n']
      ((Text.dropEmptyTail (Text.codeLines (content.text?.getD []))).map
        (Rendering.indent ++ ·)) := by
    simp only [markup, Renderer.codeBlock, Option.getD_some, hlanguage]
  have houtput : coded.output = markup := Renderer.output_printed rfl markup
  have hfirst : Step begun (.leaf (.call id content isInline (some entries)))
      ⟨begun.tracker, coded⟩ := by
    rw [← hshown]
    exact .leaf fun _ => List.cons_ne_nil _ _
  rcases hending with rfl | ⟨last, rfl⟩
  · exact ⟨_, .cons hfirst (.nil _), rfl, houtput.trans hmarkup⟩
  · let left : Renderer := { coded with abbreviations := coded.abbreviations.tail }
    have hsettled : left.settled.output = markup := (Renderer.output_settled rfl).trans houtput
    exact ⟨_, .cons hfirst (.cons (.closing (List.cons_ne_nil _ _) trivial) (.nil _)), rfl,
      hsettled.trans hmarkup⟩

theorem not_isUnhandled_of_isCode {id content isInline : Value} {parameters : Parameters}
    (hcode : Rendering.isCode id = true) {ending : List Event}
    (hending : ending = [] ∨ ∃ last, ending = [.closing (.document last)]) :
    ∀ e ∈ .leaf (.call id content isInline parameters) :: ending, e.isUnhandled = false := by
  rw [List.forall_mem_cons]
  refine ⟨by simp [Event.isUnhandled, Leaf.isUnhandled, hcode], ?_⟩
  rcases hending with rfl | ⟨last, rfl⟩
  · exact List.forall_mem_nil _
  · exact List.forall_mem_singleton.mpr rfl

/-- A block of code without a language, as the only block of a document, is read back from its
lines: what stands behind their margin is the code without the carriage returns before its line
feeds and without the line feeds at its end. -/
theorem body_indentedCode {options : Options} {linkTarget imageTarget : Serializer}
    (hlink : linkTarget.IsTotal) (himage : imageTarget.IsTotal) {parameters : Parameters}
    (hparameters : Parameters.areTexts parameters = true) {id content isInline : Value}
    {entries : Entries} (hcode : Rendering.isCode id = true) (hblock : isInline.isTruthy = false)
    (hlanguage : entries.get? "language".toList = none) {ending : List Event}
    (hending : ending = [] ∨ ∃ last, ending = [.closing (.document last)])
    (htyped : ∀ e ∈ .leaf (.call id content isInline (some entries)) :: ending,
      e.isWellTyped = true) :
    let text := content.text?.getD []
    ∃ output code,
      body options linkTarget imageTarget parameters
        (.leaf (.call id content isInline (some entries)) :: ending) = .ok output ∧
      (∀ line ∈ Text.splitAtChar '\n' output, [' ', ' ', ' ', ' '] <+: line) ∧
      Text.join ['\n'] ((Text.splitAtChar '\n' output).map (·.drop 4)) = code ∧
      code = (Text.plainLineEnds text).rdropWhile (· == '\n') ∧
      (¬ ['\r', '\n'] <:+: text → text.getLast? ≠ some '\n' → code = text) := by
  intro text
  let lines := Text.dropEmptyTail (Text.codeLines text)
  obtain ⟨t, hsteps, hcaptures, houtput⟩ :=
    exists_steps_of_indentedCode options linkTarget imageTarget content hcode hblock
      hlanguage hending
  have hmacros : ∀ e ∈ .leaf (.call id content isInline (some entries)) :: ending,
      e.isUnhandled = true → options.unhandledMacroMode ≠ .refuse := by
    intro e he hcall
    rw [not_isUnhandled_of_isCode hcode hending e he] at hcall
    cases hcall
  have hfree : ∀ line ∈ Text.codeLines text, '\n' ∉ line := by
    rw [Text.codeLines_eq]
    intro line hline
    exact Text.not_mem_of_mem_splitAtChar hline
  have hsplit : Text.splitAtChar '\n' t.renderer.output = lines.map (Rendering.indent ++ ·) := by
    rw [houtput]
    refine Text.splitAtChar_join_margin (by decide)
      (Text.dropEmptyTail_ne_nil (Text.codeLines_ne_nil text)) ?_
    intro line hline
    exact hfree line (Text.mem_of_mem_dropEmptyTail hline)
  have hjoined : Text.join ['\n'] lines = (Text.plainLineEnds text).rdropWhile (· == '\n') := by
    rw [Text.join_dropEmptyTail hfree, Text.codeLines_eq, Text.join_splitAtChar]
  refine ⟨t.renderer.output, Text.join ['\n'] lines,
    body_eq_output_of_steps hlink himage hparameters htyped hmacros hsteps hcaptures, ?_, ?_,
    hjoined, ?_⟩
  · intro line hline
    rw [hsplit] at hline
    obtain ⟨rest, -, rfl⟩ := List.mem_map.mp hline
    exact List.prefix_append _ _
  · have hdrop : lines.map ((·.drop 4) ∘ (Rendering.indent ++ ·)) = lines := List.map_id lines
    rw [hsplit, List.map_map, hdrop]
  · intro hmarked hfeed
    rw [hjoined, Text.plainLineEnds_eq_self hmarked, List.rdropWhile_eq_self_iff]
    intro hne hlast
    exact hfeed (List.getLast?_eq_some_getLast hne ▸ congrArg some (beq_iff_eq.mp hlast))

/-- Code that begins with an empty line, holds a line of white space, carriage returns of its own
and a star, and ends with empty lines. -/
theorem body_indentedCode_mixed_line_ends :
    let code : Leaf := .call (.str "code".toList) (.str "\n \r\ra\r\r\n*\n\r\n".toList)
      (.bool false) (some [])
    let ending : List Event := [.closing (.document (some []))]
    ∃ output, body {} .plain .plain (some []) (.leaf code :: ending) = .ok output ∧
      (∀ line ∈ Text.splitAtChar '\n' output, [' ', ' ', ' ', ' '] <+: line) ∧
      Text.join ['\n'] ((Text.splitAtChar '\n' output).map (·.drop 4)) =
        "\n \r\ra\r\n*".toList := by
  intro code ending
  have hcode : Rendering.isCode (.str "code".toList) = true := rfl
  have htyped : ∀ e ∈ .leaf code :: ending, e.isWellTyped = true := by decide
  obtain ⟨output, text, hbody, hmargin, hread, htext, -⟩ :=
    body_indentedCode Serializer.plain_isTotal Serializer.plain_isTotal
      (show Parameters.areTexts (some []) = true from rfl) hcode rfl rfl (.inr ⟨some [], rfl⟩)
      htyped
  refine ⟨output, hbody, hmargin, hread.trans (htext.trans ?_)⟩
  decide

end TrackedRendering

end DocumentStream
