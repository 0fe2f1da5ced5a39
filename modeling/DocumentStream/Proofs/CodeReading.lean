import DocumentStream.Proofs.AbbreviationDefinitions
import Mathlib.Data.List.TakeWhile

/-!
Code between marks, read back. A span of code ends at the next backtick and a block at the next line
that begins with three of them, whatever the code holds, since its marks are always of the same
length. So the code is read as far as its first backtick, or its first such line, and all of it is
read back exactly if it has none.
-/

namespace DocumentStream

namespace Rendering

/-- The code between a backtick and the next one, and what stands behind them. -/
def readSpan? : Text → Option (Text × Text)
  | [] => none
  | opening :: rest =>
    if opening = codeMark then
      match rest.dropWhile (· != codeMark) with
      | [] => none
      | _ :: later => some (rest.takeWhile (· != codeMark), later)
    else none

/-- Whether a line begins with a fence. -/
def beginsFence (line : Text) : Bool := fence.isPrefixOf line

/-- The code behind a line that begins with a fence, up to the next such line. -/
def readFenced? (text : Text) : Option Text :=
  match Text.splitAtChar '\n' text with
  | [] => none
  | opening :: lines =>
    if beginsFence opening && lines.any beginsFence then
      some (Text.join ['\n'] (lines.takeWhile fun line => !beginsFence line))
    else none

theorem readSpan?_eq {code : Text} (h : codeMark ∉ code) (later : Text) :
    readSpan? (codeMark :: (code ++ codeMark :: later)) = some (code, later) := by
  rw [readSpan?, if_pos rfl, Text.dropWhile_append_mark h, Text.takeWhile_append_mark h]

/-- What is read of a span is the code before its first backtick. -/
theorem readSpan?_eq_some_iff (code later : Text) :
    readSpan? (codeMark :: (code ++ codeMark :: later)) = some (code, later) ↔
      codeMark ∉ code := by
  refine ⟨fun hread hmem => ?_, fun h => readSpan?_eq h later⟩
  obtain ⟨front, back, rfl, hfront⟩ := List.eq_append_cons_of_mem hmem
  rw [List.append_assoc, List.cons_append, readSpan?_eq hfront, Option.some.injEq,
    Prod.mk.injEq] at hread
  have hlength := congrArg List.length hread.1
  simp at hlength

/-- The lines of a block between fences. -/
theorem splitAtChar_fenced {language : Text} (hlanguage : '\n' ∉ language) (code later : Text) :
    ∃ piece pieces,
      Text.splitAtChar '\n' (fence ++ language ++ '\n' :: (code ++ '\n' :: (fence ++ later))) =
        (fence ++ language) :: (Text.splitAtChar '\n' code ++ (fence ++ piece) :: pieces) ∧
      Text.splitAtChar '\n' later = piece :: pieces := by
  obtain ⟨piece, pieces, hlater⟩ := Text.exists_splitAtChar_eq_cons '\n' later
  have hopening : '\n' ∉ fence ++ language := List.not_mem_append (by decide) hlanguage
  have hfirst := Text.splitAtChar_append hopening (show Text.splitAtChar '\n' [] = [[]] from rfl)
  rw [List.append_nil] at hfirst
  refine ⟨piece, pieces, ?_, hlater⟩
  rw [Text.splitAtChar_append_cons, Text.splitAtChar_append_cons,
    Text.splitAtChar_append (by decide) hlater, hfirst, List.singleton_append]

/-- What is read of a block is the lines before the first one that begins with a fence. -/
theorem readFenced?_eq {language : Text} (hlanguage : '\n' ∉ language) (code later : Text) :
    readFenced? (fence ++ language ++ '\n' :: (code ++ '\n' :: (fence ++ later))) =
      some (Text.join ['\n'] ((Text.splitAtChar '\n' code).takeWhile fun line =>
        !beginsFence line)) := by
  obtain ⟨piece, pieces, hlines, -⟩ := splitAtChar_fenced hlanguage code later
  have hbegins : ∀ rest, beginsFence (fence ++ rest) = true := fun rest =>
    List.isPrefixOf_iff_prefix.mpr (List.prefix_append fence rest)
  have hstop : ((fence ++ piece) :: pieces).takeWhile (fun line => !beginsFence line) = [] := by
    rw [List.takeWhile_cons, hbegins]
    rfl
  have hwhole : (Text.splitAtChar '\n' code ++ (fence ++ piece) :: pieces).takeWhile
      (fun line => !beginsFence line) =
      (Text.splitAtChar '\n' code).takeWhile fun line => !beginsFence line := by
    rw [List.takeWhile_append, hstop, List.append_nil]
    split
    · rename_i hall
      exact ((List.takeWhile_prefix _).eq_of_length hall).symm
    · rfl
  rw [readFenced?, hlines]
  simp [hbegins, hwhole]

/-- Leaving lines out at the end of a text leaves another text. -/
theorem join_takeWhile_eq_iff (code : Text) :
    Text.join ['\n'] ((Text.splitAtChar '\n' code).takeWhile fun line => !beginsFence line) =
        code ↔
      ∀ line ∈ Text.splitAtChar '\n' code, beginsFence line = false := by
  constructor
  · intro hjoin line hline
    by_cases hnone : (Text.splitAtChar '\n' code).takeWhile (fun line => !beginsFence line) = []
    · -- nothing was read, so the text is empty and has no line but an empty one
      rw [hnone] at hjoin
      subst hjoin
      obtain rfl : line = [] := by simpa [Text.join, Text.splitAtChar] using hline
      rfl
    · have hfree : ∀ other ∈ (Text.splitAtChar '\n' code).takeWhile (fun line => !beginsFence line),
          '\n' ∉ other := fun other hother =>
        Text.not_mem_of_mem_splitAtChar ((List.takeWhile_sublist _).mem hother)
      have hsplit := Text.splitAtChar_join hnone hfree
      rw [hjoin] at hsplit
      rw [hsplit] at hline
      simpa using List.all_eq_true.mp List.all_takeWhile line hline
  · intro hlines
    have hwhole : (Text.splitAtChar '\n' code).takeWhile (fun line => !beginsFence line) =
        Text.splitAtChar '\n' code :=
      List.takeWhile_eq_self_iff.mpr fun line hline => by rw [hlines line hline]; rfl
    rw [hwhole, Text.join_splitAtChar]

/-- All of a block is read exactly if no line of the code begins with a fence. -/
theorem readFenced?_eq_some_iff {language : Text} (hlanguage : '\n' ∉ language)
    (code later : Text) :
    readFenced? (fence ++ language ++ '\n' :: (code ++ '\n' :: (fence ++ later))) = some code ↔
      ∀ line ∈ Text.splitAtChar '\n' code, ¬ fence <+: line := by
  rw [readFenced?_eq hlanguage, Option.some.injEq, join_takeWhile_eq_iff]
  refine forall₂_congr fun line _ => ?_
  rw [beginsFence, ← List.isPrefixOf_iff_prefix, Bool.not_eq_true]

end Rendering

namespace Renderer

open Rendering

variable (r : Renderer) (nesting : Nesting) (content : Value)

theorem capturedText_coded_span {isInline : Value} (hinline : isInline.isTruthy = true)
    (parameters : Parameters) :
    (r.coded nesting content isInline parameters).capturedText =
      r.capturedText ++ codeMark :: (content.text?.getD [] ++ [codeMark]) := by
  simp only [coded, hinline, if_true]
  exact capturedText_printed r _

theorem capturedText_coded_fenced {isInline : Value} (hblock : isInline.isTruthy = false)
    {entries : Entries} {language : Text}
    (hlanguage : entries.get? "language".toList = some (.str language)) :
    (r.coded nesting content isInline (some entries)).capturedText =
      r.capturedText ++ (if nesting.isInLine || !r.hasBlock then [] else ['\n', '\n']) ++
        (fence ++ language ++ '\n' :: (content.text?.getD [] ++ '\n' :: fence)) := by
  simp only [coded, hblock, Bool.false_eq_true, if_false]
  rw [capturedText_printed, capturedText_setOffIn]
  simp only [codeBlock, Option.getD_some, hlanguage, List.append_assoc, List.cons_append]

end Renderer

namespace TrackedRendering

open TrackedRenderer Rendering

/-- Code is handled wherever it stands, and written to the current printer alone. -/
theorem run_event_of_isCode {options : Options} {linkTarget imageTarget : Serializer}
    (hlink : linkTarget.IsTotal) (himage : imageTarget.IsTotal) {sink : SinkKind}
    {before : List Event} (hbefore : ∀ e ∈ before, e.isWellTyped = true) {s : TrackedRenderer}
    (hrun : (events before).run (.start options linkTarget imageTarget sink) = .ok () s)
    {id content isInline : Value} {parameters : Parameters} (hcode : isCode id = true)
    (htyped : (Leaf.call id content isInline parameters).isWellTyped = true) :
    let coded := s.renderer.coded s.tracker.nesting content isInline parameters
    (event (.leaf (.call id content isInline parameters))).run s = .ok () ⟨s.tracker, coded⟩ ∧
      coded.printers.tail = s.renderer.printers.tail := by
  intro coded
  have hstart : (TrackedRenderer.start options linkTarget imageTarget sink).renderer.Steady :=
    Renderer.start_steady hlink himage options sink
  have hsteady := (steps_of_run_events hstart hbefore hrun).steady hstart hbefore
  have hshown : s.renderer.shown s.tracker.nesting (.call id content isInline parameters) =
      coded := by
    simp only [Renderer.shown, hcode, if_true, coded]
  have hstep : Step s (.leaf (.call id content isInline parameters)) ⟨s.tracker, coded⟩ := by
    rw [← hshown]
    exact .leaf fun h => absurd h Bool.false_ne_true
  refine ⟨run_event_of_step hstep hsteady htyped fun hcall => ?_,
    (Renderer.Writes.coded s.renderer s.tracker.nesting content isInline parameters).outer⟩
  rw [Event.isUnhandled, Leaf.isUnhandled, hcode] at hcall
  cases hcall

/-- Code is read as far as its marks let it be. A span is read up to the first backtick in the code
and a block with a language up to its first line that begins with a fence, whatever is written
behind them; so all of the code is read back exactly if there is none. -/
theorem run_code_readsBack {options : Options} {linkTarget imageTarget : Serializer}
    (hlink : linkTarget.IsTotal) (himage : imageTarget.IsTotal) {sink : SinkKind}
    {before : List Event} (hbefore : ∀ e ∈ before, e.isWellTyped = true) {s : TrackedRenderer}
    (hrun : (events before).run (.start options linkTarget imageTarget sink) = .ok () s)
    {id content isInline : Value} {entries : Entries} (hcode : isCode id = true)
    (htyped : (Leaf.call id content isInline (some entries)).isWellTyped = true) :
    let code := content.text?.getD []
    ∃ t, (event (.leaf (.call id content isInline (some entries)))).run s = .ok () t ∧
      t.renderer.printers.tail = s.renderer.printers.tail ∧
      (isInline.isTruthy = true →
        ∃ markup, markup = codeMark :: (code ++ [codeMark]) ∧
          t.renderer.capturedText = s.renderer.capturedText ++ markup ∧
          ∀ later,
            (readSpan? (markup ++ later) = some (code, later) ↔ codeMark ∉ code) ∧
            ∀ front back, code = front ++ codeMark :: back → codeMark ∉ front →
              readSpan? (markup ++ later) = some (front, back ++ codeMark :: later)) ∧
      (isInline.isTruthy = false →
        ∀ language, entries.get? "language".toList = some (.str language) → '\n' ∉ language →
          ∃ markup,
            t.renderer.capturedText = s.renderer.capturedText ++
              (if s.tracker.nesting.isInLine || !s.renderer.hasBlock then [] else ['\n', '\n']) ++
              markup ∧
            Text.splitAtChar '\n' markup =
              (fence ++ language) :: (Text.splitAtChar '\n' code ++ [fence]) ∧
            ∀ later,
              (readFenced? (markup ++ later) = some code ↔
                ∀ line ∈ Text.splitAtChar '\n' code, ¬ fence <+: line) ∧
              readFenced? (markup ++ later) =
                some (Text.join ['\n'] ((Text.splitAtChar '\n' code).takeWhile fun line =>
                  !beginsFence line))) := by
  intro code
  obtain ⟨hhandled, houter⟩ := run_event_of_isCode hlink himage hbefore hrun hcode htyped
  refine ⟨_, hhandled, houter, fun hinline => ?_, fun hblock language hlanguage hfree => ?_⟩
  · refine ⟨_, rfl, Renderer.capturedText_coded_span _ _ _ hinline _, fun later => ?_⟩
    simp only [List.cons_append, List.append_assoc, List.nil_append]
    refine ⟨readSpan?_eq_some_iff code later, fun front back hcut hfront => ?_⟩
    rw [hcut, List.append_assoc]
    exact readSpan?_eq hfront _
  · obtain ⟨piece, pieces, hlines, hpieces⟩ := splitAtChar_fenced hfree code []
    obtain ⟨rfl, rfl⟩ := List.cons.inj hpieces
    rw [List.append_nil] at hlines
    refine ⟨_, Renderer.capturedText_coded_fenced _ _ _ hblock hlanguage, hlines, fun later => ?_⟩
    have hbehind : fence ++ language ++ '\n' :: (code ++ '\n' :: fence) ++ later =
        fence ++ language ++ '\n' :: (code ++ '\n' :: (fence ++ later)) := by simp
    rw [hbehind]
    exact ⟨readFenced?_eq_some_iff hfree code later, readFenced?_eq hfree code later⟩

/-- Code that is full of backticks, none of them at the wrong place. -/
theorem run_code_readsBack_script :
    let code : Text := "echo `date`\n ```\n``".toList
    let paragraph : Construct := .paragraph (some [])
    let before : List Event := [.opening paragraph, .leaf (.word (.str ['p'])), .closing paragraph]
    let macroCall : Leaf := .call (.str "code".toList) (.str code) (.bool false)
      (some [(.str "language".toList, .str ['s', 'h'])])
    ∃ s t markup, (events before).run (.start {} .plain .plain .buffer) = .ok () s ∧
      (event (.leaf macroCall)).run s = .ok () t ∧
      t.renderer.capturedText = "p\n\n".toList ++ markup ∧
      readFenced? (markup ++ "\n\nq".toList) = some code := by
  intro code paragraph before macroCall
  have hrun : (events before).run (.start {} .plain .plain .buffer) = .ok () _ := rfl
  obtain ⟨t, ht, -, -, hfenced⟩ := run_code_readsBack Serializer.plain_isTotal
    Serializer.plain_isTotal (by decide) hrun (show isCode (.str "code".toList) = true from rfl)
    (show macroCall.isWellTyped = true from rfl)
  obtain ⟨markup, htext, -, hread⟩ := hfenced rfl ['s', 'h'] rfl (by decide)
  exact ⟨_, t, markup, hrun, ht, htext, (hread "\n\nq".toList).1.mpr (by decide)⟩

/-- A backtick in a span closes it, and a line of backticks closes a block. -/
theorem body_code_closes_itself :
    let inline (text : Text) : Leaf :=
      .call (.str "code".toList) (.str text) (.bool true) (some [])
    let fenced (text : Text) : Leaf :=
      .call (.str "code".toList) (.str text) (.bool false)
        (some [(.str "language".toList, .str ['m', 'd'])])
    body {} .plain .plain (some []) [.leaf (inline "a`b".toList)] = .ok "`a`b`".toList ∧
      readSpan? "`a`b`".toList = some (['a'], ['b', '`']) ∧
      body {} .plain .plain (some []) [.leaf (fenced "a\n```\nb".toList)] =
        .ok "```md\na\n```\nb\n```".toList ∧
      readFenced? "```md\na\n```\nb\n```".toList = some ['a'] :=
  ⟨rfl, rfl, rfl, rfl⟩

end TrackedRendering

end DocumentStream
