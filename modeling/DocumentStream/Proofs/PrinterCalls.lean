import DocumentStream.Proofs.Unescaping

/-!
Calls to a printer, in any order. Text is held back over a stretch of calls and written by the call
that ends the stretch, escaped as one text. What a printer writes can thus be told from the calls
alone: each writes a piece, and the pieces one after another are the whole text.
-/

namespace DocumentStream

/-- A call to a printer. -/
inductive PrinterCall where
  | print (markup : Text)
  | delay (text : Text)
  | flush
  | setLineStart (lineStart : Bool)
  deriving DecidableEq, Repr

namespace PrinterCall

/-- The text that a call hands over. -/
def text : PrinterCall → Text
  | .print text | .delay text => text
  | .flush | .setLineStart _ => []

/-- Whether a call is any other than one that hands over an empty document text. -/
def isFilled (call : PrinterCall) : Bool := call != .delay []

/-- The document text handed over since anything was printed or flushed, as one text. The calls
stand latest first. -/
def stretch : List PrinterCall → Text
  | .delay text :: earlier => stretch earlier ++ text
  | .setLineStart _ :: earlier => stretch earlier
  | .print _ :: _ | .flush :: _ | [] => []

/-- Calls with the pieces that were written at them, latest first. -/
abbrev Record := List (PrinterCall × Text)

namespace Record

/-- All that was written. -/
def written (past : Record) : Text := (past.reverse.map Prod.snd).flatten

/-- What was last declared about the line, if anything was since the last piece that is not
empty. -/
def declared? : Record → Option Bool
  | [] => none
  | (.setLineStart lineStart, _) :: _ => some lineStart
  | (_, []) :: earlier => declared? earlier
  | (_, _ :: _) :: _ => none

/-- Whether the next text starts a line: as declared, or else if nothing is in front of it but a
line feed. -/
def startsLine (past : Record) : Bool :=
  past.declared?.getD (past.written.isEmpty || Text.endsLine past.written)

end Record

/-- The calls with their pieces. Markup is written as it is, behind the stretch that it ends. -/
def record (escapes pipes : Bool) : List PrinterCall → Record
  | [] => []
  | call :: earlier =>
    let past := record escapes pipes earlier
    let shown :=
      if escapes then Escape.text (stretch earlier) past.startsLine pipes else stretch earlier
    let piece :=
      match call with
      | .print markup => shown ++ markup
      | .flush => shown
      | .delay _ | .setLineStart _ => []
    (call, piece) :: past

namespace Record

variable {past : Record}

theorem written_cons (call : PrinterCall) (piece : Text) :
    written ((call, piece) :: past) = past.written ++ piece := by
  simp [written]

theorem declared?_cons_congr {past' : Record} (h : past.declared? = past'.declared?)
    (entry : PrinterCall × Text) : declared? (entry :: past) = declared? (entry :: past') := by
  obtain ⟨c, piece⟩ := entry
  cases c <;> cases piece <;> first | rfl | exact h

/-- After a call that declares nothing the line starts as before, unless something was written. -/
theorem startsLine_cons {call : PrinterCall} (hcall : ∀ lineStart, call ≠ .setLineStart lineStart)
    (piece : Text) :
    startsLine ((call, piece) :: past) =
      if piece.isEmpty then past.startsLine else Text.endsLine piece := by
  have hdeclared : declared? ((call, piece) :: past) =
      if piece.isEmpty then past.declared? else none := by
    cases call with
    | setLineStart lineStart => exact absurd rfl (hcall lineStart)
    | _ => cases piece <;> rfl
  rw [startsLine, startsLine, hdeclared, written_cons]
  cases piece with
  | nil => rw [List.append_nil]; rfl
  | cons c rest =>
    have hlast : Text.endsLine (past.written ++ c :: rest) = Text.endsLine (c :: rest) := by
      rw [Text.endsLine, Text.endsLine, List.getLast?_append,
        List.getLast?_eq_some_getLast (List.cons_ne_nil c rest), Option.some_or]
    simp [hlast]

end Record

open Record

/-- Handing over an empty text changes nothing in what the other calls write. -/
theorem record_filter_isFilled (escaping pipes : Bool) (calls : List PrinterCall) :
    stretch (calls.filter isFilled) = stretch calls ∧
      (record escaping pipes (calls.filter isFilled)).declared? =
        (record escaping pipes calls).declared? ∧
      (record escaping pipes (calls.filter isFilled)).written =
        (record escaping pipes calls).written := by
  induction calls with
  | nil => exact ⟨rfl, rfl, rfl⟩
  | cons c earlier ih =>
    obtain ⟨hstretch, hdeclared, hwritten⟩ := ih
    have hline : (record escaping pipes (earlier.filter isFilled)).startsLine =
        (record escaping pipes earlier).startsLine := by
      rw [startsLine, startsLine, hdeclared, hwritten]
    by_cases hfilled : c.isFilled = true
    · rw [List.filter_cons_of_pos hfilled]
      refine ⟨?_, ?_, ?_⟩
      · cases c <;> simp [stretch, hstretch]
      · cases c <;> simp only [record, hstretch, hline] <;> exact declared?_cons_congr hdeclared _
      · cases c <;> simp only [record, written_cons, hstretch, hline, hwritten]
    · obtain rfl : c = .delay [] := by simpa [isFilled] using hfilled
      rw [List.filter_cons_of_neg hfilled]
      refine ⟨?_, hdeclared, ?_⟩
      · rw [stretch, List.append_nil, hstretch]
      · rw [record, written_cons, List.append_nil, hwritten]

/-- What is written reads as what was handed over, where the texts that are shown do and markup
reads as itself. The stretch that is still held back comes last. -/
theorem exists_reading {escaping pipes : Bool} {calls : List PrinterCall}
    (reads : Text → Text → Prop) (hnil : reads [] [])
    (happend : ∀ {x y x' y'}, reads x y → reads x' y' → reads (x ++ x') (y ++ y'))
    (hshown : ∀ text lineStart,
      reads (if escaping then Escape.text text lineStart pipes else text) text)
    (hmarkup : ∀ markup, .print markup ∈ calls → reads markup markup) :
    ∃ plain, reads (record escaping pipes calls).written plain ∧
      plain ++ stretch calls = calls.reverse.flatMap text := by
  induction calls with
  | nil => exact ⟨[], hnil, rfl⟩
  | cons c earlier ih =>
    obtain ⟨plain, hplain, hall⟩ :=
      ih fun markup hmem => hmarkup markup (List.mem_cons_of_mem c hmem)
    have hstretch := hshown (stretch earlier) (record escaping pipes earlier).startsLine
    rw [List.reverse_cons, List.flatMap_append, List.flatMap_singleton, ← hall]
    cases c with
    | print markup =>
      have hpiece := happend hstretch (hmarkup markup List.mem_cons_self)
      refine ⟨plain ++ (stretch earlier ++ markup), ?_, by simp [stretch, text]⟩
      rw [record, written_cons]
      exact happend hplain hpiece
    | delay added =>
      refine ⟨plain, ?_, by simp [stretch, text]⟩
      rwa [record, written_cons, List.append_nil]
    | flush =>
      refine ⟨plain ++ stretch earlier, ?_, by simp [stretch, text]⟩
      rw [record, written_cons]
      exact happend hplain hstretch
    | setLineStart lineStart =>
      refine ⟨plain, ?_, by simp [stretch, text]⟩
      rwa [record, written_cons, List.append_nil]

/-- Nothing is held back behind a flush. -/
theorem append_stretch_flush {plain : Text} {calls : List PrinterCall}
    (h : plain ++ stretch (.flush :: calls.reverse) =
      (PrinterCall.flush :: calls.reverse).reverse.flatMap text) : plain = calls.flatMap text := by
  simpa [stretch, text] using h

theorem written_flush_plain (pipes : Bool) (calls : List PrinterCall) :
    (record false pipes (.flush :: calls.reverse)).written = calls.flatMap text := by
  have happend {x y x' y' : Text} (h : x = y) (h' : x' = y') : x ++ x' = y ++ y' := by rw [h, h']
  obtain ⟨plain, hreads, hplain⟩ :
      ∃ plain, (record false pipes (.flush :: calls.reverse)).written = plain ∧ _ :=
    exists_reading Eq rfl happend (fun _ _ => rfl) fun _ _ => rfl
  exact hreads.trans (append_stretch_flush hplain)

theorem plain?_written_flush (pipes : Bool) {calls : List PrinterCall}
    (hcalls : ∀ markup, .print markup ∈ calls → '\\' ∉ markup) :
    Escape.plain? (record true pipes (.flush :: calls.reverse)).written =
      some (calls.flatMap text) := by
  obtain ⟨plain, hreads, hplain⟩ :
      ∃ plain, Escape.ReadsAs (record true pipes (.flush :: calls.reverse)).written plain ∧ _ :=
    exists_reading Escape.ReadsAs .nil .append (fun text lineStart => .escaped text lineStart pipes)
      fun markup hmem => .of_not_mem (hcalls markup (by simpa using hmem))
  rw [← append_stretch_flush hplain]
  exact hreads.plain?_eq

end PrinterCall

namespace Printer

open PrinterCall

def call (p : Printer) : PrinterCall → Except FieldFault Printer
  | .print markup => p.print markup
  | .delay text => .ok (p.delay (.str text))
  | .flush => p.flush
  | .setLineStart lineStart => .ok (p.setLineStart lineStart)

/-- The whole text, if the sink keeps it, with what was held back. -/
def wholeText? (p : Printer) : Except FieldFault (Option Text) := return (← p.flush).text?

/-- The whole text after some calls. -/
def textAfter? (p : Printer) (calls : List PrinterCall) : Except FieldFault (Option Text) := do
  (← calls.foldlM call p).wholeText?

/-- Whether a printer is as calls left it that stand latest first. -/
structure Follows (escaping pipes : Bool) (calls : List PrinterCall) (p : Printer) : Prop where
  sink : p.sink = .buffer
  escapes : p.escapes = escaping
  escapesPipes : p.escapesPipes = pipes
  written : p.written = (record escaping pipes calls).written
  held : joinTexts? p.pending = some (stretch calls)
  lineStart : p.lineStart = (record escaping pipes calls).startsLine

namespace Follows

variable {escaping pipes : Bool} {earlier : List PrinterCall} {p : Printer}

theorem start (escaping pipes : Bool) :
    Follows escaping pipes [] { escapes := escaping, escapesPipes := pipes } :=
  ⟨rfl, rfl, rfl, rfl, rfl, rfl⟩

/-- Writing the piece of a call. What is held back then is what the call leaves held back. -/
theorem write (h : Follows escaping pipes earlier p) {c : PrinterCall} {piece : Text}
    (hcall : ∀ lineStart, c ≠ .setLineStart lineStart)
    (hpiece : record escaping pipes (c :: earlier) = (c, piece) :: record escaping pipes earlier)
    (pending : List Value) (hheld : joinTexts? pending = some (stretch (c :: earlier))) :
    Follows escaping pipes (c :: earlier) (({ p with pending } : Printer).write piece) := by
  have hwritten : (record escaping pipes (c :: earlier)).written =
      (record escaping pipes earlier).written ++ piece := by
    rw [hpiece, Record.written_cons]
  have hline : (record escaping pipes (c :: earlier)).startsLine =
      if piece.isEmpty then (record escaping pipes earlier).startsLine
      else Text.endsLine piece := by
    rw [hpiece, Record.startsLine_cons hcall]
  unfold Printer.write
  split
  · rename_i hempty
    rw [List.isEmpty_iff.mp hempty, List.append_nil] at hwritten
    rw [if_pos hempty] at hline
    exact ⟨h.sink, h.escapes, h.escapesPipes, h.written.trans hwritten.symm, hheld,
      h.lineStart.trans hline.symm⟩
  · rename_i hfilled
    rw [if_neg hfilled] at hline
    exact ⟨h.sink, h.escapes, h.escapesPipes,
      (congrArg (· ++ piece) h.written).trans hwritten.symm, hheld, hline.symm⟩

/-- A flush writes the stretch, escaped for its place. -/
theorem flush_eq (h : Follows escaping pipes earlier p) :
    p.flush = .ok (({ p with pending := [] } : Printer).write
      (if escaping then
        Escape.text (stretch earlier) (record escaping pipes earlier).startsLine pipes
      else stretch earlier)) := by
  rw [flush_eq_of_joinTexts? h.held, escaped, h.escapes, h.lineStart, h.escapesPipes]

/-- Each call leaves the printer as told. -/
theorem call (h : Follows escaping pipes earlier p) (c : PrinterCall) :
    ∃ q, p.call c = .ok q ∧ Follows escaping pipes (c :: earlier) q := by
  cases c with
  | print markup =>
    refine ⟨_, ?_, h.write (by simp) rfl [] rfl⟩
    rw [Printer.call, Printer.print, h.flush_eq]
    exact congrArg Except.ok (write_append _ _ _).symm
  | delay text =>
    have hheld : joinTexts? (p.pending ++ [.str text]) = some (stretch earlier ++ text) := by
      rw [joinTexts?_append, h.held]
      simp [joinTexts?]
    exact ⟨_, rfl, h.write (c := .delay text) (by simp) rfl _ hheld⟩
  | flush => exact ⟨_, h.flush_eq, h.write (by simp) rfl [] rfl⟩
  | setLineStart lineStart =>
    refine ⟨_, rfl, h.sink, h.escapes, h.escapesPipes, ?_, h.held, rfl⟩
    rw [record, Record.written_cons, List.append_nil]
    exact h.written

theorem calls (h : Follows escaping pipes earlier p) (later : List PrinterCall) :
    ∃ q, later.foldlM Printer.call p = .ok q ∧
      Follows escaping pipes (later.reverse ++ earlier) q := by
  induction later generalizing p earlier with
  | nil => exact ⟨p, rfl, h⟩
  | cons c rest ih =>
    obtain ⟨q, hcall, hq⟩ := h.call c
    obtain ⟨q', hrest, hq'⟩ := ih hq
    refine ⟨q', ?_, ?_⟩
    · rw [List.foldlM_cons, hcall]
      exact hrest
    · rw [List.reverse_cons, List.append_assoc]
      exact hq'

end Follows

/-- The whole text is made of the pieces of the calls and of a flush behind them. -/
theorem textAfter?_eq (escaping pipes : Bool) (calls : List PrinterCall) :
    ({ escapes := escaping, escapesPipes := pipes } : Printer).textAfter? calls =
      .ok (some (record escaping pipes (.flush :: calls.reverse)).written) := by
  obtain ⟨p, hcalls, hp⟩ := (Follows.start escaping pipes).calls calls
  rw [List.append_nil] at hp
  obtain ⟨q, hflush, hq⟩ := hp.call .flush
  have hflushed : p.flush = .ok q := hflush
  have htext : q.text? = some q.written := by rw [text?, hq.sink]
  rw [textAfter?, hcalls, ← hq.written, ← htext]
  change p.wholeText? = _
  rw [wholeText?, hflushed]
  rfl

/-- What a printer writes can be told from the calls. Each print writes its markup and each print
or flush, the last one included, the document text handed over since the one before, escaped as one
text for its place. Empty document texts make no difference. Nothing is lost, moved or written
twice: without escaping the texts handed over stand one after another, and so they do in what the
escaped text reads as, where the markup has no backslashes of its own. -/
theorem textAfter?_calls (escaping pipes : Bool) (calls : List PrinterCall) :
    let start : Printer := { escapes := escaping, escapesPipes := pipes }
    let text := (record escaping pipes (.flush :: calls.reverse)).written
    start.textAfter? calls = .ok (some text) ∧
      start.textAfter? (calls.filter isFilled) = .ok (some text) ∧
      (escaping = false → text = calls.flatMap PrinterCall.text) ∧
      (escaping = true → (∀ markup, .print markup ∈ calls → '\\' ∉ markup) →
        Escape.plain? text = some (calls.flatMap PrinterCall.text)) := by
  intro start text
  have htext := textAfter?_eq escaping pipes
  refine ⟨htext calls, ?_, ?_, ?_⟩
  · have hsame := (record_filter_isFilled escaping pipes (.flush :: calls.reverse)).2.2
    rw [List.filter_cons_of_pos (by decide), List.filter_reverse] at hsame
    rw [htext, hsame]
  · rintro rfl
    exact written_flush_plain pipes calls
  · rintro rfl
    exact plain?_written_flush pipes

/-- A number that would start a list if its stretch did not go on behind the empty text, and one
that stands at the start of a line only by declaration. -/
theorem textAfter?_calls_declared :
    let calls : List PrinterCall := [.delay "1".toList, .delay [], .delay ". a*".toList,
      .print "**".toList, .setLineStart true, .print [], .delay "2. b".toList]
    ({ escapes := true, escapesPipes := false } : Printer).textAfter? calls =
        .ok (some "1\\. a\\***2\\. b".toList) ∧
      Escape.plain? "1\\. a\\***2\\. b".toList = some "1. a***2. b".toList := by
  intro calls
  obtain ⟨htext, -, -, hplain⟩ := textAfter?_calls true false calls
  have hwritten : (record true false (.flush :: calls.reverse)).written =
      "1\\. a\\***2\\. b".toList := by decide +kernel
  rw [hwritten] at htext hplain
  exact ⟨htext, hplain rfl (by simp [calls])⟩

end Printer

end DocumentStream
