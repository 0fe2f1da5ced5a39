import Mathlib.Data.List.Basic
import DocumentStream.MacroCall
import DocumentStream.Proofs.Splitting

/-!
Calls of macros are read back from their text. A name ends where a character stands that no name
holds, and a value at the first quote that no tilde hides, so that what a value holds can neither
end its own quotes nor the braces of the call. The content reaches up to the closing braces at the
end of the text, whatever braces it holds itself.
-/

namespace DocumentStream.MacroCall

/-- Whether a character may stand in the name of a macro or of a parameter. -/
def isNameChar (c : Char) : Bool :=
  !Text.isBlank c && !(['=', '"', '/', '\x7b', '\x7d'].contains c)

def IsName (name : Text) : Prop := name ≠ [] ∧ ∀ c ∈ name, isNameChar c = true

/-- Whether the names in a call can be told from what stands around them. -/
structure HasNames (call : MacroCall) : Prop where
  id : IsName call.id
  parameters : ∀ parameter ∈ call.parameters, IsName parameter.1

/-- What stands before the first quote that no tilde hides, and what follows the quote. The tildes
are undone from left to right: each stands for the character behind it. -/
def unquote? : Text → Option (Text × Text)
  | [] => none
  | '"' :: rest => some ([], rest)
  | '~' :: c :: rest => (unquote? rest).map fun read => (c :: read.1, read.2)
  | c :: rest => (unquote? rest).map fun read => (c :: read.1, read.2)

/-- A value in quotes and what follows them. -/
def readQuoted? : Text → Option (Text × Text)
  | '"' :: text => unquote? text
  | _ => none

/-- A parameter with the blank before it, and what follows. -/
def readParameter? : Text → Option ((Text × Text) × Text)
  | ' ' :: text =>
    match text.dropWhile isNameChar with
    | '=' :: quoted =>
      (readQuoted? quoted).map fun read => ((text.takeWhile isNameChar, read.1), read.2)
    | _ => none
  | _ => none

theorem length_le_of_unquote? {text : Text} :
    ∀ {value rest : Text}, unquote? text = some (value, rest) → rest.length ≤ text.length := by
  fun_induction unquote? text with
  | case1 => intro value rest h; cases h
  | case2 rest =>
    intro value rest' h
    obtain ⟨-, rfl⟩ := Prod.mk.inj (Option.some.inj h)
    exact Nat.le_succ _
  | case3 c rest ih =>
    intro value rest' h
    obtain ⟨read, hread, heq⟩ := Option.map_eq_some_iff.mp h
    obtain ⟨-, rfl⟩ := Prod.mk.inj heq
    exact Nat.le_succ_of_le (Nat.le_succ_of_le (ih hread))
  | case4 c rest _ _ ih =>
    intro value rest' h
    obtain ⟨read, hread, heq⟩ := Option.map_eq_some_iff.mp h
    obtain ⟨-, rfl⟩ := Prod.mk.inj heq
    exact Nat.le_succ_of_le (ih hread)

/-- A parameter that is read leaves less text. -/
theorem length_lt_of_readParameter? {text rest : Text} {parameter : Text × Text}
    (h : readParameter? text = some (parameter, rest)) : rest.length < text.length := by
  unfold readParameter? at h
  split at h
  · rename_i text
    split at h
    · rename_i quoted hafter
      obtain ⟨⟨value, rest'⟩, hread, heq⟩ := Option.map_eq_some_iff.mp h
      obtain ⟨-, rfl⟩ := Prod.mk.inj heq
      have hdropped := (List.dropWhile_suffix isNameChar (l := text)).length_le
      rw [hafter] at hdropped
      unfold readQuoted? at hread
      split at hread
      · have hle := length_le_of_unquote? hread
        simp only [List.length_cons] at hdropped ⊢
        omega
      · cases hread
    · cases h
  · cases h

/-- As many parameters as there are at the front of a text, and what follows them. -/
def readParameters (text : Text) : List (Text × Text) × Text :=
  match h : readParameter? text with
  | none => ([], text)
  | some (parameter, rest) =>
    have : rest.length < text.length := length_lt_of_readParameter? h
    let read := readParameters rest
    (parameter :: read.1, read.2)
termination_by text.length

/-- The name and the parameters in the opening braces of a call, and the text from where the braces
close. -/
def readOpening? : Text → Option (Text × List (Text × Text) × Text)
  | '\x7b' :: '\x7b' :: text =>
    let read := readParameters (text.dropWhile isNameChar)
    some (text.takeWhile isNameChar, read.1, read.2)
  | _ => none

/-- The closing braces of a call with content. -/
def closing (id : Text) : Text := ['\x7b', '\x7b', '/'] ++ id ++ ['\x7d', '\x7d']

/-- The call that a text is. -/
def ofText? (text : Text) : Option MacroCall :=
  match readOpening? text with
  | some (id, parameters, ['/', '\x7d', '\x7d']) => some ⟨id, parameters, none⟩
  | some (id, parameters, '\x7d' :: '\x7d' :: rest) =>
    (rest.dropSuffix? (closing id)).map fun content => ⟨id, parameters, some content⟩
  | _ => none

/-- The text of a call from where its opening braces close. -/
def ending (call : MacroCall) : Text :=
  match call.content with
  | none => ['/', '\x7d', '\x7d']
  | some content => '\x7d' :: '\x7d' :: (content ++ closing call.id)

theorem text_eq (call : MacroCall) :
    call.text = '\x7b' :: '\x7b' ::
      (call.id ++ (call.parameters.flatMap parameterText ++ call.ending)) := by
  obtain ⟨id, parameters, content⟩ := call
  cases content <;> simp [text, ending, closing]

/-- No tilde and no quote in a value ends the value. -/
theorem readQuoted?_quotedValue (value rest : Text) :
    readQuoted? (quotedValue value ++ rest) = some (value, rest) := by
  simp only [quotedValue, List.cons_append, List.append_assoc, List.nil_append, readQuoted?]
  induction value with
  | nil => rfl
  | cons c value ih =>
    rw [List.flatMap_cons, List.append_assoc]
    by_cases hhidden : c = '~' ∨ c = '"'
    · rw [if_pos hhidden]
      simp only [List.cons_append, List.nil_append, unquote?, ih, Option.map_some]
    · obtain ⟨htilde, hquote⟩ := not_or.mp hhidden
      rw [if_neg hhidden]
      simp [unquote?, htilde, ih]

theorem readParameter?_parameterText {parameter : Text × Text} (h : IsName parameter.1)
    (rest : Text) :
    readParameter? (parameterText parameter ++ rest) = some (parameter, rest) := by
  have hsign : isNameChar '=' = false := by decide
  have htext : parameterText parameter ++ rest =
      ' ' :: (parameter.1 ++ '=' :: (quotedValue parameter.2 ++ rest)) := by
    simp [parameterText]
  rw [htext, readParameter?, Text.takeWhile_run h.2 (by simp [hsign]),
    Text.dropWhile_run h.2 (by simp [hsign])]
  simp only [readQuoted?_quotedValue, Option.map_some]

/-- Parameters end where no blank follows. -/
theorem readParameters_append {parameters : List (Text × Text)}
    (h : ∀ parameter ∈ parameters, IsName parameter.1) {rest : Text}
    (hrest : rest.head? ≠ some ' ') :
    readParameters (parameters.flatMap parameterText ++ rest) = (parameters, rest) := by
  induction parameters with
  | nil =>
    have hnone : readParameter? rest = none := by
      unfold readParameter?
      split
      · exact absurd rfl hrest
      · rfl
    rw [List.flatMap_nil, List.nil_append, readParameters]
    split
    · rfl
    · rename_i hread
      rw [hnone] at hread
      cases hread
  | cons parameter parameters ih =>
    obtain ⟨hname, hnames⟩ := List.forall_mem_cons.mp h
    have hfirst := readParameter?_parameterText hname (parameters.flatMap parameterText ++ rest)
    rw [List.flatMap_cons, List.append_assoc, readParameters]
    split
    · rename_i hread
      rw [hfirst] at hread
      cases hread
    · rename_i hread
      rw [hfirst] at hread
      obtain ⟨rfl, rfl⟩ := Prod.mk.inj (Option.some.inj hread)
      rw [ih hnames]

theorem readOpening?_text {call : MacroCall} (h : call.HasNames) :
    readOpening? call.text = some (call.id, call.parameters, call.ending) := by
  have hending : call.ending.head? ≠ some ' ' ∧ call.ending.head?.any isNameChar = false := by
    unfold ending
    split
    · decide
    · simp only [List.head?_cons, Option.any_some]
      decide
  have hrest : (call.parameters.flatMap parameterText ++ call.ending).head?.any isNameChar =
      false := by
    cases call.parameters with
    | nil => exact hending.2
    | cons parameter parameters =>
      simp only [List.flatMap_cons, parameterText, List.cons_append, List.head?_cons,
        Option.any_some]
      decide
  rw [text_eq, readOpening?, Text.takeWhile_run h.id.2 hrest, Text.dropWhile_run h.id.2 hrest]
  simp only [readParameters_append h.parameters hending.1]

theorem ofText?_text {call : MacroCall} (h : call.HasNames) : ofText? call.text = some call := by
  rw [ofText?, readOpening?_text h]
  obtain ⟨id, parameters, content⟩ := call
  cases content with
  | none => rfl
  | some content =>
    have hcontent : (content ++ closing id).dropSuffix? (closing id) = some content :=
      List.dropSuffix?_eq_some_iff.mpr ⟨closing id, rfl, beq_self_eq_true _⟩
    simp only [ending, hcontent, Option.map_some]

/-- A call is read back from its text. Its opening braces close where they were closed, and each
value ends at the quote behind it. -/
theorem text_readsBack {call : MacroCall} (h : call.HasNames) :
    ofText? call.text = some call ∧
      (∀ other : MacroCall, other.HasNames → other.text = call.text → other = call) ∧
      readOpening? call.text = some (call.id, call.parameters, call.ending) ∧
      ∀ parameter ∈ call.parameters, ∀ rest : Text,
        readQuoted? (quotedValue parameter.2 ++ rest) = some (parameter.2, rest) := by
  refine ⟨ofText?_text h, ?_, readOpening?_text h, ?_⟩
  · intro other hother htext
    have hsame : some other = some call := by rw [← ofText?_text hother, htext, ofText?_text h]
    exact Option.some.inj hsame
  · intro parameter _ rest
    exact readQuoted?_quotedValue parameter.2 rest

/-- A value with a tilde at its end that holds a quote and closing braces, an empty value, and
content that holds the closing braces of the call. -/
theorem text_readsBack_braces :
    let value : Text := ['"', '/', '\x7d', '\x7d', '~']
    let call : MacroCall := ⟨['i'], [(['a'], value), (['b'], [])], some (closing ['i'])⟩
    call.HasNames ∧ ofText? call.text = some call ∧
      readOpening? call.text = some (['i'], [(['a'], value), (['b'], [])],
        '\x7d' :: '\x7d' :: closing ['i'] ++ closing ['i']) ∧
      readQuoted? (quotedValue value ++ call.ending) = some (value, call.ending) := by
  intro value call
  have hletter {c : Char} (hc : isNameChar c = true) : IsName [c] :=
    ⟨List.cons_ne_nil _ _, List.forall_mem_singleton.mpr hc⟩
  have hnames : call.HasNames :=
    { id := hletter (by decide)
      parameters := List.forall_mem_cons.mpr
        ⟨hletter (by decide), List.forall_mem_singleton.mpr (hletter (by decide))⟩ }
  obtain ⟨hcall, -, hopening, hvalue⟩ := text_readsBack hnames
  exact ⟨hnames, hcall, hopening, hvalue _ List.mem_cons_self call.ending⟩

end DocumentStream.MacroCall
