import DocumentStream.Proofs.Pieces

/-!
What escaping looks at. A character is escaped for what it is, for the characters beside it or for
the place where its line starts, so that two texts escaped apart read as the two escaped as one
unless an underscore loses a neighbour or a list marker is cut.
-/

namespace DocumentStream

/-- White space is neither part of a word nor of a list marker. -/
theorem Text.not_mem_word_of_isBlank {c : Char} (h : isBlank c = true) :
    isAlphanumeric c = false ∧ isDecimalDigit c = false ∧ c ≠ '_' ∧ c ≠ '.' := by
  let codes := List.range' 0x9 5 ++ List.range' 0x1C 5 ++ [0x85, 0xA0, 0x1680] ++
    List.range' 0x2000 11 ++ [0x2028, 0x2029, 0x202F, 0x205F, 0x3000]
  have hcode : c.toNat ∈ codes := by
    simp only [isBlank, blankRanges, CodeRanges.has] at h
    simp only [codes, List.mem_append, List.mem_range'_1, List.mem_cons, List.not_mem_nil, or_false]
    grind
  have hall : ∀ n ∈ codes, isAlphanumeric (Char.ofNat n) = false ∧
      isDecimalDigit (Char.ofNat n) = false ∧ Char.ofNat n ≠ '_' ∧ Char.ofNat n ≠ '.' := by
    decide +kernel
  have hc := hall _ hcode
  rwa [Char.ofNat_toNat] at hc

namespace Escape

variable {pipes lineStart : Bool}

/-- Whether a text begins like an item of an ordered list: a number, a full stop and white space or
the end. -/
def startsList (text : Text) : Bool :=
  !(text.takeWhile Text.isDecimalDigit).isEmpty &&
    (text.dropWhile Text.isDecimalDigit).head? == some '.' &&
    (text.dropWhile Text.isDecimalDigit).tail.head?.all Text.isBlank

/-- Whether an underscore inside a word has only one of its neighbours in the same text as itself
when two texts are kept apart. -/
def cutsWord (first second : Text) : Bool :=
  (first.getLast? == some '_' && first.dropLast.getLast?.any Text.isAlphanumeric &&
      second.head?.any Text.isAlphanumeric) ||
    (first.getLast?.any Text.isAlphanumeric && second.head? == some '_' &&
      second.tail.head?.any Text.isAlphanumeric)

/-- Whether a text is escaped as it would be in front of a second one, and the second one as it
would be behind it. -/
def Divides (lineStart : Bool) (first second : Text) : Prop :=
  cutsWord first second = false ∧
    (lineStart = true → startsList (first ++ second) = startsList first)

/-- The characters that are escaped somewhere. -/
def escapable : Text := ['\\', '\x60', '*', '[', ']', '|', '_', '#', '>', '+', '-', '=']

theorem not_mem_escapable (kind : Char → Bool) (hkind : escapable.any kind = false)
    {c : Char} (hc : kind c = true) : c ∉ escapable := by
  intro hmem
  exact List.any_eq_false.mp hkind c hmem hc

theorem charsFrom_cons_of_not_mem {c : Char} (hc : c ∉ escapable) (before : Option Char)
    (rest : Text) :
    charsFrom pipes lineStart before (c :: rest) = c :: charsFrom pipes false (some c) rest := by
  simp only [escapable, List.mem_cons, List.not_mem_nil, or_false, not_or] at hc
  simp [charsFrom, isSpecial, opensBlock, hc]

/-- A character is written as it is or behind a backslash. -/
theorem charsFrom_cons (c : Char) (before : Option Char) (rest : Text) :
    charsFrom pipes lineStart before (c :: rest) = c :: charsFrom pipes false (some c) rest ∨
      c ∈ escapable ∧ charsFrom pipes lineStart before (c :: rest) =
        '\\' :: c :: charsFrom pipes false (some c) rest := by
  by_cases hc : c ∈ escapable
  · rw [charsFrom]
    split
    · exact Or.inr ⟨hc, rfl⟩
    · exact Or.inl rfl
  · exact Or.inl (charsFrom_cons_of_not_mem hc before rest)

theorem listMarker_eq (text : Text) :
    listMarker text =
      if startsList text then
        text.takeWhile Text.isDecimalDigit ++ '\\' :: text.dropWhile Text.isDecimalDigit
      else text := by
  unfold listMarker startsList
  cases hrest : text.dropWhile Text.isDecimalDigit with
  | nil => simp
  | cons c rest =>
    by_cases hc : c = '.'
    · subst hc
      simp
    · simp [hc]

/-- A text goes on being escaped behind another as if that one were all that stands before it,
unless the other ends with an underscore that stands inside a word. -/
theorem charsFrom_append {first second : Text} (hfirst : first ≠ []) (before : Option Char)
    (hcut : first.getLast? = some '_' →
      (first.dropLast.getLast?.or before).any Text.isAlphanumeric = true →
      second.head?.any Text.isAlphanumeric = false) :
    charsFrom pipes lineStart before (first ++ second) =
      charsFrom pipes lineStart before first ++ charsFrom pipes false first.getLast? second := by
  induction first generalizing lineStart before with
  | nil => exact absurd rfl hfirst
  | cons c rest ih =>
    cases rest with
    | nil =>
      have hinside : c = '_' →
          (before.any Text.isAlphanumeric && second.head?.any Text.isAlphanumeric) = false := by
        rintro rfl
        rw [Bool.and_eq_false_imp]
        simpa using hcut
      simp only [charsFrom, List.cons_append, List.nil_append, List.head?_nil, Option.any_none,
        Bool.and_false, List.getLast?_singleton, List.append_nil]
      by_cases hc : c = '_'
      · rw [hinside hc]
      · simp [hc]
    | cons d rest =>
      have hlast : ((c :: d :: rest).dropLast.getLast?.or before) =
          ((d :: rest).dropLast.getLast?.or (some c)) := by
        rw [List.dropLast_cons_of_ne_nil (List.cons_ne_nil d rest), List.getLast?_cons]
        cases (d :: rest).dropLast.getLast? <;> rfl
      rw [hlast, List.getLast?_cons_cons] at hcut
      rw [List.cons_append, charsFrom, charsFrom, ih (List.cons_ne_nil d rest) (some c) hcut,
        List.append_assoc, List.getLast?_cons_cons]
      rfl

/-- A text that stands behind another is escaped as if it stood alone, unless it begins with an
underscore inside a word. -/
theorem charsFrom_none {second : Text} {before : Option Char}
    (hcut : before.any Text.isAlphanumeric = true → second.head? = some '_' →
      second.tail.head?.any Text.isAlphanumeric = false) :
    charsFrom pipes false before second = charsFrom pipes false none second := by
  cases second with
  | nil => rfl
  | cons c rest =>
    have hinside : c = '_' →
        (before.any Text.isAlphanumeric && rest.head?.any Text.isAlphanumeric) = false := by
      rintro rfl
      rw [Bool.and_eq_false_imp]
      simpa using hcut
    rw [charsFrom, charsFrom]
    by_cases hc : c = '_'
    · rw [hinside hc]
      rfl
    · simp [hc]

/-- Two texts are escaped as one just as they are apart, if no underscore loses a neighbour. -/
theorem charsFrom_append_of_not_cutsWord {first second : Text} (hfirst : first ≠ [])
    (hcut : cutsWord first second = false) :
    charsFrom pipes lineStart none (first ++ second) =
      charsFrom pipes lineStart none first ++ charsFrom pipes false none second := by
  simp only [cutsWord, Bool.or_eq_false_iff, Bool.and_eq_false_imp, beq_iff_eq,
    Bool.and_eq_true, and_imp] at hcut
  rw [charsFrom_append hfirst none, charsFrom_none hcut.2]
  simpa using hcut.1

/-- Escaping leaves a number at the front alone. -/
theorem charsFrom_append_digits {number : Text}
    (h : ∀ c ∈ number, Text.isDecimalDigit c = true) (before : Option Char) (rest : Text) :
    charsFrom pipes lineStart before (number ++ rest) =
      number ++ charsFrom pipes (lineStart && number.isEmpty) (number.getLast?.or before) rest := by
  induction number generalizing lineStart before with
  | nil => simp
  | cons c number ih =>
    rw [List.forall_mem_cons] at h
    have hc := not_mem_escapable Text.isDecimalDigit (by decide) h.1
    rw [List.cons_append, charsFrom_cons_of_not_mem hc, ih h.2, List.getLast?_cons]
    cases number.getLast? <;> simp

/-- Whether the head of an escaped text is of a kind that no escaped character is of. -/
theorem all_head?_charsFrom (kind : Char → Bool) (hkind : escapable.any kind = false)
    (before : Option Char) (text : Text) :
    (charsFrom pipes lineStart before text).head?.all kind = text.head?.all kind := by
  cases text with
  | nil => rfl
  | cons c rest =>
    rcases charsFrom_cons c before rest with heq | ⟨hc, heq⟩
    · rw [heq]
      rfl
    · have hother : ∀ d ∈ escapable, kind d = false := fun d hd =>
        Bool.eq_false_iff.mpr (List.any_eq_false.mp hkind d hd)
      rw [heq]
      exact (hother '\\' (by decide)).trans (hother c hc).symm

section

variable {number rest : Text} (h : ∀ c ∈ number, Text.isDecimalDigit c = true)
  (hrest : rest.head?.any Text.isDecimalDigit = false)

include h hrest

theorem takeWhile_append_digits : (number ++ rest).takeWhile Text.isDecimalDigit = number ∧
    (number ++ rest).dropWhile Text.isDecimalDigit = rest := by
  rw [List.takeWhile_append_of_pos h, List.dropWhile_append_of_pos h]
  cases rest with
  | nil => simp
  | cons c rest =>
    have hc : ¬ Text.isDecimalDigit c = true := by simpa using hrest
    rw [List.takeWhile_cons_of_neg hc, List.dropWhile_cons_of_neg hc, List.append_nil]
    exact ⟨rfl, rfl⟩

theorem startsList_append_digits :
    startsList (number ++ rest) =
      (!number.isEmpty && rest.head? == some '.' && rest.tail.head?.all Text.isBlank) := by
  rw [startsList, (takeWhile_append_digits h hrest).1, (takeWhile_append_digits h hrest).2]

theorem listMarker_append_digits :
    listMarker (number ++ rest) =
      if startsList (number ++ rest) then number ++ '\\' :: rest else number ++ rest := by
  rw [listMarker_eq, (takeWhile_append_digits h hrest).1, (takeWhile_append_digits h hrest).2]

end

/-- A text is a number at the front and a rest that does not begin with a digit. -/
theorem exists_digits (text : Text) :
    ∃ number rest : Text, text = number ++ rest ∧ (∀ c ∈ number, Text.isDecimalDigit c = true) ∧
      rest.head?.any Text.isDecimalDigit = false := by
  refine ⟨text.takeWhile Text.isDecimalDigit, text.dropWhile Text.isDecimalDigit,
    List.takeWhile_append_dropWhile.symm, List.all_eq_true.mp List.all_takeWhile, ?_⟩
  cases hrest : text.dropWhile Text.isDecimalDigit with
  | nil => rfl
  | cons c rest =>
    have hc := List.head?_dropWhile_not Text.isDecimalDigit text
    simpa [hrest] using hc

/-- Escaping neither makes nor breaks a list marker, which is seen to afterwards. -/
theorem startsList_charsFrom (text : Text) :
    startsList (charsFrom pipes lineStart none text) = startsList text := by
  obtain ⟨number, rest, rfl, hnumber, hrest⟩ := exists_digits text
  rw [charsFrom_append_digits hnumber, startsList_append_digits hnumber hrest]
  generalize hstart : (lineStart && number.isEmpty) = start
  generalize hbefore : number.getLast?.or none = before
  cases rest with
  | nil => exact startsList_append_digits hnumber rfl
  | cons c rest =>
    rcases charsFrom_cons c before rest with heq | ⟨hc, heq⟩
    · have hsame : (c :: charsFrom pipes false (some c) rest).head?.any Text.isDecimalDigit =
          false := hrest
      rw [heq, startsList_append_digits hnumber hsame]
      simp only [List.head?_cons, List.tail_cons]
      rw [all_head?_charsFrom Text.isBlank (by decide)]
    · have hdot : c ≠ '.' := by
        rintro rfl
        exact absurd hc (by decide)
      rw [heq, startsList_append_digits hnumber (by rfl)]
      simp [hdot]

theorem listMarker_append {first second : Text}
    (h : startsList (first ++ second) = startsList first) :
    listMarker (first ++ second) = listMarker first ++ second := by
  by_cases hstarts : startsList first = true
  · obtain ⟨number, rest, rfl, hnumber, hrest⟩ := exists_digits first
    cases rest with
    | nil =>
      rw [startsList_append_digits hnumber hrest] at hstarts
      simp at hstarts
    | cons c rest =>
      have hmore : (c :: rest ++ second).head?.any Text.isDecimalDigit = false := hrest
      rw [List.append_assoc] at h ⊢
      rw [listMarker_append_digits hnumber hmore, listMarker_append_digits hnumber hrest,
        if_pos (h.trans hstarts), if_pos hstarts]
      simp
  · rw [listMarker_eq, listMarker_eq, if_neg hstarts, if_neg (by rwa [h])]

/-- Two texts are escaped as one just as they are apart, if no underscore loses a neighbour and no
list marker is cut at the start of a line. -/
theorem text_append {first second : Text} (hfirst : first ≠ [])
    (hdivides : Divides lineStart first second) :
    Escape.text (first ++ second) lineStart pipes =
      Escape.text first lineStart pipes ++ Escape.text second false pipes := by
  have happend : charsFrom pipes lineStart none (first ++ second) =
      charsFrom pipes lineStart none first ++ charsFrom pipes false none second :=
    charsFrom_append_of_not_cutsWord hfirst hdivides.1
  cases lineStart with
  | false => exact happend
  | true =>
    have hstarts :
        startsList (charsFrom pipes true none first ++ charsFrom pipes false none second) =
          startsList (charsFrom pipes true none first) := by
      rw [← happend, startsList_charsFrom, startsList_charsFrom, hdivides.2 rfl]
    calc
      listMarker (charsFrom pipes true none (first ++ second)) =
          listMarker (charsFrom pipes true none first ++ charsFrom pipes false none second) := by
        rw [happend]
      _ = _ := listMarker_append hstarts

/-- Text that ends with a blank is escaped without regard to what comes next. -/
theorem divides_of_endsBlank {first : Text} {c : Char} (hlast : first.getLast? = some c)
    (hblank : Text.isBlank c = true) (second : Text) : Divides lineStart first second := by
  obtain ⟨halnum, hdigit, hunderscore, hstop⟩ := Text.not_mem_word_of_isBlank hblank
  refine ⟨by simp [cutsWord, hlast, halnum, hunderscore], fun _ => ?_⟩
  obtain ⟨number, rest, rfl, hnumber, hrest⟩ := exists_digits first
  cases rest with
  | nil =>
    rw [List.append_nil] at hlast
    exact absurd (hnumber c (List.mem_of_getLast? hlast)) (by simp [hdigit])
  | cons d rest =>
    have hmore : (d :: rest ++ second).head?.any Text.isDecimalDigit = false := hrest
    rw [List.append_assoc, startsList_append_digits hnumber hmore,
      startsList_append_digits hnumber hrest]
    cases rest with
    | nil =>
      obtain rfl : d = c := by simpa using hlast
      simp [hstop]
    | cons e rest => rfl

/-- Text is escaped in front of a blank as it is at the end. -/
theorem divides_of_startsBlank (first : Text) {second : Text}
    (hblank : second.head?.all Text.isBlank = true) : Divides lineStart first second := by
  cases second with
  | nil => exact ⟨by simp [cutsWord], fun _ => by rw [List.append_nil]⟩
  | cons c second =>
    obtain ⟨halnum, hdigit, hunderscore, hstop⟩ := Text.not_mem_word_of_isBlank hblank
    refine ⟨by simp [cutsWord, halnum, hunderscore], fun _ => ?_⟩
    obtain ⟨number, rest, rfl, hnumber, hrest⟩ := exists_digits first
    cases rest with
    | nil =>
      have hmore : (c :: second).head?.any Text.isDecimalDigit = false := hdigit
      rw [List.append_assoc, List.nil_append, startsList_append_digits hnumber hmore,
        startsList_append_digits hnumber hrest]
      simp [hstop]
    | cons d rest =>
      have hmore : (d :: rest ++ c :: second).head?.any Text.isDecimalDigit = false := hrest
      rw [List.append_assoc, startsList_append_digits hnumber hmore,
        startsList_append_digits hnumber hrest]
      cases rest with
      | nil =>
        have hc : Text.isBlank c = true := hblank
        simp [hc]
      | cons e rest => rfl
/-- Letters and digits are written as they are. -/
theorem charsFrom_append_alphanumeric {word : Text}
    (h : ∀ c ∈ word, Text.isAlphanumeric c = true) (before : Option Char) (rest : Text) :
    charsFrom pipes lineStart before (word ++ rest) =
      word ++ charsFrom pipes (lineStart && word.isEmpty) (word.getLast?.or before) rest := by
  induction word generalizing lineStart before with
  | nil => simp
  | cons c word ih =>
    rw [List.forall_mem_cons] at h
    have hc := not_mem_escapable Text.isAlphanumeric (by decide) h.1
    rw [List.cons_append, charsFrom_cons_of_not_mem hc, ih h.2, List.getLast?_cons]
    cases word.getLast? <;> simp

/-- Words of letters and digits, with underscores between them. -/
inductive IsIdentifier : Text → Prop
  | word {word : Text} (hne : word ≠ []) (hword : ∀ c ∈ word, Text.isAlphanumeric c = true) :
      IsIdentifier word
  | cons {word rest : Text} (hne : word ≠ []) (hword : ∀ c ∈ word, Text.isAlphanumeric c = true)
      (hrest : IsIdentifier rest) : IsIdentifier (word ++ '_' :: rest)

namespace IsIdentifier

variable {text : Text}

theorem ne_nil (h : IsIdentifier text) : text ≠ [] := by
  cases h with
  | word hne hword => exact hne
  | cons hne hword hrest => exact List.append_ne_nil_of_left_ne_nil hne _

theorem any_head? (h : IsIdentifier text) : text.head?.any Text.isAlphanumeric = true := by
  have hhead {word : Text} (rest : Text) (hne : word ≠ [])
      (hword : ∀ c ∈ word, Text.isAlphanumeric c = true) :
      (word ++ rest).head?.any Text.isAlphanumeric = true := by
    obtain ⟨c, word, rfl⟩ := List.exists_cons_of_ne_nil hne
    exact hword c List.mem_cons_self
  cases h with
  | word hne hword => simpa using hhead [] hne hword
  | cons hne hword hrest => exact hhead _ hne hword

theorem mem (h : IsIdentifier text) {c : Char} (hc : c ∈ text) :
    Text.isAlphanumeric c = true ∨ c = '_' := by
  induction h with
  | word hne hword => exact Or.inl (hword c hc)
  | cons hne hword hrest ih =>
    rcases List.mem_append.mp hc with hc | hc
    · exact Or.inl (hword c hc)
    · rcases List.mem_cons.mp hc with hc | hc
      · exact Or.inr hc
      · exact ih hc

theorem charsFrom_eq (h : IsIdentifier text) (before : Option Char) :
    charsFrom pipes lineStart before text = text := by
  induction h generalizing lineStart before with
  | @word word hne hword =>
    have hall : charsFrom pipes lineStart before (word ++ []) = _ :=
      charsFrom_append_alphanumeric hword before []
    simpa [charsFrom] using hall
  | @cons word rest hne hword hrest ih =>
    have hlast : (word.getLast?.or before).any Text.isAlphanumeric = true := by
      rw [List.getLast?_eq_some_getLast hne]
      exact hword _ (List.getLast_mem hne)
    have hunderscore : charsFrom pipes false (word.getLast?.or before) ('_' :: rest) =
        '_' :: rest := by
      rw [charsFrom, hlast, hrest.any_head?, ih]
      simp [isSpecial]
    have hempty : (lineStart && word.isEmpty) = false := by simp [hne]
    rw [charsFrom_append_alphanumeric hword, hempty, hunderscore]

end IsIdentifier

theorem mem_of_startsList {text : Text} (h : startsList text = true) : '.' ∈ text := by
  simp only [startsList, Bool.and_eq_true, beq_iff_eq] at h
  exact (List.dropWhile_sublist _).mem (List.mem_of_head? h.1.2)

/-- No underscore is escaped that stands between letters and digits. -/
theorem text_eq_of_isIdentifier {text : Text} (h : IsIdentifier text) :
    Escape.text text lineStart pipes = text := by
  have hstarts : ¬ startsList text = true := by
    intro hstarts
    rcases h.mem (mem_of_startsList hstarts) with hdot | hdot
    · exact absurd hdot (by decide)
    · exact absurd hdot (by decide)
  unfold Escape.text
  dsimp only
  rw [h.charsFrom_eq, listMarker_eq, if_neg hstarts, ite_self]

theorem head?_listMarker (text : Text) : (listMarker text).head? = text.head? := by
  rw [listMarker_eq]
  split
  · rename_i hstarts
    obtain ⟨number, rest, rfl, hnumber, hrest⟩ := exists_digits text
    rw [startsList_append_digits hnumber hrest] at hstarts
    obtain ⟨c, number, rfl⟩ : ∃ c cs, number = c :: cs :=
      List.exists_cons_of_ne_nil (by rintro rfl; simp at hstarts)
    rw [(takeWhile_append_digits hnumber hrest).1]
    rfl
  · rfl

/-- Where text starts a line it does not begin with a character that opens a block. -/
theorem any_head?_text (text : Text) :
    (Escape.text text true pipes).head?.any opensBlock = false := by
  have hchars : (charsFrom pipes true none text).head?.any opensBlock = false := by
    cases text with
    | nil => rfl
    | cons c rest =>
      rw [charsFrom]
      split
      · rfl
      · rename_i hescaped
        simp only [Bool.or_eq_true, Bool.and_eq_true, true_and, not_or] at hescaped
        simpa using hescaped.2
  exact (congrArg (Option.any opensBlock) (head?_listMarker _)).trans hchars

theorem text_ne_nil {text : Text} (h : text ≠ []) : Escape.text text lineStart pipes ≠ [] := by
  rw [← List.getLast?_isSome, getLast?_text, List.getLast?_isSome]
  exact h

/-- Where text starts a line it does not begin with a list marker. -/
theorem startsList_text (text : Text) : startsList (Escape.text text true pipes) = false := by
  change startsList (listMarker (charsFrom pipes true none text)) = false
  generalize charsFrom pipes true none text = escaped
  by_cases hstarts : startsList escaped = true
  · obtain ⟨number, rest, rfl, hnumber, hrest⟩ := exists_digits escaped
    rw [listMarker_append_digits hnumber hrest, if_pos hstarts,
      startsList_append_digits hnumber (by rfl)]
    simp
  · rw [listMarker_eq, if_neg hstarts]
    simpa using hstarts

/-- What is no list marker does not become one in front of something that neither goes on with a
number nor is a full stop that may end one. -/
theorem startsList_append {first second : Text} (hfirst : startsList first = false)
    (hdigit : second.head?.any Text.isDecimalDigit = false)
    (hstop : second.head? = some '.' → second.tail.head?.all Text.isBlank = false) :
    startsList (first ++ second) = false := by
  obtain ⟨number, rest, rfl, hnumber, hrest⟩ := exists_digits first
  cases rest with
  | nil =>
    rw [List.append_nil, startsList_append_digits hnumber hdigit]
    simpa [and_assoc] using fun _ => hstop
  | cons c rest =>
    rw [startsList_append_digits hnumber hrest] at hfirst
    have hmore : (c :: rest ++ second).head?.any Text.isDecimalDigit = false := hrest
    rw [List.append_assoc, startsList_append_digits hnumber hmore]
    cases rest with
    | nil =>
      simp only [List.head?_cons, List.tail_cons, List.head?_nil, Option.all_none,
        Bool.and_true] at hfirst
      rw [List.cons_append, List.head?_cons, hfirst, Bool.false_and]
    | cons d rest => exact hfirst

end Escape

end DocumentStream
