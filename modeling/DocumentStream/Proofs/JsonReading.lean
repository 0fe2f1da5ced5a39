import DocumentStream.Json.Printer
import DocumentStream.Json.Reader
import Mathlib.Data.List.TakeDrop

/-!
Reading back what was written as JSON. A reader is followed through the text of a value with
arbitrary text after it, and finds the value and that text again. Fuel as long as the text is
enough, since every call of a reader has a character of its own in the text. Numbers that are not
integers are left out: they may be written shortened.
-/

namespace DocumentStream

namespace Text

theorem ofNat_isDigit {n : Nat} {c : Char} (h : c ∈ ofNat n) : c.isDigit = true :=
  Nat.isDigit_of_mem_toDigits (by decide) (by decide) h

theorem exists_ofNat_eq_cons (n : Nat) :
    ∃ c digits, ofNat n = c :: digits ∧ c.isDigit = true := by
  obtain ⟨c, digits, hdigits⟩ := List.exists_cons_of_ne_nil
    (show ofNat n ≠ [] from Nat.toDigits_ne_nil)
  exact ⟨c, digits, hdigits, ofNat_isDigit (hdigits ▸ List.mem_cons_self)⟩

theorem exists_ofInt_eq_cons (n : Int) :
    ∃ c more, ofInt n = c :: more ∧ (c = '-' ∨ c.isDigit = true) := by
  cases n with
  | ofNat n =>
    obtain ⟨c, digits, hdigits, hc⟩ := exists_ofNat_eq_cons n
    exact ⟨c, digits, hdigits, .inr hc⟩
  | negSucc n => exact ⟨'-', ofNat (n + 1), rfl, .inl rfl⟩

/-- A run of digits is read as in the decimal system. -/
theorem toNat_eq_ofDigitChars {digits : Text} (h : ∀ c ∈ digits, c.isDigit = true) :
    toNat 10 digits = Nat.ofDigitChars 10 digits 0 := by
  rw [toNat, Nat.ofDigitChars_eq_foldl]
  generalize 0 = n
  induction digits generalizing n with
  | nil => rfl
  | cons c rest ih =>
    have hc : c.isDigit = true := h c List.mem_cons_self
    rw [List.foldl_cons, List.foldl_cons, ih fun d hd => h d (List.mem_cons_of_mem c hd),
      toNat.digitValue, if_pos hc, Nat.mul_comm]

theorem toNat_ofNat (n : Nat) : toNat 10 (ofNat n) = n := by
  rw [toNat_eq_ofDigitChars fun c hc => ofNat_isDigit hc]
  exact Nat.ofDigitChars_ten_toDigits

/-- No number but zero begins with a zero. -/
theorem head_ofNat_ne_zero {n : Nat} (hn : n ≠ 0) : (ofNat n).head? ≠ some '0' := by
  induction n using Nat.strongRecOn with
  | ind n ih =>
    rw [ofNat]
    by_cases hsmall : n < 10
    · rw [Nat.toDigits_of_lt_base hsmall]
      have hdigit : ∀ m < 10, m ≠ 0 → Nat.digitChar m ≠ '0' := by decide
      simpa using hdigit n hsmall hn
    · have hlarge : 10 ≤ n := Nat.le_of_not_lt hsmall
      have hrest := ih (n / 10) (by omega) (by omega)
      rw [Nat.toDigits_of_base_le (by decide) hlarge]
      have hne : Nat.toDigits 10 (n / 10) ≠ [] := Nat.toDigits_ne_nil
      obtain ⟨c, digits, hdigits⟩ := List.exists_cons_of_ne_nil hne
      simpa [ofNat, hdigits] using hrest

theorem eq_append_of_after? {start text rest : Text} (h : after? start text = some rest) :
    text = start ++ rest := by
  induction start generalizing text with
  | nil => exact Option.some.inj h
  | cons a start ih =>
    cases text with
    | nil => cases h
    | cons c text =>
      rw [after?] at h
      split at h
      · rename_i hc
        rw [List.cons_append, hc, ih h]
      · cases h

end Text

namespace Json

/-- Whether a number in front of a text cannot go on into it. -/
def EndsNumber (text : Text) : Prop :=
  ∀ c ∈ text.head?, c.isDigit = false ∧ c ≠ '.' ∧ c ≠ 'e' ∧ c ≠ 'E'

theorem spanDigits_append {digits rest : Text} (hdigits : ∀ c ∈ digits, c.isDigit = true)
    (hrest : EndsNumber rest) : spanDigits (digits ++ rest) = (digits, rest) := by
  have htake : rest.takeWhile Char.isDigit = [] := by
    cases rest with
    | nil => rfl
    | cons c rest => simp [(hrest c rfl).1]
  have hdrop : rest.dropWhile Char.isDigit = rest := by
    cases rest with
    | nil => rfl
    | cons c rest => simp [(hrest c rfl).1]
  rw [spanDigits, List.span_eq_takeWhile_dropWhile, List.takeWhile_append_of_pos hdigits,
    List.dropWhile_append_of_pos hdigits, htake, hdrop, List.append_nil]

theorem fraction?_eq_none {rest : Text} (h : EndsNumber rest) : fraction? rest = none := by
  cases rest with
  | nil => rfl
  | cons c rest =>
    have hc := (h c rfl).2.1
    unfold fraction?
    split
    · rename_i heq
      exact absurd (List.cons.inj heq).1 hc
    · rfl

theorem exponent?_eq_none {rest : Text} (h : EndsNumber rest) : exponent? rest = none := by
  cases rest with
  | nil => rfl
  | cons c rest =>
    obtain ⟨-, -, hlower, hupper⟩ := h c rfl
    unfold exponent?
    dsimp only
    rw [if_neg (by simp [hlower, hupper])]

theorem number?_ofNat (negative : Bool) (n : Nat) {rest : Text} (h : EndsNumber rest) :
    number? negative (Text.ofNat n ++ rest) =
      some (.int (if negative then -(n : Int) else n), rest) := by
  have hfraction := fraction?_eq_none h
  have hexponent := exponent?_eq_none h
  by_cases hn : n = 0
  · subst hn
    change number? negative ('0' :: rest) = _
    simp only [number?, Option.bind_eq_bind, Option.bind_some, hfraction, hexponent,
      Option.elim_none]
    rfl
  · obtain ⟨c, digits, hdigits, -⟩ := Text.exists_ofNat_eq_cons n
    have hc : c ≠ '0' := by
      intro hc
      have hhead := Text.head_ofNat_ne_zero hn
      rw [hdigits, hc] at hhead
      exact hhead rfl
    have hspan : spanDigits (c :: digits ++ rest) = (c :: digits, rest) := by
      rw [← hdigits]
      exact spanDigits_append (fun c hc => Text.ofNat_isDigit hc) h
    have hvalue : Text.toNat 10 (c :: digits) = n := by
      rw [← hdigits, Text.toNat_ofNat]
    rw [hdigits, number?]
    · simp only [hspan, Option.bind_eq_bind, Option.bind_some, hfraction, hexponent,
        Option.elim_none, hvalue]
    · intro more hmore
      exact hc (List.cons.inj hmore).1

/-- No word has a digit among its first two characters, and none has a single character. -/
theorem words_findSome?_eq_none {text : Text} (h : ∃ c ∈ text.take 2, c.isDigit = true) :
    (words.findSome? fun (word, value) => (Text.after? word text).map (value, ·)) = none := by
  have hall : words.all (fun entry =>
      decide (2 ≤ entry.1.length) && entry.1.all fun c => !c.isDigit) = true := rfl
  have hwords : ∀ entry ∈ words, 2 ≤ entry.1.length ∧ ∀ c ∈ entry.1, c.isDigit = false := by
    simpa using hall
  rw [List.findSome?_eq_none_iff]
  rintro ⟨word, value⟩ hword
  rw [Option.map_eq_none_iff, Option.eq_none_iff_forall_ne_some]
  intro rest hafter
  obtain ⟨c, hc, hdigit⟩ := h
  obtain ⟨hlength, hletters⟩ := hwords _ hword
  rw [Text.eq_append_of_after? hafter, List.take_append_of_le_length hlength] at hc
  rw [hletters c (List.mem_of_mem_take hc)] at hdigit
  cases hdigit

theorem readAtom_ofInt (n : Int) {rest : Text} (h : EndsNumber rest) :
    readAtom (Text.ofInt n ++ rest) = .ok (.int n, rest) := by
  cases n with
  | ofNat n =>
    obtain ⟨c, digits, hn, hc⟩ := Text.exists_ofNat_eq_cons n
    have hnumber := number?_ofNat false n h
    have hwords : (words.findSome? fun (word, value) =>
        (Text.after? word (Text.ofNat n ++ rest)).map (value, ·)) = none :=
      words_findSome?_eq_none ⟨c, by simp [hn], hc⟩
    rw [Text.ofInt, readAtom, hwords]
    · simp only [hnumber]
      rfl
    · rintro more hmore
      rw [hn] at hmore
      rw [(List.cons.inj hmore).1] at hc
      cases hc
  | negSucc n =>
    obtain ⟨c, digits, hn, hc⟩ := Text.exists_ofNat_eq_cons (n + 1)
    have hnumber := number?_ofNat true (n + 1) h
    have hwords : (words.findSome? fun (word, value) =>
        (Text.after? word ('-' :: Text.ofNat (n + 1) ++ rest)).map (value, ·)) = none :=
      words_findSome?_eq_none ⟨c, by simp [hn], hc⟩
    rw [Text.ofInt, List.cons_append] at *
    simp only [readAtom, hwords, hnumber]
    rfl

theorem hexFour?_append {text rest more : Text} {n : Nat} (h : hexFour? text = some (n, rest)) :
    hexFour? (text ++ more) = some (n, rest ++ more) := by
  unfold hexFour? at h
  split at h
  · rename_i a b c d after
    split at h
    · rename_i hall
      obtain ⟨rfl, rfl⟩ := Prod.mk.inj (Option.some.inj h)
      simp only [List.cons_append, hexFour?, hall, if_true]
    · cases h
  · cases h

/-- The escape of a control character is read as that character. -/
theorem readUnicode_hexadecimal {c : Char} (hc : c.toNat < 0x20) (start : Text) {more : Text}
    (hmore : more ≠ []) :
    readUnicode start (Text.hexadecimal 4 c.toNat ++ more) = .ok (c, more) := by
  have hsmall : ∀ n < 0x20, hexFour? (Text.hexadecimal 4 n) = some (n, []) ∧
      isHighSurrogate n = false ∧ n.isValidChar := by decide
  obtain ⟨hhex, hhigh, hvalid⟩ := hsmall c.toNat hc
  have hunit : unitChar c.toNat = c := by
    rw [unitChar, if_pos hvalid, Char.ofNat_toNat]
  have hread : hexFour? (Text.hexadecimal 4 c.toNat ++ more) = some (c.toNat, more) :=
    hexFour?_append hhex
  obtain ⟨next, after, rfl⟩ := List.exists_cons_of_ne_nil hmore
  simp only [readUnicode, hread, hhigh, hunit, Bool.false_and]
  split <;> rfl

/-- However a character is written in a string, it is read as itself. -/
theorem readString_stringChar (start : Text) (fuel : Nat) (c : Char) {more : Text}
    (hmore : more ≠ []) :
    readString start (fuel + 1) (stringChar c ++ more) =
      (readString start fuel more).map fun (chars, after) => (c :: chars, after) := by
  unfold stringChar
  split
  · rename_i hc
    rcases hc with rfl | rfl
    · rfl
    · rfl
  · rename_i hplain
    split_ifs with hlf hcr htab hback hfeed hcontrol
    · subst hlf; rfl
    · subst hcr; rfl
    · subst htab; rfl
    · subst hback; rfl
    · subst hfeed; rfl
    · change readString start (fuel + 1)
        ('\\' :: 'u' :: (Text.hexadecimal 4 c.toNat ++ more)) = _
      rw [readString, if_neg (by decide), if_pos rfl]
      simp only [readUnicode_hexadecimal hcontrol _ hmore]
      rfl
    · rw [List.singleton_append, readString.eq_def]
      dsimp only
      rw [if_neg fun hc => hplain (.inl hc), if_neg fun hc => hplain (.inr hc), if_neg hcontrol]
      rfl

theorem string_append (text rest : Text) :
    string text ++ rest = '"' :: (text.flatMap stringChar ++ '"' :: rest) := by
  simp [string]

theorem stringChar_ne_nil (c : Char) : stringChar c ≠ [] := by
  unfold stringChar
  split_ifs <;> simp

theorem length_add_two_le_string (text : Text) : text.length + 2 ≤ (string text).length := by
  have hchars : text.length ≤ (text.flatMap stringChar).length := by
    induction text with
    | nil => exact Nat.le_refl 0
    | cons c text ih =>
      have hc := List.length_pos_iff.mpr (stringChar_ne_nil c)
      rw [List.flatMap_cons, List.length_append, List.length_cons]
      omega
  simpa [string] using hchars

/-- A string is read up to its closing quote. -/
theorem readString_flatMap (start text rest : Text) (fuel : Nat) (hfuel : text.length < fuel) :
    readString start fuel (text.flatMap stringChar ++ '"' :: rest) = .ok (text, rest) := by
  induction text generalizing fuel with
  | nil =>
    obtain ⟨fuel, rfl⟩ := Nat.exists_eq_add_one_of_ne_zero (Nat.ne_zero_of_lt hfuel)
    rw [List.flatMap_nil, List.nil_append, readString.eq_def]
    exact if_pos rfl
  | cons c text ih =>
    obtain ⟨fuel, rfl⟩ := Nat.exists_eq_add_one_of_ne_zero (Nat.ne_zero_of_lt hfuel)
    have hmore : text.flatMap stringChar ++ '"' :: rest ≠ [] := by simp
    rw [List.flatMap_cons, List.append_assoc, readString_stringChar start fuel c hmore,
      ih fuel (Nat.lt_of_succ_lt_succ hfuel)]
    rfl

theorem readValue_eq_readAtom {fuel : Nat} {c : Char} {text : Text}
    (hc : c ≠ '"' ∧ c ≠ '[' ∧ c ≠ '{') :
    readValue (fuel + 1) (c :: text) = readAtom (c :: text) := by
  obtain ⟨hquote, hbracket, hbrace⟩ := hc
  rw [readValue]
  · intro rest h
    exact hquote (List.cons.inj h).1
  · intro rest h
    exact hbracket (List.cons.inj h).1
  · intro rest h
    exact hbrace (List.cons.inj h).1

/-- Whether the text written for a value is read as that value, whatever stands behind it, and does
not begin with white space, the end of a list or a byte order mark. -/
structure ReadsBack (indent : Option Int) (level : Nat) (value : Value) : Prop where
  starts : ∃ c text, print indent level value = c :: text ∧ isSpace c = false ∧ c ∉ [']', '\ufeff']
  reads : ∀ (fuel : Nat) (rest : Text), (print indent level value).length ≤ fuel →
    EndsNumber rest → readValue fuel (print indent level value ++ rest) = .ok (value, rest)

theorem skipSpace_cons {c : Char} (hc : isSpace c = false) (text : Text) :
    skipSpace (c :: text) = c :: text := by
  simp [skipSpace, hc]

section

variable {indent : Option Int} {level : Nat}

theorem ReadsBack.skipSpace_eq {value : Value} (h : ReadsBack indent level value) (text : Text) :
    skipSpace (print indent level value ++ text) = print indent level value ++ text := by
  obtain ⟨c, more, hprint, hspace, -⟩ := h.starts
  rw [hprint, List.cons_append, skipSpace_cons hspace]

theorem ReadsBack.of_fuel_pos {value : Value}
    (hstarts : ∃ c text, print indent level value = c :: text ∧ isSpace c = false ∧
      c ∉ [']', '\ufeff'])
    (hreads : ∀ (fuel : Nat) (rest : Text), (print indent level value).length ≤ fuel + 1 →
      EndsNumber rest →
      readValue (fuel + 1) (print indent level value ++ rest) = .ok (value, rest)) :
    ReadsBack indent level value := by
  refine ⟨hstarts, fun fuel rest hfuel hrest => ?_⟩
  cases fuel with
  | zero =>
    obtain ⟨c, text, hprint, -⟩ := hstarts
    rw [hprint] at hfuel
    exact absurd hfuel (Nat.not_succ_le_zero _)
  | succ fuel => exact hreads fuel rest hfuel hrest

theorem readsBack_null : ReadsBack indent level .null :=
  .of_fuel_pos ⟨'n', ['u', 'l', 'l'], rfl, rfl, by decide⟩ fun _ _ _ _ => rfl

theorem readsBack_bool (b : Bool) : ReadsBack indent level (.bool b) := by
  cases b with
  | false =>
    exact .of_fuel_pos ⟨'f', ['a', 'l', 's', 'e'], rfl, rfl, by decide⟩ fun _ _ _ _ => rfl
  | true => exact .of_fuel_pos ⟨'t', ['r', 'u', 'e'], rfl, rfl, by decide⟩ fun _ _ _ _ => rfl

theorem readsBack_int (n : Int) : ReadsBack indent level (.int n) := by
  obtain ⟨c, more, hn, hc⟩ := Text.exists_ofInt_eq_cons n
  have hprint : print indent level (.int n) = c :: more := hn
  have hspace : isSpace c = false := by
    rcases hc with rfl | hc
    · rfl
    · simp only [isSpace, Bool.or_eq_false_iff, beq_eq_false_iff_ne]
      refine ⟨⟨⟨?_, ?_⟩, ?_⟩, ?_⟩ <;> (rintro rfl; revert hc; decide)
  have hother : c ∉ [']', '\ufeff', '"', '[', '{'] := by
    rcases hc with rfl | hc
    · decide
    · simp only [List.mem_cons, List.not_mem_nil, or_false, not_or]
      refine ⟨?_, ?_, ?_, ?_, ?_⟩ <;> (rintro rfl; revert hc; decide)
  refine .of_fuel_pos ⟨c, more, hprint, hspace, by grind⟩ ?_
  intro fuel rest _ hrest
  rw [hprint, List.cons_append, readValue_eq_readAtom (by grind), ← List.cons_append, ← hn]
  exact readAtom_ofInt n hrest

theorem readsBack_str (text : Text) : ReadsBack indent level (.str text) := by
  refine .of_fuel_pos ⟨'"', text.flatMap stringChar ++ ['"'], rfl, rfl, by decide⟩ ?_
  intro fuel rest hfuel _
  have hlength : (string text).length ≤ fuel + 1 := hfuel
  have htext := length_add_two_le_string text
  change readValue (fuel + 1) (string text ++ rest) = _
  rw [string_append, readValue, readString_flatMap _ _ _ _ (by omega)]
  rfl

theorem skipSpace_lineBreak (text : Text) :
    skipSpace (lineBreak indent level ++ text) = skipSpace text := by
  cases indent with
  | none => rfl
  | some width =>
    have hspaces : ∀ c ∈ '\n' :: Text.times (width * level) [' '], isSpace c = true := by
      simp [Text.times, isSpace]
    exact List.dropWhile_append_of_pos hspaces

theorem separator_eq (indent : Option Int) (level : Nat) :
    ∃ blank, separator indent level = ',' :: blank ∧
      ∀ text, skipSpace (blank ++ text) = skipSpace text := by
  cases indent with
  | none => exact ⟨[' '], rfl, fun _ => rfl⟩
  | some width => exact ⟨lineBreak (some width) level, rfl, skipSpace_lineBreak⟩

theorem endsNumber_cons {c : Char} (hc : c ∈ [',', ']', '}', '\n']) (text : Text) :
    EndsNumber (c :: text) := by
  rintro d ⟨⟩
  simp only [List.mem_cons, List.not_mem_nil, or_false] at hc
  rcases hc with rfl | rfl | rfl | rfl
  all_goals exact ⟨rfl, by decide, by decide, by decide⟩

theorem endsNumber_lineBreak {c : Char} (hc : c ∈ [']', '}']) (text : Text) :
    EndsNumber (lineBreak indent level ++ c :: text) := by
  cases indent with
  | none => exact endsNumber_cons (by grind) text
  | some width => exact endsNumber_cons (by decide) _

/-- The items of a list are read up to its closing bracket. -/
theorem readItems_printItems {item : Value} {items : List Value}
    (hread : ∀ value ∈ item :: items, ReadsBack indent level value) (outer fuel : Nat)
    (hfuel : (print indent level item ++ printItems indent level items).length < fuel)
    (rest : Text) :
    readItems fuel (print indent level item ++ (printItems indent level items ++
      (lineBreak indent outer ++ ']' :: rest))) = .ok (item :: items, rest) := by
  -- Every item has at least its separator between it and the one before, so that the fuel lasts.
  obtain ⟨fuel, rfl⟩ := Nat.exists_eq_add_one_of_ne_zero (Nat.ne_zero_of_lt hfuel)
  induction items generalizing item fuel with
  | nil =>
    rw [printItems, List.append_nil] at hfuel
    have hitem := (hread item List.mem_cons_self).reads fuel (lineBreak indent outer ++ ']' :: rest)
      (Nat.le_of_lt_succ hfuel) (endsNumber_lineBreak (by decide) rest)
    have hclose : skipSpace (lineBreak indent outer ++ ']' :: rest) = ']' :: rest := by
      rw [skipSpace_lineBreak, skipSpace_cons rfl]
    rw [readItems, printItems, List.nil_append, hitem]
    simp only [bind, Except.bind, hclose]
    rfl
  | cons next items ih =>
    obtain ⟨hitem, hread⟩ := List.forall_mem_cons.mp hread
    obtain ⟨blank, hseparator, hblank⟩ := separator_eq indent level
    simp only [printItems, hseparator, List.length_append, List.length_cons] at hfuel
    have hlater : (print indent level next ++ printItems indent level items).length < fuel := by
      rw [List.length_append]
      omega
    obtain ⟨fuel, rfl⟩ := Nat.exists_eq_add_one_of_ne_zero (Nat.ne_zero_of_lt hlater)
    have hnext := (hread next List.mem_cons_self).skipSpace_eq
    rw [readItems, printItems, hseparator]
    simp only [List.append_assoc, List.cons_append]
    rw [hitem.reads _ _ (by omega) (endsNumber_cons (by decide) _)]
    simp only [bind, Except.bind, skipSpace_cons (show isSpace ',' = false from rfl), hblank, hnext,
      ih hread fuel hlater]
    rfl

end

end Json

namespace Entries

/-- Whether all keys are texts and no two the same, as the names of the members of an object. -/
def HasDistinctNames (entries : Entries) : Prop :=
  (entries.map (·.1)).Nodup ∧ ∀ entry ∈ entries, ∃ name, entry.1 = .str name

theorem same_str (key : Key) (name : Text) : key.same (.str name) = (key == .str name) := by
  cases key <;> simp +contextual [Key.same, Key.numeric?, Key.instant?, Option.isSome_iff_ne_none]

theorem insert_eq_append {entries : Entries} {name : Text} (value : Value)
    (h : Key.str name ∉ entries.map (·.1)) :
    insert (.str name) value entries = entries ++ [(.str name, value)] := by
  induction entries with
  | nil => rfl
  | cons entry rest ih =>
    obtain ⟨key, other⟩ := entry
    rw [List.map_cons, List.mem_cons, not_or] at h
    have hkey : key.same (.str name) = false := by
      rw [same_str]
      exact beq_false_of_ne fun hsame => h.1 hsame.symm
    rw [insert, hkey, ih h.2]
    rfl

theorem HasDistinctNames.not_mem {before after : Entries} {entry : Key × Value}
    (h : HasDistinctNames (before ++ entry :: after)) : entry.1 ∉ before.map (·.1) := by
  intro hbefore
  have hnodup := h.1
  rw [List.map_append, List.map_cons] at hnodup
  exact (List.nodup_append.mp hnodup).2.2 _ hbefore _ List.mem_cons_self rfl

end Entries

namespace Json

variable {indent : Option Int} {level : Nat}

/-- A member of an object is read with its value, whatever follows it. -/
theorem readMembers_member {entries : Entries} {name : Text} {value : Value}
    (hvalue : ReadsBack indent level value) (hfresh : Key.str name ∉ entries.map (·.1)) {fuel : Nat}
    (hfuel : (string name).length + (print indent level value).length ≤ fuel) {after : Text}
    (hafter : EndsNumber after) :
    readMembers (fuel + 1) entries
        (string name ++ ':' :: ' ' :: (print indent level value ++ after)) =
      match skipSpace after with
      | '}' :: rest => .ok (entries ++ [(.str name, value)], rest)
      | ',' :: rest => readMembers fuel (entries ++ [(.str name, value)]) (skipSpace rest)
      | rest => .error ⟨.comma, rest⟩ := by
  have hname := length_add_two_le_string name
  have hblank : skipSpace (' ' :: (print indent level value ++ after)) =
      print indent level value ++ after := hvalue.skipSpace_eq after
  rw [string_append, readMembers, readString_flatMap _ _ _ _ (by omega)]
  simp only [bind, Except.bind, skipSpace_cons (show isSpace ':' = false from rfl), hblank,
    hvalue.reads fuel after (by omega) hafter, Entries.insert_eq_append value hfresh]
  rfl

/-- The members of an object are read up to its closing brace and come behind those that were read
before. -/
theorem readMembers_printMembers {entries members : Entries} {name : Text}
    {value : Value} (hvalue : ReadsBack indent level value)
    (hmembers : ∀ entry ∈ members, ReadsBack indent level entry.2)
    (hkeys : Entries.HasDistinctNames (entries ++ (.str name, value) :: members)) (outer fuel : Nat)
    (hfuel : (string name ++ ':' :: ' ' :: (print indent level value ++
      printMembers indent level members)).length < fuel) (rest : Text) :
    readMembers fuel entries (string name ++ ':' :: ' ' :: (print indent level value ++
      (printMembers indent level members ++ (lineBreak indent outer ++ '}' :: rest)))) =
        .ok (entries ++ (.str name, value) :: members, rest) := by
  -- The induction moves one member after the other from those to come to those that were read.
  obtain ⟨fuel, rfl⟩ := Nat.exists_eq_add_one_of_ne_zero (Nat.ne_zero_of_lt hfuel)
  induction members generalizing entries name value fuel with
  | nil =>
    simp only [printMembers, List.append_nil, List.length_append, List.length_cons] at hfuel
    rw [printMembers, List.nil_append, readMembers_member hvalue hkeys.not_mem (by omega)
      (endsNumber_lineBreak (by decide) rest), skipSpace_lineBreak, skipSpace_cons rfl]
    rfl
  | cons next members ih =>
    obtain ⟨nextName, hnext⟩ : ∃ nextName, next.1 = .str nextName :=
      hkeys.2 next (by simp)
    obtain ⟨key, other⟩ := next
    obtain rfl : key = .str nextName := hnext
    obtain ⟨hother, hmembers⟩ := List.forall_mem_cons.mp hmembers
    obtain ⟨blank, hseparator, hblank⟩ := separator_eq indent level
    simp only [printMembers, memberName, hseparator, List.length_append, List.length_cons] at hfuel
    have hlater : (string nextName ++ ':' :: ' ' :: (print indent level other ++
        printMembers indent level members)).length < fuel := by
      simp only [List.length_append, List.length_cons]
      omega
    have hkeys' : Entries.HasDistinctNames
        (entries ++ [(.str name, value)] ++ (.str nextName, other) :: members) := by
      rwa [List.append_assoc, List.singleton_append]
    obtain ⟨fuel, rfl⟩ := Nat.exists_eq_add_one_of_ne_zero (Nat.ne_zero_of_lt hlater)
    have hread := ih hother hmembers hkeys' fuel hlater
    rw [printMembers, memberName, hseparator]
    simp only [List.append_assoc, List.cons_append]
    rw [readMembers_member hvalue hkeys.not_mem (by omega) (endsNumber_cons (by decide) _),
      skipSpace_cons rfl]
    simp only [List.append_assoc, List.singleton_append] at hread
    simp only [hblank, string_append, skipSpace_cons (show isSpace '"' = false from rfl)] at hread ⊢
    exact hread

end Json

/-- Whether a value is written without loss: its numbers are integers and the keys of its mappings
are texts, no two the same. -/
inductive Value.Storable : Value → Prop
  | null : Storable .null
  | bool (b : Bool) : Storable (.bool b)
  | int (n : Int) : Storable (.int n)
  | str (text : Text) : Storable (.str text)
  | list {items : List Value} (hitems : ∀ item ∈ items, Storable item) : Storable (.list items)
  | map {entries : Entries} (hkeys : entries.HasDistinctNames)
      (hvalues : ∀ entry ∈ entries, Storable entry.2) : Storable (.map entries)

namespace Json

variable {indent : Option Int} {level : Nat}

theorem readValue_bracket {fuel : Nat} {text : Text} (h : (skipSpace text).head? ≠ some ']') :
    readValue (fuel + 1) ('[' :: text) =
      (readItems fuel (skipSpace text)).map fun (items, after) => (.list items, after) := by
  rw [readValue]
  split
  · rename_i heq
    rw [heq] at h
    exact absurd rfl h
  · rfl

theorem readValue_brace {fuel : Nat} {text : Text} (h : (skipSpace text).head? ≠ some '}') :
    readValue (fuel + 1) ('{' :: text) =
      (readMembers fuel [] (skipSpace text)).map fun (entries, after) => (.map entries, after) := by
  rw [readValue]
  split
  · rename_i heq
    rw [heq] at h
    exact absurd rfl h
  · rfl

theorem readsBack_list {items : List Value}
    (hitems : ∀ item ∈ items, ReadsBack indent (level + 1) item) :
    ReadsBack indent level (.list items) := by
  cases items with
  | nil =>
    exact .of_fuel_pos ⟨'[', [']'], rfl, rfl, by decide⟩ fun _ _ _ _ => rfl
  | cons item items =>
    refine .of_fuel_pos ⟨'[', _, by rw [print]; rfl, rfl, by decide⟩ ?_
    intro fuel rest hfuel _
    simp only [print, List.length_append, List.length_cons] at hfuel
    have hitem := hitems item List.mem_cons_self
    have hread := readItems_printItems hitems level fuel (by rw [List.length_append]; omega) rest
    have hstart : ∀ after, (print indent (level + 1) item ++ after).head? ≠ some ']' := by
      obtain ⟨c, text, hprint, -, hc⟩ := hitem.starts
      intro after
      rw [hprint]
      rintro ⟨⟩
      exact hc List.mem_cons_self
    rw [print]
    simp only [List.append_assoc, List.cons_append, List.nil_append]
    rw [readValue_bracket] <;> rw [skipSpace_lineBreak, hitem.skipSpace_eq]
    · rw [hread]
      rfl
    · exact hstart _

theorem readsBack_map {entries : Entries} (hkeys : entries.HasDistinctNames)
    (hvalues : ∀ entry ∈ entries, ReadsBack indent (level + 1) entry.2) :
    ReadsBack indent level (.map entries) := by
  cases entries with
  | nil =>
    exact .of_fuel_pos ⟨'{', ['}'], rfl, rfl, by decide⟩ fun _ _ _ _ => rfl
  | cons entry entries =>
    obtain ⟨name, hname⟩ := hkeys.2 entry List.mem_cons_self
    obtain ⟨key, value⟩ := entry
    obtain rfl : key = .str name := hname
    refine .of_fuel_pos ⟨'{', _, by rw [print]; rfl, rfl, by decide⟩ ?_
    intro fuel rest hfuel _
    simp only [print, memberName, List.length_append, List.length_cons] at hfuel
    obtain ⟨hvalue, hvalues⟩ := List.forall_mem_cons.mp hvalues
    have hkeys' : Entries.HasDistinctNames ([] ++ (.str name, value) :: entries) := hkeys
    have hread := readMembers_printMembers hvalue hvalues hkeys' level fuel
      (by simp only [List.length_append, List.length_cons]; omega) rest
    have hblank (after : Text) : skipSpace (string name ++ after) = string name ++ after := by
      rw [string_append, skipSpace_cons rfl]
    rw [print, memberName]
    simp only [List.append_assoc, List.cons_append, List.nil_append]
    rw [readValue_brace] <;> rw [skipSpace_lineBreak, hblank]
    · rw [hread]
      rfl
    · simp [string]

/-- What is written for a value is read as that value. -/
theorem readsBack_of_storable {value : Value} (h : value.Storable) :
    ReadsBack indent level value := by
  induction h generalizing level with
  | null => exact readsBack_null
  | bool b => exact readsBack_bool b
  | int n => exact readsBack_int n
  | str text => exact readsBack_str text
  | list _ ih => exact readsBack_list fun item hitem => ih item hitem
  | map hkeys _ ih => exact readsBack_map hkeys fun entry hentry => ih entry hentry

theorem areItemsPrintable_of_forall {items : List Value}
    (h : ∀ item ∈ items, isPrintable item = true) : areItemsPrintable items = true := by
  induction items with
  | nil => rw [areItemsPrintable]
  | cons item rest ih =>
    obtain ⟨hitem, hrest⟩ := List.forall_mem_cons.mp h
    rw [areItemsPrintable, hitem, ih hrest, Bool.and_self]

theorem areMembersPrintable_of_forall {entries : Entries}
    (hkeys : ∀ entry ∈ entries, ∃ name, entry.1 = .str name)
    (hvalues : ∀ entry ∈ entries, isPrintable entry.2 = true) :
    areMembersPrintable entries = true := by
  induction entries with
  | nil => rw [areMembersPrintable]
  | cons entry rest ih =>
    obtain ⟨key, value⟩ := entry
    obtain ⟨⟨name, rfl⟩, hrestKeys⟩ := List.forall_mem_cons.mp hkeys
    obtain ⟨hvalue, hrest⟩ := List.forall_mem_cons.mp hvalues
    rw [areMembersPrintable, isMemberName, hvalue, ih hrestKeys hrest, Bool.and_self, Bool.and_self]

theorem isPrintable_of_storable {value : Value} (h : value.Storable) :
    isPrintable value = true := by
  induction h with
  | null | bool _ | int _ | str _ => rw [isPrintable]
  | list _ ih => rw [isPrintable, areItemsPrintable_of_forall ih]
  | map hkeys _ ih => rw [isPrintable, areMembersPrintable_of_forall hkeys.2 ih]

theorem write_of_storable {value : Value} (h : value.Storable) (indent : Option Int) :
    write indent value = .ok (print indent 0 value) :=
  if_pos (isPrintable_of_storable h)

/-- Reading takes back writing. -/
theorem read_print {value : Value} (h : value.Storable) (indent : Option Int) :
    read (print indent 0 value) = .ok value := by
  have hback : ReadsBack indent 0 value := readsBack_of_storable h
  have hread := hback.reads (2 * (print indent 0 value).length + 2) [] (by omega)
    (by simp [EndsNumber])
  obtain ⟨c, text, hprint, hspace, hc⟩ := hback.starts
  rw [List.append_nil, hprint] at hread
  rw [hprint, read]
  · simp only [skipSpace_cons hspace, hread]
    rfl
  · rintro more ⟨⟩
    exact hc (by decide)

end Json

end DocumentStream
