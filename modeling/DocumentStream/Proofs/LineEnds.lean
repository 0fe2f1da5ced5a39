import DocumentStream.Proofs.JsonSteps
import DocumentStream.Text.Lines

/-!
Line ends in JSON. Outside of strings every line end is white space, and within a string no line end
can stand, so a text that is read as a value is read as the same value once its line ends have been
unified. The text may get shorter by that, and is read with less fuel.
-/

namespace DocumentStream

namespace Text

theorem unifyLineEnds_cons {c : Char} (hc : c ≠ '\r') (text : Text) :
    unifyLineEnds (c :: text) = c :: unifyLineEnds text := by
  rw [unifyLineEnds, if_neg hc]
  intro rest h _
  exact hc h

/-- What is left of a carriage return is a line feed. -/
theorem exists_unifyLineEnds_return (text : Text) :
    ∃ rest, unifyLineEnds ('\r' :: text) = '\n' :: unifyLineEnds rest := by
  cases text with
  | nil => exact ⟨[], rfl⟩
  | cons c text =>
    by_cases hc : c = '\n'
    · subst hc
      exact ⟨text, rfl⟩
    · refine ⟨c :: text, ?_⟩
      rw [unifyLineEnds, if_pos rfl]
      rintro rest - h
      exact hc (List.cons.inj h).1

theorem unifyLineEnds_eq_nil_iff {text : Text} : unifyLineEnds text = [] ↔ text = [] := by
  constructor
  · intro h
    cases text with
    | nil => rfl
    | cons c text =>
      by_cases hc : c = '\r'
      · subst hc
        obtain ⟨rest, hrest⟩ := exists_unifyLineEnds_return text
        rw [hrest] at h
        cases h
      · rw [unifyLineEnds_cons hc] at h
        cases h
  · rintro rfl
    rfl

/-- A character that is not part of a line end stands where it stood. -/
theorem exists_of_unifyLineEnds_eq_cons {text rest : Text} {c : Char} (hc : c ≠ '\n')
    (h : unifyLineEnds text = c :: rest) :
    ∃ more, text = c :: more ∧ rest = unifyLineEnds more := by
  cases text with
  | nil => cases h
  | cons d text =>
    by_cases hd : d = '\r'
    · subst hd
      obtain ⟨after, hafter⟩ := exists_unifyLineEnds_return text
      rw [hafter] at h
      exact absurd (List.cons.inj h).1.symm hc
    · rw [unifyLineEnds_cons hd] at h
      obtain ⟨rfl, rfl⟩ := List.cons.inj h
      exact ⟨text, rfl, rfl⟩

theorem length_unifyLineEnds_le (text : Text) : (unifyLineEnds text).length ≤ text.length := by
  induction text using unifyLineEnds.induct with
  | case1 => exact Nat.le_refl 0
  | case2 rest ih =>
    rw [unifyLineEnds, List.length_cons, List.length_cons, List.length_cons]
    omega
  | case3 c rest hne ih =>
    rw [unifyLineEnds, List.length_cons, List.length_cons]
    · omega
    · exact hne

/-- A run of characters in front that either takes in all line ends or none is dropped before as
after they are unified. -/
theorem dropWhile_unifyLineEnds {p : Char → Bool} (hp : p '\r' = p '\n') (text : Text) :
    (unifyLineEnds text).dropWhile p = unifyLineEnds (text.dropWhile p) := by
  induction text using unifyLineEnds.induct with
  | case1 => rfl
  | case2 rest ih =>
    cases hfeed : p '\n' with
    | false => simp [unifyLineEnds, hp, hfeed]
    | true => simp [unifyLineEnds, hp, hfeed, ih]
  | case3 c rest hne ih =>
    have hunified : unifyLineEnds (c :: rest) =
        (if c = '\r' then '\n' else c) :: unifyLineEnds rest := by
      rw [unifyLineEnds]
      exact hne
    have hsame : p (if c = '\r' then '\n' else c) = p c := by
      split
      · rename_i hc
        rw [hc, hp]
      · rfl
    rw [hunified, List.dropWhile_cons, List.dropWhile_cons, hsame]
    cases p c with
    | false =>
      rw [if_neg Bool.false_ne_true, if_neg Bool.false_ne_true, hunified]
    | true => rw [if_pos rfl, if_pos rfl, ih]

theorem takeWhile_unifyLineEnds {p : Char → Bool} (hreturn : p '\r' = false)
    (hfeed : p '\n' = false) (text : Text) :
    (unifyLineEnds text).takeWhile p = text.takeWhile p := by
  induction text with
  | nil => rfl
  | cons c text ih =>
    by_cases hc : c = '\r'
    · subst hc
      obtain ⟨rest, hrest⟩ := exists_unifyLineEnds_return text
      rw [hrest, List.takeWhile_cons, List.takeWhile_cons, hreturn, hfeed]
      rfl
    · rw [unifyLineEnds_cons hc, List.takeWhile_cons, List.takeWhile_cons, ih]

theorem after?_unifyLineEnds {start : Text} (hstart : ∀ c ∈ start, c ≠ '\r' ∧ c ≠ '\n')
    (text : Text) : after? start (unifyLineEnds text) = (after? start text).map unifyLineEnds := by
  induction start generalizing text with
  | nil => rfl
  | cons a start ih =>
    obtain ⟨ha, hstart⟩ := List.forall_mem_cons.mp hstart
    cases text with
    | nil => rfl
    | cons c text =>
      by_cases hc : c = '\r'
      · subst hc
        obtain ⟨rest, hrest⟩ := exists_unifyLineEnds_return text
        rw [hrest, after?, after?, if_neg ha.1, if_neg ha.2]
        rfl
      · rw [unifyLineEnds_cons hc, after?, after?, ih hstart]
        split <;> rfl

end Text

namespace Json

open Text (unifyLineEnds)

theorem skipSpace_unifyLineEnds (text : Text) :
    skipSpace (unifyLineEnds text) = unifyLineEnds (skipSpace text) :=
  Text.dropWhile_unifyLineEnds rfl text

theorem spanDigits_unifyLineEnds (text : Text) :
    spanDigits (unifyLineEnds text) =
      ((spanDigits text).1, unifyLineEnds (spanDigits text).2) := by
  simp only [spanDigits, List.span_eq_takeWhile_dropWhile]
  rw [Text.takeWhile_unifyLineEnds rfl rfl, Text.dropWhile_unifyLineEnds rfl]

/-- What a reader of a part of a number found, with the line ends of the text behind it unified. -/
def unifyAfter {α : Type} (found : α × Text) : α × Text := (found.1, unifyLineEnds found.2)

theorem fraction?_unifyLineEnds (text : Text) :
    fraction? (unifyLineEnds text) = (fraction? text).map unifyAfter := by
  cases text with
  | nil => rfl
  | cons c text =>
    by_cases hreturn : c = '\r'
    · subst hreturn
      obtain ⟨rest, hrest⟩ := Text.exists_unifyLineEnds_return text
      rw [hrest]
      rfl
    · rw [Text.unifyLineEnds_cons hreturn]
      by_cases hpoint : c = '.'
      · subst hpoint
        simp only [fraction?, spanDigits_unifyLineEnds]
        cases hdigits : spanDigits text with
        | mk digits after => cases digits <;> rfl
      · unfold fraction?
        split
        · rename_i heq
          exact absurd (List.cons.inj heq).1 hpoint
        · split
          · rename_i heq
            exact absurd (List.cons.inj heq).1 hpoint
          · rfl

theorem exponentDigits?_unifyLineEnds (negative : Bool) (text : Text) :
    exponentDigits? negative (unifyLineEnds text) =
      (exponentDigits? negative text).map unifyAfter := by
  rw [exponentDigits?, exponentDigits?, spanDigits_unifyLineEnds]
  cases hdigits : spanDigits text with
  | mk digits after => cases digits <;> rfl

theorem unsign_unifyLineEnds (text : Text) :
    unsign (unifyLineEnds text) = unifyAfter (unsign text) := by
  by_cases hsign : ∃ c ∈ ['-', '+'], ∃ more, text = c :: more
  · obtain ⟨c, hc, more, rfl⟩ := hsign
    simp only [List.mem_cons, List.not_mem_nil, or_false] at hc
    rcases hc with rfl | rfl
    · rw [Text.unifyLineEnds_cons (by decide)]
      rfl
    · rw [Text.unifyLineEnds_cons (by decide)]
      rfl
  · have hunified : ∀ c ∈ ['-', '+'], ∀ more, unifyLineEnds text ≠ c :: more := by
      intro c hc more h
      have hfeed : c ≠ '\n' := by
        rintro rfl
        revert hc
        decide
      obtain ⟨rest, hrest, -⟩ := Text.exists_of_unifyLineEnds_eq_cons hfeed h
      exact hsign ⟨c, hc, rest, hrest⟩
    rw [unsign, unsign]
    · rfl
    · exact fun more h => hsign ⟨'-', by decide, more, h⟩
    · exact fun more h => hsign ⟨'+', by decide, more, h⟩
    · exact fun more h => hunified '-' (by decide) more h
    · exact fun more h => hunified '+' (by decide) more h

theorem exponent?_unifyLineEnds (text : Text) :
    exponent? (unifyLineEnds text) = (exponent? text).map unifyAfter := by
  cases text with
  | nil => rfl
  | cons mark text =>
    by_cases hreturn : mark = '\r'
    · subst hreturn
      obtain ⟨rest, hrest⟩ := Text.exists_unifyLineEnds_return text
      rw [hrest]
      rfl
    rw [Text.unifyLineEnds_cons hreturn]
    by_cases hmark : mark = 'e' ∨ mark = 'E'
    · rw [exponent?_of_mark hmark, exponent?_of_mark hmark, unsign_unifyLineEnds]
      exact exponentDigits?_unifyLineEnds (unsign text).1 (unsign text).2
    · rw [exponent?_of_no_mark hmark, exponent?_of_no_mark hmark]
      rfl

theorem whole?_unifyLineEnds (text : Text) :
    whole? (unifyLineEnds text) = (whole? text).map unifyAfter := by
  by_cases hzero : ∃ rest, text = '0' :: rest
  · obtain ⟨rest, rfl⟩ := hzero
    rw [Text.unifyLineEnds_cons (by decide)]
    rfl
  · rw [whole?, whole?, spanDigits_unifyLineEnds]
    · cases hdigits : spanDigits text with
      | mk digits rest => cases digits <;> rfl
    · exact fun rest h => hzero ⟨rest, h⟩
    · intro rest h
      obtain ⟨more, hmore, -⟩ := Text.exists_of_unifyLineEnds_eq_cons (by decide) h
      exact hzero ⟨more, hmore⟩

theorem ofWhole_unifyLineEnds (negative : Bool) (whole rest : Text) :
    ofWhole negative whole (unifyLineEnds rest) = unifyAfter (ofWhole negative whole rest) := by
  have hplaces : (fraction? (unifyLineEnds rest)).elim (unifyLineEnds rest) (·.2) =
      unifyLineEnds ((fraction? rest).elim rest (·.2)) := by
    rw [fraction?_unifyLineEnds]
    cases fraction? rest <;> rfl
  rw [ofWhole, ofWhole, hplaces, fraction?_unifyLineEnds, exponent?_unifyLineEnds]
  generalize fraction? rest = fraction
  generalize exponent? (fraction.elim rest (·.2)) = exponent
  cases fraction <;> cases exponent <;> rfl

theorem number?_unifyLineEnds (negative : Bool) (text : Text) :
    number? negative (unifyLineEnds text) = (number? negative text).map unifyAfter := by
  rw [number?_eq, number?_eq, whole?_unifyLineEnds, Option.map_map, Option.map_map]
  congr 1
  funext found
  exact ofWhole_unifyLineEnds negative found.1 found.2

theorem findWord_unifyLineEnds {entries : List (Text × Value)}
    (hplain : ∀ entry ∈ entries, ∀ c ∈ entry.1, c ≠ '\r' ∧ c ≠ '\n') (text : Text) :
    (entries.findSome? fun (word, value) =>
      (Text.after? word (unifyLineEnds text)).map (value, ·)) =
      (entries.findSome? fun (word, value) => (Text.after? word text).map (value, ·)).map
        unifyAfter := by
  induction entries with
  | nil => rfl
  | cons entry entries ih =>
    obtain ⟨hentry, hplain⟩ := List.forall_mem_cons.mp hplain
    rw [List.findSome?_cons, List.findSome?_cons]
    simp only [Text.after?_unifyLineEnds hentry, ih hplain]
    cases Text.after? entry.1 text <;> rfl

theorem words_plain : ∀ entry ∈ words, ∀ c ∈ entry.1, c ≠ '\r' ∧ c ≠ '\n' := by
  have hall : words.all (fun entry => entry.1.all fun c => c != '\r' && c != '\n') = true := rfl
  simpa using hall

theorem signed?_unifyLineEnds (text : Text) :
    signed? (unifyLineEnds text) = (signed? text).map unifyAfter := by
  by_cases hminus : ∃ rest, text = '-' :: rest
  · obtain ⟨rest, rfl⟩ := hminus
    rw [Text.unifyLineEnds_cons (by decide)]
    exact number?_unifyLineEnds true rest
  · rw [signed?, signed?]
    · exact number?_unifyLineEnds false text
    · exact fun rest h => hminus ⟨rest, h⟩
    · intro rest h
      obtain ⟨more, hmore, -⟩ := Text.exists_of_unifyLineEnds_eq_cons (by decide) h
      exact hminus ⟨more, hmore⟩

/-- Words and numbers stand within a line. -/
theorem readAtom_unifyLineEnds {text rest : Text} {value : Value}
    (h : readAtom text = .ok (value, rest)) :
    readAtom (unifyLineEnds text) = .ok (value, unifyLineEnds rest) := by
  rw [readAtom_eq, findWord_unifyLineEnds words_plain, signed?_unifyLineEnds]
  rw [readAtom_eq] at h
  cases hword : words.findSome? fun (word, value) => (Text.after? word text).map (value, ·) with
  | some found =>
    simp only [hword] at h
    obtain rfl := Except.ok.inj h
    rfl
  | none =>
    simp only [hword] at h
    cases hnumber : signed? text with
    | some found =>
      simp only [hnumber] at h
      obtain rfl := Except.ok.inj h
      rfl
    | none =>
      simp only [hnumber] at h
      cases h

theorem hexFour?_unifyLineEnds {text rest : Text} {n : Nat} (h : hexFour? text = some (n, rest)) :
    hexFour? (unifyLineEnds text) = some (n, unifyLineEnds rest) := by
  unfold hexFour? at h
  split at h
  · rename_i a b c d rest
    split at h
    · rename_i hall
      obtain ⟨rfl, rfl⟩ := Prod.mk.inj (Option.some.inj h)
      have hletter : ∀ x ∈ [a, b, c, d], x ≠ '\r' := by
        rintro x hx rfl
        have hreturn := List.all_eq_true.mp hall _ hx
        revert hreturn
        decide
      simp only [List.forall_mem_cons] at hletter
      obtain ⟨ha, hb, hc, hd, -⟩ := hletter
      rw [Text.unifyLineEnds_cons ha, Text.unifyLineEnds_cons hb, Text.unifyLineEnds_cons hc,
        Text.unifyLineEnds_cons hd]
      simp only [hexFour?, hall, if_true]
    · cases h
  · cases h

theorem ofUnit_unifyLineEnds {unit : Nat} {text rest : Text} {c : Char}
    (h : ofUnit unit text = .ok (c, rest)) :
    ofUnit unit (unifyLineEnds text) = .ok (c, unifyLineEnds rest) := by
  by_cases hsecond : ∃ more, text = '\\' :: 'u' :: more
  · obtain ⟨more, rfl⟩ := hsecond
    have hunified : unifyLineEnds ('\\' :: 'u' :: more) = '\\' :: 'u' :: unifyLineEnds more := by
      rw [Text.unifyLineEnds_cons (by decide), Text.unifyLineEnds_cons (by decide)]
    rw [hunified]
    simp only [ofUnit] at h ⊢
    cases hhex : hexFour? more with
    | some found =>
      obtain ⟨low, after⟩ := found
      have hhex' := hexFour?_unifyLineEnds hhex
      have hempty : ((unifyLineEnds more).drop 4).isEmpty = (more.drop 4).isEmpty := by
        rw [← hexFour?_eq_drop hhex, ← hexFour?_eq_drop hhex', Bool.eq_iff_iff,
          List.isEmpty_iff, List.isEmpty_iff, Text.unifyLineEnds_eq_nil_iff]
      simp only [hhex] at h
      simp only [hhex', hempty]
      split_ifs at h ⊢
      · obtain ⟨rfl, rfl⟩ := Prod.mk.inj (Except.ok.inj h)
        rfl
      · obtain ⟨rfl, rfl⟩ := Prod.mk.inj (Except.ok.inj h)
        rw [hunified]
      · obtain ⟨rfl, rfl⟩ := Prod.mk.inj (Except.ok.inj h)
        rw [hunified]
    | none =>
      simp only [hhex] at h
      split_ifs at h with hpair
      -- The text gets no longer, so there is still nothing behind the place of a second escape.
      have hpair' : ¬ (isHighSurrogate unit && !((unifyLineEnds more).drop 4).isEmpty) = true := by
        have hlength := Text.length_unifyLineEnds_le more
        simp only [Bool.and_eq_true, Bool.not_eq_true', List.isEmpty_eq_false_iff, ne_eq,
          List.drop_eq_nil_iff] at hpair ⊢
        intro hboth
        exact hpair ⟨hboth.1, fun hle => hboth.2 (by omega)⟩
      rw [if_neg hpair']
      obtain ⟨rfl, rfl⟩ := Prod.mk.inj (Except.ok.inj h)
      rw [hunified]
  · have hother : ∀ more, unifyLineEnds text ≠ '\\' :: 'u' :: more := by
      intro more hmore
      obtain ⟨after, rfl, hafter⟩ := Text.exists_of_unifyLineEnds_eq_cons (by decide) hmore
      obtain ⟨after', rfl, -⟩ := Text.exists_of_unifyLineEnds_eq_cons (by decide) hafter.symm
      exact hsecond ⟨after', rfl⟩
    rw [ofUnit] at h ⊢
    · obtain ⟨rfl, rfl⟩ := Prod.mk.inj (Except.ok.inj h)
      rfl
    · exact fun more hmore => hother more hmore
    · exact fun more hmore => hsecond ⟨more, hmore⟩

theorem readUnicode_unifyLineEnds {start text rest : Text} {c : Char}
    (h : readUnicode start text = .ok (c, rest)) (start' : Text) :
    readUnicode start' (unifyLineEnds text) = .ok (c, unifyLineEnds rest) := by
  obtain ⟨unit, after, hhex, hafter, hunit⟩ := exists_of_readUnicode_eq_ok h
  have hafter' : unifyLineEnds after ≠ [] :=
    fun hnil => hafter (Text.unifyLineEnds_eq_nil_iff.mp hnil)
  rw [readUnicode_eq start' (hexFour?_unifyLineEnds hhex) hafter']
  exact ofUnit_unifyLineEnds hunit

/-- No character of a string is part of a line end. -/
theorem ne_return_of_not_control {c : Char} (h : ¬ c.toNat < 0x20) : c ≠ '\r' := by
  rintro rfl
  exact h (by decide)

theorem simpleEscape?_ne_return {letter c : Char} (h : simpleEscape? letter = some c) :
    letter ≠ '\r' := by
  rintro rfl
  cases h

/-- A string is read the same when the line ends behind it have been unified. Fuel for every
character that is left is enough. -/
theorem readString_unifyLineEnds {start text chars rest : Text} {fuel : Nat}
    (h : readString start fuel text = .ok (chars, rest)) (start' : Text) {fuel' : Nat}
    (hfuel : (unifyLineEnds text).length < fuel') :
    readString start' fuel' (unifyLineEnds text) = .ok (chars, unifyLineEnds rest) := by
  induction fuel generalizing text chars fuel' with
  | zero => cases h
  | succ fuel ih =>
    obtain ⟨fuel', rfl⟩ := Nat.exists_eq_add_one_of_ne_zero (Nat.ne_zero_of_lt hfuel)
    rw [readString_eq_ok_iff]
    cases readString_eq_ok_iff.mp h with
    | close =>
      rw [Text.unifyLineEnds_cons (by decide)]
      exact .close _
    | unicode hchar hrest =>
      rw [Text.unifyLineEnds_cons (by decide), Text.unifyLineEnds_cons (by decide)] at hfuel ⊢
      have hchar' := readUnicode_unifyLineEnds hchar
      have hlength := (readUnicode_suffix (hchar' [])).length_le
      simp only [List.length_cons] at hfuel
      exact .unicode (hchar' _) (ih hrest (by omega))
    | escape hletter hescape hrest =>
      rw [Text.unifyLineEnds_cons (by decide),
        Text.unifyLineEnds_cons (simpleEscape?_ne_return hescape)] at hfuel ⊢
      simp only [List.length_cons] at hfuel
      exact .escape hletter hescape (ih hrest (by omega))
    | plain hquote hbackslash hcontrol hrest =>
      rw [Text.unifyLineEnds_cons (ne_return_of_not_control hcontrol)] at hfuel ⊢
      simp only [List.length_cons] at hfuel
      exact .plain hquote hbackslash hcontrol (ih hrest (by omega))

theorem skipSpace_unifyLineEnds_eq_cons {text rest : Text} {c : Char} (hc : c ≠ '\r')
    (h : skipSpace text = c :: rest) :
    skipSpace (unifyLineEnds text) = c :: unifyLineEnds rest := by
  rw [skipSpace_unifyLineEnds, h, Text.unifyLineEnds_cons hc]

/-- What stands behind white space is a character of its own in both texts. -/
theorem head?_skipSpace_unifyLineEnds {text : Text} {c : Char} (hc : c ≠ '\n')
    (h : (skipSpace text).head? ≠ some c) :
    (skipSpace (unifyLineEnds text)).head? ≠ some c := by
  intro hhead
  obtain ⟨rest, hrest⟩ := List.head?_eq_some_iff.mp hhead
  rw [skipSpace_unifyLineEnds] at hrest
  obtain ⟨more, hmore, -⟩ := Text.exists_of_unifyLineEnds_eq_cons hc hrest
  exact h (by rw [hmore]; rfl)

/-- Whether the readers of values, items and members read the same when the line ends have been
unified, with any fuel that is enough for what is left. -/
structure ReadsUnified (fuel : Nat) : Prop where
  value : ∀ {text rest value}, readValue fuel text = .ok (value, rest) →
    ∀ {fuel'}, 2 * (unifyLineEnds text).length < fuel' →
      readValue fuel' (unifyLineEnds text) = .ok (value, unifyLineEnds rest)
  items : ∀ {text rest items}, readItems fuel text = .ok (items, rest) →
    ∀ {fuel'}, 2 * (unifyLineEnds text).length + 1 < fuel' →
      readItems fuel' (unifyLineEnds text) = .ok (items, unifyLineEnds rest)
  members : ∀ {text rest entries result}, readMembers fuel entries text = .ok (result, rest) →
    ∀ {fuel'}, 2 * (unifyLineEnds text).length + 1 < fuel' →
      readMembers fuel' entries (unifyLineEnds text) = .ok (result, unifyLineEnds rest)

theorem readsUnified (fuel : Nat) : ReadsUnified fuel := by
  -- What is left gets shorter with every bracket, comma and colon, and the fuel at most that much.
  have hskip (text : Text) : (unifyLineEnds (skipSpace text)).length ≤
      (unifyLineEnds text).length := by
    rw [← skipSpace_unifyLineEnds]
    exact (List.dropWhile_suffix _).length_le
  have hnext {text rest : Text} {c : Char} (hc : c ≠ '\r') (h : skipSpace text = c :: rest) :
      (unifyLineEnds (skipSpace rest)).length < (unifyLineEnds text).length := by
    have hle := hskip text
    rw [h, Text.unifyLineEnds_cons hc, List.length_cons] at hle
    exact Nat.lt_of_le_of_lt (hskip rest) hle
  induction fuel with
  | zero => exact ⟨by rintro _ _ _ ⟨⟩, by rintro _ _ _ ⟨⟩, by rintro _ _ _ _ ⟨⟩⟩
  | succ fuel ih =>
    constructor
    case value =>
      intro text rest value h fuel' hfuel
      obtain ⟨fuel', rfl⟩ := Nat.exists_eq_add_one_of_ne_zero (Nat.ne_zero_of_lt hfuel)
      rw [readValue_eq_ok_iff]
      cases readValue_eq_ok_iff.mp h with
      | string h =>
        rw [Text.unifyLineEnds_cons (by decide)] at hfuel ⊢
        simp only [List.length_cons] at hfuel
        exact .string (readString_unifyLineEnds h _ (by omega))
      | emptyList h =>
        rw [Text.unifyLineEnds_cons (by decide)]
        exact .emptyList (skipSpace_unifyLineEnds_eq_cons (by decide) h)
      | @list more _ _ hitem h =>
        have hmore := hskip more
        rw [Text.unifyLineEnds_cons (by decide)] at hfuel ⊢
        simp only [List.length_cons] at hfuel
        refine .list (head?_skipSpace_unifyLineEnds (by decide) hitem) ?_
        rw [skipSpace_unifyLineEnds]
        exact ih.items h (by omega)
      | emptyMap h =>
        rw [Text.unifyLineEnds_cons (by decide)]
        exact .emptyMap (skipSpace_unifyLineEnds_eq_cons (by decide) h)
      | @map more _ _ hmember h =>
        have hmore := hskip more
        rw [Text.unifyLineEnds_cons (by decide)] at hfuel ⊢
        simp only [List.length_cons] at hfuel
        refine .map (head?_skipSpace_unifyLineEnds (by decide) hmember) ?_
        rw [skipSpace_unifyLineEnds]
        exact ih.members h (by omega)
      | @atom c more _ _ hc h =>
        have hreturn : c ≠ '\r' := by
          rintro rfl
          cases h
        have hatom := readAtom_unifyLineEnds h
        rw [Text.unifyLineEnds_cons hreturn] at hatom ⊢
        exact .atom hc hatom
    case items =>
      intro text rest items h fuel' hfuel
      obtain ⟨fuel', rfl⟩ := Nat.exists_eq_add_one_of_ne_zero (Nat.ne_zero_of_lt hfuel)
      rw [readItems_eq_ok_iff]
      cases readItems_eq_ok_iff.mp h with
      | last hitem hclose =>
        exact .last (ih.value hitem (by omega))
          (skipSpace_unifyLineEnds_eq_cons (by decide) hclose)
      | @more _ _ _ _ _ hitem hcomma hitems =>
        have hitem' := ih.value hitem (show _ < fuel' by omega)
        have hafter := ((leavesEnds fuel').value hitem').length_le
        have hlength := hnext (by decide) hcomma
        refine .more hitem' (skipSpace_unifyLineEnds_eq_cons (by decide) hcomma) ?_
        rw [skipSpace_unifyLineEnds]
        exact ih.items hitems (by omega)
    case members =>
      intro text rest entries result h fuel' hfuel
      obtain ⟨fuel', rfl⟩ := Nat.exists_eq_add_one_of_ne_zero (Nat.ne_zero_of_lt hfuel)
      rw [readMembers_eq_ok_iff]
      cases readMembers_eq_ok_iff.mp h with
      | @last more afterName member _ _ _ _ hname hcolon hvalue hclose =>
        rw [Text.unifyLineEnds_cons (by decide)] at hfuel ⊢
        simp only [List.length_cons] at hfuel
        have hname' := readString_unifyLineEnds hname ('"' :: unifyLineEnds more)
          (show _ < fuel' by omega)
        have hafterName := (readString_suffix hname').length_le
        have hlength := hnext (by decide) hcolon
        have hvalue' := ih.value hvalue (show _ < fuel' by omega)
        rw [← skipSpace_unifyLineEnds] at hvalue'
        exact .last hname' (skipSpace_unifyLineEnds_eq_cons (by decide) hcolon) hvalue'
          (skipSpace_unifyLineEnds_eq_cons (by decide) hclose)
      | @more more afterName member after next _ _ _ _ hname hcolon hvalue hcomma hmembers =>
        rw [Text.unifyLineEnds_cons (by decide)] at hfuel ⊢
        simp only [List.length_cons] at hfuel
        have hname' := readString_unifyLineEnds hname ('"' :: unifyLineEnds more)
          (show _ < fuel' by omega)
        have hafterName := (readString_suffix hname').length_le
        have hlength := hnext (by decide) hcolon
        have hvalue' := ih.value hvalue (show _ < fuel' by omega)
        have hafter := ((leavesEnds fuel').value hvalue').length_le
        have hrest := hnext (by decide) hcomma
        have hmembers' := ih.members hmembers (show _ < fuel' by omega)
        rw [← skipSpace_unifyLineEnds] at hvalue' hmembers'
        exact .more hname' (skipSpace_unifyLineEnds_eq_cons (by decide) hcolon) hvalue'
          (skipSpace_unifyLineEnds_eq_cons (by decide) hcomma) hmembers'

/-- A text that is one value has that value in it and nothing but white space around. -/
theorem read_eq_ok_iff {text : Text} {value : Value} :
    read text = .ok value ↔
      text.head? ≠ some '\ufeff' ∧ ∃ after,
        readValue (2 * text.length + 2) (skipSpace text) = .ok (value, after) ∧
          skipSpace after = [] := by
  by_cases hmark : ∃ rest, text = '\ufeff' :: rest
  · obtain ⟨rest, rfl⟩ := hmark
    simp [read]
  have hhead : text.head? ≠ some '\ufeff' := by
    intro h
    obtain ⟨rest, hrest⟩ := List.head?_eq_some_iff.mp h
    exact hmark ⟨rest, hrest⟩
  rw [read]
  · cases hvalue : readValue (2 * text.length + 2) (skipSpace text) with
    | error stop => simp
    | ok found =>
      obtain ⟨value', after⟩ := found
      cases hafter : skipSpace after with
      | nil =>
        simp only [hafter, Except.ok.injEq, Prod.mk.injEq]
        constructor
        · rintro rfl
          exact ⟨hhead, after, ⟨rfl, rfl⟩, hafter⟩
        · rintro ⟨-, -, ⟨rfl, -⟩, -⟩
          rfl
      | cons c rest =>
        simp only [hafter, reduceCtorEq, Except.ok.injEq, Prod.mk.injEq, false_iff]
        rintro ⟨-, other, ⟨-, rfl⟩, hnil⟩
        rw [hafter] at hnil
        cases hnil
  · exact fun rest h => hmark ⟨rest, h⟩

/-- A text that is one value is that value whatever its line ends are. -/
theorem read_unifyLineEnds {text : Text} {value : Value} (h : read text = .ok value) :
    read (unifyLineEnds text) = .ok value := by
  obtain ⟨hhead, after, hvalue, hafter⟩ := read_eq_ok_iff.mp h
  rw [read_eq_ok_iff]
  refine ⟨?_, unifyLineEnds after, ?_, ?_⟩
  · intro hmark
    obtain ⟨rest, hrest⟩ := List.head?_eq_some_iff.mp hmark
    obtain ⟨more, rfl, -⟩ := Text.exists_of_unifyLineEnds_eq_cons (by decide) hrest
    exact hhead rfl
  · have hlength : (unifyLineEnds (skipSpace text)).length ≤ (unifyLineEnds text).length := by
      rw [← skipSpace_unifyLineEnds]
      exact (List.dropWhile_suffix _).length_le
    rw [skipSpace_unifyLineEnds]
    exact (readsUnified _).value hvalue (by omega)
  · rw [skipSpace_unifyLineEnds, hafter]
    rfl

end Json

/-- A stored stream holds the same events whatever its line ends are. -/
theorem readEvents_unifyLineEnds {text : Text} {events : List Event}
    (h : readEvents text = .ok events) :
    readEvents (Text.unifyLineEnds text) = .ok events := by
  obtain ⟨value, hvalue, hevents⟩ := bind_eq_ok_iff.mp h
  have hread := Json.read_unifyLineEnds (mapError_eq_ok_iff.mp hvalue)
  refine bind_eq_ok_iff.mpr ⟨value, mapError_eq_ok_iff.mpr hread, hevents⟩

end DocumentStream
