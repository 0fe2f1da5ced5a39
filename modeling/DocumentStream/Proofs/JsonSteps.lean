import DocumentStream.Proofs.JsonReading
import DocumentStream.Proofs.RecordReading

/-!
The readers of JSON, one step at a time. Each of them is described by what its successful calls are
made of, and leaves an end of the text that it was given.
-/

namespace DocumentStream.Json

/-- The digits in front of the fraction of a number. After a zero there are no others. -/
def whole? (text : Text) : Option (Text × Text) :=
  match text with
  | '0' :: rest => some (['0'], rest)
  | _ =>
    match spanDigits text with
    | ([], _) => none
    | (digits, rest) => some (digits, rest)

/-- The number with the given digits in front of its fraction, which the rest begins with. -/
def ofWhole (negative : Bool) (whole rest : Text) : Value × Text :=
  match fraction? rest, exponent? ((fraction? rest).elim rest (·.2)) with
  | none, none =>
    let n : Int := Text.toNat 10 whole
    (.int (if negative then -n else n), rest)
  | fraction, exponent =>
    let places := fraction.elim [] (·.1)
    let after := exponent.elim (fraction.elim rest (·.2)) (·.2)
    let power := exponent.elim 0 (·.1) - places.length
    (.float (Binary64.ofDecimal negative (Text.toNat 10 (whole ++ places)) power), after)

theorem number?_eq (negative : Bool) (text : Text) :
    number? negative text = (whole? text).map fun found => ofWhole negative found.1 found.2 := by
  have htail (whole rest : Text) :
      (match fraction? rest, exponent? ((fraction? rest).elim rest (·.2)) with
      | none, none =>
        let n : Int := Text.toNat 10 whole
        some (Value.int (if negative then -n else n), rest)
      | fraction, exponent =>
        let places := fraction.elim [] (·.1)
        let after := exponent.elim (fraction.elim rest (·.2)) (·.2)
        let power := exponent.elim 0 (·.1) - places.length
        some (.float (Binary64.ofDecimal negative (Text.toNat 10 (whole ++ places)) power),
          after)) = some (ofWhole negative whole rest) := by
    rw [ofWhole]
    split <;> rfl
  by_cases hzero : ∃ rest, text = '0' :: rest
  · obtain ⟨rest, rfl⟩ := hzero
    exact htail ['0'] rest
  · rw [number?, whole?]
    · cases spanDigits text with
      | mk digits rest =>
        cases digits with
        | nil => rfl
        | cons c digits => exact htail (c :: digits) rest
    · exact fun rest h => hzero ⟨rest, h⟩
    · exact fun rest h => hzero ⟨rest, h⟩

/-- The digits of an exponent whose sign has been read, and the text after them. -/
def exponentDigits? (negative : Bool) (text : Text) : Option (Int × Text) :=
  match spanDigits text with
  | ([], _) => none
  | (digits, after) =>
    let n : Int := Text.toNat 10 digits
    some (if negative then -n else n, after)

/-- Whether a text begins with a minus sign, and the text without the sign in front. -/
def unsign (text : Text) : Bool × Text :=
  match text with
  | '-' :: more => (true, more)
  | '+' :: more => (false, more)
  | _ => (false, text)

theorem exponent?_of_mark {mark : Char} (hmark : mark = 'e' ∨ mark = 'E') (text : Text) :
    exponent? (mark :: text) = exponentDigits? (unsign text).1 (unsign text).2 := by
  rw [exponent?.eq_def]
  exact if_pos hmark

theorem exponent?_of_no_mark {mark : Char} (hmark : ¬ (mark = 'e' ∨ mark = 'E')) (text : Text) :
    exponent? (mark :: text) = none := by
  rw [exponent?.eq_def]
  exact if_neg hmark

/-- The longest number at the front. -/
def signed? (text : Text) : Option (Value × Text) :=
  match text with
  | '-' :: rest => number? true rest
  | _ => number? false text

theorem readAtom_eq (text : Text) :
    readAtom text =
      match words.findSome? fun (word, value) => (Text.after? word text).map (value, ·) with
      | some result => .ok result
      | none =>
        match signed? text with
        | some result => .ok result
        | none => .error ⟨.value, text⟩ :=
  readAtom.eq_def text

theorem hexFour?_eq_drop {text rest : Text} {n : Nat} (h : hexFour? text = some (n, rest)) :
    rest = text.drop 4 := by
  unfold hexFour? at h
  split at h
  · split at h
    · exact (Prod.mk.inj (Option.some.inj h)).2.symm
    · cases h
  · cases h

/-- A character that may be the first half of a surrogate pair, the second half of which the rest
then begins with. -/
def ofUnit (unit : Nat) (rest : Text) : Except Stop (Char × Text) :=
  match rest with
  | '\\' :: 'u' :: more =>
    if isHighSurrogate unit && !(more.drop 4).isEmpty then
      match hexFour? more with
      | none => .error ⟨.badUnicodeEscape, 'u' :: more⟩
      | some (low, after) =>
        if isLowSurrogate low then
          .ok (Char.ofNat (0x10000 + (unit - 0xD800) * 0x400 + (low - 0xDC00)), after)
        else
          .ok (unitChar unit, rest)
    else
      .ok (unitChar unit, rest)
  | _ => .ok (unitChar unit, rest)

theorem readUnicode_eq (start : Text) {text rest : Text} {unit : Nat}
    (hhex : hexFour? text = some (unit, rest)) (hrest : rest ≠ []) :
    readUnicode start text = ofUnit unit rest := by
  obtain ⟨c, more, rfl⟩ := List.exists_cons_of_ne_nil hrest
  unfold readUnicode
  rw [hhex]
  rfl

theorem exists_of_readUnicode_eq_ok {start text rest : Text} {c : Char}
    (h : readUnicode start text = .ok (c, rest)) :
    ∃ unit after, hexFour? text = some (unit, after) ∧ after ≠ [] ∧
      ofUnit unit after = .ok (c, rest) := by
  cases hhex : hexFour? text with
  | none =>
    simp only [readUnicode, hhex] at h
    cases h
  | some found =>
    obtain ⟨unit, after⟩ := found
    by_cases hafter : after = []
    · subst hafter
      simp only [readUnicode, hhex] at h
      cases h
    · rw [readUnicode_eq start hhex hafter] at h
      exact ⟨unit, after, rfl, hafter, h⟩

/-- How a string is read from a text, up to the text behind its closing quote. -/
inductive StringRead (start : Text) (fuel : Nat) : Text → Text → Text → Prop
  | close (rest : Text) : StringRead start fuel ('"' :: rest) [] rest
  | unicode {more after chars rest : Text} {c : Char}
      (hchar : readUnicode ('u' :: more) more = .ok (c, after))
      (hrest : readString start fuel after = .ok (chars, rest)) :
      StringRead start fuel ('\\' :: 'u' :: more) (c :: chars) rest
  | escape {after chars rest : Text} {letter c : Char} (hletter : letter ≠ 'u')
      (hescape : simpleEscape? letter = some c)
      (hrest : readString start fuel after = .ok (chars, rest)) :
      StringRead start fuel ('\\' :: letter :: after) (c :: chars) rest
  | plain {after chars rest : Text} {c : Char} (hquote : c ≠ '"') (hbackslash : c ≠ '\\')
      (hcontrol : ¬ c.toNat < 0x20)
      (hrest : readString start fuel after = .ok (chars, rest)) :
      StringRead start fuel (c :: after) (c :: chars) rest

theorem readString_eq_ok_iff {start text chars rest : Text} {fuel : Nat} :
    readString start (fuel + 1) text = .ok (chars, rest) ↔
      StringRead start fuel text chars rest := by
  constructor
  · intro h
    cases text with
    | nil => cases h
    | cons c text =>
      rw [readString.eq_def] at h
      dsimp only at h
      split_ifs at h with hquote hbackslash hcontrol
      · obtain ⟨rfl, rfl⟩ := Prod.mk.inj (Except.ok.inj h)
        subst hquote
        exact .close _
      · subst hbackslash
        split at h
        · cases h
        · simp only [bind_eq_ok_iff, pure_eq_ok_iff] at h
          obtain ⟨⟨c, after⟩, hchar, ⟨chars', rest'⟩, hrest, heq⟩ := h
          obtain ⟨rfl, rfl⟩ := Prod.mk.inj heq
          exact .unicode hchar hrest
        · rename_i letter after hletter
          split at h
          · cases h
          · rename_i c hescape
            simp only [bind_eq_ok_iff, pure_eq_ok_iff] at h
            obtain ⟨⟨chars', rest'⟩, hrest, heq⟩ := h
            obtain ⟨rfl, rfl⟩ := Prod.mk.inj heq
            exact .escape (fun heq => hletter heq) hescape hrest
      · simp only [bind_eq_ok_iff, pure_eq_ok_iff] at h
        obtain ⟨⟨chars', rest'⟩, hrest, heq⟩ := h
        obtain ⟨rfl, rfl⟩ := Prod.mk.inj heq
        exact .plain hquote hbackslash hcontrol hrest
  · intro h
    cases h with
    | close => rfl
    | unicode hchar hrest =>
      rw [readString.eq_def]
      dsimp only
      rw [if_neg (by decide), if_pos rfl]
      simp only [hchar, bind, Except.bind, hrest]
      rfl
    | @escape after chars rest letter c hletter hescape hrest =>
      rw [readString.eq_def]
      dsimp only
      rw [if_neg (by decide), if_pos rfl]
      split
      · rename_i heq
        cases heq
      · rename_i heq
        exact absurd (List.cons.inj heq).1 hletter
      · rename_i heq
        obtain ⟨rfl, rfl⟩ := List.cons.inj heq
        simp only [hescape, bind, Except.bind, hrest]
        rfl
    | plain hquote hbackslash hcontrol hrest =>
      rw [readString.eq_def]
      dsimp only
      rw [if_neg hquote, if_neg hbackslash, if_neg hcontrol, hrest]
      rfl

/-- How a value is read from a text, up to the text behind it. -/
inductive ValueRead (fuel : Nat) : Text → Value → Text → Prop
  | string {text chars rest : Text}
      (h : readString ('"' :: text) fuel text = .ok (chars, rest)) :
      ValueRead fuel ('"' :: text) (.str chars) rest
  | emptyList {text rest : Text} (h : skipSpace text = ']' :: rest) :
      ValueRead fuel ('[' :: text) (.list []) rest
  | list {text rest : Text} {items : List Value} (hitem : (skipSpace text).head? ≠ some ']')
      (h : readItems fuel (skipSpace text) = .ok (items, rest)) :
      ValueRead fuel ('[' :: text) (.list items) rest
  | emptyMap {text rest : Text} (h : skipSpace text = '}' :: rest) :
      ValueRead fuel ('{' :: text) (.map []) rest
  | map {text rest : Text} {entries : Entries} (hmember : (skipSpace text).head? ≠ some '}')
      (h : readMembers fuel [] (skipSpace text) = .ok (entries, rest)) :
      ValueRead fuel ('{' :: text) (.map entries) rest
  | atom {c : Char} {text rest : Text} {value : Value} (hc : c ≠ '"' ∧ c ≠ '[' ∧ c ≠ '{')
      (h : readAtom (c :: text) = .ok (value, rest)) :
      ValueRead fuel (c :: text) value rest

theorem map_eq_ok_iff {ε α β : Type} {f : α → β} {x : Except ε α} {b : β} :
    x.map f = .ok b ↔ ∃ a, x = .ok a ∧ f a = b := by
  cases x <;> simp [Except.map]

theorem readValue_eq_ok_iff {text rest : Text} {fuel : Nat} {value : Value} :
    readValue (fuel + 1) text = .ok (value, rest) ↔ ValueRead fuel text value rest := by
  constructor
  · intro h
    cases text with
    | nil => cases h
    | cons c text =>
      by_cases hquote : c = '"'
      · subst hquote
        rw [readValue] at h
        simp only [bind_eq_ok_iff, pure_eq_ok_iff] at h
        obtain ⟨⟨chars, after⟩, hread, heq⟩ := h
        obtain ⟨rfl, rfl⟩ := Prod.mk.inj heq
        exact .string hread
      by_cases hbracket : c = '['
      · subst hbracket
        by_cases hclose : (skipSpace text).head? = some ']'
        · obtain ⟨after, hafter⟩ := List.head?_eq_some_iff.mp hclose
          rw [readValue, hafter] at h
          obtain ⟨rfl, rfl⟩ := Prod.mk.inj (Except.ok.inj h)
          exact .emptyList hafter
        · rw [readValue_bracket hclose] at h
          obtain ⟨⟨items, after⟩, hitems, heq⟩ := map_eq_ok_iff.mp h
          obtain ⟨rfl, rfl⟩ := Prod.mk.inj heq
          exact .list hclose hitems
      by_cases hbrace : c = '{'
      · subst hbrace
        by_cases hclose : (skipSpace text).head? = some '}'
        · obtain ⟨after, hafter⟩ := List.head?_eq_some_iff.mp hclose
          rw [readValue, hafter] at h
          obtain ⟨rfl, rfl⟩ := Prod.mk.inj (Except.ok.inj h)
          exact .emptyMap hafter
        · rw [readValue_brace hclose] at h
          obtain ⟨⟨entries, after⟩, hentries, heq⟩ := map_eq_ok_iff.mp h
          obtain ⟨rfl, rfl⟩ := Prod.mk.inj heq
          exact .map hclose hentries
      · rw [readValue_eq_readAtom ⟨hquote, hbracket, hbrace⟩] at h
        exact .atom ⟨hquote, hbracket, hbrace⟩ h
  · intro h
    cases h with
    | string h =>
      rw [readValue, h]
      rfl
    | emptyList h =>
      rw [readValue, h]
      rfl
    | list hitem h =>
      rw [readValue_bracket hitem, h]
      rfl
    | emptyMap h =>
      rw [readValue, h]
      rfl
    | map hmember h =>
      rw [readValue_brace hmember, h]
      rfl
    | atom hc h =>
      rw [readValue_eq_readAtom hc]
      exact h

/-- How the items of a list are read from a text. -/
inductive ItemsRead (fuel : Nat) : Text → List Value → Text → Prop
  | last {text after rest : Text} {item : Value} (hitem : readValue fuel text = .ok (item, after))
      (hclose : skipSpace after = ']' :: rest) : ItemsRead fuel text [item] rest
  | more {text after next rest : Text} {item : Value} {items : List Value}
      (hitem : readValue fuel text = .ok (item, after)) (hcomma : skipSpace after = ',' :: next)
      (hitems : readItems fuel (skipSpace next) = .ok (items, rest)) :
      ItemsRead fuel text (item :: items) rest

theorem readItems_eq_ok_iff {text rest : Text} {fuel : Nat} {items : List Value} :
    readItems (fuel + 1) text = .ok (items, rest) ↔ ItemsRead fuel text items rest := by
  constructor
  · intro h
    rw [readItems] at h
    obtain ⟨⟨item, after⟩, hitem, h⟩ := bind_eq_ok_iff.mp h
    dsimp only at h
    split at h
    · rename_i hclose
      obtain ⟨rfl, rfl⟩ := Prod.mk.inj (Except.ok.inj h)
      exact .last hitem hclose
    · rename_i hcomma
      obtain ⟨⟨items', after'⟩, hitems, heq⟩ := bind_eq_ok_iff.mp h
      obtain ⟨rfl, rfl⟩ := Prod.mk.inj (Except.ok.inj heq)
      exact .more hitem hcomma hitems
    · cases h
  · intro h
    cases h with
    | last hitem hclose =>
      rw [readItems, hitem]
      simp only [bind, Except.bind, hclose]
      rfl
    | more hitem hcomma hitems =>
      rw [readItems, hitem]
      simp only [bind, Except.bind, hcomma, hitems]
      rfl

/-- How the members of an object are read from a text and set in a mapping. -/
inductive MembersRead (fuel : Nat) (entries : Entries) : Text → Entries → Text → Prop
  | last {text afterName member after rest name : Text} {value : Value}
      (hname : readString ('"' :: text) fuel text = .ok (name, afterName))
      (hcolon : skipSpace afterName = ':' :: member)
      (hvalue : readValue fuel (skipSpace member) = .ok (value, after))
      (hclose : skipSpace after = '}' :: rest) :
      MembersRead fuel entries ('"' :: text) (entries.insert (.str name) value) rest
  | more {text afterName member after next rest name : Text} {value : Value} {result : Entries}
      (hname : readString ('"' :: text) fuel text = .ok (name, afterName))
      (hcolon : skipSpace afterName = ':' :: member)
      (hvalue : readValue fuel (skipSpace member) = .ok (value, after))
      (hcomma : skipSpace after = ',' :: next)
      (hmembers : readMembers fuel (entries.insert (.str name) value) (skipSpace next) =
        .ok (result, rest)) :
      MembersRead fuel entries ('"' :: text) result rest

theorem readMembers_eq_ok_iff {text rest : Text} {fuel : Nat} {entries result : Entries} :
    readMembers (fuel + 1) entries text = .ok (result, rest) ↔
      MembersRead fuel entries text result rest := by
  constructor
  · intro h
    rw [readMembers.eq_def] at h
    dsimp only at h
    split at h
    · obtain ⟨⟨name, afterName⟩, hname, h⟩ := bind_eq_ok_iff.mp h
      dsimp only at h
      split at h
      · rename_i hcolon
        obtain ⟨⟨value, after⟩, hvalue, h⟩ := bind_eq_ok_iff.mp h
        dsimp only at h
        split at h
        · rename_i hclose
          obtain ⟨rfl, rfl⟩ := Prod.mk.inj (Except.ok.inj h)
          exact .last hname hcolon hvalue hclose
        · rename_i hcomma
          exact .more hname hcolon hvalue hcomma h
        · cases h
      · cases h
    · cases h
  · intro h
    cases h with
    | last hname hcolon hvalue hclose =>
      rw [readMembers, hname]
      simp only [bind, Except.bind, hcolon, hvalue, hclose]
      rfl
    | more hname hcolon hvalue hcomma hmembers =>
      rw [readMembers, hname]
      simp only [bind, Except.bind, hcolon, hvalue, hcomma, hmembers]

theorem suffix_of_skipSpace_eq_cons {text rest : Text} {c : Char}
    (h : skipSpace text = c :: rest) : rest <:+ text := by
  have hspace : c :: rest <:+ text := h ▸ List.dropWhile_suffix _
  exact (List.suffix_cons c rest).trans hspace

theorem spanDigits_suffix (text : Text) : (spanDigits text).2 <:+ text := by
  rw [spanDigits, List.span_eq_takeWhile_dropWhile]
  exact List.dropWhile_suffix _

theorem fraction?_suffix {text digits rest : Text} (h : fraction? text = some (digits, rest)) :
    rest <:+ text := by
  unfold fraction? at h
  split at h
  · rename_i more
    have hspan := (spanDigits_suffix more).trans (List.suffix_cons '.' more)
    split at h
    · cases h
    · rename_i heq
      rw [heq] at hspan
      obtain ⟨rfl, rfl⟩ := Prod.mk.inj (Option.some.inj h)
      exact hspan
  · cases h

theorem exponentDigits?_suffix {negative : Bool} {text rest : Text} {n : Int}
    (h : exponentDigits? negative text = some (n, rest)) : rest <:+ text := by
  have hspan := spanDigits_suffix text
  unfold exponentDigits? at h
  split at h
  · cases h
  · rename_i heq
    rw [heq] at hspan
    obtain ⟨-, rfl⟩ := Prod.mk.inj (Option.some.inj h)
    exact hspan

theorem unsign_suffix (text : Text) : (unsign text).2 <:+ text := by
  unfold unsign
  split
  · exact List.suffix_cons _ _
  · exact List.suffix_cons _ _
  · exact List.suffix_rfl

theorem exponent?_suffix {text rest : Text} {n : Int} (h : exponent? text = some (n, rest)) :
    rest <:+ text := by
  cases text with
  | nil => cases h
  | cons mark text =>
    by_cases hmark : mark = 'e' ∨ mark = 'E'
    · rw [exponent?_of_mark hmark] at h
      exact ((exponentDigits?_suffix h).trans (unsign_suffix text)).trans (List.suffix_cons _ _)
    · rw [exponent?_of_no_mark hmark] at h
      cases h

theorem whole?_suffix {text digits rest : Text} (h : whole? text = some (digits, rest)) :
    rest <:+ text := by
  unfold whole? at h
  split at h
  · obtain ⟨-, rfl⟩ := Prod.mk.inj (Option.some.inj h)
    exact List.suffix_cons _ _
  · have hspan := spanDigits_suffix text
    split at h
    · cases h
    · rename_i heq
      rw [heq] at hspan
      obtain ⟨-, rfl⟩ := Prod.mk.inj (Option.some.inj h)
      exact hspan

theorem ofWhole_suffix (negative : Bool) (whole rest : Text) :
    (ofWhole negative whole rest).2 <:+ rest := by
  have hfraction : (fraction? rest).elim rest (·.2) <:+ rest := by
    cases h : fraction? rest with
    | none => exact List.suffix_rfl
    | some found => exact fraction?_suffix h
  rw [ofWhole]
  split
  · exact List.suffix_rfl
  · dsimp only
    cases h : exponent? ((fraction? rest).elim rest (·.2)) with
    | none => exact hfraction
    | some found => exact (exponent?_suffix h).trans hfraction

theorem number?_suffix {negative : Bool} {text rest : Text} {value : Value}
    (h : number? negative text = some (value, rest)) : rest <:+ text := by
  rw [number?_eq] at h
  obtain ⟨⟨whole, after⟩, hwhole, heq⟩ := Option.map_eq_some_iff.mp h
  have hafter := ofWhole_suffix negative whole after
  rw [heq] at hafter
  exact hafter.trans (whole?_suffix hwhole)

theorem readAtom_suffix {text rest : Text} {value : Value}
    (h : readAtom text = .ok (value, rest)) : rest <:+ text := by
  rw [readAtom_eq] at h
  split at h
  · rename_i hword
    obtain rfl := Except.ok.inj h
    obtain ⟨entry, -, hentry⟩ := List.exists_of_findSome?_eq_some hword
    obtain ⟨after, hafter, heq⟩ := Option.map_eq_some_iff.mp hentry
    obtain ⟨-, rfl⟩ := Prod.mk.inj heq
    exact ⟨entry.1, (Text.eq_append_of_after? hafter).symm⟩
  · split at h
    · rename_i hnumber
      obtain rfl := Except.ok.inj h
      unfold signed? at hnumber
      split at hnumber
      · exact (number?_suffix hnumber).trans (List.suffix_cons _ _)
      · exact number?_suffix hnumber
    · cases h

theorem hexFour?_suffix {text rest : Text} {n : Nat} (h : hexFour? text = some (n, rest)) :
    rest <:+ text :=
  hexFour?_eq_drop h ▸ List.drop_suffix 4 text

theorem ofUnit_suffix {unit : Nat} {text rest : Text} {c : Char}
    (h : ofUnit unit text = .ok (c, rest)) : rest <:+ text := by
  unfold ofUnit at h
  split at h
  · split at h
    · split at h
      · cases h
      · rename_i hhex
        split at h
        · obtain ⟨-, rfl⟩ := Prod.mk.inj (Except.ok.inj h)
          exact (hexFour?_suffix hhex).trans
            ((List.suffix_cons 'u' _).trans (List.suffix_cons '\\' _))
        · obtain ⟨-, rfl⟩ := Prod.mk.inj (Except.ok.inj h)
          exact List.suffix_rfl
    · obtain ⟨-, rfl⟩ := Prod.mk.inj (Except.ok.inj h)
      exact List.suffix_rfl
  · obtain ⟨-, rfl⟩ := Prod.mk.inj (Except.ok.inj h)
    exact List.suffix_rfl

theorem readUnicode_suffix {start text rest : Text} {c : Char}
    (h : readUnicode start text = .ok (c, rest)) : rest <:+ text := by
  obtain ⟨unit, after, hhex, -, hunit⟩ := exists_of_readUnicode_eq_ok h
  exact (ofUnit_suffix hunit).trans (hexFour?_suffix hhex)

theorem readString_suffix {start text chars rest : Text} {fuel : Nat}
    (h : readString start fuel text = .ok (chars, rest)) : rest <:+ text := by
  induction fuel generalizing text chars with
  | zero => cases h
  | succ fuel ih =>
    cases readString_eq_ok_iff.mp h with
    | close => exact List.suffix_cons _ _
    | unicode hchar hrest =>
      exact (ih hrest).trans ((readUnicode_suffix hchar).trans
        ((List.suffix_cons 'u' _).trans (List.suffix_cons '\\' _)))
    | escape hletter hescape hrest =>
      exact (ih hrest).trans ((List.suffix_cons _ _).trans (List.suffix_cons '\\' _))
    | plain hquote hbackslash hcontrol hrest => exact (ih hrest).trans (List.suffix_cons _ _)

/-- Whether the readers of values, items and members leave ends of what they are given. -/
structure LeavesEnds (fuel : Nat) : Prop where
  value : ∀ {text rest value}, readValue fuel text = .ok (value, rest) → rest <:+ text
  items : ∀ {text rest items}, readItems fuel text = .ok (items, rest) → rest <:+ text
  members : ∀ {text rest entries result},
    readMembers fuel entries text = .ok (result, rest) → rest <:+ text

theorem leavesEnds (fuel : Nat) : LeavesEnds fuel := by
  induction fuel with
  | zero => exact ⟨by rintro _ _ _ ⟨⟩, by rintro _ _ _ ⟨⟩, by rintro _ _ _ _ ⟨⟩⟩
  | succ fuel ih =>
    constructor
    case value =>
      intro text rest value h
      cases readValue_eq_ok_iff.mp h with
      | string h => exact (readString_suffix h).trans (List.suffix_cons _ _)
      | emptyList h | emptyMap h =>
        exact (suffix_of_skipSpace_eq_cons h).trans (List.suffix_cons _ _)
      | list hitem h =>
        exact (ih.items h).trans ((List.dropWhile_suffix _).trans (List.suffix_cons _ _))
      | map hmember h =>
        exact (ih.members h).trans ((List.dropWhile_suffix _).trans (List.suffix_cons _ _))
      | atom hc h => exact readAtom_suffix h
    case items =>
      intro text rest items h
      cases readItems_eq_ok_iff.mp h with
      | last hitem hclose => exact (suffix_of_skipSpace_eq_cons hclose).trans (ih.value hitem)
      | more hitem hcomma hitems =>
        exact ((ih.items hitems).trans (List.dropWhile_suffix _)).trans
          ((suffix_of_skipSpace_eq_cons hcomma).trans (ih.value hitem))
    case members =>
      intro text rest entries result h
      have hvalue {text afterName member after name : Text} {value : Value}
          (hname : readString ('"' :: text) fuel text = .ok (name, afterName))
          (hcolon : skipSpace afterName = ':' :: member)
          (hvalue : readValue fuel (skipSpace member) = .ok (value, after)) :
          after <:+ '"' :: text :=
        ((ih.value hvalue).trans (List.dropWhile_suffix _)).trans
          ((suffix_of_skipSpace_eq_cons hcolon).trans
            ((readString_suffix hname).trans (List.suffix_cons _ _)))
      cases readMembers_eq_ok_iff.mp h with
      | last hname hcolon hmember hclose =>
        exact (suffix_of_skipSpace_eq_cons hclose).trans (hvalue hname hcolon hmember)
      | more hname hcolon hmember hcomma hmembers =>
        exact ((ih.members hmembers).trans (List.dropWhile_suffix _)).trans
          ((suffix_of_skipSpace_eq_cons hcomma).trans (hvalue hname hcolon hmember))

end DocumentStream.Json
