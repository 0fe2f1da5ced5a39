import DocumentStream.Abbreviation
import DocumentStream.Proofs.Escaping
import DocumentStream.Proofs.PatternReading
import DocumentStream.Proofs.Splitting

/-!
The markup of abbreviations. An element with attributes can be spelled in many ways, but no text is
the spelling of two elements, since each part ends where a character stands that the part cannot
hold. So it does not matter in which order the patterns are tried: the one for elements finds the
parts of a spelling, and the one for attributes finds in it just the attributes that it was made of.
-/

namespace DocumentStream

/-- A run of characters of one kind ends at the first character of another kind. -/
theorem Text.run_append_inj {isIn : Char → Bool} {run run' rest rest' : Text}
    (hrun : ∀ c ∈ run, isIn c = true) (hrun' : ∀ c ∈ run', isIn c = true)
    (hrest : rest.head?.any isIn = false) (hrest' : rest'.head?.any isIn = false)
    (h : run ++ rest = run' ++ rest') : run = run' ∧ rest = rest' := by
  have heq : run = run' := by rw [← takeWhile_run hrun hrest, h, takeWhile_run hrun' hrest']
  subst heq
  exact ⟨rfl, List.append_cancel_left h⟩

namespace Abbreviation

theorem isNamePart_of_isNameStart {c : Char} (h : isNameStart c = true) : isNamePart c = true := by
  simp only [isNameStart, Bool.or_eq_true, beq_iff_eq] at h
  simp only [isNamePart, Text.isWordChar, Bool.or_eq_true, beq_iff_eq]
  obtain (halpha | hunderscore) | hcolon := h
  · refine Or.inl (Or.inl (Or.inl (Or.inl ?_)))
    have hascii : c.toNat < 128 := by
      have hcases : c.isUpper = true ∨ c.isLower = true := Bool.or_eq_true_iff.mp halpha
      rcases hcases with hupper | hlower
      · have hrange : 'A'.val ≤ c.val ∧ c.val ≤ 'Z'.val := of_decide_eq_true hupper
        exact Nat.lt_of_le_of_lt hrange.2 (by decide)
      · have hrange := Bool.and_eq_true_iff.mp hlower
        have hle : c.val ≤ 'z'.val := of_decide_eq_true hrange.2
        exact Nat.lt_of_le_of_lt hle (by decide)
    rw [Text.isAlphanumeric, if_pos hascii, Char.isAlphanum, halpha, Bool.true_or]
  · exact Or.inl (Or.inl (Or.inl (Or.inr hunderscore)))
  · exact Or.inl (Or.inl (Or.inr hcolon))

theorem isNamePart_of_isBlank {c : Char} (h : Text.isBlank c = true) : isNamePart c = false := by
  obtain ⟨halnum, -, hunderscore, hstop⟩ := Text.not_mem_word_of_isBlank h
  have hcolon : c ≠ ':' := ne_of_apply_ne Text.isBlank (by rw [h]; decide)
  have hdash : c ≠ '-' := ne_of_apply_ne Text.isBlank (by rw [h]; decide)
  simp [isNamePart, Text.isWordChar, halnum, hunderscore, hstop, hcolon, hdash]

/-- Whether a text can be the name of an attribute. -/
def isName : Text → Bool
  | [] => false
  | start :: rest => isNameStart start && rest.all isNamePart

theorem isNamePart_of_isName {name : Text} (h : isName name = true) :
    ∀ c ∈ name, isNamePart c = true := by
  cases name with
  | nil => cases h
  | cons start rest =>
    rw [isName, Bool.and_eq_true, List.all_eq_true] at h
    exact List.forall_mem_cons.mpr ⟨isNamePart_of_isNameStart h.1, h.2⟩

/-- An attribute as it is spelled. -/
@[ext]
structure Assignment where
  name : Text
  beforeSign : Text
  afterSign : Text
  quote : Char
  value : Text
  isName_name : isName name = true
  isAllBlank_beforeSign : Text.isAllBlank beforeSign = true
  isAllBlank_afterSign : Text.isAllBlank afterSign = true
  quote_mem : quote = '"' ∨ quote = '\''
  unquoted_value : ∀ c ∈ value, (c != quote && c != '<') = true

/-- An attribute with the white space that separates it from what stands before it. -/
@[ext]
structure SeparateAssignment extends Assignment where
  blank : Text
  blank_ne_nil : blank ≠ []
  isAllBlank_blank : Text.isAllBlank blank = true

/-- An element without elements inside, as it is spelled. -/
@[ext]
structure Element where
  attributes : List SeparateAssignment
  beforeClose : Text
  content : Text
  beforeEnd : Text
  isAllBlank_beforeClose : Text.isAllBlank beforeClose = true
  noTag_content : ∀ c ∈ content, (c != '<') = true
  isAllBlank_beforeEnd : Text.isAllBlank beforeEnd = true

def Assignment.text (a : Assignment) : Text :=
  a.name ++ (a.beforeSign ++ '=' :: (a.afterSign ++ a.quote :: (a.value ++ [a.quote])))

def SeparateAssignment.text (a : SeparateAssignment) : Text := a.blank ++ a.toAssignment.text

/-- What stands between the name of the element and the end of its first tag. -/
def Element.attributeText (e : Element) : Text := e.attributes.flatMap SeparateAssignment.text

def Element.text (e : Element) : Text :=
  openTag ++ (e.attributeText ++ (e.beforeClose ++ '>' ::
    (e.content ++ (closeTag ++ (e.beforeEnd ++ ['>'])))))

/-- What an attribute says: its name and its value. -/
def Assignment.entry (a : Assignment) : Text × Text := (a.name, a.value)

section

variable {blank blank' rest rest' : Text}

theorem isBlank_of_mem (h : Text.isAllBlank blank = true) : ∀ c ∈ blank, Text.isBlank c = true :=
  List.all_eq_true.mp h

theorem isNamePart_head (h : Text.isAllBlank blank = true) :
    (blank ++ '=' :: rest).head?.any isNamePart = false := by
  cases blank with
  | nil => rfl
  | cons c blank => exact isNamePart_of_isBlank (isBlank_of_mem h c List.mem_cons_self)

theorem Assignment.isBlank_quote (a : Assignment) :
    (a.quote :: rest).head?.any Text.isBlank = false := by
  rcases a.quote_mem with hquote | hquote
  · rw [hquote]
    rfl
  · rw [hquote]
    rfl

/-- The spelling of an attribute begins with its name. -/
theorem Assignment.exists_text_eq_cons (a : Assignment) :
    ∃ start tail, a.text = start :: tail ∧ isNameStart start = true := by
  cases hname : a.name with
  | nil =>
    have hisName := a.isName_name
    rw [hname] at hisName
    cases hisName
  | cons start rest =>
    have hisName := a.isName_name
    rw [hname, isName, Bool.and_eq_true] at hisName
    exact ⟨start, _, by rw [Assignment.text, hname]; rfl, hisName.1⟩

theorem isBlank_of_isNameStart {c : Char} (h : isNameStart c = true) : Text.isBlank c = false := by
  rw [Bool.eq_false_iff]
  intro hblank
  exact Bool.false_ne_true
    ((isNamePart_of_isBlank hblank).symm.trans (isNamePart_of_isNameStart h))

theorem Assignment.isBlank_head (a : Assignment) :
    (a.text ++ rest).head?.any Text.isBlank = false := by
  obtain ⟨start, tail, htext, hstart⟩ := a.exists_text_eq_cons
  rw [htext]
  exact isBlank_of_isNameStart hstart

/-- An attribute is known by its spelling, and so is where the spelling ends. -/
theorem Assignment.text_append_inj {a b : Assignment} (h : a.text ++ rest = b.text ++ rest') :
    a = b ∧ rest = rest' := by
  simp only [Assignment.text, List.append_assoc, List.cons_append, List.nil_append] at h
  obtain ⟨hname, h⟩ := Text.run_append_inj (isNamePart_of_isName a.isName_name)
    (isNamePart_of_isName b.isName_name) (isNamePart_head a.isAllBlank_beforeSign)
    (isNamePart_head b.isAllBlank_beforeSign) h
  obtain ⟨hbefore, h⟩ := Text.run_append_inj (isBlank_of_mem a.isAllBlank_beforeSign)
    (isBlank_of_mem b.isAllBlank_beforeSign) rfl rfl h
  obtain ⟨hafter, h⟩ := Text.run_append_inj (isBlank_of_mem a.isAllBlank_afterSign)
    (isBlank_of_mem b.isAllBlank_afterSign) a.isBlank_quote b.isBlank_quote
    (List.cons.inj h).2
  obtain ⟨hquote, h⟩ := List.cons.inj h
  have hvalues : ∀ c ∈ b.value, (c != a.quote && c != '<') = true := by
    rw [hquote]
    exact b.unquoted_value
  have hend : ∀ tail, (a.quote :: tail).head?.any (fun c => c != a.quote && c != '<') = false := by
    simp
  rw [← hquote] at h
  obtain ⟨hvalue, h⟩ := Text.run_append_inj a.unquoted_value hvalues (hend _) (hend _) h
  exact ⟨Assignment.ext hname hbefore hafter hquote hvalue, (List.cons.inj h).2⟩

/-- Where a tag ends no attribute follows. -/
theorem SeparateAssignment.text_append_ne {a : SeparateAssignment}
    (hblank : Text.isAllBlank blank = true) : blank ++ '>' :: rest ≠ a.text ++ rest' := by
  intro h
  rw [SeparateAssignment.text, List.append_assoc] at h
  obtain ⟨-, h⟩ := Text.run_append_inj (isBlank_of_mem hblank) (isBlank_of_mem a.isAllBlank_blank)
    rfl a.isBlank_head h
  obtain ⟨start, tail, htext, hstart⟩ := a.exists_text_eq_cons
  rw [htext] at h
  obtain ⟨rfl, -⟩ := List.cons.inj h
  cases hstart

theorem attributes_append_inj {as bs : List SeparateAssignment}
    (hblank : Text.isAllBlank blank = true) (hblank' : Text.isAllBlank blank' = true)
    (h : as.flatMap SeparateAssignment.text ++ (blank ++ '>' :: rest) =
      bs.flatMap SeparateAssignment.text ++ (blank' ++ '>' :: rest')) :
    as = bs ∧ blank = blank' ∧ rest = rest' := by
  induction as generalizing bs with
  | nil =>
    cases bs with
    | nil =>
      obtain ⟨heq, h⟩ := Text.run_append_inj (isBlank_of_mem hblank) (isBlank_of_mem hblank')
        rfl rfl h
      exact ⟨rfl, heq, (List.cons.inj h).2⟩
    | cons b bs =>
      rw [List.flatMap_cons, List.append_assoc] at h
      exact absurd h (SeparateAssignment.text_append_ne hblank)
  | cons a as ih =>
    cases bs with
    | nil =>
      rw [List.flatMap_cons, List.append_assoc] at h
      exact absurd h.symm (SeparateAssignment.text_append_ne hblank')
    | cons b bs =>
      simp only [List.flatMap_cons, SeparateAssignment.text, List.append_assoc] at h
      obtain ⟨hlead, h⟩ := Text.run_append_inj (isBlank_of_mem a.isAllBlank_blank)
        (isBlank_of_mem b.isAllBlank_blank) a.isBlank_head b.isBlank_head h
      obtain ⟨hassignment, h⟩ := Assignment.text_append_inj h
      obtain ⟨rfl, hend⟩ := ih h
      have hsame : a = b := by
        cases a
        cases b
        obtain rfl := hassignment
        obtain rfl := hlead
        rfl
      exact ⟨congrArg (· :: as) hsame, hend⟩

end

/-- No text is the spelling of two elements. -/
theorem Element.text_injective : Function.Injective Element.text := by
  intro d e h
  rw [Element.text, Element.text] at h
  obtain ⟨hattributes, hclose, h⟩ := attributes_append_inj d.isAllBlank_beforeClose
    e.isAllBlank_beforeClose (List.append_cancel_left h)
  obtain ⟨hcontent, h⟩ := Text.run_append_inj d.noTag_content e.noTag_content rfl rfl h
  obtain ⟨hend, -⟩ := Text.run_append_inj (isBlank_of_mem d.isAllBlank_beforeEnd)
    (isBlank_of_mem e.isAllBlank_beforeEnd) rfl rfl (List.append_cancel_left h)
  exact Element.ext hattributes hclose hcontent hend

section

open Pattern

variable {text : Text} {groups : List (Part × Text)}

theorem reads_blanks_iff :
    blanks.Reads text groups ↔ Text.isAllBlank text = true ∧ groups = [] := by
  rw [blanks, reads_many_one_iff, Text.isAllBlank, List.all_eq_true]

theorem reads_attributeName_iff :
    attributeName.Reads text groups ↔ isName text = true ∧ groups = [] := by
  rw [attributeName, reads_seq_iff]
  constructor
  · rintro ⟨first, second, left, right, rfl, rfl, hfirst, hsecond⟩
    obtain ⟨c, rfl, hc, rfl⟩ := reads_one_iff.mp hfirst
    obtain ⟨hrest, rfl⟩ := reads_many_one_iff.mp hsecond
    rw [List.singleton_append, isName, hc, List.all_eq_true.mpr hrest]
    exact ⟨rfl, rfl⟩
  · rintro ⟨hname, rfl⟩
    cases text with
    | nil => cases hname
    | cons c rest =>
      rw [isName, Bool.and_eq_true, List.all_eq_true] at hname
      exact ⟨[c], rest, [], [], rfl, rfl, .one hname.1, reads_many_one_iff.mpr ⟨hname.2, rfl⟩⟩

theorem reads_quoted_iff {quote : Char} {inner : Pattern Part} :
    (sequence [.one (· == quote), inner, .one (· == quote)]).Reads text groups ↔
      ∃ value, text = quote :: (value ++ [quote]) ∧ inner.Reads value groups := by
  have hend : ∀ {last lastGroups}, (sequence [.one (· == quote)] : Pattern Part).Reads last
      lastGroups ↔ last = [quote] ∧ lastGroups = [] := by
    intro last lastGroups
    change Reads (.seq (.one (· == quote)) .empty) _ _ ↔ _
    rw [reads_character_seq_iff]
    constructor
    · rintro ⟨rest, rfl, hrest⟩
      obtain ⟨rfl, rfl⟩ := reads_empty_iff.mp hrest
      exact ⟨rfl, rfl⟩
    · rintro ⟨rfl, rfl⟩
      exact ⟨[], rfl, .empty⟩
  change Reads (.seq (.one (· == quote)) (.seq inner (sequence [.one (· == quote)]))) _ _ ↔ _
  rw [reads_character_seq_iff]
  constructor
  · rintro ⟨rest, rfl, hrest⟩
    obtain ⟨value, last, left, right, rfl, rfl, hvalue, hlast⟩ := reads_seq_iff.mp hrest
    obtain ⟨rfl, rfl⟩ := hend.mp hlast
    exact ⟨value, rfl, by rwa [List.append_nil]⟩
  · rintro ⟨value, rfl, hvalue⟩
    have hboth := Reads.seq hvalue (hend.mpr ⟨rfl, rfl⟩)
    rw [List.append_nil] at hboth
    exact ⟨_, rfl, hboth⟩

/-- The ways to read an attribute are the ways to spell it. -/
theorem reads_attributeWith_iff {name double single : Pattern Part}
    {nameGroups doubleGroups singleGroups : Text → List (Part × Text)}
    (hname : ∀ text groups, name.Reads text groups ↔
      isName text = true ∧ groups = nameGroups text)
    (hdouble : ∀ text groups, double.Reads text groups ↔
      (∀ c ∈ text, (c != '"' && c != '<') = true) ∧ groups = doubleGroups text)
    (hsingle : ∀ text groups, single.Reads text groups ↔
      (∀ c ∈ text, (c != '\'' && c != '<') = true) ∧ groups = singleGroups text) :
    (attributeWith name double single).Reads text groups ↔ ∃ a : Assignment, text = a.text ∧
      groups = nameGroups a.name ++
        if a.quote = '"' then doubleGroups a.value else singleGroups a.value := by
  constructor
  · intro h
    obtain ⟨nameText, _, _, _, rfl, rfl, hn, hunnamed⟩ := reads_seq_iff.mp h
    obtain ⟨before, _, _, _, rfl, rfl, hb, hsigned⟩ := reads_seq_iff.mp hunnamed
    obtain ⟨_, rfl, hunsigned⟩ := reads_character_seq_iff.mp hsigned
    obtain ⟨after, _, _, _, rfl, rfl, ha, hlast⟩ := reads_seq_iff.mp hunsigned
    obtain ⟨_, _, _, _, rfl, rfl, hq, hnothing⟩ := reads_seq_iff.mp hlast
    obtain ⟨rfl, rfl⟩ := reads_empty_iff.mp hnothing
    obtain ⟨hisName, rfl⟩ := (hname _ _).mp hn
    obtain ⟨hbefore, rfl⟩ := reads_blanks_iff.mp hb
    obtain ⟨hafter, rfl⟩ := reads_blanks_iff.mp ha
    obtain hq | hq := reads_either_iff.mp hq
    · obtain ⟨value, rfl, hv⟩ := reads_quoted_iff.mp hq
      obtain ⟨hvalue, rfl⟩ := (hdouble _ _).mp hv
      exact ⟨⟨nameText, before, after, '"', value, hisName, hbefore, hafter, Or.inl rfl, hvalue⟩,
        by simp [Assignment.text], by simp⟩
    · obtain ⟨value, rfl, hv⟩ := reads_quoted_iff.mp hq
      obtain ⟨hvalue, rfl⟩ := (hsingle _ _).mp hv
      exact ⟨⟨nameText, before, after, '\'', value, hisName, hbefore, hafter, Or.inr rfl, hvalue⟩,
        by simp [Assignment.text], by simp⟩
  · rintro ⟨a, rfl, rfl⟩
    have hquoted : Reads (.either (sequence [.one (· == '"'), double, .one (· == '"')])
        (sequence [.one (· == '\''), single, .one (· == '\'')]))
        (a.quote :: (a.value ++ [a.quote]))
        (if a.quote = '"' then doubleGroups a.value else singleGroups a.value) := by
      have hvalue := a.unquoted_value
      rcases a.quote_mem with hquote | hquote
      · rw [hquote] at hvalue ⊢
        exact .left (reads_quoted_iff.mpr ⟨a.value, rfl, (hdouble _ _).mpr ⟨hvalue, rfl⟩⟩)
      · rw [hquote] at hvalue ⊢
        exact .right (reads_quoted_iff.mpr ⟨a.value, rfl, (hsingle _ _).mpr ⟨hvalue, rfl⟩⟩)
    refine reads_seq_iff.mpr ⟨a.name, _, nameGroups a.name, _, rfl, rfl,
      (hname _ _).mpr ⟨a.isName_name, rfl⟩, ?_⟩
    refine reads_seq_iff.mpr ⟨a.beforeSign, _, [], _, rfl, rfl,
      reads_blanks_iff.mpr ⟨a.isAllBlank_beforeSign, rfl⟩, ?_⟩
    refine reads_character_seq_iff.mpr ⟨_, rfl, ?_⟩
    refine reads_seq_iff.mpr ⟨a.afterSign, _, [], _, rfl, rfl,
      reads_blanks_iff.mpr ⟨a.isAllBlank_afterSign, rfl⟩, ?_⟩
    exact reads_seq_iff.mpr ⟨_, [], _, [], (List.append_nil _).symm, (List.append_nil _).symm,
      hquoted, .empty⟩

theorem reads_unquoted_iff {quote : Char} :
    (unquoted quote).Reads text groups ↔
      (∀ c ∈ text, (c != quote && c != '<') = true) ∧ groups = [] :=
  reads_many_one_iff

/-- A group around something that is read without groups. -/
theorem reads_group_of_iff {label : Part} {inner : Pattern Part} {kind : Text → Prop}
    (h : ∀ text groups, inner.Reads text groups ↔ kind text ∧ groups = []) :
    (Pattern.group label inner).Reads text groups ↔ kind text ∧ groups = [(label, text)] := by
  rw [reads_group_iff]
  constructor
  · rintro ⟨inside, rfl, hinner⟩
    obtain ⟨hkind, rfl⟩ := (h _ _).mp hinner
    exact ⟨hkind, rfl⟩
  · rintro ⟨hkind, rfl⟩
    exact ⟨[], rfl, (h _ _).mpr ⟨hkind, rfl⟩⟩

/-- The group that holds the value of an attribute. -/
def Assignment.valuePart (a : Assignment) : Part :=
  if a.quote = '"' then .doubleQuoted else .singleQuoted

theorem reads_attributePattern_iff : attributePattern.Reads text groups ↔
    ∃ a : Assignment, text = a.text ∧ groups = [(.name, a.name), (a.valuePart, a.value)] := by
  rw [attributePattern, reads_attributeWith_iff (fun _ _ => reads_group_of_iff fun _ _ =>
    reads_attributeName_iff) (fun _ _ => reads_group_of_iff fun _ _ => reads_unquoted_iff)
    (fun _ _ => reads_group_of_iff fun _ _ => reads_unquoted_iff)]
  refine exists_congr fun a => and_congr_right fun _ => ?_
  rw [Assignment.valuePart]
  split <;> rfl

/-- An attribute with white space in front of it, as the pattern for elements reads it. -/
theorem reads_separate_iff :
    (sequence [.one Text.isBlank, blanks,
      attributeWith attributeName (unquoted '"') (unquoted '\'')]).Reads text groups ↔
      ∃ a : SeparateAssignment, text = a.text ∧ groups = [] := by
  have hassignment : ∀ {text groups}, (attributeWith attributeName (unquoted '"')
      (unquoted '\'')).Reads text groups ↔ ∃ a : Assignment, text = a.text ∧ groups = [] := by
    intro text groups
    rw [reads_attributeWith_iff (fun _ _ => reads_attributeName_iff)
      (fun _ _ => reads_unquoted_iff) (fun _ _ => reads_unquoted_iff)]
    simp only [ite_self, List.append_nil]
  constructor
  · intro h
    obtain ⟨_, _, _, _, rfl, rfl, hfirst, hblanks⟩ := reads_seq_iff.mp h
    obtain ⟨blank, _, _, _, rfl, rfl, hb, hlast⟩ := reads_seq_iff.mp hblanks
    obtain ⟨_, _, _, _, rfl, rfl, ha, hnothing⟩ := reads_seq_iff.mp hlast
    obtain ⟨rfl, rfl⟩ := reads_empty_iff.mp hnothing
    obtain ⟨c, rfl, hc, rfl⟩ := reads_one_iff.mp hfirst
    obtain ⟨hblank, rfl⟩ := reads_blanks_iff.mp hb
    obtain ⟨a, rfl, rfl⟩ := hassignment.mp ha
    have hall : Text.isAllBlank (c :: blank) = true := by
      rw [Text.isAllBlank, List.all_cons, hc, Bool.true_and]
      exact hblank
    exact ⟨⟨a, c :: blank, List.cons_ne_nil _ _, hall⟩, by simp [SeparateAssignment.text], rfl⟩
  · rintro ⟨a, rfl, rfl⟩
    obtain ⟨c, blank, hblank⟩ := List.exists_cons_of_ne_nil a.blank_ne_nil
    have hall := a.isAllBlank_blank
    rw [hblank, Text.isAllBlank, List.all_cons, Bool.and_eq_true] at hall
    rw [SeparateAssignment.text, hblank]
    refine reads_seq_iff.mpr ⟨[c], blank ++ a.toAssignment.text, [], [], rfl, rfl, .one hall.1, ?_⟩
    refine reads_seq_iff.mpr ⟨blank, a.toAssignment.text, [], [], rfl, rfl,
      reads_blanks_iff.mpr ⟨hall.2, rfl⟩, ?_⟩
    exact reads_seq_iff.mpr ⟨_, [], [], [], (List.append_nil _).symm, rfl,
      hassignment.mpr ⟨a.toAssignment, rfl, rfl⟩, .empty⟩

theorem SeparateAssignment.text_ne_nil (a : SeparateAssignment) : a.text ≠ [] :=
  List.append_ne_nil_of_left_ne_nil a.blank_ne_nil _

/-- The ways to read an element are the ways to spell it. -/
theorem reads_elementPattern_iff : elementPattern.Reads text groups ↔
    ∃ e : Element, text = e.text ∧
      groups = [(.attributes, e.attributeText), (.content, e.content)] := by
  have hattributes : ∀ text groups, Reads (.many (sequence [.one Text.isBlank, blanks,
      attributeWith attributeName (unquoted '"') (unquoted '\'')])) text groups ↔
      (∃ items : List SeparateAssignment, text = items.flatMap SeparateAssignment.text) ∧
        groups = [] := by
    intro text groups
    rw [reads_many_iff (fun _ _ => reads_separate_iff) SeparateAssignment.text_ne_nil,
      exists_and_right]
  constructor
  · intro h
    obtain ⟨_, _, _, _, rfl, rfl, ho, hbehind⟩ := reads_seq_iff.mp h
    obtain ⟨_, _, _, _, rfl, rfl, ha, hclose⟩ := reads_seq_iff.mp hbehind
    obtain ⟨beforeClose, _, _, _, rfl, rfl, hb, htag⟩ := reads_seq_iff.mp hclose
    obtain ⟨_, rfl, hinside⟩ := reads_character_seq_iff.mp htag
    obtain ⟨content, _, _, _, rfl, rfl, hc, hcloseTag⟩ := reads_seq_iff.mp hinside
    obtain ⟨_, _, _, _, rfl, rfl, hl, hend⟩ := reads_seq_iff.mp hcloseTag
    obtain ⟨beforeEnd, _, _, _, rfl, rfl, he, hlast⟩ := reads_seq_iff.mp hend
    obtain ⟨_, rfl, hnothing⟩ := reads_character_seq_iff.mp hlast
    obtain ⟨rfl, rfl⟩ := reads_empty_iff.mp hnothing
    obtain ⟨rfl, rfl⟩ := reads_literal_iff.mp ho
    obtain ⟨⟨items, rfl⟩, rfl⟩ := (reads_group_of_iff hattributes).mp ha
    obtain ⟨hbeforeClose, rfl⟩ := reads_blanks_iff.mp hb
    obtain ⟨hcontent, rfl⟩ := (reads_group_of_iff fun _ _ => reads_many_one_iff).mp hc
    obtain ⟨rfl, rfl⟩ := reads_literal_iff.mp hl
    obtain ⟨hbeforeEnd, rfl⟩ := reads_blanks_iff.mp he
    exact ⟨⟨items, beforeClose, content, beforeEnd, hbeforeClose, hcontent, hbeforeEnd⟩, rfl, rfl⟩
  · rintro ⟨e, rfl, rfl⟩
    refine reads_seq_iff.mpr ⟨openTag, _, [], _, rfl, rfl, reads_literal_iff.mpr ⟨rfl, rfl⟩, ?_⟩
    refine reads_seq_iff.mpr ⟨e.attributeText, _, [(.attributes, e.attributeText)], _, rfl, rfl,
      (reads_group_of_iff hattributes).mpr ⟨⟨e.attributes, rfl⟩, rfl⟩, ?_⟩
    refine reads_seq_iff.mpr ⟨e.beforeClose, _, [], _, rfl, rfl,
      reads_blanks_iff.mpr ⟨e.isAllBlank_beforeClose, rfl⟩, ?_⟩
    refine reads_character_seq_iff.mpr ⟨_, rfl, ?_⟩
    refine reads_seq_iff.mpr ⟨e.content, _, [(.content, e.content)], [], rfl, rfl,
      (reads_group_of_iff fun _ _ => reads_many_one_iff).mpr ⟨e.noTag_content, rfl⟩, ?_⟩
    refine reads_seq_iff.mpr ⟨closeTag, _, [], [], rfl, rfl, reads_literal_iff.mpr ⟨rfl, rfl⟩, ?_⟩
    refine reads_seq_iff.mpr ⟨e.beforeEnd, _, [], [], rfl, rfl,
      reads_blanks_iff.mpr ⟨e.isAllBlank_beforeEnd, rfl⟩, ?_⟩
    exact reads_character_seq_iff.mpr ⟨[], rfl, .empty⟩

/-- Behind white space the next attribute is found, whatever stands behind it. -/
theorem attributes_text_append (a : SeparateAssignment) (rest : Text) :
    attributes (a.text ++ rest) = a.entry :: attributes rest := by
  obtain ⟨m, hm⟩ := exists_prefix?_of_reads
    (reads_attributePattern_iff.mpr ⟨a.toAssignment, rfl, rfl⟩) rest
  obtain ⟨htext, hreads⟩ := reads_of_prefix? hm
  obtain ⟨b, hmatched, hgroups⟩ := reads_attributePattern_iff.mp hreads
  rw [hmatched] at htext
  obtain ⟨hsame, hrest⟩ := Assignment.text_append_inj htext
  have hstarts : ∀ {matched groups}, attributePattern.Reads matched groups →
      ∃ start tail, matched = start :: tail ∧ isNameStart start = true := by
    intro matched groups hreads
    obtain ⟨d, rfl, -⟩ := reads_attributePattern_iff.mp hreads
    exact d.exists_text_eq_cons
  have hskip : ∀ c ∈ a.blank, ∀ matched groups, attributePattern.Reads matched groups →
      matched.head? ≠ some c := by
    intro c hc matched groups hreads hhead
    obtain ⟨start, tail, rfl, hstart⟩ := hstarts hreads
    obtain rfl := Option.some.inj hhead
    have hblank := isBlank_of_mem a.isAllBlank_blank start hc
    rw [isBlank_of_isNameStart hstart] at hblank
    cases hblank
  have hnonempty : ∀ groups, ¬ attributePattern.Reads [] groups := by
    intro groups hreads
    obtain ⟨start, tail, hnil, -⟩ := hstarts hreads
    cases hnil
  have hne : m.matched ≠ [] := by
    intro hnil
    rw [hnil] at hreads
    exact hnonempty _ hreads
  have hentry : ((m.group? .name).getD [],
      ((m.group? .doubleQuoted).or (m.group? .singleQuoted)).getD []) = a.entry := by
    rw [Match.group?, Match.group?, Match.group?, hgroups, ← hsame, Assignment.valuePart,
      Assignment.entry]
    split <;> rfl
  rw [SeparateAssignment.text, List.append_assoc, attributes,
    findAll_append_of_not_reads hskip hnonempty, findAll_of_prefix? hm hne, List.map_cons, hentry,
    ← hrest, attributes]

/-- The attributes that are found are those that the text was made of. -/
theorem attributes_attributeText (e : Element) :
    attributes e.attributeText = e.attributes.map fun a => a.entry := by
  rw [Element.attributeText]
  induction e.attributes with
  | nil => rfl
  | cons a rest ih => rw [List.flatMap_cons, attributes_text_append, ih, List.map_cons]

/-- The pattern for elements matches what is spelled as one, and nothing else. -/
theorem whole?_elementPattern_eq_some {m : Match Part}
    (h : elementPattern.whole? text = some m) : ∃ e : Element, e.text = text ∧
      m.group? .attributes = some e.attributeText ∧ m.group? .content = some e.content := by
  obtain ⟨e, htext, hgroups⟩ := reads_elementPattern_iff.mp (reads_of_whole? h)
  refine ⟨e, htext.symm, ?_, ?_⟩
  · rw [Match.group?, hgroups]
    rfl
  · rw [Match.group?, hgroups]
    rfl

theorem exists_whole?_elementPattern (e : Element) :
    ∃ m, elementPattern.whole? e.text = some m :=
  exists_whole?_of_reads (reads_elementPattern_iff.mpr ⟨e, rfl, rfl⟩)

end

theorem element?_text (e : Element) :
    element? e.text = some (e.attributes.map (fun a => a.entry), e.content) := by
  obtain ⟨m, hm⟩ := exists_whole?_elementPattern e
  obtain ⟨d, htext, hattributes, hcontent⟩ := whole?_elementPattern_eq_some hm
  obtain rfl := Element.text_injective htext
  rw [element?, hm, Option.map_some, hattributes, hcontent, Option.getD_some, Option.getD_some,
    attributes_attributeText]

theorem element?_eq_some_iff {markup : Text} {found : List (Text × Text) × Text} :
    element? markup = some found ↔
      ∃ e : Element,
        e.text = markup ∧ found = (e.attributes.map (fun a => a.entry), e.content) := by
  constructor
  · intro h
    obtain ⟨m, hm, -⟩ := Option.map_eq_some_iff.mp h
    obtain ⟨e, rfl, -, -⟩ := whole?_elementPattern_eq_some hm
    exact ⟨e, rfl, Option.some.inj (h.symm.trans (element?_text e))⟩
  · rintro ⟨e, rfl, rfl⟩
    exact element?_text e

/-- An element that defines an abbreviation: its only attribute is the title, and there is text. -/
def Element.Defines (e : Element) (abbreviation : Abbreviation) : Prop :=
  ∃ title : SeparateAssignment, e.attributes = [title] ∧ title.name = ['t', 'i', 't', 'l', 'e'] ∧
    Text.isAllBlank (CharacterReference.decode e.content) = false ∧
    abbreviation = ⟨CharacterReference.decode e.content, CharacterReference.decode title.value⟩

theorem ofMarkup_eq_ok_iff {markup : Text} {abbreviation : Abbreviation} :
    ofMarkup markup = .ok abbreviation ↔
      ∃ e : Element, e.text = Text.trim markup ∧ e.Defines abbreviation := by
  constructor
  · intro h
    rw [ofMarkup] at h
    split at h
    · cases h
    · rename_i name value content hfound
      obtain ⟨e, htext, hentries⟩ := element?_eq_some_iff.mp hfound
      obtain ⟨hentry, rfl⟩ := Prod.mk.inj hentries
      obtain ⟨title, hattributes, hentry⟩ := List.map_eq_singleton_iff.mp hentry.symm
      obtain ⟨rfl, rfl⟩ := Prod.mk.inj hentry
      split at h
      · rename_i hname
        dsimp only at h
        split at h
        · cases h
        · rename_i hnonblank
          obtain rfl := Except.ok.inj h
          exact ⟨e, htext, title, hattributes, hname, Bool.eq_false_iff.mpr hnonblank, rfl⟩
      · cases h
    · cases h
  · rintro ⟨e, htext, title, hattributes, hname, hnonblank, rfl⟩
    have hfound : element? (Text.trim markup) = some ([(title.name, title.value)], e.content) := by
      rw [← htext, element?_text, hattributes]
      rfl
    rw [ofMarkup, hfound]
    dsimp only
    rw [if_pos hname, if_neg (ne_true_of_eq_false hnonblank)]

/-- Markup defines an abbreviation just if it is spelled as an element with a title and text, apart
from white space around it. There is only one such spelling, and the two patterns agree on it: the
attributes found in what the first one has matched as attributes are those of the element. Any other
markup fails, and the failure carries it. -/
theorem ofMarkup_grammar :
    (∀ markup abbreviation, ofMarkup markup = .ok abbreviation ↔
      ∃ e : Element, e.text = Text.trim markup ∧ e.Defines abbreviation) ∧
    (∀ d e : Element, d.text = e.text → d = e) ∧
    (∀ e : Element, ∃ m, elementPattern.whole? e.text = some m) ∧
    (∀ text m, elementPattern.whole? text = some m → ∃ e : Element, e.text = text ∧
      m.group? .attributes = some e.attributeText ∧ m.group? .content = some e.content ∧
      attributes e.attributeText = e.attributes.map fun a => (a.name, a.value)) ∧
    (∀ markup, (¬ ∃ (e : Element) (abbreviation : Abbreviation),
      e.text = Text.trim markup ∧ e.Defines abbreviation) →
      ∃ message, (ofMarkup markup).mapError (AbbreviationError.failure markup) =
        .error (.markup message markup)) := by
  refine ⟨fun _ _ => ofMarkup_eq_ok_iff, fun _ _ h => Element.text_injective h,
    exists_whole?_elementPattern, ?_, ?_⟩
  · intro text m hm
    obtain ⟨e, htext, hattributes, hcontent⟩ := whole?_elementPattern_eq_some hm
    exact ⟨e, htext, hattributes, hcontent, attributes_attributeText e⟩
  · intro markup hnone
    cases hresult : ofMarkup markup with
    | ok abbreviation =>
      obtain ⟨e, htext, hdefines⟩ := ofMarkup_eq_ok_iff.mp hresult
      exact absurd ⟨e, abbreviation, htext, hdefines⟩ hnone
    | error error => exact ⟨error.message.toList, rfl⟩

example : (ofMarkup " <abbr\ttitle = 'a=\"b\">'>AB</abbr >\n".toList).toOption =
    some ⟨"AB".toList, "a=\"b\">".toList⟩ := by
  decide +kernel

example : (ofMarkup "<abbr title=''>AB</abbr>".toList).toOption = some ⟨"AB".toList, []⟩ := by
  decide +kernel

end Abbreviation

end DocumentStream
