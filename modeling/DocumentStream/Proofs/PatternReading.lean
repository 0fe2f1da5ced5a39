import DocumentStream.Text.Pattern

/-!
What patterns match, apart from the order in which it is tried. A reading of a text as a pattern
says how the pattern is made out in the text. Matching the beginning of a text comes to just the
readings of its beginnings, so that where there is only one reading the order makes no difference.
-/

namespace DocumentStream.Pattern

variable {Label : Type} {p q : Pattern Label} {text first second : Text}
  {groups groups' : List (Label × Text)}

/-- A reading of a text as a pattern, with what the groups of the pattern hold. -/
inductive Reads : Pattern Label → Text → List (Label × Text) → Prop
  | empty : Reads .empty [] []
  | one {isIn : Char → Bool} {c : Char} (hc : isIn c = true) : Reads (.one isIn) [c] []
  | seq {p q : Pattern Label} {first second : Text} {groups groups' : List (Label × Text)}
      (hfirst : Reads p first groups) (hsecond : Reads q second groups') :
      Reads (.seq p q) (first ++ second) (groups ++ groups')
  | left {p q : Pattern Label} {text : Text} {groups : List (Label × Text)}
      (h : Reads p text groups) : Reads (.either p q) text groups
  | right {p q : Pattern Label} {text : Text} {groups : List (Label × Text)}
      (h : Reads q text groups) : Reads (.either p q) text groups
  | done {item : Pattern Label} : Reads (.many item) [] []
  | again {item : Pattern Label} {first second : Text} {groups groups' : List (Label × Text)}
      (hne : first ≠ []) (hfirst : Reads item first groups)
      (hsecond : Reads (.many item) second groups') :
      Reads (.many item) (first ++ second) (groups ++ groups')
  | group {inner : Pattern Label} {text : Text} {groups : List (Label × Text)} (label : Label)
      (h : Reads inner text groups) : Reads (.group label inner) text ((label, text) :: groups)

theorem reads_empty_iff :
    Reads (.empty : Pattern Label) text groups ↔ text = [] ∧ groups = [] := by
  constructor
  · rintro ⟨⟩
    exact ⟨rfl, rfl⟩
  · rintro ⟨rfl, rfl⟩
    exact .empty

theorem reads_one_iff {isIn : Char → Bool} :
    Reads (.one isIn : Pattern Label) text groups ↔
      ∃ c, text = [c] ∧ isIn c = true ∧ groups = [] := by
  constructor
  · rintro (_ | ⟨hc⟩)
    exact ⟨_, rfl, hc, rfl⟩
  · rintro ⟨c, rfl, hc, rfl⟩
    exact .one hc

theorem reads_seq_iff :
    Reads (.seq p q) text groups ↔ ∃ first second left right, text = first ++ second ∧
      groups = left ++ right ∧ Reads p first left ∧ Reads q second right := by
  constructor
  · rintro (_ | _ | ⟨hfirst, hsecond⟩)
    exact ⟨_, _, _, _, rfl, rfl, hfirst, hsecond⟩
  · rintro ⟨first, second, left, right, rfl, rfl, hfirst, hsecond⟩
    exact .seq hfirst hsecond

theorem reads_either_iff :
    Reads (.either p q) text groups ↔ Reads p text groups ∨ Reads q text groups := by
  constructor
  · rintro (_ | _ | _ | h | h)
    · exact Or.inl h
    · exact Or.inr h
  · rintro (h | h)
    · exact .left h
    · exact .right h

theorem reads_group_iff {label : Label} :
    Reads (.group label p) text groups ↔ ∃ inner, groups = (label, text) :: inner ∧
      Reads p text inner := by
  constructor
  · intro h
    cases h with
    | group label h => exact ⟨_, rfl, h⟩
  · rintro ⟨inner, rfl, h⟩
    exact .group label h

/-- A repetition of something that is read without groups, where each time takes a character. -/
theorem reads_many_iff {α : Type} {shown : α → Text}
    (hitem : ∀ text groups, Reads p text groups ↔ ∃ a, text = shown a ∧ groups = [])
    (hne : ∀ a, shown a ≠ []) :
    Reads (.many p) text groups ↔ ∃ items : List α, text = items.flatMap shown ∧ groups = [] := by
  constructor
  · intro h
    generalize hmany : Pattern.many p = pattern at h
    induction h with
    | done => exact ⟨[], rfl, rfl⟩
    | again hnonempty hfirst hsecond ihfirst ihsecond =>
      obtain rfl := Pattern.many.inj hmany
      obtain ⟨a, rfl, rfl⟩ := (hitem _ _).mp hfirst
      obtain ⟨items, rfl, rfl⟩ := ihsecond rfl
      exact ⟨a :: items, rfl, rfl⟩
    | _ => cases hmany
  · rintro ⟨items, rfl, rfl⟩
    induction items with
    | nil => exact .done
    | cons a rest ih => exact .again (hne a) ((hitem _ _).mpr ⟨a, rfl, rfl⟩) ih

/-- A run of characters of a kind. -/
theorem reads_many_one_iff {isIn : Char → Bool} :
    Reads (.many (.one isIn) : Pattern Label) text groups ↔
      (∀ c ∈ text, isIn c = true) ∧ groups = [] := by
  have hitem : ∀ text groups, Reads (.one isIn : Pattern Label) text groups ↔
      ∃ c : { c // isIn c = true }, text = [c.1] ∧ groups = [] := by
    intro text groups
    rw [reads_one_iff]
    constructor
    · rintro ⟨c, htext, hc, hgroups⟩
      exact ⟨⟨c, hc⟩, htext, hgroups⟩
    · rintro ⟨⟨c, hc⟩, htext, hgroups⟩
      exact ⟨c, htext, hc, hgroups⟩
  rw [reads_many_iff hitem fun _ => List.cons_ne_nil _ _]
  refine exists_and_right.trans (and_congr_left fun _ => ?_)
  constructor
  · rintro ⟨items, rfl⟩ c hc
    obtain ⟨item, -, hmem⟩ := List.mem_flatMap.mp hc
    rw [List.mem_singleton.mp hmem]
    exact item.2
  · intro h
    refine ⟨text.attach.map fun c => ⟨c.1, h c.1 c.2⟩, ?_⟩
    rw [List.flatMap_map]
    simp

/-- A certain character in front of something else. -/
theorem reads_character_seq_iff {c : Char} :
    Reads (.seq (.one (· == c)) p) text groups ↔
      ∃ rest, text = c :: rest ∧ Reads p rest groups := by
  rw [reads_seq_iff]
  constructor
  · rintro ⟨first, second, left, right, rfl, rfl, hfirst, hsecond⟩
    obtain ⟨d, rfl, hd, rfl⟩ := reads_one_iff.mp hfirst
    exact ⟨second, congrArg (· :: second) (beq_iff_eq.mp hd), hsecond⟩
  · rintro ⟨rest, rfl, hrest⟩
    exact ⟨[c], rest, [], groups, rfl, rfl, .one (beq_self_eq_true c), hrest⟩

theorem reads_literal_iff {word : Text} :
    Reads (literal word : Pattern Label) text groups ↔ text = word ∧ groups = [] := by
  induction word generalizing text groups with
  | nil => exact reads_empty_iff
  | cons c rest ih =>
    have hword : (literal (c :: rest) : Pattern Label) = .seq (.one (· == c)) (literal rest) := rfl
    rw [hword, reads_character_seq_iff]
    constructor
    · rintro ⟨tail, rfl, htail⟩
      obtain ⟨rfl, rfl⟩ := ih.mp htail
      exact ⟨rfl, rfl⟩
    · rintro ⟨rfl, rfl⟩
      exact ⟨rest, rfl, ih.mpr ⟨rfl, rfl⟩⟩

/-- Matching over and over comes to the readings of a repetition, if there is enough fuel for as
many times as there are characters. -/
theorem mem_repetitions_iff {once : Text → List (Match Label)}
    (honce : ∀ text m, m ∈ once text ↔ text = m.matched ++ m.rest ∧ Reads p m.matched m.groups)
    {fuel : Nat} (hfuel : text.length ≤ fuel) {matched rest : Text} :
    ⟨matched, groups, rest⟩ ∈ repetitions once fuel text ↔
      text = matched ++ rest ∧ Reads (.many p) matched groups := by
  induction fuel generalizing text matched groups rest with
  | zero =>
    obtain rfl : text = [] := List.length_eq_zero_iff.mp (Nat.le_zero.mp hfuel)
    simp only [repetitions, List.mem_singleton, Match.mk.injEq]
    constructor
    · rintro ⟨rfl, rfl, rfl⟩
      exact ⟨rfl, .done⟩
    · rintro ⟨htext, hreads⟩
      obtain ⟨hmatched, rfl⟩ := List.append_eq_nil_iff.mp htext.symm
      cases hreads with
      | done => exact ⟨rfl, rfl, rfl⟩
      | again hne hfirst hsecond => exact absurd (List.append_eq_nil_iff.mp hmatched).1 hne
  | succ fuel ih =>
    simp only [repetitions, List.mem_append, List.mem_flatMap, List.mem_filter, List.mem_map,
      List.mem_singleton, honce, Bool.not_eq_true', List.isEmpty_eq_false_iff]
    constructor
    · rintro (⟨first, ⟨⟨htext, hfirst⟩, hne⟩, ⟨tail, tailGroups, last⟩, hsecond, hboth⟩ | hnothing)
      · have hpositive := List.length_pos_iff.mpr hne
        have hrest : first.rest.length ≤ fuel := by
          rw [htext, List.length_append] at hfuel
          omega
        obtain ⟨hsplit, hreads⟩ := (ih hrest).mp hsecond
        obtain ⟨rfl, rfl, rfl⟩ := Match.mk.inj hboth
        exact ⟨by rw [htext, hsplit, List.append_assoc], .again hne hfirst hreads⟩
      · obtain ⟨rfl, rfl, rfl⟩ := Match.mk.inj hnothing
        exact ⟨rfl, .done⟩
    · rintro ⟨rfl, hreads⟩
      cases hreads with
      | done => exact Or.inr rfl
      | @again _ start tail startGroups tailGroups hne hfirst hsecond =>
        have hpositive := List.length_pos_iff.mpr hne
        have hlength : (tail ++ rest).length ≤ fuel := by
          rw [List.append_assoc, List.length_append] at hfuel
          omega
        exact Or.inl ⟨⟨start, startGroups, tail ++ rest⟩, ⟨⟨List.append_assoc .., hfirst⟩, hne⟩,
          ⟨tail, tailGroups, rest⟩, (ih hlength).mpr ⟨rfl, hsecond⟩, rfl⟩

/-- Matching the beginning of a text comes to the readings of its beginnings. -/
theorem mem_attempts_iff {matched rest : Text} :
    ⟨matched, groups, rest⟩ ∈ p.attempts text ↔
      text = matched ++ rest ∧ p.Reads matched groups := by
  induction p generalizing text matched groups rest with
  | empty =>
    rw [attempts, List.mem_singleton, reads_empty_iff, Match.mk.injEq]
    constructor
    · rintro ⟨rfl, rfl, rfl⟩
      exact ⟨rfl, rfl, rfl⟩
    · rintro ⟨rfl, rfl, rfl⟩
      exact ⟨rfl, rfl, rfl⟩
  | one isIn =>
    rw [reads_one_iff]
    constructor
    · intro hm
      cases text with
      | nil => simp [attempts] at hm
      | cons c tail =>
        rw [attempts] at hm
        split at hm
        · rename_i hc
          obtain ⟨rfl, rfl, rfl⟩ := Match.mk.inj (List.mem_singleton.mp hm)
          exact ⟨rfl, c, rfl, hc, rfl⟩
        · simp at hm
    · rintro ⟨rfl, c, rfl, hc, rfl⟩
      rw [List.singleton_append, attempts, if_pos hc]
      exact List.mem_singleton.mpr rfl
  | seq first second ihfirst ihsecond =>
    rw [attempts, List.mem_flatMap, reads_seq_iff]
    constructor
    · rintro ⟨⟨s, left, mid⟩, hfirst, hboth⟩
      obtain ⟨⟨t, right, last⟩, hsecond, hmatch⟩ := List.mem_map.mp hboth
      obtain ⟨rfl, rfl, rfl⟩ := Match.mk.inj hmatch
      obtain ⟨rfl, hs⟩ := ihfirst.mp hfirst
      obtain ⟨rfl, ht⟩ := ihsecond.mp hsecond
      exact ⟨(List.append_assoc ..).symm, s, t, left, right, rfl, rfl, hs, ht⟩
    · rintro ⟨rfl, s, t, left, right, rfl, rfl, hs, ht⟩
      exact ⟨⟨s, left, t ++ rest⟩, ihfirst.mpr ⟨List.append_assoc .., hs⟩,
        List.mem_map.mpr ⟨⟨t, right, rest⟩, ihsecond.mpr ⟨rfl, ht⟩, rfl⟩⟩
  | either first second ihfirst ihsecond =>
    rw [attempts, List.mem_append, ihfirst, ihsecond, reads_either_iff, and_or_left]
  | many item ih => exact mem_repetitions_iff (fun _ _ => ih) (Nat.le_refl _)
  | group label inner ih =>
    rw [attempts, List.mem_map, reads_group_iff]
    constructor
    · rintro ⟨⟨s, inside, last⟩, hinner, hmatch⟩
      obtain ⟨rfl, rfl, rfl⟩ := Match.mk.inj hmatch
      obtain ⟨htext, hs⟩ := ih.mp hinner
      exact ⟨htext, inside, rfl, hs⟩
    · rintro ⟨htext, inside, rfl, hs⟩
      exact ⟨⟨matched, inside, rest⟩, ih.mpr ⟨htext, hs⟩, rfl⟩

theorem reads_of_prefix? {m : Match Label} (h : p.prefix? text = some m) :
    text = m.matched ++ m.rest ∧ p.Reads m.matched m.groups :=
  mem_attempts_iff.mp (List.mem_of_head? h)

theorem exists_prefix?_of_reads (h : p.Reads first groups) (rest : Text) :
    ∃ m, p.prefix? (first ++ rest) = some m := by
  have hm : (⟨first, groups, rest⟩ : Match Label) ∈ p.attempts (first ++ rest) :=
    mem_attempts_iff.mpr ⟨rfl, h⟩
  exact Option.ne_none_iff_exists'.mp fun hnone =>
    List.ne_nil_of_mem hm (List.head?_eq_none_iff.mp hnone)

/-- A text is matched as a whole if it can be read, and then by one of its readings. -/
theorem reads_of_whole? {m : Match Label} (h : p.whole? text = some m) : p.Reads text m.groups := by
  rw [whole?] at h
  have hrest := List.find?_some (p := fun m : Match Label => m.rest.isEmpty) h
  obtain ⟨htext, hreads⟩ := mem_attempts_iff.mp (List.mem_of_find?_eq_some h)
  rw [List.isEmpty_iff.mp hrest, List.append_nil] at htext
  rwa [htext]

theorem exists_whole?_of_reads (h : p.Reads text groups) : ∃ m, p.whole? text = some m := by
  have hm : (⟨text, groups, []⟩ : Match Label) ∈ p.attempts text :=
    mem_attempts_iff.mpr ⟨(List.append_nil text).symm, h⟩
  rw [whole?, ← Option.isSome_iff_exists, List.find?_isSome]
  exact ⟨_, hm, rfl⟩

/-- What belongs to a match that was found already is passed over. -/
theorem findAll_length_append (p : Pattern Label) (found rest : Text) :
    p.findAll found.length (found ++ rest) = p.findAll 0 rest := by
  induction found with
  | nil => rfl
  | cons c found ih => exact ih

/-- Where a match begins it is found, and the search goes on behind it. -/
theorem findAll_of_prefix? {m : Match Label} (h : p.prefix? text = some m)
    (hne : m.matched ≠ []) : p.findAll 0 text = m :: p.findAll 0 m.rest := by
  obtain ⟨htext, -⟩ := reads_of_prefix? h
  obtain ⟨c, matched, hmatched⟩ := List.exists_cons_of_ne_nil hne
  rw [hmatched, List.cons_append] at htext
  rw [htext] at h ⊢
  have hskipped : m.matched.length - 1 = matched.length := by rw [hmatched]; rfl
  rw [findAll, h]
  dsimp only
  rw [hskipped, findAll_length_append]

/-- Where nothing that is read can begin the search goes on. -/
theorem findAll_append_of_not_reads {front rest : Text}
    (h : ∀ c ∈ front, ∀ matched groups, p.Reads matched groups → matched.head? ≠ some c)
    (hne : ∀ groups, ¬ p.Reads [] groups) : p.findAll 0 (front ++ rest) = p.findAll 0 rest := by
  induction front with
  | nil => rfl
  | cons c front ih =>
    rw [List.forall_mem_cons] at h
    have hnone : p.prefix? (c :: (front ++ rest)) = none := by
      rw [Option.eq_none_iff_forall_ne_some]
      intro m hm
      obtain ⟨htext, hreads⟩ := reads_of_prefix? hm
      cases hmatched : m.matched with
      | nil =>
        rw [hmatched] at hreads
        exact hne _ hreads
      | cons d matched =>
        rw [hmatched, List.cons_append] at htext
        rw [hmatched] at hreads
        exact h.1 _ _ hreads (by rw [List.head?_cons, (List.cons.inj htext).1])
    rw [List.cons_append, findAll, hnone]
    exact ih h.2

end DocumentStream.Pattern
