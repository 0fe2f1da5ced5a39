import DocumentStream.Proofs.BlockSeparation

/-!
The abbreviations that a document records. Raw text that defines one may stand anywhere in the
content of a document; it is recorded in the innermost document around it, unless its key is known
there already. So the abbreviations of a document are read off its events: those outside of nested
documents, and of each key the first one.
-/

namespace DocumentStream

namespace Abbreviation

/-- The abbreviations recorded in a document after another one is met there. -/
def record (recorded : List Abbreviation) (abbreviation : Abbreviation) : List Abbreviation :=
  if recorded.all fun known => known.key != abbreviation.key then recorded ++ [abbreviation]
  else recorded

/-- Of some abbreviations the first one for each key, apart from the keys seen before. -/
def firstOccurrences (seen : List Text) : List Abbreviation → List Abbreviation
  | [] => []
  | abbreviation :: rest =>
    if seen.contains abbreviation.key then firstOccurrences seen rest
    else abbreviation :: firstOccurrences (abbreviation.key :: seen) rest

/-- The block of definitions with the empty line in front of it. Without definitions there is
none. -/
def definitionBlock : List Abbreviation → Text
  | [] => []
  | first :: rest =>
    '\n' :: '\n' :: Text.join ['\n'] ((first :: rest).map fun abbreviation =>
      '*' :: '[' :: abbreviation.key ++ ']' :: ':' :: ' ' :: abbreviation.title)

/-- Recording abbreviations one after another adds those whose keys are new. -/
theorem foldl_record {seen : List Text} {recorded : List Abbreviation}
    (hseen : ∀ key, key ∈ seen ↔ key ∈ recorded.map (·.key)) (met : List Abbreviation) :
    met.foldl record recorded = recorded ++ firstOccurrences seen met := by
  induction met generalizing seen recorded with
  | nil => exact (List.append_nil recorded).symm
  | cons first rest ih =>
    have hnew : (recorded.all fun known => known.key != first.key) = true ↔ first.key ∉ seen := by
      simp [hseen]
    simp only [List.foldl_cons, record, firstOccurrences, List.contains_iff_mem]
    by_cases hkey : first.key ∈ seen
    · rw [if_pos hkey, if_neg (by simpa [hnew] using hkey)]
      exact ih hseen
    · have hseen' : ∀ key, key ∈ first.key :: seen ↔
          key ∈ (recorded ++ [first]).map (·.key) := by
        intro key
        simp [hseen, or_comm]
      rw [if_neg hkey, if_pos (hnew.mpr hkey), ih hseen', List.append_assoc]
      rfl

end Abbreviation

/-- The abbreviation that an event defines. -/
def Event.abbreviation? : Event → Option Abbreviation
  | .leaf (.rawText (.str text) _) => Abbreviation.ofRawText? text
  | _ => none

/-- How many nested documents are open after an event. -/
def Event.documentDepth (depth : Nat) : Event → Nat
  | .opening construct => if construct.kind = .document then depth + 1 else depth
  | .closing construct => if construct.kind = .document then depth - 1 else depth
  | _ => depth

/-- The abbreviations that the content of a document defines, those in nested documents left out.
The depth counts the nested documents that are open already. -/
def ownAbbreviations (depth : Nat) : List Event → List Abbreviation
  | [] => []
  | e :: rest =>
    (if depth = 0 then e.abbreviation?.toList else []) ++
      ownAbbreviations (e.documentDepth depth) rest

/-- A part of the content of a document: a block, or a nested document with any properly nested
content. -/
inductive IsPart (options : Options) : List Event → Prop
  | block {part : List Event} (hblock : IsBlock options part) : IsPart options part
  | document {parameters parameters' : Parameters} {content : List Event}
      (hcontent : OpenConstructs.run? (some .document) [] content = some []) :
      IsPart options (.opening (.document parameters) ::
        (content ++ [.closing (.document parameters')]))

theorem Event.isSome_abbreviation? (e : Event) : e.abbreviation?.isSome = e.isAbbreviation := by
  cases e with
  | leaf l =>
    cases l with
    | rawText text markup => cases text <;> rfl
    | _ => rfl
  | _ => rfl

section

variable {around : Option ConstructKind} {opened next last : OpenConstructs}

theorem Event.documentDepth_eq {e : Event} (h : OpenConstructs.step? around opened e = some next)
    (n : Nat) :
    e.documentDepth (opened.count .document + n) = next.count .document + n := by
  cases e with
  | opening construct =>
    obtain ⟨-, rfl⟩ : construct.kind.fitsIn (opened.head?.or around) = true ∧
        construct.kind :: opened = next := by simpa [OpenConstructs.step?] using h
    by_cases hkind : construct.kind = .document
    · simp only [documentDepth, hkind, if_true, List.count_cons_self]
      omega
    · simp [documentDepth, hkind]
  | closing construct =>
    obtain rfl := OpenConstructs.step?_closing_eq_some_iff.mp h
    by_cases hkind : construct.kind = .document
    · simp only [documentDepth, hkind, if_true, List.count_cons_self]
      omega
    · simp [documentDepth, hkind]
  | leaf l => rw [← Option.some.inj h]; rfl
  | foreign name => rw [← Option.some.inj h]; rfl

theorem ownAbbreviations_append {first : List Event}
    (h : OpenConstructs.run? around opened first = some next) (n : Nat) (second : List Event) :
    ownAbbreviations (opened.count .document + n) (first ++ second) =
      ownAbbreviations (opened.count .document + n) first ++
        ownAbbreviations (next.count .document + n) second := by
  induction first generalizing opened with
  | nil =>
    obtain rfl := Option.some.inj h
    rfl
  | cons e rest ih =>
    obtain ⟨mid, hstep, hrest⟩ := OpenConstructs.run?_cons_eq_some_iff.mp h
    rw [List.cons_append, ownAbbreviations, ownAbbreviations, Event.documentDepth_eq hstep,
      ih hrest, List.append_assoc]

/-- Nothing in a nested document counts for the document around it. -/
theorem ownAbbreviations_nested {content : List Event}
    (h : OpenConstructs.run? around opened content = some last) (n : Nat) :
    ownAbbreviations (opened.count .document + (n + 1)) content = [] := by
  induction content generalizing opened with
  | nil => rfl
  | cons e rest ih =>
    obtain ⟨mid, hstep, hrest⟩ := OpenConstructs.run?_cons_eq_some_iff.mp h
    rw [ownAbbreviations, if_neg (by omega), Event.documentDepth_eq hstep, ih hrest]
    rfl

end

namespace IsPart

variable {options : Options} {part : List Event} {parts : List (List Event)}

theorem balanced (h : IsPart options part) : OpenConstructs.run? none [] part = some [] := by
  cases h with
  | block hblock => exact hblock.balanced
  | document hcontent => exact OpenConstructs.run?_construct rfl rfl hcontent

theorem balanced_flatten (h : ∀ part ∈ parts, IsPart options part) :
    OpenConstructs.run? none [] parts.flatten = some [] := by
  induction parts with
  | nil => rfl
  | cons part rest ih =>
    rw [List.forall_mem_cons] at h
    rw [List.flatten_cons]
    exact OpenConstructs.run?_append_eq_some_iff.mpr ⟨[], h.1.balanced, ih h.2⟩

theorem ownAbbreviations_document {parameters parameters' : Parameters} {content : List Event}
    (hcontent : OpenConstructs.run? (some .document) [] content = some []) :
    ownAbbreviations 0 (.opening (.document parameters) ::
      (content ++ [.closing (.document parameters')])) = [] := by
  have happend := ownAbbreviations_append hcontent 1 [.closing (.document parameters')]
  have hnested := ownAbbreviations_nested hcontent 0
  simp only [List.count_nil, Nat.zero_add] at happend hnested
  rw [ownAbbreviations]
  change [] ++ ownAbbreviations 1 _ = []
  rw [happend, hnested]
  rfl

end IsPart

namespace Renderer

variable {r : Renderer} {recorded : List Abbreviation} {outer : List (List Abbreviation)}

/-- Whether a renderer stands in a document with the given abbreviations. The constructs are those
opened since, and the documents among them have abbreviations of their own. -/
def Collects (r : Renderer) (opened : OpenConstructs) (recorded : List Abbreviation)
    (outer : List (List Abbreviation)) : Prop :=
  ∃ upper, upper.length = opened.count .document ∧ r.abbreviations = upper ++ recorded :: outer

theorem abbreviations_defined_of_cons (h : r.abbreviations = recorded :: outer)
    (abbreviation : Abbreviation) :
    (r.defined abbreviation).abbreviations =
      Abbreviation.record recorded abbreviation :: outer := by
  simp only [defined, h, Abbreviation.record]
  split
  · rfl
  · exact h

theorem noted_eq (r : Renderer) (l : Leaf) :
    r.noted l =
      match (Event.leaf l).abbreviation? with
      | some abbreviation => r.defined abbreviation
      | none => r := by
  cases l with
  | rawText text markup => cases text <;> rfl
  | _ => rfl

end Renderer

namespace TrackedRenderer

variable {s t : TrackedRenderer} {opened next last : OpenConstructs}
  {recorded : List Abbreviation} {outer : List (List Abbreviation)}

/-- A step records the abbreviation of its event in the innermost document. -/
theorem Step.collects {e : Event} (hstep : Step s e t)
    (h : s.renderer.Collects opened recorded outer)
    (hnested : OpenConstructs.step? none opened e = some next) (he : e.isWellTyped = true) :
    t.renderer.Collects next
      ((if opened.count .document = 0 then e.abbreviation?.toList else []).foldl
        Abbreviation.record recorded) outer := by
  obtain ⟨upper, hlength, habbreviations⟩ := h
  cases hstep with
  | @opening construct ht hr =>
    obtain ⟨-, rfl⟩ := OpenConstructs.step?_opening_eq_some_iff.mp hnested
    have hnone : (Event.opening construct).abbreviation? = none := rfl
    simp only [Renderer.Collects, Renderer.abbreviations_opened, habbreviations, hnone,
      Option.toList_none, ite_self, List.foldl_nil]
    by_cases hkind : construct.kind = .document
    · exact ⟨[] :: upper, by simp [hkind, hlength], by simp [hkind]⟩
    · exact ⟨upper, by simp [hkind, hlength], by simp [hkind]⟩
  | @closing construct hr ht =>
    obtain rfl := OpenConstructs.step?_closing_eq_some_iff.mp hnested
    have hnone : (Event.closing construct).abbreviation? = none := rfl
    simp only [Renderer.Collects, Renderer.abbreviations_closed, habbreviations, hnone,
      Option.toList_none, ite_self, List.foldl_nil]
    by_cases hkind : construct.kind = .document
    · rw [hkind, List.count_cons_self] at hlength
      obtain ⟨first, rest, rfl⟩ := List.exists_cons_of_length_eq_add_one hlength
      exact ⟨rest, Nat.succ.inj hlength, by simp [hkind]⟩
    · exact ⟨upper, by simpa [hkind] using hlength, by simp [hkind]⟩
  | @leaf l hr =>
    obtain rfl := Option.some.inj hnested
    have hshown := (Renderer.Writes.shown s.renderer s.tracker.nesting he).abbreviations
    rw [Renderer.noted_eq] at hshown
    simp only [Renderer.Collects, hshown]
    cases (Event.leaf l).abbreviation? with
    | none => exact ⟨upper, hlength, by simpa using habbreviations⟩
    | some abbreviation =>
      cases upper with
      | nil =>
        have hcount : opened.count .document = 0 := hlength.symm
        refine ⟨[], hlength, ?_⟩
        rw [Renderer.abbreviations_defined_of_cons habbreviations, if_pos hcount]
        rfl
      | cons first rest =>
        have hcount : opened.count .document ≠ 0 := by
          rw [← hlength]
          exact Nat.succ_ne_zero _
        refine ⟨Abbreviation.record first abbreviation :: rest, hlength, ?_⟩
        rw [Renderer.abbreviations_defined_of_cons habbreviations, if_neg hcount]
        rfl

/-- Along steps a document collects the abbreviations of its own content. -/
theorem Steps.collects {es : List Event} (hsteps : Steps s es t)
    (h : s.renderer.Collects opened recorded outer)
    (hnested : OpenConstructs.run? none opened es = some last)
    (hes : ∀ e ∈ es, e.isWellTyped = true) :
    t.renderer.Collects last
      ((ownAbbreviations (opened.count .document) es).foldl Abbreviation.record recorded)
      outer := by
  induction hsteps generalizing opened recorded with
  | nil s =>
    obtain rfl := Option.some.inj hnested
    exact h
  | cons hstep hsteps ih =>
    rw [List.forall_mem_cons] at hes
    obtain ⟨next, hnext, hrest⟩ := OpenConstructs.run?_cons_eq_some_iff.mp hnested
    have hdepth := Event.documentDepth_eq hnext 0
    rw [Nat.add_zero, Nat.add_zero] at hdepth
    rw [ownAbbreviations, List.foldl_append, hdepth]
    exact ih (hstep.collects h hnext hes.1) hrest hes.2

end TrackedRenderer

end DocumentStream
