import DocumentStream.CommandLine

/-!
Flags against the configuration. A flag takes the place of the entry that is spelled with
underscores, and the options read the last of several spellings. So a flag decides its option
unless the configuration goes on, behind that entry, to another spelling of the same option.
-/

namespace DocumentStream.Options

/-- Whether a key is a spelling of the name of an option. -/
def spells (name : OptionName) : Key → Bool
  | .str text => nameOfKey? text == some name
  | _ => false

/-- The value of the last entry that is spelled as the option. -/
def lastValue? (name : OptionName) (entries : Entries) : Option Value :=
  (entries.reverse.find? fun entry => spells name entry.1).map Prod.snd

/-- Whether an entry spelled as the option comes after the one with its plain name. -/
def overtakes (name : OptionName) (entries : Entries) : Bool :=
  ((entries.dropWhile fun entry => entry.1 != .str name.label).drop 1).any fun entry =>
    spells name entry.1

/-- Whether every key is a text. -/
def HasTextKeys (entries : Entries) : Prop := ∀ entry ∈ entries, ∃ text, entry.1 = .str text

/-- The value of an option in a draft. -/
def Draft.value (draft : Draft) : OptionName → Value
  | .escapeSpecial => draft.escapeSpecial
  | .tablePipeEscape => draft.tablePipeEscape
  | .unhandledMacroMode => draft.unhandledMacroMode

theorem spells_label (name other : OptionName) :
    spells other (.str name.label) = (name == other) := by
  cases name <;> cases other <;> decide +kernel

theorem same_text_iff (key : Key) (text : Text) :
    key.same (.str text) = true ↔ key = .str text := by
  cases key <;> simp +contextual [Key.same, Key.numeric?, Key.instant?, Option.isSome_iff_ne_none]

theorem lastValue?_cons (name : OptionName) (key : Key) (value : Value) (rest : Entries) :
    lastValue? name ((key, value) :: rest) =
      (lastValue? name rest).or (if spells name key then some value else none) := by
  unfold lastValue?
  rw [List.reverse_cons, List.find?_append]
  cases List.find? (fun entry => spells name entry.1) rest.reverse with
  | none => by_cases h : spells name key = true <;> simp [h]
  | some entry => rfl

theorem lastValue?_eq_none (name : OptionName) (entries : Entries) :
    lastValue? name entries = none ↔ (entries.any fun entry => spells name entry.1) = false := by
  simp [lastValue?]

theorem overtakes_cons (name : OptionName) (key : Key) (value : Value) (rest : Entries) :
    overtakes name ((key, value) :: rest) =
      if key = .str name.label then rest.any fun entry => spells name entry.1
      else overtakes name rest := by
  by_cases h : key = .str name.label <;> simp [overtakes, h]

/-- Setting the plain name of an option decides its last value, unless it is overtaken. -/
theorem lastValue?_insert (name : OptionName) (value : Value) (entries : Entries) :
    lastValue? name (Entries.insert (.str name.label) value entries) =
      if overtakes name entries then lastValue? name entries else some value := by
  have hname : spells name (.str name.label) = true := by simp [spells_label]
  induction entries with
  | nil => simp [Entries.insert, lastValue?, overtakes, hname]
  | cons entry rest ih =>
    obtain ⟨key, old⟩ := entry
    rw [Entries.insert, overtakes_cons]
    by_cases hkey : key = .str name.label
    · subst hkey
      rw [if_pos ((same_text_iff _ _).mpr rfl), if_pos rfl, lastValue?_cons, lastValue?_cons,
        if_pos hname, if_pos hname]
      cases hany : rest.any fun entry => spells name entry.1 with
      | false => simp [(lastValue?_eq_none name rest).mpr hany]
      | true =>
        have hsome : lastValue? name rest ≠ none := by
          simp [lastValue?_eq_none, hany]
        obtain ⟨last, hlast⟩ := Option.ne_none_iff_exists'.mp hsome
        simp [hlast]
    · have hsame : ¬ key.same (.str name.label) = true := by rwa [same_text_iff]
      rw [if_neg hsame, if_neg hkey, lastValue?_cons, ih, lastValue?_cons]
      by_cases hover : overtakes name rest = true <;> simp [hover]

/-- Setting the name of one option leaves the others alone. -/
theorem lastValue?_insert_other (name other : OptionName) (hne : name ≠ other) (value : Value)
    (entries : Entries) :
    lastValue? other (Entries.insert (.str name.label) value entries) =
      lastValue? other entries := by
  have hother : spells other (.str name.label) = false := by simp [spells_label, hne]
  induction entries with
  | nil => simp [Entries.insert, lastValue?, hother]
  | cons entry rest ih =>
    obtain ⟨key, old⟩ := entry
    rw [Entries.insert]
    by_cases hkey : key = .str name.label
    · subst hkey
      rw [if_pos ((same_text_iff _ _).mpr rfl), lastValue?_cons, lastValue?_cons, hother]
      simp
    · have hsame : ¬ key.same (.str name.label) = true := by rwa [same_text_iff]
      rw [if_neg hsame, lastValue?_cons, ih, lastValue?_cons]

theorem any_spells_insert_other (name other : OptionName) (hne : name ≠ other) (value : Value)
    (entries : Entries) :
    ((Entries.insert (.str name.label) value entries).any fun entry => spells other entry.1) =
      entries.any fun entry => spells other entry.1 := by
  have hlast := lastValue?_insert_other name other hne value entries
  have hinsert := lastValue?_eq_none other (Entries.insert (.str name.label) value entries)
  rw [hlast, lastValue?_eq_none] at hinsert
  exact (Bool.eq_iff_iff.mpr (by simpa using not_congr hinsert)).symm

theorem overtakes_insert_other (name other : OptionName) (hne : name ≠ other) (value : Value)
    (entries : Entries) :
    overtakes other (Entries.insert (.str name.label) value entries) =
      overtakes other entries := by
  have hlabel : (Key.str name.label) ≠ .str other.label := by
    cases name <;> cases other <;> first | exact absurd rfl hne | decide +kernel
  induction entries with
  | nil => simp [Entries.insert, overtakes, hlabel]
  | cons entry rest ih =>
    obtain ⟨key, old⟩ := entry
    rw [Entries.insert]
    by_cases hkey : key = .str name.label
    · subst hkey
      rw [if_pos ((same_text_iff _ _).mpr rfl), overtakes_cons, overtakes_cons]
    · have hsame : ¬ key.same (.str name.label) = true := by rwa [same_text_iff]
      rw [if_neg hsame, overtakes_cons, overtakes_cons, ih,
        any_spells_insert_other name other hne]

theorem hasTextKeys_insert (text : Text) (value : Value) (entries : Entries)
    (h : HasTextKeys entries) : HasTextKeys (Entries.insert (.str text) value entries) := by
  induction entries with
  | nil =>
    intro entry hentry
    rw [Entries.insert, List.mem_singleton] at hentry
    exact ⟨text, by rw [hentry]⟩
  | cons first rest ih =>
    obtain ⟨key, old⟩ := first
    have hkey : ∃ text, key = .str text := h (key, old) List.mem_cons_self
    have hrest : HasTextKeys rest := fun entry hentry => h entry (List.mem_cons_of_mem _ hentry)
    intro entry hentry
    rw [Entries.insert] at hentry
    split at hentry
    · rcases List.mem_cons.mp hentry with rfl | hentry
      · exact hkey
      · exact hrest entry hentry
    · rcases List.mem_cons.mp hentry with rfl | hentry
      · exact hkey
      · exact ih hrest entry hentry

theorem Draft.value_set (draft : Draft) (value : Value) (name other : OptionName) :
    (draft.set value name).value other = if name = other then value else draft.value other := by
  cases name <;> cases other <;> rfl

/-- Reading a mapping gives every option its last value. -/
theorem setEntries_value (draft : Draft) (entries : Entries) (h : HasTextKeys entries) :
    ∃ result, setEntries draft entries = .ok result ∧
      ∀ name, result.value name = (lastValue? name entries).getD (draft.value name) := by
  induction entries generalizing draft with
  | nil => exact ⟨draft, rfl, fun _ => rfl⟩
  | cons entry rest ih =>
    obtain ⟨key, value⟩ := entry
    obtain ⟨text, rfl⟩ : ∃ text, key = .str text := h (key, value) List.mem_cons_self
    have hrest : HasTextKeys rest := fun entry hentry => h entry (List.mem_cons_of_mem _ hentry)
    cases hname : nameOfKey? text with
    | none =>
      obtain ⟨result, hresult, hvalue⟩ := ih draft hrest
      refine ⟨result, by simpa only [setEntries, hname] using hresult, ?_⟩
      intro name
      rw [hvalue name, lastValue?_cons]
      simp [spells, hname]
    | some set =>
      obtain ⟨result, hresult, hvalue⟩ := ih (draft.set value set) hrest
      refine ⟨result, by simpa only [setEntries, hname] using hresult, ?_⟩
      intro name
      rw [hvalue name, lastValue?_cons, Draft.value_set]
      by_cases hset : set = name
      · subst hset
        cases lastValue? set rest <;> simp [spells, hname]
      · cases lastValue? name rest <;> simp [spells, hname, hset]

theorem exists_lastValue_of_overtakes (name : OptionName) (entries : Entries)
    (h : overtakes name entries = true) : ∃ value, lastValue? name entries = some value := by
  obtain ⟨entry, hentry, hspells⟩ := List.any_eq_true.mp h
  have hmem : entry ∈ entries :=
    (List.dropWhile_sublist _).subset (List.mem_of_mem_drop hentry)
  apply Option.ne_none_iff_exists'.mp
  intro hnone
  rw [lastValue?_eq_none, List.any_eq_false] at hnone
  exact hnone entry hmem hspells

theorem ofLabel?_eq_some_iff (text : Text) (mode : MacroMode) :
    MacroMode.ofLabel? text = some mode ↔ text = mode.label := by
  constructor
  · intro h
    have hfound := List.find?_some h
    exact (beq_iff_eq.mp hfound).symm
  · rintro rfl
    cases mode <;> rfl

/-- A draft makes options just when its mode has the name of one. -/
theorem Draft.check_eq_ok_iff (draft : Draft) (options : Options) :
    draft.check = .ok options ↔ ∀ name, options.value name = draft.value name := by
  obtain ⟨escape, pipe, mode⟩ := draft
  constructor
  · intro h name
    simp only [Draft.check] at h
    split at h
    · rename_i found hfound
      obtain ⟨text, htext, hlabel⟩ := Option.bind_eq_some_iff.mp hfound
      rw [ofLabel?_eq_some_iff] at hlabel
      cases mode with
      | str given =>
        obtain rfl : given = text := Option.some.inj htext
        cases h
        cases name <;> simp [Options.value, Draft.value, hlabel]
      | _ => simp [Value.text?] at htext
    · simp at h
  · intro h
    obtain rfl : options.escapeSpecial = escape := h .escapeSpecial
    obtain rfl : options.tablePipeEscape = pipe := h .tablePipeEscape
    obtain rfl : Value.str options.unhandledMacroMode.label = mode := h .unhandledMacroMode
    have hfound : MacroMode.ofLabel? options.unhandledMacroMode.label =
        some options.unhandledMacroMode := (ofLabel?_eq_some_iff _ _).mpr rfl
    simp [Draft.check, Value.text?, hfound]

end DocumentStream.Options

namespace DocumentStream.CommandLine.Settings

open Options

/-- The value of an option by the configuration alone. -/
def configured (config : Entries) (name : OptionName) : Value :=
  (lastValue? name config).getD (({} : Options).value name)

/-- The value of an option after flags and configuration are merged. -/
def merged (s : Settings) (config : Entries) (name : OptionName) : Value :=
  match s.given? name with
  | some value => if overtakes name config then configured config name else value
  | none => configured config name

/-- A configuration with the flag for one option put in place. -/
def place (s : Settings) (entries : Entries) (name : OptionName) : Entries :=
  match s.given? name with
  | some value => Entries.insert (.str name.label) value entries
  | none => entries

theorem override_eq (s : Settings) (config : Entries) :
    s.override config =
      s.place (s.place (s.place config .escapeSpecial) .tablePipeEscape) .unhandledMacroMode :=
  rfl

theorem lastValue?_place (s : Settings) (entries : Entries) (name : OptionName) :
    lastValue? name (s.place entries name) =
      match s.given? name with
      | some value => if overtakes name entries then lastValue? name entries else some value
      | none => lastValue? name entries := by
  unfold place
  cases s.given? name with
  | none => rfl
  | some value => exact lastValue?_insert name value entries

theorem lastValue?_place_other (s : Settings) (entries : Entries) {name other : OptionName}
    (hne : name ≠ other) :
    lastValue? other (s.place entries name) = lastValue? other entries := by
  unfold place
  cases s.given? name with
  | none => rfl
  | some value => exact lastValue?_insert_other name other hne value entries

theorem overtakes_place_other (s : Settings) (entries : Entries) {name other : OptionName}
    (hne : name ≠ other) :
    overtakes other (s.place entries name) = overtakes other entries := by
  unfold place
  cases s.given? name with
  | none => rfl
  | some value => exact overtakes_insert_other name other hne value entries

theorem hasTextKeys_place (s : Settings) (entries : Entries) (name : OptionName)
    (h : HasTextKeys entries) : HasTextKeys (s.place entries name) := by
  unfold place
  cases s.given? name with
  | none => exact h
  | some value => exact hasTextKeys_insert name.label value entries h

theorem lastValue?_override (s : Settings) (config : Entries) (name : OptionName) :
    lastValue? name (s.override config) =
      match s.given? name with
      | some value => if overtakes name config then lastValue? name config else some value
      | none => lastValue? name config := by
  rw [override_eq]
  cases name with
  | escapeSpecial =>
    rw [lastValue?_place_other s _ (by decide), lastValue?_place_other s _ (by decide),
      lastValue?_place]
  | tablePipeEscape =>
    rw [lastValue?_place_other s _ (by decide), lastValue?_place,
      lastValue?_place_other s _ (by decide), overtakes_place_other s _ (by decide)]
  | unhandledMacroMode =>
    rw [lastValue?_place, lastValue?_place_other s _ (by decide),
      lastValue?_place_other s _ (by decide), overtakes_place_other s _ (by decide),
      overtakes_place_other s _ (by decide)]

theorem merged_eq (s : Settings) (config : Entries) (name : OptionName) :
    (lastValue? name (s.override config)).getD (({} : Options).value name) =
      s.merged config name := by
  rw [lastValue?_override, merged]
  cases s.given? name with
  | none => rfl
  | some value =>
    by_cases hover : overtakes name config = true
    · simp only [hover, if_true, configured]
    · simp [hover]

theorem options_eq_ok_iff (s : Settings) (config : Entries) (h : HasTextKeys config)
    (options : Options) :
    s.options config = .ok options ↔ ∀ name, options.value name = s.merged config name := by
  have hkeys : HasTextKeys (s.override config) := by
    rw [override_eq]
    exact hasTextKeys_place s _ _ (hasTextKeys_place s _ _ (hasTextKeys_place s _ _ h))
  obtain ⟨draft, hdraft, hvalue⟩ := setEntries_value ({} : Options).draft (s.override config) hkeys
  have hmerged : ∀ name, draft.value name = s.merged config name := by
    intro name
    rw [hvalue name, ← merged_eq]
    cases name <;> rfl
  have hoptions : s.options config = draft.check := by
    rw [Settings.options, ofEntries, hdraft]
    rfl
  rw [hoptions, Draft.check_eq_ok_iff]
  simp only [hmerged]

/-- A flag decides its option unless an entry behind the plain name spells the option again with
another value. -/
theorem merged_eq_given_iff (s : Settings) (config : Entries) (name : OptionName) (value : Value)
    (h : s.given? name = some value) :
    s.merged config name = value ↔
      overtakes name config = false ∨ lastValue? name config = some value := by
  rw [merged, h]
  cases hover : overtakes name config with
  | false => simp
  | true =>
    obtain ⟨last, hlast⟩ := exists_lastValue_of_overtakes name config hover
    simp [configured, hlast]

/-- The options are the merged values, and there are some just when the merged mode is one. What
a flag sets is what is merged, just when no other spelling overtakes it with another value. -/
theorem options_of_flags_and_configuration (s : Settings) (config : Entries)
    (h : HasTextKeys config) :
    (∀ options, s.options config = .ok options ↔
      ∀ name, options.value name = s.merged config name) ∧
    ((∃ options, s.options config = .ok options) ↔
      ∃ mode : MacroMode, s.merged config .unhandledMacroMode = .str mode.label) ∧
    ∀ name, s.merged config name = (s.given? name).getD (configured config name) ↔
      s.given? name = none ∨ overtakes name config = false ∨
        lastValue? name config = s.given? name := by
  refine ⟨options_eq_ok_iff s config h, ?_, ?_⟩
  · constructor
    · rintro ⟨options, hoptions⟩
      exact ⟨options.unhandledMacroMode,
        ((options_eq_ok_iff s config h options).mp hoptions .unhandledMacroMode).symm⟩
    · rintro ⟨mode, hmode⟩
      refine ⟨⟨s.merged config .escapeSpecial, s.merged config .tablePipeEscape, mode⟩, ?_⟩
      rw [options_eq_ok_iff s config h]
      intro name
      cases name
      · rfl
      · rfl
      · exact hmode.symm
  · intro name
    cases hgiven : s.given? name with
    | none => simp [merged, hgiven]
    | some value => simp [merged_eq_given_iff s config name value hgiven]

/-- With a single spelling in the configuration the flag decides. -/
theorem options_of_flags_and_configuration_dashed :
    HasTextKeys [(.str "escape-special".toList, .bool true)] ∧
      ∃ options, ({ escapeSpecial := some false } : Settings).options
          [(.str "escape-special".toList, .bool true)] = .ok options ∧
        options.value .escapeSpecial = .bool false := by
  have hkeys : HasTextKeys [(.str "escape-special".toList, .bool true)] := by
    intro entry hentry
    exact ⟨_, by rw [List.mem_singleton.mp hentry]⟩
  obtain ⟨hvalues, hexists, hflags⟩ := options_of_flags_and_configuration
    { escapeSpecial := some false } [(.str "escape-special".toList, .bool true)] hkeys
  obtain ⟨options, hoptions⟩ := hexists.mpr ⟨.wiki, by rfl⟩
  refine ⟨hkeys, options, hoptions, ?_⟩
  rw [(hvalues options).mp hoptions .escapeSpecial,
    (hflags .escapeSpecial).mpr (Or.inr (Or.inl (by decide +kernel)))]
  rfl

/-- A dashed spelling behind the plain one undoes the flag, and a mode without a meaning there
stops everything although the flag names a mode. -/
theorem dashed_spelling_overtakes_flag :
    ({ escapeSpecial := some false } : Settings).given? .escapeSpecial = some (.bool false) ∧
      (∃ options, ({ escapeSpecial := some false } : Settings).options
        [(.str "escape_special".toList, .bool true), (.str "escape-special".toList, .bool true)] =
        .ok options ∧ options.value .escapeSpecial = .bool true) ∧
      ({ unhandledMacroMode := some .drop } : Settings).options
        [(.str "unhandled_macro_mode".toList, .str "xwiki".toList),
          (.str "unhandled-macro-mode".toList, .str "bogus".toList)] =
        .error (.mode (.str "bogus".toList)) :=
  ⟨rfl, ⟨⟨.bool true, .bool true, .wiki⟩, by rfl, rfl⟩, by rfl⟩

end DocumentStream.CommandLine.Settings
