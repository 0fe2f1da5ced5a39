import DocumentStream.Proofs.RecordFaults
import DocumentStream.Proofs.StreamRoundTrip

/-!
Records are brought to a normal form by being read. The record of an event that was read has all of
the event's fields in their order; references and mappings among them have been converted, what was
left out has its default, and everything else is as it was given. Reading that record gives the
same event again.
-/

namespace DocumentStream

/-- Whether an element of a sequence has two parts, a key and what it is set to. -/
def Value.GivesEntry (item : Value) (entry : Key × Value) : Prop :=
  ∃ first, item.elements? = some [first, entry.2] ∧ first.key? = some entry.1

/-- The mapping that a value gives: its own entries, or those that result from setting the pairs of
a sequence one after another. -/
inductive Value.GivesMapping : Value → Entries → Prop
  | map (entries : Entries) : GivesMapping (.map entries) entries
  | pairs {value : Value} {items : List Value} {pairs : List (Key × Value)}
      (hvalue : ∀ entries, value ≠ .map entries) (hitems : value.elements? = some items)
      (hpairs : items.Forall₂ GivesEntry pairs) :
      GivesMapping value (Entries.ofPairs pairs)

/-- The reference that a value gives: the one with defaults for a plain text, and otherwise the one
that a record holds. -/
inductive Value.GivesReference : Value → Reference → Prop
  | text (target : Text) :
      GivesReference (.str target)
        { target := .str target, type := .url, typed := .bool true, bases := [], parameters := [] }
  | record {record : Entries} {reference : Reference}
      (htarget : Entries.get? "reference".toList record = some reference.target)
      (htype : Reference.givenType record = .str reference.type.label)
      (htyped : (Entries.get? "typed".toList record).getD (.bool true) = reference.typed)
      (hbases : (Reference.givenBases record).elements? = some reference.bases)
      (hparameters : (Reference.givenParameters record).GivesMapping reference.parameters) :
      GivesReference (.map record) reference

namespace Event

/-- The fields whose values are checked against a list of labels or converted when they are read. -/
def convertedFields : List Text :=
  ["reference".toList, "parameters".toList, "kind".toList, "format".toList]

/-- What the fields hold that a record may leave out. -/
def defaults : List (Text × Value) :=
  [("parameters".toList, .map []), ("kind".toList, .str ListKind.bulleted.label),
    ("format".toList, .str Format.plain.label), ("id".toList, .null),
    ("is_header".toList, .bool false), ("is_free_standing".toList, .bool false),
    ("syntax".toList, .str "html/4.01".toList), ("alt_text".toList, .null),
    ("content".toList, .null), ("is_inline".toList, .bool false)]

/-- What the record of an event holds for a field, by what was given for it. -/
inductive Normalised : Text → Option Value → Value → Prop
  | asGiven {field : Text} (value : Value) (hfield : field ∉ convertedFields) :
      Normalised field (some value) value
  | byDefault {field : Text} {value : Value} (hdefault : (field, value) ∈ defaults) :
      Normalised field none value
  | listKind (kind : ListKind) :
      Normalised "kind".toList (some (.str kind.label)) (.str kind.label)
  | format (format : Format) :
      Normalised "format".toList (some (.str format.label)) (.str format.label)
  | noParameters : Normalised "parameters".toList (some .null) .null
  | parameters {value : Value} {entries : Entries} (h : value.GivesMapping entries) :
      Normalised "parameters".toList (some value) (.map entries)
  | reference {value : Value} {reference : Reference} (h : value.GivesReference reference) :
      Normalised "reference".toList (some value) reference.toValue

end Event

theorem Entries.exists_pairs_of_addPairs {entries result : Entries} {index : Nat}
    {items : List Value} (h : Entries.addPairs entries index items = .ok result) :
    ∃ pairs : List (Key × Value), items.Forall₂ Value.GivesEntry pairs ∧
      result = pairs.foldl (fun entries pair => Entries.insert pair.1 pair.2 entries) entries := by
  induction items generalizing entries index with
  | nil => exact ⟨[], .nil, (Except.ok.inj h).symm⟩
  | cons item rest ih =>
    rw [Entries.addPairs] at h
    split at h
    · cases h
    · rename_i first second helements
      split at h
      · rename_i key hkey
        obtain ⟨pairs, hpairs, hresult⟩ := ih h
        exact ⟨(key, second) :: pairs, .cons ⟨first, helements, hkey⟩ hpairs, hresult⟩
      · cases h
    · cases h

theorem Value.givesMapping_of_ofValue {value : Value} {entries : Entries}
    (h : Entries.ofValue value = .ok entries) : value.GivesMapping entries := by
  rw [Entries.ofValue.eq_def] at h
  split at h
  · obtain rfl := Except.ok.inj h
    exact .map _
  · rename_i hvalue
    split at h
    · rename_i items hitems
      obtain ⟨pairs, hpairs, rfl⟩ := Entries.exists_pairs_of_addPairs h
      exact .pairs hvalue hitems hpairs
    · cases h

theorem Reference.givesReference_of_ofEntries {target : Value} {record : Entries}
    {reference : Reference} (htarget : Entries.get? "reference".toList record = some target)
    (h : Reference.ofEntries target record = .ok reference) :
    (Value.map record).GivesReference reference := by
  cases hbases : (givenBases record).elements? with
  | none =>
    rw [ofEntries_of_no_bases hbases] at h
    cases h
  | some bases =>
    cases htype : (givenType record).text?.bind ResourceType.ofLabel? with
    | none =>
      rw [ofEntries_of_unknown_type hbases htype] at h
      cases h
    | some type =>
      rw [ofEntries_of_type hbases htype] at h
      cases hparameters : Entries.ofValue (givenParameters record) with
      | error fault =>
        rw [hparameters] at h
        cases h
      | ok parameters =>
        rw [hparameters] at h
        obtain rfl := Except.ok.inj h
        have hlabel := Value.eq_label_of_text? ResourceType.ofLabel?_eq_some_iff.mp htype
        exact .record htarget hlabel rfl hbases (Value.givesMapping_of_ofValue hparameters)

theorem Value.givesReference_of_ofValue {value : Value} {reference : Reference}
    (h : Reference.ofValue value = .ok reference) : value.GivesReference reference := by
  cases value with
  | str target =>
    obtain rfl := Except.ok.inj h
    exact .text target
  | map record =>
    rw [Reference.ofValue.eq_def] at h
    cases htarget : Entries.get? "reference".toList record with
    | none =>
      simp only [htarget] at h
      cases h
    | some target =>
      simp only [htarget, mapError_eq_ok_iff] at h
      exact Reference.givesReference_of_ofEntries htarget h
  | _ => cases h

namespace FieldValues

variable {fields : FieldValues}

theorem normalised_required {name : String} {value : Value}
    (h : fields.required name = .ok value) (hname : name.toList ∉ Event.convertedFields) :
    Event.Normalised name.toList (Entries.get? name.toList fields.entries) value := by
  rw [required_eq_ok_iff.mp h]
  exact .asGiven value hname

theorem normalised_get {name : String} {default : Value}
    (hname : name.toList ∉ Event.convertedFields)
    (hdefault : (name.toList, default) ∈ Event.defaults) :
    Event.Normalised name.toList (Entries.get? name.toList fields.entries)
      (fields.get name default) := by
  rw [FieldValues.get]
  cases Entries.get? name.toList fields.entries with
  | none => exact .byDefault hdefault
  | some value => exact .asGiven value hname

theorem normalised_parameters {parameters : Parameters}
    (h : fields.parameters = .ok parameters) :
    Event.Normalised "parameters".toList (Entries.get? "parameters".toList fields.entries)
      parameters.toValue := by
  cases hgiven : Entries.get? "parameters".toList fields.entries with
  | none =>
    rw [FieldValues.parameters, FieldValues.get, hgiven] at h
    obtain rfl := Except.ok.inj h
    exact .byDefault (by simp [Event.defaults, Parameters.toValue])
  | some value =>
    rw [FieldValues.parameters, get_of_given hgiven] at h
    split at h
    · obtain rfl := Except.ok.inj h
      exact .noParameters
    · cases hmapping : Entries.ofValue value with
      | error fault =>
        rw [hmapping] at h
        cases h
      | ok entries =>
        rw [hmapping] at h
        obtain rfl := Except.ok.inj h
        exact .parameters (Value.givesMapping_of_ofValue hmapping)

theorem normalised_kind {kind : ListKind}
    (h : checkListKind (fields.get "kind" (.str ListKind.bulleted.label)) = .ok kind) :
    Event.Normalised "kind".toList (Entries.get? "kind".toList fields.entries)
      (.str kind.label) := by
  have hkind := checkListKind_eq_ok h
  cases hgiven : Entries.get? "kind".toList fields.entries with
  | none =>
    rw [FieldValues.get, hgiven] at hkind
    rw [← hkind]
    exact .byDefault (by simp [Event.defaults])
  | some value =>
    rw [get_of_given hgiven] at hkind
    rw [hkind]
    exact .listKind kind

theorem normalised_format {style : Format}
    (h : checkFormat (fields.get "format" (.str Format.plain.label)) = .ok style) :
    Event.Normalised "format".toList (Entries.get? "format".toList fields.entries)
      (.str style.label) := by
  have hstyle := checkFormat_eq_ok h
  cases hgiven : Entries.get? "format".toList fields.entries with
  | none =>
    rw [FieldValues.get, hgiven] at hstyle
    rw [← hstyle]
    exact .byDefault (by simp [Event.defaults])
  | some value =>
    rw [get_of_given hgiven] at hstyle
    rw [hstyle]
    exact .format style

theorem normalised_reference {reference : Reference}
    (hread : (Entries.get? "reference".toList fields.entries).mapM Reference.ofValue =
      .ok fields.reference)
    (h : fields.reference = some reference) :
    Event.Normalised "reference".toList (Entries.get? "reference".toList fields.entries)
      reference.toValue := by
  cases hgiven : Entries.get? "reference".toList fields.entries with
  | none =>
    rw [hgiven, h] at hread
    cases hread
  | some value =>
    rw [hgiven, h, Option.mapM_some] at hread
    cases hvalue : Reference.ofValue value with
    | error fault =>
      rw [hvalue] at hread
      cases hread
    | ok other =>
      rw [hvalue] at hread
      obtain rfl : other = reference := Option.some.inj (Except.ok.inj hread)
      exact .reference (Value.givesReference_of_ofValue hvalue)

end FieldValues

theorem Construct.normalised_fields {construct : Construct} {fields : FieldValues}
    (hread : (Entries.get? "reference".toList fields.entries).mapM Reference.ofValue =
      .ok fields.reference)
    (h : construct.ReadFrom fields) :
    ∀ field ∈ construct.fields,
      Event.Normalised field.1 (Entries.get? field.1 fields.entries) field.2 := by
  cases construct with
  | heading level id parameters =>
    obtain ⟨hlevel, hparameters, -, rfl⟩ := h
    simp only [Construct.fields, List.forall_mem_cons]
    exact ⟨FieldValues.normalised_required hlevel (by decide),
      FieldValues.normalised_get (by decide) (by simp [Event.defaults]),
      FieldValues.normalised_parameters hparameters, List.forall_mem_nil _⟩
  | list kind parameters =>
    obtain ⟨hparameters, hkind⟩ := h
    simp only [Construct.fields, List.forall_mem_cons]
    exact ⟨FieldValues.normalised_kind hkind, FieldValues.normalised_parameters hparameters,
      List.forall_mem_nil _⟩
  | listItem | term | description | quotationLine => exact List.forall_mem_nil _
  | cell isHeader parameters =>
    obtain ⟨rfl, hparameters⟩ := h
    simp only [Construct.fields, List.forall_mem_cons]
    exact ⟨FieldValues.normalised_get (by decide) (by simp [Event.defaults]),
      FieldValues.normalised_parameters hparameters, List.forall_mem_nil _⟩
  | format style parameters =>
    obtain ⟨hparameters, hstyle⟩ := h
    simp only [Construct.fields, List.forall_mem_cons]
    exact ⟨FieldValues.normalised_format hstyle, FieldValues.normalised_parameters hparameters,
      List.forall_mem_nil _⟩
  | link reference isFreeStanding parameters =>
    obtain ⟨hreference, hparameters, rfl⟩ := h
    simp only [Construct.fields, List.forall_mem_cons]
    exact ⟨FieldValues.normalised_reference hread hreference,
      FieldValues.normalised_get (by decide) (by simp [Event.defaults]),
      FieldValues.normalised_parameters hparameters, List.forall_mem_nil _⟩
  | _ =>
    simp only [Construct.fields, List.forall_mem_cons]
    exact ⟨FieldValues.normalised_parameters h, List.forall_mem_nil _⟩

theorem Leaf.normalised_fields {l : Leaf} {fields : FieldValues}
    (hread : (Entries.get? "reference".toList fields.entries).mapM Reference.ofValue =
      .ok fields.reference)
    (h : l.ReadFrom fields) :
    ∀ field ∈ l.fields,
      Event.Normalised field.1 (Entries.get? field.1 fields.entries) field.2 := by
  cases l with
  | word text =>
    simp only [Leaf.fields, List.forall_mem_cons]
    exact ⟨FieldValues.normalised_required h (by decide), List.forall_mem_nil _⟩
  | space | lineBreak => exact List.forall_mem_nil _
  | symbol value =>
    simp only [Leaf.fields, List.forall_mem_cons]
    exact ⟨FieldValues.normalised_required h.1 (by decide), List.forall_mem_nil _⟩
  | rawText text markup =>
    obtain ⟨htext, rfl⟩ := h
    simp only [Leaf.fields, List.forall_mem_cons]
    exact ⟨FieldValues.normalised_required htext (by decide),
      FieldValues.normalised_get (by decide) (by simp [Event.defaults]), List.forall_mem_nil _⟩
  | image reference alt isFreeStanding parameters =>
    obtain ⟨hreference, hparameters, rfl, rfl⟩ := h
    simp only [Leaf.fields, List.forall_mem_cons]
    exact ⟨FieldValues.normalised_reference hread hreference,
      FieldValues.normalised_get (by decide) (by simp [Event.defaults]),
      FieldValues.normalised_get (by decide) (by simp [Event.defaults]),
      FieldValues.normalised_parameters hparameters, List.forall_mem_nil _⟩
  | call id content isInline parameters =>
    obtain ⟨hid, hparameters, rfl, rfl⟩ := h
    simp only [Leaf.fields, List.forall_mem_cons]
    exact ⟨FieldValues.normalised_required hid (by decide),
      FieldValues.normalised_get (by decide) (by simp [Event.defaults]),
      FieldValues.normalised_get (by decide) (by simp [Event.defaults]),
      FieldValues.normalised_parameters hparameters, List.forall_mem_nil _⟩
  | rule parameters =>
    simp only [Leaf.fields, List.forall_mem_cons]
    exact ⟨FieldValues.normalised_parameters h, List.forall_mem_nil _⟩

namespace Event

variable {e : Event} {fields : FieldValues}

theorem normalised_fields
    (hread : (Entries.get? "reference".toList fields.entries).mapM Reference.ofValue =
      .ok fields.reference)
    (h : e.ReadFrom fields) :
    ∀ field ∈ e.fields, Normalised field.1 (Entries.get? field.1 fields.entries) field.2 := by
  cases e with
  | opening construct | closing construct => exact Construct.normalised_fields hread h
  | leaf l => exact Leaf.normalised_fields hread h
  | foreign name => exact absurd h id

/-- What is read from the fields of a record passes the checks of its reader once more. -/
theorem isChecked_of_readFrom (h : e.ReadFrom fields) : e.IsChecked := by
  cases e with
  | opening construct | closing construct =>
    cases construct with
    | heading level id parameters => exact h.2.2.1
    | _ => trivial
  | leaf l =>
    cases l with
    | symbol value => exact h.2
    | _ => trivial
  | foreign name => exact absurd h id

/-- A value brought to the form in which the event that it stands for is stored. -/
def normalise (value : Value) : Except RecordError Value := (Event.ofValue value).map Event.toValue

/-- A record that is accepted is brought to its normal form by being read and stored again. -/
theorem normalise_eq_ok {value : Value} (h : Event.ofValue value = .ok e) :
    Event.ofValue e.toValue = .ok e ∧ normalise e.toValue = normalise value ∧
      ∃ (entries : Entries) (shape : Shape Event) (fields : List (Text × Value)),
        value = .map entries ∧ entries.Names shape ∧
        normalise value = .ok (.map ((.str "event".toList, .str shape.name) ::
          Entries.ofFields fields)) ∧
        fields.map (·.1) = shape.fields.map String.toList ∧
        ∀ field ∈ fields, Normalised field.1 (Entries.get? field.1 entries) field.2 := by
  cases value with
  | map entries =>
    obtain ⟨shape, reference, hnames, hname, hfields, hreference, -, hread⟩ :=
      exists_of_ofValue_eq_ok h
    have hagain : Event.ofValue e.toValue = .ok e :=
      Event.ofValue_toValue (isChecked_of_readFrom hread)
    refine ⟨hagain, ?_, entries, shape, e.fields, rfl, hnames, ?_, hfields.symm, ?_⟩
    · rw [normalise, normalise, hagain, h]
    · rw [normalise, h, ← hname]
      rfl
    · intro field hfield
      -- The entry that names the event is not among those that the fields are read from.
      have hne : field.1 ≠ "event".toList := by
        intro heq
        have hnot := (List.nodup_cons.mp e.fields_nodup).1
        exact hnot (heq ▸ List.mem_map_of_mem hfield)
      rw [← Entries.get?_filter_ne hne entries]
      refine normalised_fields ?_ hread field hfield
      rw [Entries.given, Entries.get?_filter_ne (by decide)]
      exact hreference
  | _ => cases h

/-- A link to a plain text, with two parameters as a sequence of pairs and a flag that is none. -/
theorem normalise_eq_ok_link :
    let given : Value := .map
      [(.str "parameters".toList, .list [.list [.str ['a'], .int 1], .str ['b', 'c']]),
        (.str "is_free_standing".toList, .list []), (.str "event".toList, .str "EndLink".toList),
        (.str "reference".toList, .str ['x'])]
    let link : Event := .closing (.link { target := .str ['x'] } (.list [])
      (some [(.str ['a'], .int 1), (.str ['b'], .str ['c'])]))
    Event.ofValue given = .ok link ∧ Event.ofValue link.toValue = .ok link ∧
      normalise link.toValue = normalise given := by
  intro given link
  have h : Event.ofValue given = .ok link := rfl
  obtain ⟨hagain, hsame, -⟩ := normalise_eq_ok h
  exact ⟨h, hagain, hsame⟩

end Event

end DocumentStream
