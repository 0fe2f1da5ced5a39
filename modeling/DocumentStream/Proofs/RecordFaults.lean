import DocumentStream.Event.Message
import DocumentStream.Proofs.RecordReading

/-!
How malformed records are refused. Every error in a stored stream is reported as one of parsing,
with the stage that it belongs to, except for those within the record of a reference: its bases,
its type and its parameters are converted without anyone turning what goes wrong there into such a
report.
-/

namespace DocumentStream

/-- A value that is read as the label of something is that label. -/
theorem Value.eq_label_of_text? {α : Type} {ofLabel? : Text → Option α} {label : α → Text}
    (hlabel : ∀ {text a}, ofLabel? text = some a → label a = text) {value : Value} {a : α}
    (h : value.text?.bind ofLabel? = some a) : value = .str (label a) := by
  obtain ⟨text, htext, ha⟩ := Option.bind_eq_some_iff.mp h
  rw [hlabel ha]
  cases value with
  | str other => exact congrArg Value.str (Option.some.inj htext)
  | _ => cases htext

theorem ResourceType.ofLabel?_eq_some_iff {label : Text} {type : ResourceType} :
    ResourceType.ofLabel? label = some type ↔ type.label = label := by
  constructor
  · intro h
    simpa using List.find?_some h
  · rintro rfl
    cases type <;> rfl

theorem ResourceType.ofLabel?_bind_eq_none_iff {value : Value} :
    value.text?.bind ResourceType.ofLabel? = none ↔
      ∀ known : ResourceType, value ≠ .str known.label := by
  constructor
  · rintro h known rfl
    have hknown : ResourceType.ofLabel? known.label = some known := ofLabel?_eq_some_iff.mpr rfl
    simp [Value.text?, hknown] at h
  · intro h
    cases value with
    | str text =>
      cases hknown : ResourceType.ofLabel? text with
      | none => exact hknown
      | some known =>
        rw [← ofLabel?_eq_some_iff.mp hknown] at h
        exact absurd rfl (h known)
    | _ => rfl

namespace Reference

/-- The bases that a record gives; by default there are none. -/
def givenBases (record : Entries) : Value :=
  (Entries.get? "base_references".toList record).getD (.list [])

/-- The type that a record gives, by default that of an address. -/
def givenType (record : Entries) : Value :=
  (Entries.get? "type".toList record).getD (.str ResourceType.url.label)

/-- The parameters that a record gives; by default there are none. -/
def givenParameters (record : Entries) : Value :=
  (Entries.get? "parameters".toList record).getD (.map [])

/-- Why the record of a reference cannot be converted. The bases are converted first and the
parameters last. -/
inductive Unfit (record : Entries) : ReferenceFault → Prop
  | bases (hbases : (givenBases record).elements? = none) :
      Unfit record (.bases (givenBases record).kindName)
  | type (hbases : (givenBases record).elements? ≠ none)
      (htype : ∀ known : ResourceType, givenType record ≠ .str known.label) :
      Unfit record (.type (givenType record))
  | parameters {fault : MappingFault} (hbases : (givenBases record).elements? ≠ none)
      (htype : ∃ known : ResourceType, givenType record = .str known.label)
      (hparameters : Entries.ofValue (givenParameters record) = .error fault) :
      Unfit record (.parameters fault)

theorem ofEntries_of_no_bases {target : Value} {record : Entries}
    (hbases : (givenBases record).elements? = none) :
    ofEntries target record = .error (.bases (givenBases record).kindName) := by
  simp only [givenBases] at hbases
  simp only [ofEntries, hbases]
  rfl

theorem ofEntries_of_unknown_type {target : Value} {record : Entries} {bases : List Value}
    (hbases : (givenBases record).elements? = some bases)
    (htype : (givenType record).text?.bind ResourceType.ofLabel? = none) :
    ofEntries target record = .error (.type (givenType record)) := by
  simp only [givenBases] at hbases
  simp only [givenType] at htype
  simp only [ofEntries, hbases, htype]
  rfl

theorem ofEntries_of_type {target : Value} {record : Entries} {bases : List Value}
    {type : ResourceType} (hbases : (givenBases record).elements? = some bases)
    (htype : (givenType record).text?.bind ResourceType.ofLabel? = some type) :
    ofEntries target record =
      ((Entries.ofValue (givenParameters record)).mapError .parameters).map fun parameters =>
        { target
          type
          typed := (Entries.get? "typed".toList record).getD (.bool true)
          bases
          parameters } := by
  simp only [givenBases] at hbases
  simp only [givenType] at htype
  simp only [ofEntries, hbases, htype, givenParameters]
  rfl

theorem ofEntries_eq_error_iff {target : Value} {record : Entries} {fault : ReferenceFault} :
    ofEntries target record = .error fault ↔ Unfit record fault := by
  cases hbases : (givenBases record).elements? with
  | none =>
    rw [ofEntries_of_no_bases hbases]
    constructor
    · intro h
      obtain rfl := Except.error.inj h
      exact .bases hbases
    · rintro (_ | ⟨hsome, -⟩ | ⟨hsome, -, -⟩)
      · rfl
      · exact absurd hbases hsome
      · exact absurd hbases hsome
  | some bases =>
    have hsome : (givenBases record).elements? ≠ none := by simp [hbases]
    cases htype : (givenType record).text?.bind ResourceType.ofLabel? with
    | none =>
      have hunknown := ResourceType.ofLabel?_bind_eq_none_iff.mp htype
      rw [ofEntries_of_unknown_type hbases htype]
      constructor
      · intro h
        obtain rfl := Except.error.inj h
        exact .type hsome hunknown
      · rintro (hnone | _ | ⟨-, ⟨known, hknown⟩, -⟩)
        · exact absurd hnone hsome
        · rfl
        · exact absurd hknown (hunknown known)
    | some type =>
      have hknown : ∃ known : ResourceType, givenType record = .str known.label :=
        ⟨type, Value.eq_label_of_text? ResourceType.ofLabel?_eq_some_iff.mp htype⟩
      rw [ofEntries_of_type hbases htype]
      constructor
      · intro h
        cases hparameters : Entries.ofValue (givenParameters record) with
        | ok parameters =>
          rw [hparameters] at h
          cases h
        | error mappingFault =>
          rw [hparameters] at h
          obtain rfl := Except.error.inj h
          exact .parameters hsome hknown hparameters
      · rintro (hnone | ⟨-, hunknown⟩ | ⟨-, -, hparameters⟩)
        · exact absurd hnone hsome
        · obtain ⟨known, hknown⟩ := hknown
          exact absurd hknown (hunknown known)
        · rw [hparameters]
          rfl

end Reference

/-- Whether a value is the record of an event of a known kind and has in it the record of a
reference that cannot be converted. -/
inductive Value.HasReferenceFault : Value → ReferenceFault → Prop
  | intro {entries record : Entries} {shape : Shape Event} {target : Value} {fault : ReferenceFault}
      (hnames : entries.Names shape)
      (hreference : Entries.get? "reference".toList entries = some (.map record))
      (htarget : Entries.get? "reference".toList record = some target)
      (hunfit : Reference.Unfit record fault) : HasReferenceFault (.map entries) fault

theorem bind_eq_error_iff {ε α β : Type} {first : Except ε α} {next : α → Except ε β} {fault : ε} :
    (first >>= next) = .error fault ↔
      first = .error fault ∨ ∃ a, first = .ok a ∧ next a = .error fault := by
  cases first <;> simp [bind, Except.bind]

theorem mapError_eq_error_iff {ε ε' α : Type} {f : ε → ε'} {x : Except ε α} {fault : ε'} :
    x.mapError f = .error fault ↔ ∃ other, x = .error other ∧ f other = fault := by
  cases x <;> simp [Except.mapError]

theorem Reference.ofValue_eq_reference_iff {value : Value} {fault : ReferenceFault} :
    Reference.ofValue value = .error (.reference fault) ↔
      ∃ record target, value = .map record ∧
        Entries.get? "reference".toList record = some target ∧ Reference.Unfit record fault := by
  constructor
  · intro h
    cases value with
    | map record =>
      rw [ofValue] at h
      cases htarget : Entries.get? "reference".toList record with
      | none =>
        rw [htarget] at h
        cases h
      | some target =>
        rw [htarget] at h
        obtain ⟨other, hother, hsame⟩ := mapError_eq_error_iff.mp h
        obtain rfl := RecordError.reference.inj hsame
        exact ⟨record, target, rfl, htarget, ofEntries_eq_error_iff.mp hother⟩
    | _ => cases h
  · rintro ⟨record, target, rfl, htarget, hunfit⟩
    rw [ofValue, htarget]
    exact mapError_eq_error_iff.mpr ⟨fault, ofEntries_eq_error_iff.mpr hunfit, rfl⟩

/-- The faults within the record of a reference are the ones that are not reported as errors of
parsing. -/
theorem Event.ofValue_eq_reference_iff {value : Value} {fault : ReferenceFault} :
    Event.ofValue value = .error (.reference fault) ↔ value.HasReferenceFault fault := by
  constructor
  · intro h
    cases value with
    | map entries =>
      by_cases hnames : ∃ shape, Entries.Names entries shape
      · obtain ⟨shape, hnames⟩ := hnames
        rw [Event.ofValue_of_names hnames, bind_eq_error_iff] at h
        rcases h with h | ⟨reference, -, h⟩
        · cases hreference : Entries.get? "reference".toList entries with
          | none =>
            rw [hreference] at h
            cases h
          | some value =>
            rw [hreference, Option.mapM_some] at h
            cases hvalue : Reference.ofValue value with
            | ok reference =>
              rw [hvalue] at h
              cases h
            | error error =>
              rw [hvalue] at h
              obtain rfl := Except.error.inj h
              obtain ⟨record, target, rfl, htarget, hunfit⟩ :=
                Reference.ofValue_eq_reference_iff.mp hvalue
              exact .intro hnames hreference htarget hunfit
        · obtain ⟨error, -, hsame⟩ := mapError_eq_error_iff.mp h
          cases hsame
      · obtain ⟨name, hunknown⟩ := Event.ofValue_of_not_names (not_exists.mp hnames)
        rw [hunknown] at h
        cases h
    | _ => cases h
  · rintro ⟨hnames, hreference, htarget, hunfit⟩
    rw [Event.ofValue_of_names hnames, hreference, Option.mapM_some,
      Reference.ofValue_eq_reference_iff.mpr ⟨_, _, rfl, htarget, hunfit⟩]
    rfl

/-- The fields of an event that have no default. -/
def requiredFields (event : Text) : List Text :=
  if event ∈ ["BeginHeader".toList, "EndHeader".toList] then ["level".toList]
  else if event ∈ ["BeginLink".toList, "EndLink".toList, "OnImage".toList] then
    ["reference".toList]
  else if event ∈ ["OnWord".toList, "OnRawText".toList] then ["text".toList]
  else if event = "OnSpecialSymbol".toList then ["symbol".toList]
  else if event = "OnMacro".toList then ["id".toList]
  else []

/-- The ways in which a value fails to be the record of an event. -/
inductive Value.Malformed : Value → Prop
  | notRecord {value : Value} (h : ∀ entries, value ≠ .map entries) : Malformed value
  | unknownEvent {entries : Entries} (h : ∀ shape, ¬ entries.Names shape) :
      Malformed (.map entries)
  | unknownField {entries : Entries} {shape : Shape Event} {entry : Key × Value}
      (hnames : entries.Names shape) (hentry : entry ∈ entries)
      (hevent : entry.1 ≠ .str "event".toList)
      (hfield : ∀ field ∈ shape.fields, entry.1 ≠ .str field.toList) : Malformed (.map entries)
  | missingField {entries : Entries} {shape : Shape Event} {field : Text}
      (hnames : entries.Names shape) (hrequired : field ∈ requiredFields shape.name)
      (hmissing : Entries.get? field entries = none) : Malformed (.map entries)
  | level {entries : Entries} {shape : Shape Event} {value : Value} (hnames : entries.Names shape)
      (hevent : shape.name ∈ ["BeginHeader".toList, "EndHeader".toList])
      (hgiven : Entries.get? "level".toList entries = some value)
      (hlevel : ∀ n, value.numeric? = some n → n.isBetween 1 6 = false) : Malformed (.map entries)
  | listKind {entries : Entries} {shape : Shape Event} {value : Value}
      (hnames : entries.Names shape)
      (hevent : shape.name ∈ ["BeginList".toList, "EndList".toList])
      (hgiven : Entries.get? "kind".toList entries = some value)
      (hkind : ∀ kind : ListKind, value ≠ .str kind.label) : Malformed (.map entries)
  | format {entries : Entries} {shape : Shape Event} {value : Value} (hnames : entries.Names shape)
      (hevent : shape.name ∈ ["BeginFormat".toList, "EndFormat".toList])
      (hgiven : Entries.get? "format".toList entries = some value)
      (hformat : ∀ format : Format, value ≠ .str format.label) : Malformed (.map entries)
  | symbol {entries : Entries} {shape : Shape Event} {value : Value} (hnames : entries.Names shape)
      (hevent : shape.name = "OnSpecialSymbol".toList)
      (hgiven : Entries.get? "symbol".toList entries = some value)
      (hsymbol : ∀ element, value.elements? ≠ some [element]) : Malformed (.map entries)
  | parameters {entries : Entries} {shape : Shape Event} {value : Value} {fault : MappingFault}
      (hnames : entries.Names shape) (hfield : "parameters" ∈ shape.fields)
      (hgiven : Entries.get? "parameters".toList entries = some value) (hnull : value ≠ .null)
      (hmapping : Entries.ofValue value = .error fault) : Malformed (.map entries)
  | reference {entries : Entries} {shape : Shape Event} {value : Value}
      (hnames : entries.Names shape)
      (hgiven : Entries.get? "reference".toList entries = some value)
      (hreference : ∀ reference, Reference.ofValue value ≠ .ok reference) :
      Malformed (.map entries)

section

variable {fields : FieldValues} {e : Event}

/-- An event that was read had its required fields, the reference in converted form. -/
theorem Event.given_of_readFrom (h : e.ReadFrom fields) {field : Text}
    (hrequired : field ∈ requiredFields e.name) :
    Entries.get? field fields.entries ≠ none ∨
      field = "reference".toList ∧ fields.reference ≠ none := by
  have given {name : String} {value : Value} (hname : field = name.toList)
      (hvalue : fields.required name = .ok value) : Entries.get? field fields.entries ≠ none := by
    rw [hname, FieldValues.required_eq_ok_iff.mp hvalue]
    exact Option.some_ne_none value
  cases e with
  | opening construct | closing construct =>
    cases construct with
    | heading level id parameters => exact .inl (given (List.mem_singleton.mp hrequired) h.1)
    | link reference isFreeStanding parameters =>
      exact .inr ⟨List.mem_singleton.mp hrequired, by rw [h.1]; exact Option.some_ne_none _⟩
    | _ => exact absurd hrequired List.not_mem_nil
  | leaf l =>
    cases l with
    | word text => exact .inl (given (List.mem_singleton.mp hrequired) h)
    | symbol value => exact .inl (given (List.mem_singleton.mp hrequired) h.1)
    | rawText text markup => exact .inl (given (List.mem_singleton.mp hrequired) h.1)
    | image reference alt isFreeStanding parameters =>
      exact .inr ⟨List.mem_singleton.mp hrequired, by rw [h.1]; exact Option.some_ne_none _⟩
    | call id content isInline parameters =>
      exact .inl (given (List.mem_singleton.mp hrequired) h.1)
    | _ => exact absurd hrequired List.not_mem_nil
  | foreign name => exact absurd h id

/-- An event with the name of an event of a construct is one. -/
theorem Event.exists_construct_of_name (h : e.ReadFrom fields) (name : Text)
    (hname : e.name ∈ ["Begin".toList ++ name, "End".toList ++ name]) :
    ∃ construct : Construct, construct.ReadFrom fields ∧ construct.name = name := by
  rw [List.mem_pair] at hname
  cases e with
  | opening construct =>
    rcases hname with hname | hname
    · exact ⟨construct, h, List.append_cancel_left hname⟩
    · cases hname
  | closing construct =>
    rcases hname with hname | hname
    · cases hname
    · exact ⟨construct, h, List.append_cancel_left hname⟩
  | leaf l => rcases hname with hname | hname <;> cases hname
  | foreign name => exact absurd h id

theorem Construct.level_of_readFrom {construct : Construct} (h : construct.ReadFrom fields)
    (hname : construct.name = "Header".toList) {value : Value}
    (hgiven : Entries.get? "level".toList fields.entries = some value) :
    ∃ n, value.numeric? = some n ∧ n.isBetween 1 6 = true := by
  cases construct with
  | heading level id parameters =>
    obtain ⟨hlevel, -, hcheck, -⟩ := h
    obtain rfl : value = level :=
      Option.some.inj (hgiven.symm.trans (FieldValues.required_eq_ok_iff.mp hlevel))
    unfold checkLevel at hcheck
    cases hn : value.numeric? with
    | none =>
      rw [hn] at hcheck
      cases hcheck
    | some n =>
      simp only [hn] at hcheck
      refine ⟨n, rfl, ?_⟩
      by_contra hrange
      rw [if_neg hrange] at hcheck
      cases hcheck
  | _ => exact absurd hname (of_decide_eq_false rfl)

theorem ListKind.ofLabel?_eq_some {label : Text} {kind : ListKind}
    (h : ListKind.ofLabel? label = some kind) : kind.label = label := by
  simpa using List.find?_some h

theorem Format.ofLabel?_eq_some {label : Text} {format : Format}
    (h : Format.ofLabel? label = some format) : format.label = label := by
  simpa using List.find?_some h

theorem checkListKind_eq_ok {value : Value} {kind : ListKind} (h : checkListKind value = .ok kind) :
    value = .str kind.label := by
  unfold checkListKind at h
  split at h
  · rename_i found hfound
    obtain rfl := Except.ok.inj h
    exact Value.eq_label_of_text? ListKind.ofLabel?_eq_some hfound
  · cases h

theorem checkFormat_eq_ok {value : Value} {format : Format} (h : checkFormat value = .ok format) :
    value = .str format.label := by
  unfold checkFormat at h
  split at h
  · rename_i found hfound
    obtain rfl := Except.ok.inj h
    exact Value.eq_label_of_text? Format.ofLabel?_eq_some hfound
  · cases h

theorem Construct.kind_of_readFrom {construct : Construct} (h : construct.ReadFrom fields)
    (hname : construct.name = "List".toList) {value : Value}
    (hgiven : Entries.get? "kind".toList fields.entries = some value) :
    ∃ kind : ListKind, value = .str kind.label := by
  cases construct with
  | list kind parameters =>
    obtain ⟨-, hkind⟩ := h
    rw [FieldValues.get_of_given hgiven] at hkind
    exact ⟨kind, checkListKind_eq_ok hkind⟩
  | _ => exact absurd hname (of_decide_eq_false rfl)

theorem Construct.format_of_readFrom {construct : Construct} (h : construct.ReadFrom fields)
    (hname : construct.name = "Format".toList) {value : Value}
    (hgiven : Entries.get? "format".toList fields.entries = some value) :
    ∃ format : Format, value = .str format.label := by
  cases construct with
  | format style parameters =>
    obtain ⟨-, hstyle⟩ := h
    rw [FieldValues.get_of_given hgiven] at hstyle
    exact ⟨style, checkFormat_eq_ok hstyle⟩
  | _ => exact absurd hname (of_decide_eq_false rfl)

theorem Event.symbol_of_readFrom (h : e.ReadFrom fields)
    (hname : e.name = "OnSpecialSymbol".toList) {value : Value}
    (hgiven : Entries.get? "symbol".toList fields.entries = some value) :
    ∃ element, value.elements? = some [element] := by
  cases e with
  | leaf l =>
    cases l with
    | symbol symbol =>
      obtain ⟨hsymbol, hcheck⟩ := h
      obtain rfl : value = symbol :=
        Option.some.inj (hgiven.symm.trans (FieldValues.required_eq_ok_iff.mp hsymbol))
      unfold checkSymbol at hcheck
      split at hcheck
      · cases hcheck
      · rename_i element helement
        exact ⟨element, helement⟩
      · cases hcheck
    | _ => exact absurd hname (of_decide_eq_false rfl)
  | foreign name => exact absurd h id
  | _ => cases hname

theorem FieldValues.parameters_of_mappingFault {value : Value} {fault : MappingFault}
    (hgiven : Entries.get? "parameters".toList fields.entries = some value)
    (hnull : value ≠ .null) (hmapping : Entries.ofValue value = .error fault) :
    fields.parameters = .error (.parameters fault) := by
  rw [FieldValues.parameters, FieldValues.get_of_given hgiven]
  split
  · exact absurd rfl hnull
  · rw [hmapping]
    rfl

/-- The parameters that an event was read from are a mapping or explicitly nothing. -/
theorem Event.parameters_of_readFrom (h : e.ReadFrom fields)
    (hfield : "parameters".toList ∈ e.fields.map (·.1)) :
    ∃ parameters, fields.parameters = .ok parameters := by
  have hconstruct : ∀ construct : Construct, construct.ReadFrom fields →
      "parameters".toList ∈ construct.fields.map (·.1) →
      ∃ parameters, fields.parameters = .ok parameters := by
    intro construct h hfield
    cases construct with
    | heading level id parameters => exact ⟨parameters, h.2.1⟩
    | list _ parameters | format _ parameters => exact ⟨parameters, h.1⟩
    | cell _ parameters => exact ⟨parameters, h.2⟩
    | link _ _ parameters => exact ⟨parameters, h.2.1⟩
    | listItem | term | description | quotationLine => exact absurd hfield List.not_mem_nil
    | document parameters | paragraph parameters | definitionList parameters
    | quotation parameters | table parameters | row parameters => exact ⟨parameters, h⟩
  cases e with
  | opening construct | closing construct => exact hconstruct construct h hfield
  | leaf l =>
    cases l with
    | image _ _ _ parameters | call _ _ _ parameters => exact ⟨parameters, h.2.1⟩
    | rule parameters => exact ⟨parameters, h⟩
    | _ => exact absurd hfield (of_decide_eq_false rfl)
  | foreign name => exact absurd h id

end

/-- A malformed record is refused. -/
theorem Value.Malformed.ofValue_ne_ok {value : Value} (h : value.Malformed) (e : Event) :
    Event.ofValue value ≠ .ok e := by
  intro hok
  cases value with
  | map entries =>
    obtain ⟨shape, reference, hnames, hname, hfields, hreference, hgiven, hread⟩ :=
      Event.exists_of_ofValue_eq_ok hok
    have hsame {field : Text} (hne : field ≠ "event".toList) :
        Entries.get? field (Entries.given entries) = Entries.get? field entries :=
      Entries.get?_filter_ne hne entries
    cases h with
    | notRecord h => exact h entries rfl
    | unknownEvent h => exact h shape hnames
    | @unknownField _ shape' entry hnames' hentry hevent hfield =>
      obtain rfl := hnames.unique hnames'
      obtain ⟨field, hmem, hkey⟩ :=
        hgiven entry (List.mem_filter.mpr ⟨hentry, decide_eq_true hevent⟩)
      rw [← hfields] at hmem
      obtain ⟨name, hname', rfl⟩ := List.mem_map.mp hmem
      exact hfield name hname' hkey
    | @missingField _ shape' field hnames' hrequired hmissing =>
      obtain rfl := hnames.unique hnames'
      rw [← hname] at hrequired
      have hne : field ≠ "event".toList := by
        rintro rfl
        rw [hnames.1] at hmissing
        cases hmissing
      rcases Event.given_of_readFrom hread hrequired with hfield | ⟨rfl, hfield⟩
      · exact hfield ((hsame hne).trans hmissing)
      · rw [hmissing] at hreference
        obtain rfl := Except.ok.inj hreference
        exact hfield rfl
    | @level _ shape' value hnames' hevent hgiven' hlevel =>
      obtain rfl := hnames.unique hnames'
      obtain ⟨construct, hconstruct, hheading⟩ :=
        Event.exists_construct_of_name hread "Header".toList (hname ▸ hevent)
      obtain ⟨n, hn, hrange⟩ := Construct.level_of_readFrom hconstruct hheading
        ((hsame (by decide)).trans hgiven')
      rw [hlevel n hn] at hrange
      cases hrange
    | @listKind _ shape' value hnames' hevent hgiven' hkind =>
      obtain rfl := hnames.unique hnames'
      obtain ⟨construct, hconstruct, hlist⟩ :=
        Event.exists_construct_of_name hread "List".toList (hname ▸ hevent)
      obtain ⟨kind, hvalue⟩ := Construct.kind_of_readFrom hconstruct hlist
        ((hsame (by decide)).trans hgiven')
      exact hkind kind hvalue
    | @format _ shape' value hnames' hevent hgiven' hformat =>
      obtain rfl := hnames.unique hnames'
      obtain ⟨construct, hconstruct, hstyle⟩ :=
        Event.exists_construct_of_name hread "Format".toList (hname ▸ hevent)
      obtain ⟨format, hvalue⟩ := Construct.format_of_readFrom hconstruct hstyle
        ((hsame (by decide)).trans hgiven')
      exact hformat format hvalue
    | @symbol _ shape' value hnames' hevent hgiven' hsymbol =>
      obtain rfl := hnames.unique hnames'
      obtain ⟨element, helement⟩ := Event.symbol_of_readFrom hread (hname.trans hevent)
        ((hsame (by decide)).trans hgiven')
      exact hsymbol element helement
    | @parameters _ shape' value fault hnames' hfield hgiven' hnull hmapping =>
      obtain rfl := hnames.unique hnames'
      have hdeclared : "parameters".toList ∈ e.fields.map (·.1) := by
        rw [← hfields]
        exact List.mem_map_of_mem hfield
      obtain ⟨parameters, hparameters⟩ := Event.parameters_of_readFrom hread hdeclared
      have hvalue : Entries.get? "parameters".toList (Entries.given entries) = some value :=
        (hsame (by decide)).trans hgiven'
      rw [FieldValues.parameters_of_mappingFault hvalue hnull hmapping] at hparameters
      cases hparameters
    | @reference _ shape' value hnames' hgiven' hreference' =>
      rw [hgiven', Option.mapM_some] at hreference
      cases hvalue : Reference.ofValue value with
      | ok reference => exact hreference' reference hvalue
      | error error =>
        rw [hvalue] at hreference
        cases hreference
  | _ => cases hok

namespace RecordError

/-- Whether an error is reported as one of parsing, with the stage that it belongs to. -/
def IsParsing (error : RecordError) : Prop :=
  ∃ message stage, error.failure? = some (.parsing message (some stage))

theorem isParsing_iff {error : RecordError} :
    error.IsParsing ↔ ∀ fault, error ≠ .reference fault := by
  cases error with
  | reference fault =>
    refine ⟨?_, fun h => absurd rfl (h fault)⟩
    rintro ⟨message, stage, h⟩
    cases h
  | _ =>
    refine ⟨?_, fun _ => ⟨_, _, rfl⟩⟩
    rintro - fault h
    cases h

end RecordError

namespace StreamError

/-- Whether an error is reported as one of parsing, with the stage that it belongs to. -/
def IsParsing (error : StreamError) : Prop :=
  ∃ message stage, error.failure? = some (.parsing message (some stage))

theorem isParsing_iff {error : StreamError} :
    error.IsParsing ↔ ∀ fault, error ≠ .record (.reference fault) := by
  cases error with
  | record error =>
    rw [show (StreamError.record error).IsParsing ↔ error.IsParsing from Iff.rfl,
      RecordError.isParsing_iff]
    simp
  | _ =>
    refine ⟨?_, fun _ => ⟨_, _, rfl⟩⟩
    rintro - fault h
    cases h

end StreamError

theorem mapM_eq_error_iff {ε α β : Type} {f : α → Except ε β} {items : List α} {fault : ε} :
    items.mapM f = .error fault ↔
      ∃ before item after, items = before ++ item :: after ∧
        (∀ other ∈ before, ∃ b, f other = .ok b) ∧ f item = .error fault := by
  induction items with
  | nil => simp [pure, Except.pure]
  | cons first rest ih =>
    rw [List.mapM_cons, bind_eq_error_iff]
    constructor
    · rintro (hfirst | ⟨b, hfirst, hrest⟩)
      · exact ⟨[], first, rest, rfl, by simp, hfirst⟩
      · rcases bind_eq_error_iff.mp hrest with hrest | ⟨bs, -, hpure⟩
        · obtain ⟨before, item, after, rfl, hbefore, hitem⟩ := ih.mp hrest
          refine ⟨first :: before, item, after, rfl, ?_, hitem⟩
          exact List.forall_mem_cons.mpr ⟨⟨b, hfirst⟩, hbefore⟩
        · cases hpure
    · rintro ⟨before, item, after, hitems, hbefore, hitem⟩
      cases before with
      | nil =>
        obtain ⟨rfl, rfl⟩ := List.cons.inj hitems
        exact .inl hitem
      | cons other before =>
        obtain ⟨rfl, rfl⟩ := List.cons.inj hitems
        obtain ⟨⟨b, hb⟩, hbefore⟩ := List.forall_mem_cons.mp hbefore
        refine .inr ⟨b, hb, bind_eq_error_iff.mpr (.inl ?_)⟩
        exact ih.mpr ⟨before, item, after, rfl, hbefore, hitem⟩

/-- Reading a stream ends in the fault of a reference just when the text is a list of records, the
first refused record among which has that fault. -/
theorem readEvents_eq_reference_iff {text : Text} {fault : ReferenceFault} :
    readEvents text = .error (.record (.reference fault)) ↔
      ∃ before item after, Json.read text = .ok (.list (before ++ item :: after)) ∧
        (∀ other ∈ before, ∃ e, Event.ofValue other = .ok e) ∧ item.HasReferenceFault fault := by
  simp only [← Event.ofValue_eq_reference_iff]
  cases hread : Json.read text with
  | error error =>
    rw [readEvents, hread]
    constructor
    · intro h
      cases h
    · rintro ⟨before, item, after, h, -⟩
      cases h
  | ok value =>
    cases value with
    | list items =>
      have hrun : readEvents text = (items.mapM Event.ofValue).mapError .record := by
        rw [readEvents, hread]
        rfl
      rw [hrun, mapError_eq_error_iff]
      constructor
      · rintro ⟨error, herror, hsame⟩
        obtain rfl := StreamError.record.inj hsame
        obtain ⟨before, item, after, rfl, hbefore, hitem⟩ := mapM_eq_error_iff.mp herror
        exact ⟨before, item, after, rfl, hbefore, hitem⟩
      · rintro ⟨before, item, after, hitems, hbefore, hitem⟩
        obtain rfl := Value.list.inj (Except.ok.inj hitems)
        exact ⟨_, mapM_eq_error_iff.mpr ⟨before, item, after, rfl, hbefore, hitem⟩, rfl⟩
    | _ =>
      rw [readEvents, hread]
      constructor
      · intro h
        cases h
      · rintro ⟨before, item, after, h, -⟩
        cases h

theorem Value.HasReferenceFault.malformed {value : Value} {fault : ReferenceFault}
    (h : value.HasReferenceFault fault) : value.Malformed := by
  obtain ⟨hnames, hreference, htarget, hunfit⟩ := h
  refine .reference hnames hreference fun reference hok => ?_
  rw [Reference.ofValue_eq_reference_iff.mpr ⟨_, _, rfl, htarget, hunfit⟩] at hok
  cases hok

/-- Every malformed record is refused, and what is refused is reported as an error of parsing unless
it is for the fault of a reference. -/
theorem refusal_isParsing_iff (value : Value) (text : Text) :
    (value.Malformed → ∀ e, Event.ofValue value ≠ .ok e) ∧
    (∀ fault, value.HasReferenceFault fault → value.Malformed) ∧
    (∀ error, Event.ofValue value = .error error →
      (error.IsParsing ↔ ∀ fault, ¬ value.HasReferenceFault fault)) ∧
    ∀ error, readEvents text = .error error →
      (error.IsParsing ↔ ∀ before item after fault,
        Json.read text = .ok (.list (before ++ item :: after)) →
        (∀ other ∈ before, ∃ e, Event.ofValue other = .ok e) → ¬ item.HasReferenceFault fault) := by
  refine ⟨fun h => h.ofValue_ne_ok, fun fault h => h.malformed, ?_, ?_⟩
  · intro error herror
    rw [RecordError.isParsing_iff]
    refine forall_congr' fun fault => not_congr ?_
    rw [← Event.ofValue_eq_reference_iff, herror, Except.error.injEq]
  · intro error herror
    rw [StreamError.isParsing_iff]
    constructor
    · intro h before item after fault hread hbefore hfault
      have hreference := readEvents_eq_reference_iff.mpr
        ⟨before, item, after, hread, hbefore, hfault⟩
      rw [herror] at hreference
      exact h fault (Except.error.inj hreference)
    · rintro h fault rfl
      obtain ⟨before, item, after, hread, hbefore, hfault⟩ := readEvents_eq_reference_iff.mp herror
      exact h before item after fault hread hbefore hfault

/-- A heading without its level. -/
theorem refusal_isParsing_iff_missing_level :
    let value : Value := .map [(.str "event".toList, .str "BeginHeader".toList)]
    ∃ error, Event.ofValue value = .error error ∧ error.IsParsing := by
  intro value
  refine ⟨.invalidFields "BeginHeader".toList (.missing "level".toList), rfl, ?_⟩
  refine ((refusal_isParsing_iff value []).2.2.1 _ rfl).mpr ?_
  change ∀ fault, ¬ Value.HasReferenceFault (.map [_]) fault
  rintro fault ⟨-, hreference, -, -⟩
  cases hreference

/-- A link to a resource of an unknown type is refused without a report of an error of parsing. -/
theorem unknown_resource_type_not_isParsing :
    let record : Value := .map [(.str "reference".toList, .str ['x']),
      (.str "type".toList, .str ['z', 'z', 'z'])]
    let value : Value := .map [(.str "event".toList, .str "BeginLink".toList),
      (.str "reference".toList, record)]
    ∃ error, Event.ofValue value = .error error ∧ error.failure? = none ∧ ¬ error.IsParsing := by
  intro record value
  refine ⟨.reference (.type (.str ['z', 'z', 'z'])), rfl, rfl, ?_⟩
  rintro ⟨message, stage, h⟩
  cases h

end DocumentStream
