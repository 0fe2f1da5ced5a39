import DocumentStream.Proofs.JsonReading
import DocumentStream.Proofs.RecordReading
import DocumentStream.Proofs.TypedEvents

/-!
Stored streams hold the events they were written from. An event is read back from its record
whenever it passes the checks of its own reader, and a record whose fields have their declared kinds
is written as JSON without loss.
-/

namespace DocumentStream

namespace Reference

theorem ofValue_toValue (reference : Reference) :
    Reference.ofValue reference.toValue = .ok reference := by
  obtain ⟨target, type, typed, bases, parameters⟩ := reference
  cases type <;> rfl

theorem mapM_toValue (reference : Reference) :
    (some reference.toValue).mapM Reference.ofValue = .ok (some reference) := by
  rw [Option.mapM_some, ofValue_toValue]
  rfl

end Reference

/-- The reference that a construct holds. -/
def Construct.reference? : Construct → Option Reference
  | .link reference _ _ => some reference
  | _ => none

/-- The reference that a leaf holds. -/
def Leaf.reference? : Leaf → Option Reference
  | .image reference _ _ _ => some reference
  | _ => none

/-- The reference that an event holds. -/
def Event.reference? : Event → Option Reference
  | .opening construct | .closing construct => construct.reference?
  | .leaf l => l.reference?
  | .foreign _ => none

/-- Whether an event passes the checks of its own reader. -/
def Event.IsChecked : Event → Prop
  | .opening (.heading level _ _) | .closing (.heading level _ _) => checkLevel level = .ok level
  | .leaf (.symbol value) => checkSymbol value = .ok value
  | .foreign _ => False
  | _ => True

/-- The entries of a record for the fields of an event. -/
def Entries.ofFields (fields : List (Text × Value)) : Entries :=
  fields.map fun field => (.str field.1, field.2)

theorem FieldValues.parameters_of_given {fields : FieldValues} {parameters : Parameters}
    (h : Entries.get? "parameters".toList fields.entries = some parameters.toValue) :
    fields.parameters = .ok parameters := by
  rw [FieldValues.parameters, FieldValues.get_of_given h]
  cases parameters <;> rfl

theorem Construct.readFrom_fields {construct : Construct}
    (h : (Event.opening construct).IsChecked) :
    construct.ReadFrom ⟨Entries.ofFields construct.fields, construct.reference?⟩ := by
  cases construct with
  | heading level id parameters =>
    exact ⟨rfl, FieldValues.parameters_of_given rfl, h, rfl⟩
  | list kind parameters =>
    refine ⟨FieldValues.parameters_of_given rfl, ?_⟩
    cases kind <;> rfl
  | listItem | term | description | quotationLine => trivial
  | cell isHeader parameters => exact ⟨rfl, FieldValues.parameters_of_given rfl⟩
  | format style parameters =>
    refine ⟨FieldValues.parameters_of_given rfl, ?_⟩
    cases style <;> rfl
  | link reference isFreeStanding parameters =>
    exact ⟨rfl, FieldValues.parameters_of_given rfl, rfl⟩
  | _ => exact FieldValues.parameters_of_given rfl

theorem Leaf.readFrom_fields {l : Leaf} (h : (Event.leaf l).IsChecked) :
    l.ReadFrom ⟨Entries.ofFields l.fields, l.reference?⟩ := by
  cases l with
  | word text => exact rfl
  | space | lineBreak => trivial
  | symbol value => exact ⟨rfl, h⟩
  | rawText text markup => exact ⟨rfl, rfl⟩
  | image reference alt isFreeStanding parameters =>
    exact ⟨rfl, FieldValues.parameters_of_given rfl, rfl, rfl⟩
  | call id content isInline parameters =>
    exact ⟨rfl, FieldValues.parameters_of_given rfl, rfl, rfl⟩
  | rule parameters => exact FieldValues.parameters_of_given rfl

theorem Event.readFrom_fields {e : Event} (h : e.IsChecked) :
    e.ReadFrom ⟨Entries.ofFields e.fields, e.reference?⟩ := by
  cases e with
  | opening construct => exact Construct.readFrom_fields h
  | closing construct => exact Construct.readFrom_fields (by cases construct <;> exact h)
  | leaf l => exact Leaf.readFrom_fields h
  | foreign name => exact absurd h id

/-- The names of an event's fields are different from each other and from the name under which a
record says what event it is of. -/
theorem Event.fields_nodup (e : Event) : ("event".toList :: e.fields.map (·.1)).Nodup := by
  cases e with
  | opening construct | closing construct => cases construct <;> exact of_decide_eq_true rfl
  | leaf l => cases l <;> exact of_decide_eq_true rfl
  | foreign name => exact List.nodup_singleton _

theorem Event.mapM_reference (e : Event) :
    (Entries.get? "reference".toList (Entries.ofFields e.fields)).mapM Reference.ofValue =
      .ok e.reference? := by
  cases e with
  | opening construct | closing construct =>
    cases construct with
    | link reference isFreeStanding parameters =>
      exact Reference.mapM_toValue reference
    | _ => rfl
  | leaf l =>
    cases l with
    | image reference alt isFreeStanding parameters =>
      exact Reference.mapM_toValue reference
    | _ => rfl
  | foreign name => rfl

/-- An event that passes the checks of its reader is read back from its record. -/
theorem Event.ofValue_toValue {e : Event} (h : e.IsChecked) : Event.ofValue e.toValue = .ok e := by
  -- The entry that names the event is set apart by its key, which no field has.
  have hevent : "event".toList ∉ e.fields.map (·.1) := (List.nodup_cons.mp e.fields_nodup).1
  have hgiven : Entries.given ((.str "event".toList, .str e.name) :: Entries.ofFields e.fields) =
      Entries.ofFields e.fields := by
    rw [Entries.given, List.filter_cons_of_neg (by simp), List.filter_eq_self]
    intro entry hentry
    obtain ⟨field, hfield, rfl⟩ := List.mem_map.mp hentry
    have hne : field.1 ≠ "event".toList := by
      intro hname
      exact hevent (hname ▸ List.mem_map_of_mem hfield)
    exact decide_eq_true fun hkey => hne (Key.str.inj hkey)
  change Event.ofValue (.map ((.str "event".toList, .str e.name) :: Entries.ofFields e.fields)) = _
  rw [Event.ofValue_eq_ok_iff, hgiven]
  refine ⟨e.reference?, rfl, e.mapM_reference, ?_, Event.readFrom_fields h⟩
  intro entry hentry
  obtain ⟨field, hfield, rfl⟩ := List.mem_map.mp hentry
  exact ⟨field.1, List.mem_map_of_mem hfield, rfl⟩

/-- The mappings that a construct holds: its parameters and those of its reference. -/
def Construct.mappings : Construct → List Entries
  | .document parameters | .paragraph parameters | .heading _ _ parameters | .list _ parameters
  | .definitionList parameters | .quotation parameters | .table parameters | .row parameters
  | .cell _ parameters | .format _ parameters => parameters.toList
  | .listItem | .term | .description | .quotationLine => []
  | .link reference _ parameters => reference.parameters :: parameters.toList

/-- The mappings that a leaf holds. -/
def Leaf.mappings : Leaf → List Entries
  | .word _ | .space | .lineBreak | .symbol _ | .rawText .. => []
  | .image reference _ _ parameters => reference.parameters :: parameters.toList
  | .call _ _ _ parameters | .rule parameters => parameters.toList

/-- The mappings that an event of declared kinds holds. -/
def Event.mappings : Event → List Entries
  | .opening construct | .closing construct => construct.mappings
  | .leaf l => l.mappings
  | .foreign _ => []

/-- Whether every mapping in an event is one: no key stands in it twice. -/
def Event.HasDistinctKeys (e : Event) : Prop :=
  ∀ entries ∈ e.mappings, (entries.map (·.1)).Nodup

instance (e : Event) : Decidable e.HasDistinctKeys :=
  inferInstanceAs (Decidable (∀ entries ∈ e.mappings, (entries.map (·.1)).Nodup))

namespace Value

theorem storable_of_isText {value : Value} (h : value.isText = true) : value.Storable := by
  obtain ⟨text, rfl⟩ := exists_text_of_isText h
  exact .str text

theorem storable_of_isOptionalText {value : Value} (h : value.isOptionalText = true) :
    value.Storable := by
  rcases eq_null_or_text_of_isOptionalText h with rfl | ⟨text, rfl⟩
  · exact .null
  · exact .str text

theorem storable_of_isFlag {value : Value} (h : value.isFlag = true) : value.Storable := by
  cases value with
  | bool b => exact .bool b
  | _ => cases h

theorem storable_of_isLevel {value : Value} (h : value.isLevel = true) : value.Storable := by
  cases value with
  | bool b => exact .bool b
  | int n => exact .int n
  | _ => cases h

end Value

theorem Entries.storable {entries : Entries} (htexts : Entries.areTexts entries = true)
    (hkeys : (entries.map (·.1)).Nodup) : (Value.map entries).Storable := by
  have hall : ∀ entry ∈ entries, entry.1.toValue.isText = true ∧ entry.2.isText = true := by
    simpa [Entries.areTexts] using htexts
  refine .map ⟨hkeys, ?_⟩ fun entry hentry => Value.storable_of_isText (hall entry hentry).2
  intro entry hentry
  obtain ⟨key, value⟩ := entry
  cases key with
  | str name => exact ⟨name, rfl⟩
  | _ => cases (hall _ hentry).1

theorem Parameters.storable {parameters : Parameters}
    (htexts : Parameters.areTexts parameters = true)
    (hkeys : ∀ entries ∈ parameters.toList, (entries.map (·.1)).Nodup) :
    parameters.toValue.Storable := by
  obtain ⟨entries, rfl, hentries⟩ := Parameters.exists_entries_of_areTexts htexts
  exact Entries.storable hentries (hkeys entries List.mem_cons_self)

theorem Reference.storable {reference : Reference} (htyped : reference.isWellTyped = true)
    (hkeys : (reference.parameters.map (·.1)).Nodup) : reference.toValue.Storable := by
  simp only [Reference.isWellTyped, Bool.and_eq_true, List.all_eq_true] at htyped
  obtain ⟨⟨⟨htarget, hflag⟩, hbases⟩, hparameters⟩ := htyped
  refine .map ⟨of_decide_eq_true rfl, by simp⟩ ?_
  simp only [List.forall_mem_cons]
  exact ⟨Value.storable_of_isText htarget, .str _, Value.storable_of_isFlag hflag,
    .list fun base hbase => Value.storable_of_isText (hbases base hbase),
    Entries.storable hparameters hkeys, List.forall_mem_nil _⟩

theorem Construct.storable_fields {construct : Construct} (htyped : construct.isWellTyped = true)
    (hkeys : ∀ entries ∈ construct.mappings, (entries.map (·.1)).Nodup) :
    ∀ field ∈ construct.fields, field.2.Storable := by
  cases construct with
  | heading level id parameters =>
    simp only [isWellTyped, Bool.and_eq_true] at htyped
    obtain ⟨⟨hlevel, hid⟩, hparameters⟩ := htyped
    simp only [fields, List.forall_mem_cons]
    exact ⟨Value.storable_of_isLevel hlevel, Value.storable_of_isOptionalText hid,
      Parameters.storable hparameters hkeys, List.forall_mem_nil _⟩
  | list kind parameters =>
    simp only [fields, List.forall_mem_cons]
    exact ⟨.str _, Parameters.storable htyped hkeys, List.forall_mem_nil _⟩
  | listItem | term | description | quotationLine => exact List.forall_mem_nil _
  | cell isHeader parameters =>
    simp only [isWellTyped, Bool.and_eq_true] at htyped
    simp only [fields, List.forall_mem_cons]
    exact ⟨Value.storable_of_isFlag htyped.1, Parameters.storable htyped.2 hkeys,
      List.forall_mem_nil _⟩
  | format style parameters =>
    simp only [fields, List.forall_mem_cons]
    exact ⟨.str _, Parameters.storable htyped hkeys, List.forall_mem_nil _⟩
  | link reference isFreeStanding parameters =>
    simp only [isWellTyped, Bool.and_eq_true] at htyped
    obtain ⟨⟨hreference, hflag⟩, hparameters⟩ := htyped
    obtain ⟨hreferenceKeys, hkeys⟩ := List.forall_mem_cons.mp hkeys
    simp only [fields, List.forall_mem_cons]
    exact ⟨Reference.storable hreference hreferenceKeys, Value.storable_of_isFlag hflag,
      Parameters.storable hparameters hkeys, List.forall_mem_nil _⟩
  | _ =>
    simp only [fields, List.forall_mem_cons]
    exact ⟨Parameters.storable htyped hkeys, List.forall_mem_nil _⟩

theorem Leaf.storable_fields {l : Leaf} (htyped : l.isWellTyped = true)
    (hkeys : ∀ entries ∈ l.mappings, (entries.map (·.1)).Nodup) :
    ∀ field ∈ l.fields, field.2.Storable := by
  cases l with
  | word text =>
    simp only [fields, List.forall_mem_cons]
    exact ⟨Value.storable_of_isText htyped, List.forall_mem_nil _⟩
  | space | lineBreak => exact List.forall_mem_nil _
  | symbol value =>
    obtain ⟨c, rfl⟩ := exists_char_of_symbol htyped
    simp only [fields, List.forall_mem_cons]
    exact ⟨.str _, List.forall_mem_nil _⟩
  | rawText text markup =>
    simp only [isWellTyped, Bool.and_eq_true] at htyped
    simp only [fields, List.forall_mem_cons]
    exact ⟨Value.storable_of_isText htyped.1, Value.storable_of_isText htyped.2,
      List.forall_mem_nil _⟩
  | image reference alt isFreeStanding parameters =>
    simp only [isWellTyped, Bool.and_eq_true] at htyped
    obtain ⟨⟨⟨hreference, halt⟩, hflag⟩, hparameters⟩ := htyped
    obtain ⟨hreferenceKeys, hkeys⟩ := List.forall_mem_cons.mp hkeys
    simp only [fields, List.forall_mem_cons]
    exact ⟨Reference.storable hreference hreferenceKeys, Value.storable_of_isOptionalText halt,
      Value.storable_of_isFlag hflag, Parameters.storable hparameters hkeys, List.forall_mem_nil _⟩
  | call id content isInline parameters =>
    simp only [isWellTyped, Bool.and_eq_true] at htyped
    obtain ⟨⟨⟨hid, hcontent⟩, hflag⟩, hparameters⟩ := htyped
    simp only [fields, List.forall_mem_cons]
    exact ⟨Value.storable_of_isText hid, Value.storable_of_isOptionalText hcontent,
      Value.storable_of_isFlag hflag, Parameters.storable hparameters hkeys, List.forall_mem_nil _⟩
  | rule parameters =>
    simp only [fields, List.forall_mem_cons]
    exact ⟨Parameters.storable htyped hkeys, List.forall_mem_nil _⟩

/-- The record of an event whose fields have their declared kinds is written without loss. -/
theorem Event.storable_toValue {e : Event} (htyped : e.isWellTyped = true)
    (hkeys : e.HasDistinctKeys) : e.toValue.Storable := by
  have hfields : ∀ field ∈ e.fields, field.2.Storable := by
    cases e with
    | opening construct | closing construct => exact Construct.storable_fields htyped hkeys
    | leaf l => exact Leaf.storable_fields htyped hkeys
    | foreign name => cases htyped
  refine .map ⟨?_, ?_⟩ ?_
  · have hnames := e.fields_nodup.map (f := Key.str) fun _ _ => Key.str.inj
    simpa [Entries.ofFields, List.map_map, Function.comp_def] using hnames
  · rw [List.forall_mem_cons]
    refine ⟨⟨_, rfl⟩, ?_⟩
    intro entry hentry
    obtain ⟨field, -, rfl⟩ := List.mem_map.mp hentry
    exact ⟨field.1, rfl⟩
  · rw [List.forall_mem_cons]
    refine ⟨.str _, ?_⟩
    intro entry hentry
    obtain ⟨field, hfield, rfl⟩ := List.mem_map.mp hentry
    exact hfields field hfield

theorem checkLevel_of_isLevel {level : Value} (h : level.isLevel = true) :
    checkLevel level = .ok level := by
  obtain ⟨n, hn⟩ := Value.exists_level_of_isLevel h
  have hrange : 1 ≤ n ∧ n ≤ 6 := by simpa [Value.isLevel, hn] using h
  have hbetween : Numeric.isBetween (.int n) 1 6 = true := by
    simp only [Numeric.isBetween, Numeric.compareInt?, Option.any_some, Bool.and_eq_true]
    exact ⟨Std.isGE_compare.mpr hrange.1, Std.isLE_compare.mpr hrange.2⟩
  rw [checkLevel, hn]
  exact if_pos hbetween

theorem Event.isChecked_of_isWellTyped {e : Event} (h : e.isWellTyped = true) : e.IsChecked := by
  cases e with
  | opening construct | closing construct =>
    cases construct with
    | heading level id parameters =>
      simp only [Event.isWellTyped, Construct.isWellTyped, Bool.and_eq_true] at h
      exact checkLevel_of_isLevel h.1.1
    | _ => trivial
  | leaf l =>
    cases l with
    | symbol value =>
      obtain ⟨c, rfl⟩ := Leaf.exists_char_of_symbol h
      rfl
    | _ => trivial
  | foreign name => cases h

theorem mapM_ofValue_toValue {events : List Event} (h : ∀ e ∈ events, e.IsChecked) :
    (events.map Event.toValue).mapM Event.ofValue = .ok events := by
  induction events with
  | nil => rfl
  | cons e events ih =>
    obtain ⟨he, hevents⟩ := List.forall_mem_cons.mp h
    rw [List.map_cons, List.mapM_cons, Event.ofValue_toValue he, ih hevents]
    rfl

/-- A stream of events of declared kinds can be stored, and then it holds the events that it was
written from, with the keys of their parameters in the same order. -/
theorem readEvents_writeEvents {events : List Event} (htyped : ∀ e ∈ events, e.isWellTyped = true)
    (hkeys : ∀ e ∈ events, e.HasDistinctKeys) (indent : Option Int) :
    ∃ text, writeEvents indent events = .ok text ∧ readEvents text = .ok events := by
  have hstorable : (Value.list (events.map Event.toValue)).Storable := by
    refine .list fun item hitem => ?_
    obtain ⟨e, he, rfl⟩ := List.mem_map.mp hitem
    exact Event.storable_toValue (htyped e he) (hkeys e he)
  have hevents := mapM_ofValue_toValue fun e he => Event.isChecked_of_isWellTyped (htyped e he)
  refine ⟨_, Json.write_of_storable hstorable indent, ?_⟩
  rw [readEvents, Json.read_print hstorable]
  simp only [Except.mapError, bind, Except.bind, hevents]

/-- A heading with a link to a page, whose parameters hold a quote and a line feed. -/
theorem readEvents_writeEvents_heading :
    let parameters : Entries := [(.str ['z'], .str ['"']), (.str ['a'], .str ['\n'])]
    let reference : Reference := {
      target := .str ['x']
      type := .page
      bases := [.str ['b']]
      parameters }
    let heading : Construct := .heading (.int 2) .null (some [])
    let link : Construct := .link reference (.bool true) (some parameters)
    let events : List Event := [.opening heading, .opening link, .leaf (.word (.str ['é'])),
      .closing link, .closing heading]
    (∀ e ∈ events, e.isWellTyped = true) ∧ (∀ e ∈ events, e.HasDistinctKeys) ∧
      ∃ text, writeEvents (some 2) events = .ok text ∧ readEvents text = .ok events := by
  intro parameters reference heading link events
  have htyped : ∀ e ∈ events, e.isWellTyped = true := by decide
  have hkeys : ∀ e ∈ events, e.HasDistinctKeys := by decide
  exact ⟨htyped, hkeys, readEvents_writeEvents htyped hkeys (some 2)⟩

end DocumentStream
