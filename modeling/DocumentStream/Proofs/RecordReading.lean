import DocumentStream.Event.Stream
import Mathlib.Data.List.Nodup

/-!
What the records of events have to hold. Every kind of event has its own reader, and the readers
are described here by what they read: an event results from a record just when the record names it,
gives no field that it does not have, and the fields are as `ReadFrom` says.
-/

namespace DocumentStream

theorem bind_eq_ok_iff {ε α β : Type} {first : Except ε α} {next : α → Except ε β} {b : β} :
    (first >>= next) = .ok b ↔ ∃ a, first = .ok a ∧ next a = .ok b := by
  cases first <;> simp [bind, Except.bind]

theorem mapError_eq_ok_iff {ε ε' α : Type} {f : ε → ε'} {x : Except ε α} {a : α} :
    x.mapError f = .ok a ↔ x = .ok a := by
  cases x <;> simp [Except.mapError]

theorem pure_eq_ok_iff {ε α : Type} {a b : α} : (pure a : Except ε α) = .ok b ↔ a = b := by
  simp [pure, Except.pure]

/-- Whether the fields of a record make a construct. -/
def Construct.ReadFrom (fields : FieldValues) : Construct → Prop
  | .document parameters | .paragraph parameters | .definitionList parameters
  | .quotation parameters | .table parameters | .row parameters =>
    fields.parameters = .ok parameters
  | .heading level id parameters =>
    fields.required "level" = .ok level ∧ fields.parameters = .ok parameters ∧
      checkLevel level = .ok level ∧ fields.get "id" .null = id
  | .list kind parameters =>
    fields.parameters = .ok parameters ∧
      checkListKind (fields.get "kind" (.str ListKind.bulleted.label)) = .ok kind
  | .listItem | .term | .description | .quotationLine => True
  | .cell isHeader parameters =>
    fields.get "is_header" (.bool false) = isHeader ∧ fields.parameters = .ok parameters
  | .format style parameters =>
    fields.parameters = .ok parameters ∧
      checkFormat (fields.get "format" (.str Format.plain.label)) = .ok style
  | .link reference isFreeStanding parameters =>
    fields.reference = some reference ∧ fields.parameters = .ok parameters ∧
      fields.get "is_free_standing" (.bool false) = isFreeStanding

/-- Whether the fields of a record make a leaf. -/
def Leaf.ReadFrom (fields : FieldValues) : Leaf → Prop
  | .word text => fields.required "text" = .ok text
  | .space | .lineBreak => True
  | .symbol value => fields.required "symbol" = .ok value ∧ checkSymbol value = .ok value
  | .rawText text markup =>
    fields.required "text" = .ok text ∧ fields.get "syntax" (.str "html/4.01".toList) = markup
  | .image reference alt isFreeStanding parameters =>
    fields.reference = some reference ∧ fields.parameters = .ok parameters ∧
      fields.get "alt_text" .null = alt ∧
      fields.get "is_free_standing" (.bool false) = isFreeStanding
  | .call id content isInline parameters =>
    fields.required "id" = .ok id ∧ fields.parameters = .ok parameters ∧
      fields.get "content" .null = content ∧ fields.get "is_inline" (.bool false) = isInline
  | .rule parameters => fields.parameters = .ok parameters

/-- Whether the fields of a record make an event. -/
def Event.ReadFrom (fields : FieldValues) : Event → Prop
  | .opening construct | .closing construct => construct.ReadFrom fields
  | .leaf l => l.ReadFrom fields
  | .foreign _ => False

theorem FieldValues.required_eq_ok_iff {fields : FieldValues} {name : String} {value : Value} :
    fields.required name = .ok value ↔ Entries.get? name.toList fields.entries = some value := by
  unfold FieldValues.required
  cases Entries.get? name.toList fields.entries <;> simp

theorem FieldValues.get_of_given {fields : FieldValues} {name : String} {value default : Value}
    (h : Entries.get? name.toList fields.entries = some value) :
    fields.get name default = value := by
  rw [FieldValues.get, h, Option.getD_some]

theorem requiredReference_eq_ok_iff {fields : FieldValues} {reference : Reference} :
    fields.requiredReference = .ok reference ↔ fields.reference = some reference := by
  unfold FieldValues.requiredReference
  cases fields.reference <;> simp

theorem checkLevel_eq_ok_iff {level other : Value} :
    checkLevel level = .ok other ↔ checkLevel level = .ok level ∧ level = other := by
  unfold checkLevel
  cases level.numeric? with
  | none => simp
  | some n => by_cases h : n.isBetween 1 6 <;> simp [h]

theorem checkSymbol_eq_ok_iff {symbol other : Value} :
    checkSymbol symbol = .ok other ↔ checkSymbol symbol = .ok symbol ∧ symbol = other := by
  unfold checkSymbol
  split <;> simp

/-- Whether a reader makes nothing but what has its name and its fields and is made of the fields it
was given. -/
def Shape.Reads {α : Type} (name : α → Text) (fieldsOf : α → List (Text × Value))
    (readFrom : FieldValues → α → Prop) (shape : Shape α) : Prop :=
  ∀ (fields : FieldValues) (a : α), shape.build fields = .ok a →
    name a = shape.name ∧ shape.fields.map String.toList = (fieldsOf a).map (·.1) ∧
      readFrom fields a

namespace Shape

variable {α : Type} {name : α → Text} {fieldsOf : α → List (Text × Value)}
  {readFrom : FieldValues → α → Prop}

theorem reads_ofParameters {label : String} {make : Parameters → α}
    (hname : ∀ parameters, name (make parameters) = label.toList)
    (hfields : ∀ parameters, fieldsOf (make parameters) = [Parameters.field parameters])
    (hread : ∀ fields parameters, FieldValues.parameters fields = .ok parameters →
      readFrom fields (make parameters)) :
    (Shape.ofParameters label make).Reads name fieldsOf readFrom := by
  intro fields a h
  simp only [Shape.ofParameters, bind_eq_ok_iff, pure_eq_ok_iff] at h
  obtain ⟨parameters, hparameters, rfl⟩ := h
  exact ⟨hname parameters, by rw [hfields]; rfl, hread fields parameters hparameters⟩

theorem reads_ofNothing {label : String} {a : α} (hname : name a = label.toList)
    (hfields : fieldsOf a = []) (hread : ∀ fields, readFrom fields a) :
    (Shape.ofNothing label a).Reads name fieldsOf readFrom := by
  intro fields b h
  obtain rfl : a = b := Except.ok.inj h
  exact ⟨hname, by rw [hfields]; rfl, hread fields⟩

theorem Reads.map {β : Type} {name' : β → Text} {fieldsOf' : β → List (Text × Value)}
    {readFrom' : FieldValues → β → Prop} {shape : Shape α} {start : String} {f : α → β}
    (h : shape.Reads name fieldsOf readFrom)
    (hname : ∀ a, name' (f a) = start.toList ++ name a)
    (hfields : ∀ a, fieldsOf' (f a) = fieldsOf a)
    (hread : ∀ fields a, readFrom fields a → readFrom' fields (f a)) :
    (shape.map start f).Reads name' fieldsOf' readFrom' := by
  intro fields b hb
  cases ha : shape.build fields with
  | error fault =>
    simp only [Shape.map, ha] at hb
    cases hb
  | ok a =>
    simp only [Shape.map, ha] at hb
    obtain rfl : f a = b := Except.ok.inj hb
    obtain ⟨hname', hfields', hread'⟩ := h fields a ha
    refine ⟨?_, ?_, hread fields a hread'⟩
    · rw [hname, hname']
      rfl
    · rw [hfields]
      exact hfields'

end Shape

/-- What the readers of constructs have read. -/
theorem Construct.reads_of_mem {shape : Shape Construct} (hshape : shape ∈ Construct.shapes) :
    shape.Reads Construct.name Construct.fields Construct.ReadFrom := by
  revert shape
  simp only [Construct.shapes, List.forall_mem_cons]
  refine ⟨?_, ?_, ?heading, ?list, ?_, ?_, ?_, ?_, ?_, ?_, ?_, ?_, ?cell, ?format, ?link,
    fun _ h => absurd h List.not_mem_nil⟩
  case heading =>
    intro fields construct h
    simp only [bind_eq_ok_iff, pure_eq_ok_iff] at h
    obtain ⟨level, hlevel, parameters, hparameters, level', hcheck, rfl⟩ := h
    obtain ⟨hcheck, rfl⟩ := checkLevel_eq_ok_iff.mp hcheck
    exact ⟨rfl, rfl, hlevel, hparameters, hcheck, rfl⟩
  case list =>
    intro fields construct h
    simp only [bind_eq_ok_iff, pure_eq_ok_iff] at h
    obtain ⟨parameters, hparameters, kind, hkind, rfl⟩ := h
    exact ⟨rfl, rfl, hparameters, hkind⟩
  case cell =>
    intro fields construct h
    simp only [bind_eq_ok_iff, pure_eq_ok_iff] at h
    obtain ⟨parameters, hparameters, rfl⟩ := h
    exact ⟨rfl, rfl, rfl, hparameters⟩
  case format =>
    intro fields construct h
    simp only [bind_eq_ok_iff, pure_eq_ok_iff] at h
    obtain ⟨parameters, hparameters, style, hstyle, rfl⟩ := h
    exact ⟨rfl, rfl, hparameters, hstyle⟩
  case link =>
    intro fields construct h
    simp only [bind_eq_ok_iff, pure_eq_ok_iff, requiredReference_eq_ok_iff] at h
    obtain ⟨reference, hreference, parameters, hparameters, rfl⟩ := h
    exact ⟨rfl, rfl, hreference, hparameters, rfl⟩
  all_goals
    first
    | exact Shape.reads_ofParameters (fun _ => rfl) (fun _ => rfl) fun _ _ h => h
    | exact Shape.reads_ofNothing rfl rfl fun _ => trivial

theorem Leaf.reads_of_mem {shape : Shape Leaf} (hshape : shape ∈ Leaf.shapes) :
    shape.Reads Leaf.name Leaf.fields Leaf.ReadFrom := by
  revert shape
  simp only [Leaf.shapes, List.forall_mem_cons]
  refine ⟨?word, ?_, ?_, ?symbol, ?rawText, ?image, ?call, ?_,
    fun _ h => absurd h List.not_mem_nil⟩
  case word =>
    intro fields l h
    simp only [bind_eq_ok_iff, pure_eq_ok_iff] at h
    obtain ⟨text, htext, rfl⟩ := h
    exact ⟨rfl, rfl, htext⟩
  case symbol =>
    intro fields l h
    simp only [bind_eq_ok_iff, pure_eq_ok_iff] at h
    obtain ⟨value, hvalue, value', hcheck, rfl⟩ := h
    obtain ⟨hcheck, rfl⟩ := checkSymbol_eq_ok_iff.mp hcheck
    exact ⟨rfl, rfl, hvalue, hcheck⟩
  case rawText =>
    intro fields l h
    simp only [bind_eq_ok_iff, pure_eq_ok_iff] at h
    obtain ⟨text, htext, rfl⟩ := h
    exact ⟨rfl, rfl, htext, rfl⟩
  case image =>
    intro fields l h
    simp only [bind_eq_ok_iff, pure_eq_ok_iff, requiredReference_eq_ok_iff] at h
    obtain ⟨reference, hreference, parameters, hparameters, rfl⟩ := h
    exact ⟨rfl, rfl, hreference, hparameters, rfl, rfl⟩
  case call =>
    intro fields l h
    simp only [bind_eq_ok_iff, pure_eq_ok_iff] at h
    obtain ⟨id, hid, parameters, hparameters, rfl⟩ := h
    exact ⟨rfl, rfl, hid, hparameters, rfl, rfl⟩
  all_goals
    first
    | exact Shape.reads_ofParameters (fun _ => rfl) (fun _ => rfl) fun _ _ h => h
    | exact Shape.reads_ofNothing rfl rfl fun _ => trivial

theorem Event.reads_of_mem {shape : Shape Event} (hshape : shape ∈ Event.shapes) :
    shape.Reads Event.name Event.fields Event.ReadFrom := by
  simp only [Event.shapes, List.mem_append, List.mem_map] at hshape
  obtain (⟨base, hbase, rfl⟩ | ⟨base, hbase, rfl⟩) | ⟨base, hbase, rfl⟩ := hshape
  · exact (Construct.reads_of_mem hbase).map (fun _ => rfl) (fun _ => rfl) fun _ _ h => h
  · exact (Construct.reads_of_mem hbase).map (fun _ => rfl) (fun _ => rfl) fun _ _ h => h
  · exact (Leaf.reads_of_mem hbase).map (fun _ => rfl) (fun _ => rfl) fun _ _ h => h

/-- Every construct that fields make is made by one of the readers. -/
theorem Construct.exists_shape {fields : FieldValues} {construct : Construct}
    (h : construct.ReadFrom fields) :
    ∃ shape ∈ Construct.shapes, shape.name = construct.name ∧
      shape.build fields = .ok construct := by
  have reader (i : Nat) {shape : Shape Construct} (hshape : Construct.shapes[i]? = some shape)
      (hname : shape.name = construct.name) (hbuild : shape.build fields = .ok construct) :
      ∃ shape ∈ Construct.shapes, shape.name = construct.name ∧
        shape.build fields = .ok construct :=
    ⟨shape, List.mem_of_getElem? hshape, hname, hbuild⟩
  have afterParameters {parameters : Parameters} {next : Parameters → Except FieldError Construct}
      (hparameters : fields.parameters = .ok parameters) (hnext : next parameters = .ok construct) :
      (fields.parameters >>= next) = .ok construct :=
    bind_eq_ok_iff.mpr ⟨parameters, hparameters, hnext⟩
  cases construct with
  | document parameters => exact reader 0 rfl rfl (afterParameters h rfl)
  | paragraph parameters => exact reader 1 rfl rfl (afterParameters h rfl)
  | heading level id parameters =>
    obtain ⟨hlevel, hparameters, hcheck, rfl⟩ := h
    refine reader 2 rfl rfl (bind_eq_ok_iff.mpr ⟨level, hlevel, afterParameters hparameters ?_⟩)
    exact bind_eq_ok_iff.mpr ⟨level, hcheck, rfl⟩
  | list kind parameters =>
    obtain ⟨hparameters, hkind⟩ := h
    refine reader 3 rfl rfl (afterParameters hparameters ?_)
    exact bind_eq_ok_iff.mpr ⟨kind, hkind, rfl⟩
  | listItem => exact reader 4 rfl rfl rfl
  | definitionList parameters => exact reader 5 rfl rfl (afterParameters h rfl)
  | term => exact reader 6 rfl rfl rfl
  | description => exact reader 7 rfl rfl rfl
  | quotation parameters => exact reader 8 rfl rfl (afterParameters h rfl)
  | quotationLine => exact reader 9 rfl rfl rfl
  | table parameters => exact reader 10 rfl rfl (afterParameters h rfl)
  | row parameters => exact reader 11 rfl rfl (afterParameters h rfl)
  | cell isHeader parameters =>
    obtain ⟨rfl, hparameters⟩ := h
    exact reader 12 rfl rfl (afterParameters hparameters rfl)
  | format style parameters =>
    obtain ⟨hparameters, hstyle⟩ := h
    refine reader 13 rfl rfl (afterParameters hparameters ?_)
    exact bind_eq_ok_iff.mpr ⟨style, hstyle, rfl⟩
  | link reference isFreeStanding parameters =>
    obtain ⟨hreference, hparameters, rfl⟩ := h
    refine reader 14 rfl rfl (bind_eq_ok_iff.mpr ⟨reference, ?_, afterParameters hparameters rfl⟩)
    exact requiredReference_eq_ok_iff.mpr hreference

theorem Leaf.exists_shape {fields : FieldValues} {l : Leaf} (h : l.ReadFrom fields) :
    ∃ shape ∈ Leaf.shapes, shape.name = l.name ∧ shape.build fields = .ok l := by
  have reader (i : Nat) {shape : Shape Leaf} (hshape : Leaf.shapes[i]? = some shape)
      (hname : shape.name = l.name) (hbuild : shape.build fields = .ok l) :
      ∃ shape ∈ Leaf.shapes, shape.name = l.name ∧ shape.build fields = .ok l :=
    ⟨shape, List.mem_of_getElem? hshape, hname, hbuild⟩
  cases l with
  | word text => exact reader 0 rfl rfl (bind_eq_ok_iff.mpr ⟨text, h, rfl⟩)
  | space => exact reader 1 rfl rfl rfl
  | lineBreak => exact reader 2 rfl rfl rfl
  | symbol value =>
    obtain ⟨hvalue, hcheck⟩ := h
    refine reader 3 rfl rfl (bind_eq_ok_iff.mpr ⟨value, hvalue, ?_⟩)
    exact bind_eq_ok_iff.mpr ⟨value, hcheck, rfl⟩
  | rawText text markup =>
    obtain ⟨htext, rfl⟩ := h
    exact reader 4 rfl rfl (bind_eq_ok_iff.mpr ⟨text, htext, rfl⟩)
  | image reference alt isFreeStanding parameters =>
    obtain ⟨hreference, hparameters, rfl, rfl⟩ := h
    refine reader 5 rfl rfl (bind_eq_ok_iff.mpr ⟨reference, ?_, ?_⟩)
    · exact requiredReference_eq_ok_iff.mpr hreference
    · exact bind_eq_ok_iff.mpr ⟨parameters, hparameters, rfl⟩
  | call id content isInline parameters =>
    obtain ⟨hid, hparameters, rfl, rfl⟩ := h
    refine reader 6 rfl rfl (bind_eq_ok_iff.mpr ⟨id, hid, ?_⟩)
    exact bind_eq_ok_iff.mpr ⟨parameters, hparameters, rfl⟩
  | rule parameters => exact reader 7 rfl rfl (bind_eq_ok_iff.mpr ⟨parameters, h, rfl⟩)

theorem Shape.build_map {α β : Type} {shape : Shape α} {start : String} {f : α → β}
    {fields : FieldValues} {a : α} (h : shape.build fields = .ok a) :
    (shape.map start f).build fields = .ok (f a) := by
  change (shape.build fields).map f = _
  rw [h]
  rfl

theorem Event.exists_shape {fields : FieldValues} {e : Event} (h : e.ReadFrom fields) :
    ∃ shape ∈ Event.shapes, shape.name = e.name ∧ shape.build fields = .ok e := by
  cases e with
  | opening construct =>
    obtain ⟨base, hbase, hname, hbuild⟩ := Construct.exists_shape h
    refine ⟨base.map "Begin" .opening, ?_, ?_, Shape.build_map hbuild⟩
    · exact List.mem_append_left _ (List.mem_append_left _ (List.mem_map_of_mem hbase))
    · exact congrArg ("Begin".toList ++ ·) hname
  | closing construct =>
    obtain ⟨base, hbase, hname, hbuild⟩ := Construct.exists_shape h
    refine ⟨base.map "End" .closing, ?_, ?_, Shape.build_map hbuild⟩
    · exact List.mem_append_left _ (List.mem_append_right _ (List.mem_map_of_mem hbase))
    · exact congrArg ("End".toList ++ ·) hname
  | leaf l =>
    obtain ⟨base, hbase, hname, hbuild⟩ := Leaf.exists_shape h
    refine ⟨base.map "On" .leaf, ?_, ?_, Shape.build_map hbuild⟩
    · exact List.mem_append_right _ (List.mem_map_of_mem hbase)
    · exact congrArg ("On".toList ++ ·) hname
  | foreign name => exact absurd h id

/-- No two kinds of event have the same name. -/
theorem Event.names_nodup : (Event.shapes.map Shape.name).Nodup := by decide

theorem Event.shape?_eq_some_iff {label : Text} {shape : Shape Event} :
    Event.shape? label = some shape ↔ shape ∈ Event.shapes ∧ shape.name = label := by
  constructor
  · intro h
    exact ⟨List.mem_of_find?_eq_some h, by simpa using List.find?_some h⟩
  · rintro ⟨hshape, rfl⟩
    cases hfound : Event.shape? shape.name with
    | none =>
      have hnone := List.find?_eq_none.mp hfound shape hshape
      simp at hnone
    | some found =>
      have hname : found.name = shape.name := by simpa using List.find?_some hfound
      have hinjective := List.inj_on_of_nodup_map Event.names_nodup
      rw [hinjective (List.mem_of_find?_eq_some hfound) hshape hname]

/-- A record gives nothing but fields that its reader knows, and the name of the event. -/
theorem Shape.checkNames_eq_ok_iff {α : Type} {shape : Shape α} {entries : Entries}
    (hself : "self".toList ∉ shape.fields.map String.toList) :
    shape.checkNames entries = .ok () ↔
      ∀ entry ∈ entries, ∃ field ∈ shape.fields.map String.toList, entry.1 = .str field := by
  induction entries with
  | nil => simp [Shape.checkNames]
  | cons entry rest ih =>
    obtain ⟨key, value⟩ := entry
    have hknown : (shape.fields.any fun field => decide (key = .str field.toList)) = true ↔
        ∃ field ∈ shape.fields.map String.toList, key = .str field := by simp
    rw [List.forall_mem_cons, ← ih, Shape.checkNames]
    by_cases hreceiver : key = .str "self".toList
    · rw [if_pos hreceiver]
      constructor
      · intro h
        cases h
      · rintro ⟨⟨field, hfield, hkey⟩, -⟩
        rw [hreceiver] at hkey
        rw [Key.str.inj hkey] at hself
        exact absurd hfield hself
    · rw [if_neg hreceiver]
      by_cases hfield : (shape.fields.any fun field => decide (key = .str field.toList)) = true
      · rw [if_pos hfield]
        exact ⟨fun h => ⟨hknown.mp hfield, h⟩, fun h => h.2⟩
      · rw [if_neg hfield]
        constructor
        · intro h
          cases h
        · exact fun h => absurd (hknown.mpr h.1) hfield

/-- No event has a field named like the event as seen by its own reader. -/
theorem Event.self_not_mem_fields {shape : Shape Event} (hshape : shape ∈ Event.shapes) :
    "self".toList ∉ shape.fields.map String.toList := by
  have hall : ∀ other ∈ Event.shapes, "self".toList ∉ other.fields.map String.toList := by decide
  exact hall shape hshape

theorem Entries.get?_filter_ne {name other : Text} (hne : name ≠ other) (entries : Entries) :
    Entries.get? name (entries.filter fun entry => entry.1 ≠ .str other) =
      Entries.get? name entries := by
  induction entries with
  | nil => rfl
  | cons entry rest ih =>
    obtain ⟨key, value⟩ := entry
    by_cases hkey : key = .str other
    · have hname : ¬ key = .str name := fun h => hne (Key.str.inj (h.symm.trans hkey))
      rw [List.filter_cons_of_neg (by simpa using hkey), ih, Entries.get?, if_neg hname]
    · rw [List.filter_cons_of_pos (by simpa using hkey), Entries.get?, ih, Entries.get?]

/-- The fields that a record gives: all of its entries but the one that names the event. -/
def Entries.given (entries : Entries) : Entries :=
  entries.filter fun entry => entry.1 ≠ .str "event".toList

/-- Whether a record names an event of a known kind, which the given reader is for. -/
def Entries.Names (entries : Entries) (shape : Shape Event) : Prop :=
  Entries.get? "event".toList entries = some (.str shape.name) ∧ shape ∈ Event.shapes

theorem Event.ofValue_of_names {entries : Entries} {shape : Shape Event}
    (h : entries.Names shape) :
    Event.ofValue (.map entries) = (do
      let reference ← (Entries.get? "reference".toList entries).mapM Reference.ofValue
      (do
        shape.checkNames entries.given
        shape.build ⟨entries.given, reference⟩ : Except FieldError Event).mapError
          (.invalidFields shape.name)) := by
  have hreference := Entries.get?_filter_ne
    (show "reference".toList ≠ "event".toList by decide) entries
  have hshape := Event.shape?_eq_some_iff.mpr ⟨h.2, rfl⟩
  rw [Event.ofValue, h.1]
  simp only [Option.getD_some, hshape, hreference]
  rfl

theorem Event.ofValue_of_not_names {entries : Entries} (h : ∀ shape, ¬ entries.Names shape) :
    ∃ name, Event.ofValue (.map entries) = .error (.unknownEvent name) := by
  refine ⟨(Entries.get? "event".toList entries).getD .null, ?_⟩
  rw [Event.ofValue]
  cases hname : Entries.get? "event".toList entries with
  | none => rfl
  | some name =>
    simp only [Option.getD_some]
    cases name with
    | str label =>
      cases hshape : Event.shape? label with
      | none =>
        simp only [hshape]
        rfl
      | some shape =>
        obtain ⟨hmem, rfl⟩ := Event.shape?_eq_some_iff.mp hshape
        exact absurd ⟨hname, hmem⟩ (h shape)
    | _ => rfl

theorem Entries.Names.unique {entries : Entries} {shape other : Shape Event}
    (h : entries.Names shape) (h' : entries.Names other) : shape = other := by
  have hname : shape.name = other.name := Value.str.inj (Option.some.inj (h.1.symm.trans h'.1))
  exact List.inj_on_of_nodup_map Event.names_nodup h.2 h'.2 hname

/-- What is known of a record that an event was read from. -/
theorem Event.exists_of_ofValue_eq_ok {entries : Entries} {e : Event}
    (h : Event.ofValue (.map entries) = .ok e) :
    ∃ shape reference, entries.Names shape ∧ e.name = shape.name ∧
      shape.fields.map String.toList = e.fields.map (·.1) ∧
      (Entries.get? "reference".toList entries).mapM Reference.ofValue = .ok reference ∧
      (∀ entry ∈ entries.given, ∃ field ∈ e.fields.map (·.1), entry.1 = .str field) ∧
      e.ReadFrom ⟨entries.given, reference⟩ := by
  by_cases hnames : ∃ shape, entries.Names shape
  · obtain ⟨shape, hnames⟩ := hnames
    rw [Event.ofValue_of_names hnames] at h
    simp only [bind_eq_ok_iff, mapError_eq_ok_iff] at h
    obtain ⟨reference, hreference, ⟨⟩, hcheck, hbuild⟩ := h
    obtain ⟨hname, hfields, hread⟩ := Event.reads_of_mem hnames.2 _ _ hbuild
    refine ⟨shape, reference, hnames, hname, hfields, hreference, ?_, hread⟩
    rw [← hfields]
    exact (Shape.checkNames_eq_ok_iff (Event.self_not_mem_fields hnames.2)).mp hcheck
  · obtain ⟨name, hunknown⟩ := Event.ofValue_of_not_names (not_exists.mp hnames)
    rw [hunknown] at h
    cases h

/-- An event results from a record just when the record names it, gives no other fields than it has,
and the fields make it. -/
theorem Event.ofValue_eq_ok_iff {entries : Entries} {e : Event} :
    Event.ofValue (.map entries) = .ok e ↔
      ∃ reference, Entries.get? "event".toList entries = some (.str e.name) ∧
        (Entries.get? "reference".toList entries).mapM Reference.ofValue = .ok reference ∧
        (∀ entry ∈ entries.given, ∃ field ∈ e.fields.map (·.1), entry.1 = .str field) ∧
        e.ReadFrom ⟨entries.given, reference⟩ := by
  constructor
  · intro h
    obtain ⟨shape, reference, hnames, hname, -, hreference, hgiven, hread⟩ :=
      Event.exists_of_ofValue_eq_ok h
    refine ⟨reference, ?_, hreference, hgiven, hread⟩
    rw [hname]
    exact hnames.1
  · rintro ⟨reference, hname, hreference, hgiven, hread⟩
    obtain ⟨shape, hshape, hlabel, hbuild⟩ := Event.exists_shape hread
    obtain ⟨-, hfields, -⟩ := Event.reads_of_mem hshape _ _ hbuild
    have hnames : entries.Names shape := ⟨by rw [hlabel]; exact hname, hshape⟩
    have hcheck : shape.checkNames entries.given = .ok () := by
      rw [Shape.checkNames_eq_ok_iff (Event.self_not_mem_fields hshape), hfields]
      exact hgiven
    rw [Event.ofValue_of_names hnames]
    simp only [bind_eq_ok_iff, mapError_eq_ok_iff]
    exact ⟨reference, hreference, (), hcheck, hbuild⟩

end DocumentStream
