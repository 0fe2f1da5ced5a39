import DocumentStream.Event
import DocumentStream.Value.Literal

/-!
Events as records, the form in which they are stored: a mapping with the event's name under
`event` and one entry for each field. A record has to name a known event, give its required fields
and no unknown ones; a few fields are checked and converted, the others are kept as they are.
-/

namespace DocumentStream

/-- Why a value is no mapping: it has no elements, an element is no sequence, an element is not a
pair, or the first part of a pair is no key. -/
inductive MappingFault where
  | notIterable (kind : String)
  | notSequence (index : Nat)
  | notPair (index length : Nat)
  | notKey (kind : String)
  deriving DecidableEq, Repr

namespace MappingFault

def message : MappingFault → String
  | .notIterable kind => s!"'{kind}' object is not iterable"
  | .notSequence index =>
    s!"cannot convert dictionary update sequence element #{index} to a sequence"
  | .notPair index length =>
    s!"dictionary update sequence element #{index} has length {length}; 2 is required"
  | .notKey kind => s!"unhashable type: '{kind}'"

end MappingFault

namespace Entries

/-- Sets the pairs of a list one after another, counting them from `index` on. -/
def addPairs (entries : Entries) (index : Nat) : List Value → Except MappingFault Entries
  | [] => .ok entries
  | item :: rest =>
    match item.elements? with
    | none => .error (.notSequence index)
    | some [first, second] =>
      match first.key? with
      | some key => addPairs (entries.insert key second) (index + 1) rest
      | none => .error (.notKey first.kindName)
    | some elements => .error (.notPair index elements.length)

/-- A value as a mapping: a mapping is one, and so is a sequence of pairs. -/
def ofValue : Value → Except MappingFault Entries
  | .map entries => .ok entries
  | value =>
    match value.elements? with
    | some items => addPairs [] 0 items
    | none => .error (.notIterable value.kindName)

end Entries

/-- Why a record in the place of a reference cannot be converted. -/
inductive ReferenceFault where
  | bases (kind : String)
  | type (value : Value)
  | parameters (fault : MappingFault)
  deriving Repr

/-- Why the fields of a record do not make an event of the named kind. -/
inductive FieldError where
  | unexpected (field : Text)
  | receiver
  | missing (field : Text)
  | parameters (fault : MappingFault)
  | levelKind (kind : String)
  | levelRange (level : Value)
  | listKind (value : Value)
  | format (value : Value)
  | symbolKind (kind : String)
  | symbolLength (symbol : Value)
  deriving Repr

namespace FieldError

/-- How the reader of an event of the given name is referred to. -/
def readerName (name : Text) : String := String.ofList name ++ ".__init__()"

def message (name : Text) : FieldError → String
  | .unexpected field =>
    readerName name ++ s!" got an unexpected keyword argument '{String.ofList field}'"
  | .receiver => readerName name ++ " got multiple values for argument 'self'"
  | .missing field =>
    readerName name ++ s!" missing 1 required positional argument: '{String.ofList field}'"
  | .parameters fault => fault.message
  | .levelKind kind => s!"'<=' not supported between instances of 'int' and '{kind}'"
  | .levelRange level => "Heading level must be 1-6, got " ++ String.ofList level.display
  | .listKind value => String.ofList value.literal ++ " is not a valid ListType"
  | .format value => String.ofList value.literal ++ " is not a valid Format"
  | .symbolKind kind => s!"object of type '{kind}' has no len()"
  | .symbolLength symbol =>
    "Special symbol must be a single character, got " ++ String.ofList symbol.literal

end FieldError

/-- Why a value is not the record of an event. -/
inductive RecordError where
  | notRecord (kind : String)
  | unknownEvent (name : Value)
  | invalidReference (value : Value)
  | invalidFields (name : Text) (error : FieldError)
  | reference (fault : ReferenceFault)
  deriving Repr

namespace Reference

def toValue (reference : Reference) : Value :=
  .map
    [(.str "reference".toList, reference.target),
      (.str "type".toList, .str reference.type.label),
      (.str "typed".toList, reference.typed),
      (.str "base_references".toList, .list reference.bases),
      (.str "parameters".toList, .map reference.parameters)]

def ofEntries (target : Value) (entries : Entries) : Except ReferenceFault Reference := do
  let bases := (entries.get? "base_references".toList).getD (.list [])
  let some bases' := bases.elements? | throw (.bases bases.kindName)
  let type := (entries.get? "type".toList).getD (.str ResourceType.url.label)
  let some type' := type.text?.bind ResourceType.ofLabel? | throw (.type type)
  let parameters := (entries.get? "parameters".toList).getD (.map [])
  let parameters' ← (Entries.ofValue parameters).mapError .parameters
  return {
    target
    type := type'
    typed := (entries.get? "typed".toList).getD (.bool true)
    bases := bases'
    parameters := parameters' }

/-- The reference that a value stands for: a text is the target itself, a record needs a target. -/
def ofValue : Value → Except RecordError Reference
  | .str target => .ok { target := .str target }
  | .map entries =>
    match Entries.get? "reference".toList entries with
    | some target => (ofEntries target entries).mapError .reference
    | none => .error (.invalidReference (.map entries))
  | value => .error (.invalidReference value)

end Reference

def Parameters.toValue : Parameters → Value
  | none => .null
  | some entries => .map entries

/-- The entry of the parameters, which is the last field of every event that has any. -/
def Parameters.field (parameters : Parameters) : Text × Value :=
  ("parameters".toList, parameters.toValue)

def Construct.fields : Construct → List (Text × Value)
  | .document parameters | .paragraph parameters | .definitionList parameters
  | .quotation parameters | .table parameters | .row parameters => [parameters.field]
  | .heading level id parameters =>
    [("level".toList, level), ("id".toList, id), parameters.field]
  | .list kind parameters => [("kind".toList, .str kind.label), parameters.field]
  | .listItem | .term | .description | .quotationLine => []
  | .cell isHeader parameters => [("is_header".toList, isHeader), parameters.field]
  | .format style parameters => [("format".toList, .str style.label), parameters.field]
  | .link reference isFreeStanding parameters =>
    [("reference".toList, reference.toValue), ("is_free_standing".toList, isFreeStanding),
      parameters.field]

def Leaf.fields : Leaf → List (Text × Value)
  | .word text => [("text".toList, text)]
  | .space | .lineBreak => []
  | .symbol value => [("symbol".toList, value)]
  | .rawText text markup => [("text".toList, text), ("syntax".toList, markup)]
  | .image reference alt isFreeStanding parameters =>
    [("reference".toList, reference.toValue), ("alt_text".toList, alt),
      ("is_free_standing".toList, isFreeStanding), parameters.field]
  | .call id content isInline parameters =>
    [("id".toList, id), ("content".toList, content), ("is_inline".toList, isInline),
      parameters.field]
  | .rule parameters => [parameters.field]

def Event.fields : Event → List (Text × Value)
  | .opening construct | .closing construct => construct.fields
  | .leaf l => l.fields
  | .foreign _ => []

def Event.toValue (event : Event) : Value :=
  .map ((.str "event".toList, .str event.name) ::
    event.fields.map fun field => (.str field.1, field.2))

/-- The fields given in a record, with the reference among them already converted. -/
structure FieldValues where
  entries : Entries
  reference : Option Reference

namespace FieldValues

def get (fields : FieldValues) (name : String) (default : Value) : Value :=
  (fields.entries.get? name.toList).getD default

def required (fields : FieldValues) (name : String) : Except FieldError Value :=
  match fields.entries.get? name.toList with
  | some value => .ok value
  | none => .error (.missing name.toList)

def requiredReference (fields : FieldValues) : Except FieldError Reference :=
  match fields.reference with
  | some reference => .ok reference
  | none => .error (.missing "reference".toList)

/-- The parameters: a mapping, a sequence of pairs or explicitly nothing. -/
def parameters (fields : FieldValues) : Except FieldError Parameters :=
  match fields.get "parameters" (.map []) with
  | .null => .ok none
  | value => (Entries.ofValue value).mapError .parameters |>.map some

end FieldValues

/-- A heading level is a number from one to six. -/
def checkLevel (level : Value) : Except FieldError Value :=
  match level.numeric? with
  | none => .error (.levelKind level.kindName)
  | some n => if n.isBetween 1 6 then .ok level else .error (.levelRange level)

/-- A list style is given by its name. -/
def checkListKind (value : Value) : Except FieldError ListKind :=
  match value.text?.bind ListKind.ofLabel? with
  | some kind => .ok kind
  | none => .error (.listKind value)

def checkFormat (value : Value) : Except FieldError Format :=
  match value.text?.bind Format.ofLabel? with
  | some format => .ok format
  | none => .error (.format value)

/-- A symbol has exactly one element. -/
def checkSymbol (symbol : Value) : Except FieldError Value :=
  match symbol.elements? with
  | none => .error (.symbolKind symbol.kindName)
  | some [_] => .ok symbol
  | some _ => .error (.symbolLength symbol)

/-- How the records of one kind of event are read: the fields it knows, and how they make the
event. The required fields are looked at before anything else, the parameters next. -/
structure Shape (α : Type) where
  name : Text
  fields : List String
  build : FieldValues → Except FieldError α

namespace Shape

/-- The shape of a kind of event whose only field are its parameters. -/
def ofParameters {α : Type} (name : String) (make : Parameters → α) : Shape α where
  name := name.toList
  fields := ["parameters"]
  build fields := return make (← fields.parameters)

/-- The shape of a kind of event without fields. -/
def ofNothing {α : Type} (name : String) (event : α) : Shape α where
  name := name.toList
  fields := []
  build _ := .ok event

end Shape

def Construct.shapes : List (Shape Construct) :=
  [.ofParameters "Document" .document, .ofParameters "Paragraph" .paragraph,
    { name := "Header".toList
      fields := ["level", "id", "parameters"]
      build fields := do
        let level ← fields.required "level"
        let parameters ← fields.parameters
        return .heading (← checkLevel level) (fields.get "id" .null) parameters },
    { name := "List".toList
      fields := ["kind", "parameters"]
      build fields := do
        let parameters ← fields.parameters
        let kind ← checkListKind (fields.get "kind" (.str ListKind.bulleted.label))
        return .list kind parameters },
    .ofNothing "ListItem" .listItem, .ofParameters "DefinitionList" .definitionList,
    .ofNothing "DefinitionTerm" .term, .ofNothing "DefinitionDescription" .description,
    .ofParameters "Quotation" .quotation, .ofNothing "QuotationLine" .quotationLine,
    .ofParameters "Table" .table, .ofParameters "TableRow" .row,
    { name := "TableCell".toList
      fields := ["is_header", "parameters"]
      build fields := return .cell (fields.get "is_header" (.bool false)) (← fields.parameters) },
    { name := "Format".toList
      fields := ["format", "parameters"]
      build fields := do
        let parameters ← fields.parameters
        let format ← checkFormat (fields.get "format" (.str Format.plain.label))
        return .format format parameters },
    { name := "Link".toList
      fields := ["reference", "is_free_standing", "parameters"]
      build fields := do
        let reference ← fields.requiredReference
        return .link reference (fields.get "is_free_standing" (.bool false))
          (← fields.parameters) }]

def Leaf.shapes : List (Shape Leaf) :=
  [{ name := "Word".toList
     fields := ["text"]
     build fields := return .word (← fields.required "text") },
    .ofNothing "Space" .space, .ofNothing "NewLine" .lineBreak,
    { name := "SpecialSymbol".toList
      fields := ["symbol"]
      build fields := return .symbol (← checkSymbol (← fields.required "symbol")) },
    { name := "RawText".toList
      fields := ["text", "syntax"]
      build fields := do
        let text ← fields.required "text"
        return .rawText text (fields.get "syntax" (.str "html/4.01".toList)) },
    { name := "Image".toList
      fields := ["reference", "alt_text", "is_free_standing", "parameters"]
      build fields := do
        let reference ← fields.requiredReference
        return .image reference (fields.get "alt_text" .null)
          (fields.get "is_free_standing" (.bool false)) (← fields.parameters) },
    { name := "Macro".toList
      fields := ["id", "content", "is_inline", "parameters"]
      build fields := do
        let id ← fields.required "id"
        return .call id (fields.get "content" .null) (fields.get "is_inline" (.bool false))
          (← fields.parameters) },
    .ofParameters "HorizontalLine" .rule]

/-- The same shape for something made of what the shape makes. -/
def Shape.map {α β : Type} (start : String) (f : α → β) (shape : Shape α) : Shape β where
  name := start.toList ++ shape.name
  fields := shape.fields
  build fields := (shape.build fields).map f

def Event.shapes : List (Shape Event) :=
  Construct.shapes.map (Shape.map "Begin" .opening) ++
    Construct.shapes.map (Shape.map "End" .closing) ++
    Leaf.shapes.map (Shape.map "On" .leaf)

def Event.shape? (name : Text) : Option (Shape Event) :=
  Event.shapes.find? fun shape => shape.name == name

/-- Refuses the first field, in the order given, that a shape does not know. The word for the
event itself is never the name of a field. -/
def Shape.checkNames {α : Type} (shape : Shape α) : Entries → Except FieldError Unit
  | [] => .ok ()
  | (key, _) :: rest =>
    if key = .str "self".toList then .error .receiver
    else if shape.fields.any fun field => key = .str field.toList then shape.checkNames rest
    else .error (.unexpected key.display)

def Event.ofValue : Value → Except RecordError Event
  | .map entries => do
    let name := (Entries.get? "event".toList entries).getD .null
    let .str label := name | throw (.unknownEvent name)
    let some shape := Event.shape? label | throw (.unknownEvent name)
    let given := entries.filter fun entry => entry.1 ≠ .str "event".toList
    let reference ← (Entries.get? "reference".toList given).mapM Reference.ofValue
    (do shape.checkNames given; shape.build ⟨given, reference⟩).mapError (.invalidFields label)
  | value => .error (.notRecord value.kindName)

end DocumentStream
