import DocumentStream.Event

/-!
Events whose fields hold values of the kinds they are declared with: texts, truth values, heading
levels from 1 to 6, parameters that map texts to texts. The reader of stored streams checks only
some of this, and an event that a program builds itself is expected to keep to all of it.
-/

namespace DocumentStream

namespace Value

/-- Whether a value is a text. -/
def isText : Value → Bool
  | .str _ => true
  | _ => false

/-- Whether a value is a text or missing. -/
def isOptionalText : Value → Bool
  | .null | .str _ => true
  | _ => false

/-- Whether a value is a truth value. -/
def isFlag : Value → Bool
  | .bool _ => true
  | _ => false

/-- Whether a value is a heading level. A truth value counts as a number here too. -/
def isLevel (value : Value) : Bool :=
  match value.numeric? with
  | some (.int n) => 1 ≤ n && n ≤ 6
  | _ => false

theorem exists_text_of_isText {value : Value} (h : value.isText = true) :
    ∃ text, value = .str text := by
  cases value <;> simp_all [isText]

theorem eq_null_or_text_of_isOptionalText {value : Value} (h : value.isOptionalText = true) :
    value = .null ∨ ∃ text, value = .str text := by
  cases value <;> simp_all [isOptionalText]

theorem exists_level_of_isLevel {value : Value} (h : value.isLevel = true) :
    ∃ n, value.numeric? = some (.int n) := by
  unfold isLevel at h
  split at h
  · rename_i n hn
    exact ⟨n, hn⟩
  · simp at h

end Value

/-- Whether all keys and values are texts. -/
def Entries.areTexts (entries : Entries) : Bool :=
  entries.all fun entry => entry.1.toValue.isText && entry.2.isText

/-- Whether there are parameters that map texts to texts. -/
def Parameters.areTexts : Parameters → Bool
  | some entries => Entries.areTexts entries
  | none => false

/-- Whether the fields of a reference have their declared kinds. -/
def Reference.isWellTyped (reference : Reference) : Bool :=
  reference.target.isText && reference.typed.isFlag && reference.bases.all Value.isText &&
    Entries.areTexts reference.parameters

/-- Whether the fields of a construct have their declared kinds. -/
def Construct.isWellTyped : Construct → Bool
  | .document parameters | .paragraph parameters | .list _ parameters
  | .definitionList parameters | .quotation parameters | .table parameters | .row parameters
  | .format _ parameters => Parameters.areTexts parameters
  | .heading level id parameters =>
    level.isLevel && id.isOptionalText && Parameters.areTexts parameters
  | .listItem | .term | .description | .quotationLine => true
  | .cell isHeader parameters => isHeader.isFlag && Parameters.areTexts parameters
  | .link reference isFreeStanding parameters =>
    reference.isWellTyped && isFreeStanding.isFlag && Parameters.areTexts parameters

/-- Whether the fields of a leaf have their declared kinds. -/
def Leaf.isWellTyped : Leaf → Bool
  | .word text => text.isText
  | .space | .lineBreak => true
  | .symbol (.str [_]) => true
  | .symbol _ => false
  | .rawText text markup => text.isText && markup.isText
  | .image reference alt isFreeStanding parameters =>
    reference.isWellTyped && alt.isOptionalText && isFreeStanding.isFlag &&
      Parameters.areTexts parameters
  | .call id content isInline parameters =>
    id.isText && content.isOptionalText && isInline.isFlag && Parameters.areTexts parameters
  | .rule parameters => Parameters.areTexts parameters

/-- Whether the fields of an event have their declared kinds. A foreign event has no declared
kind. -/
def Event.isWellTyped : Event → Bool
  | .opening construct | .closing construct => construct.isWellTyped
  | .leaf l => l.isWellTyped
  | .foreign _ => false

theorem Leaf.exists_char_of_symbol {value : Value}
    (h : (Leaf.symbol value).isWellTyped = true) : ∃ c, value = .str [c] := by
  cases value with
  | str text =>
    rcases text with _ | ⟨c, _ | ⟨d, rest⟩⟩
    · exact absurd h Bool.false_ne_true
    · exact ⟨c, rfl⟩
    · exact absurd h Bool.false_ne_true
  | _ => exact absurd h Bool.false_ne_true

theorem Parameters.exists_entries_of_areTexts {parameters : Parameters}
    (h : Parameters.areTexts parameters = true) :
    ∃ entries, parameters = some entries ∧ Entries.areTexts entries = true := by
  cases parameters with
  | none => simp [Parameters.areTexts] at h
  | some entries => exact ⟨entries, rfl, h⟩

/-- The value of a key is a text where all are. -/
theorem Entries.get?_eq_text {entries : Entries} (h : Entries.areTexts entries = true)
    (name : Text) :
    Entries.get? name entries = none ∨ ∃ text, Entries.get? name entries = some (.str text) := by
  induction entries with
  | nil => exact Or.inl rfl
  | cons entry rest ih =>
    obtain ⟨key, value⟩ := entry
    have hall : (key.toValue.isText = true ∧ value.isText = true) ∧
        Entries.areTexts rest = true := by
      simpa only [Entries.areTexts, List.all_cons, Bool.and_eq_true] using h
    rw [Entries.get?]
    split
    · obtain ⟨text, rfl⟩ := Value.exists_text_of_isText hall.1.2
      exact Or.inr ⟨text, rfl⟩
    · exact ih hall.2

end DocumentStream
