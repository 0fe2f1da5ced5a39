import DocumentStream.Reference

/-!
The events that describe a document. A construct is announced by an opening event, closed by the
closing event of the same construct, and holds the events between them; leaves carry content. What
is checked when an event is built has a type of its own here, and the other fields hold whatever
value they were given.
-/

namespace DocumentStream

inductive Format where
  | bold
  | italic
  | strikeout
  | underline
  | superscript
  | subscript
  | monospace
  | plain
  deriving DecidableEq, Repr

namespace Format

def all : List Format :=
  [.bold, .italic, .strikeout, .underline, .superscript, .subscript, .monospace, .plain]

/-- The name of a kind of formatting in stored streams. -/
def label : Format → Text
  | .bold => ['b', 'o', 'l', 'd']
  | .italic => ['i', 't', 'a', 'l', 'i', 'c']
  | .strikeout => ['s', 't', 'r', 'i', 'k', 'e', 'o', 'u', 't']
  | .underline => ['u', 'n', 'd', 'e', 'r', 'l', 'i', 'n', 'e']
  | .superscript => ['s', 'u', 'p', 'e', 'r', 's', 'c', 'r', 'i', 'p', 't']
  | .subscript => ['s', 'u', 'b', 's', 'c', 'r', 'i', 'p', 't']
  | .monospace => ['m', 'o', 'n', 'o', 's', 'p', 'a', 'c', 'e']
  | .plain => ['n', 'o', 'n', 'e']

def ofLabel? (label : Text) : Option Format := all.find? fun format => format.label == label

end Format

/-- The marker style of a list. -/
inductive ListKind where
  | bulleted
  | numbered
  deriving DecidableEq, Repr

namespace ListKind

/-- The name of a list style in stored streams. -/
def label : ListKind → Text
  | .bulleted => ['b', 'u', 'l', 'l', 'e', 't', 'e', 'd']
  | .numbered => ['n', 'u', 'm', 'b', 'e', 'r', 'e', 'd']

def ofLabel? (label : Text) : Option ListKind :=
  [bulleted, numbered].find? fun kind => kind.label == label

end ListKind

/-- Free-form parameters of an event; there may be none at all. -/
abbrev Parameters := Option Entries

/-- What opens and closes. Both events of a construct carry the same fields. -/
inductive Construct where
  | document (parameters : Parameters)
  | paragraph (parameters : Parameters)
  | heading (level id : Value) (parameters : Parameters)
  | list (kind : ListKind) (parameters : Parameters)
  | listItem
  | definitionList (parameters : Parameters)
  | term
  | description
  | quotation (parameters : Parameters)
  | quotationLine
  | table (parameters : Parameters)
  | row (parameters : Parameters)
  | cell (isHeader : Value) (parameters : Parameters)
  | format (format : Format) (parameters : Parameters)
  | link (reference : Reference) (isFreeStanding : Value) (parameters : Parameters)
  deriving Repr

/-- What stands for itself: words and spaces, images, calls of macros, raw text, rules. -/
inductive Leaf where
  | word (text : Value)
  | space
  | lineBreak
  | symbol (symbol : Value)
  | rawText (text markup : Value)
  | image (reference : Reference) (alt isFreeStanding : Value) (parameters : Parameters)
  | call (id content isInline : Value) (parameters : Parameters)
  | rule (parameters : Parameters)
  deriving Repr

/-- An event of a document. A foreign event is one of a kind that nothing is known of but its
name. -/
inductive Event where
  | opening (construct : Construct)
  | closing (construct : Construct)
  | leaf (leaf : Leaf)
  | foreign (name : Text)
  deriving Repr

/-- The name that the two events of a construct share. -/
def Construct.name : Construct → Text
  | .document _ => "Document".toList
  | .paragraph _ => "Paragraph".toList
  | .heading .. => "Header".toList
  | .list .. => "List".toList
  | .listItem => "ListItem".toList
  | .definitionList _ => "DefinitionList".toList
  | .term => "DefinitionTerm".toList
  | .description => "DefinitionDescription".toList
  | .quotation _ => "Quotation".toList
  | .quotationLine => "QuotationLine".toList
  | .table _ => "Table".toList
  | .row _ => "TableRow".toList
  | .cell .. => "TableCell".toList
  | .format .. => "Format".toList
  | .link .. => "Link".toList

def Leaf.name : Leaf → Text
  | .word _ => "Word".toList
  | .space => "Space".toList
  | .lineBreak => "NewLine".toList
  | .symbol _ => "SpecialSymbol".toList
  | .rawText .. => "RawText".toList
  | .image .. => "Image".toList
  | .call .. => "Macro".toList
  | .rule _ => "HorizontalLine".toList

/-- The name of an event in stored streams and messages. -/
def Event.name : Event → Text
  | .opening construct => "Begin".toList ++ construct.name
  | .closing construct => "End".toList ++ construct.name
  | .leaf l => "On".toList ++ l.name
  | .foreign name => name

end DocumentStream
