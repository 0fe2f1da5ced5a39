import DocumentStream.CharacterReference
import DocumentStream.Failure
import DocumentStream.Text.Alphanumeric
import DocumentStream.Text.Pattern

/-!
Abbreviations. Parsers pass `<abbr title="…">…</abbr>` through as raw text; one such element with a
title and nothing else can become a definition at the end of the document. One pattern takes the
element apart into its attributes and its text, and another one finds the attributes one by one.
-/

namespace DocumentStream

/-- An abbreviation and its expansion. -/
structure Abbreviation where
  key : Text
  title : Text
  deriving DecidableEq, Repr

/-- Why markup is no abbreviation. -/
inductive AbbreviationError where
  | notElement
  | attributeCount (count : Nat)
  | attributeName (name : Text)
  | noText
  deriving DecidableEq, Repr

def AbbreviationError.message : AbbreviationError → String
  | .notElement => "Not a single text-only <abbr> element"
  | .attributeCount count => s!"Expected exactly one attribute on <abbr>, found {count}"
  | .attributeName name => s!"Expected a 'title' attribute, found '{String.ofList name}'"
  | .noText => "Abbreviation has no text"

def AbbreviationError.failure (markup : Text) (error : AbbreviationError) : Failure :=
  .markup error.message.toList markup

namespace Abbreviation

/-- The parts of markup that are of interest. -/
inductive Part where
  | attributes
  | content
  | name
  | doubleQuoted
  | singleQuoted
  deriving DecidableEq, Repr

def isNameStart (c : Char) : Bool := c.isAlpha || c == '_' || c == ':'

/-- Whether a character may continue the name of an attribute. -/
def isNamePart (c : Char) : Bool := Text.isWordChar c || c == ':' || c == '.' || c == '-'

def blanks : Pattern Part := .many (.one Text.isBlank)

def attributeName : Pattern Part := .seq (.one isNameStart) (.many (.one isNamePart))

/-- What may stand between two quotes: neither the quote itself nor the beginning of a tag. -/
def unquoted (quote : Char) : Pattern Part := .many (.one fun c => c != quote && c != '<')

/-- An attribute of the given name, with one of the given values between its quotes. -/
def attributeWith (name double single : Pattern Part) : Pattern Part :=
  .sequence [name, blanks, .one (· == '='), blanks,
    .either (.sequence [.one (· == '"'), double, .one (· == '"')])
      (.sequence [.one (· == '\''), single, .one (· == '\'')])]

def openTag : Text := ['<', 'a', 'b', 'b', 'r']

def closeTag : Text := ['<', '/', 'a', 'b', 'b', 'r']

/-- One element with any number of attributes and without elements inside. -/
def elementPattern : Pattern Part :=
  .sequence [.literal openTag,
    .group .attributes (.many (.sequence [.one Text.isBlank, blanks,
      attributeWith attributeName (unquoted '"') (unquoted '\'')])),
    blanks, .one (· == '>'), .group .content (.many (.one (· != '<'))), .literal closeTag, blanks,
    .one (· == '>')]

/-- One attribute. -/
def attributePattern : Pattern Part :=
  attributeWith (.group .name attributeName) (.group .doubleQuoted (unquoted '"'))
    (.group .singleQuoted (unquoted '\''))

/-- The names and values of the attributes in a text. -/
def attributes (text : Text) : List (Text × Text) :=
  (attributePattern.findAll 0 text).map fun m =>
    ((m.group? .name).getD [], ((m.group? .doubleQuoted).or (m.group? .singleQuoted)).getD [])

/-- The attributes and the text of a markup that is one element without elements inside. -/
def element? (markup : Text) : Option (List (Text × Text) × Text) :=
  (elementPattern.whole? markup).map fun m =>
    (attributes ((m.group? .attributes).getD []), (m.group? .content).getD [])

/-- The abbreviation that a markup defines. White space around the element is ignored. -/
def ofMarkup (markup : Text) : Except AbbreviationError Abbreviation :=
  match element? (Text.trim markup) with
  | none => .error .notElement
  | some ([(name, value)], content) =>
    if name = ['t', 'i', 't', 'l', 'e'] then
      let key := CharacterReference.decode content
      if Text.isAllBlank key then .error .noText
      else .ok ⟨key, CharacterReference.decode value⟩
    else
      .error (.attributeName name)
  | some (attributes, _) => .error (.attributeCount attributes.length)

end Abbreviation

end DocumentStream
