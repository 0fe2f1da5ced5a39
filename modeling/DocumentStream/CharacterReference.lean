import DocumentStream.CharacterReference.Names
import DocumentStream.Text.CodeRanges
import DocumentStream.Text

/-!
Character references of HTML: `&#163;`, `&#xA3;` and `&pound;`. Numbers that are no characters, and
those of the C1 controls, are replaced or dropped as the HTML standard says. All the names of the
standard are known: those inherited from Latin-1 with and without the semicolon, also as the
beginning of a longer word, the others with it. A reference with another name stays as it is.
-/

namespace DocumentStream.CharacterReference

/-- What the numbers of the C1 controls stand for, where it is not the control itself. -/
def controlReplacements : List (Nat × Nat) :=
  [(0x80, 0x20AC), (0x82, 0x201A), (0x83, 0x192), (0x84, 0x201E), (0x85, 0x2026), (0x86, 0x2020),
    (0x87, 0x2021), (0x88, 0x2C6), (0x89, 0x2030), (0x8A, 0x160), (0x8B, 0x2039), (0x8C, 0x152),
    (0x8E, 0x17D), (0x91, 0x2018), (0x92, 0x2019), (0x93, 0x201C), (0x94, 0x201D), (0x95, 0x2022),
    (0x96, 0x2013), (0x97, 0x2014), (0x98, 0x2DC), (0x99, 0x2122), (0x9A, 0x161), (0x9B, 0x203A),
    (0x9C, 0x153), (0x9E, 0x17E), (0x9F, 0x178)]

/-- The numbers that stand for nothing: control characters and noncharacters. -/
def emptyRanges : CodeRanges :=
  [(0x1, 0x8), (0xB, 0xB), (0xE, 0x1F), (0x7F, 0x9F), (0xFDD0, 0xFDEF), (0xFFFE, 0xFFFF),
    (0x1FFFE, 0x1FFFF), (0x2FFFE, 0x2FFFF), (0x3FFFE, 0x3FFFF), (0x4FFFE, 0x4FFFF),
    (0x5FFFE, 0x5FFFF), (0x6FFFE, 0x6FFFF), (0x7FFFE, 0x7FFFF), (0x8FFFE, 0x8FFFF),
    (0x9FFFE, 0x9FFFF), (0xAFFFE, 0xAFFFF), (0xBFFFE, 0xBFFFF), (0xCFFFE, 0xCFFFF),
    (0xDFFFE, 0xDFFFF), (0xEFFFE, 0xEFFFF), (0xFFFFE, 0xFFFFF), (0x10FFFE, 0x10FFFF)]

/-- The text of a numeric reference. Zero, surrogates and numbers beyond the last plane become the
replacement character. -/
def numericText (n : Nat) : Text :=
  match controlReplacements.lookup n with
  | some code => [Char.ofNat code]
  | none =>
    if n = 0 ∨ !n.isValidChar then ['\ufffd']
    else if n = 0xD ∨ n = 0x81 ∨ n = 0x8D ∨ n = 0x8F ∨ n = 0x90 ∨ n = 0x9D then [Char.ofNat n]
    else if emptyRanges.has (Char.ofNat n) then []
    else [Char.ofNat n]

/-- The text of a name that stands without a semicolon. -/
def openName? (name : Text) : Option Text :=
  (openNames.find? fun entry => entry.1.toList == name).map fun entry => [Char.ofNat entry.2]

/-- The text of a name that a semicolon follows. -/
def closedName? (name : Text) : Option Text :=
  match openName? name, name with
  | some text, _ => some text
  | none, [] => none
  | none, initial :: _ =>
    ((closedNames initial).find? fun entry => entry.1.toList == name).map fun entry =>
      entry.2.map Char.ofNat

/-- The longest known beginning, of at most `length` characters and at least two, with the rest of
the word after its text. -/
def longestBeginning? (word : Text) : (length : Nat) → Option Text
  | 0 | 1 => none
  | length + 1 =>
    match openName? (word.take (length + 1)) with
    | some text => some (text ++ word.drop (length + 1))
    | none => longestBeginning? word length

/-- The text of a named reference; `closed` tells whether a semicolon follows the name. -/
def namedText (name : Text) (closed : Bool) : Text :=
  let word := if closed then name ++ [';'] else name
  match if closed then closedName? name else openName? name with
  | some text => text
  | none => (longestBeginning? word (word.length - 1)).getD ('&' :: word)

def isNameChar (c : Char) : Bool := !(['\t', '\n', '\x0c', ' ', '<', '&', '#', ';'].contains c)

/-- The digits of a numeric reference at the front of a text, with their base and the number of
characters before them. -/
def numericDigits? : Text → Option (Nat × Text × Nat)
  | '#' :: mark :: rest =>
    if mark = 'x' ∨ mark = 'X' then
      match rest.takeWhile Text.isHexDigit with
      | [] => none
      | digits => some (16, digits, 2)
    else
      match (mark :: rest).takeWhile Char.isDigit with
      | [] => none
      | digits => some (10, digits, 1)
  | _ => none

/-- The reference that stands after an ampersand: how many characters it takes, and its text. -/
def reference? (text : Text) : Option (Nat × Text) :=
  match numericDigits? text with
  | some (base, digits, skipped) =>
    let taken := skipped + digits.length
    let semicolon := if (text.drop taken).head? = some ';' then 1 else 0
    some (taken + semicolon, numericText (Text.toNat base digits))
  | none =>
    match (text.take 32).takeWhile isNameChar with
    | [] => none
    | name =>
      let closed := (text.drop name.length).head? = some ';'
      some (name.length + if closed then 1 else 0, namedText name closed)

/-- Decodes a text after dropping the characters that a reference before it has taken. -/
def decodeAfter : (taken : Nat) → Text → Text
  | _, [] => []
  | taken + 1, _ :: rest => decodeAfter taken rest
  | 0, c :: rest =>
    if c = '&' then
      match reference? rest with
      | some (taken, text) => text ++ decodeAfter taken rest
      | none => c :: decodeAfter 0 rest
    else
      c :: decodeAfter 0 rest

/-- A text with its character references decoded. -/
def decode (text : Text) : Text := decodeAfter 0 text

end DocumentStream.CharacterReference
