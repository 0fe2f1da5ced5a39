import DocumentStream.Text.Quoted
import DocumentStream.Value

/-!
Reading JSON. A reader takes the text that is left and answers a value together with the text
after it; an error names what was wrong and the text from the place where it was noticed, from
which its line, column and offset follow. `NaN`, `Infinity` and `-Infinity` are numbers here.

An escaped surrogate without its other half is no character and yet may stand in a string. The
readers are told which character stands for such surrogates.
-/

namespace DocumentStream.Json

/-- What was wrong with a JSON text. -/
inductive Complaint where
  | value
  | propertyName
  | colon
  | comma
  | extraData
  | unterminatedString
  | controlCharacter
  | badEscape
  | badUnicodeEscape
  | byteOrderMark
  deriving DecidableEq, Repr

def Complaint.message : Complaint → String
  | .value => "Expecting value"
  | .propertyName => "Expecting property name enclosed in double quotes"
  | .colon => "Expecting ':' delimiter"
  | .comma => "Expecting ',' delimiter"
  | .extraData => "Extra data"
  | .unterminatedString => "Unterminated string starting at"
  | .controlCharacter => "Invalid control character at"
  | .badEscape => "Invalid \\escape"
  | .badUnicodeEscape => "Invalid \\uXXXX escape"
  | .byteOrderMark => "Unexpected UTF-8 BOM (decode using utf-8-sig)"

/-- A complaint and the text from the place it is about. -/
structure Stop where
  complaint : Complaint
  rest : Text
  deriving DecidableEq, Repr

def isSpace (c : Char) : Bool := c == ' ' || c == '\t' || c == '\n' || c == '\r'

def skipSpace (text : Text) : Text := text.dropWhile isSpace

/-- The first four characters as a hexadecimal number, and the text after them. -/
def hexFour? : Text → Option (Nat × Text)
  | a :: b :: c :: d :: rest =>
    if [a, b, c, d].all Text.isHexDigit then some (Text.toNat 16 [a, b, c, d], rest) else none
  | _ => none

def simpleEscape? : Char → Option Char
  | '"' => some '"'
  | '\\' => some '\\'
  | '/' => some '/'
  | 'b' => some '\x08'
  | 'f' => some '\x0c'
  | 'n' => some '\n'
  | 'r' => some '\r'
  | 't' => some '\t'
  | _ => none

/-- Whether a code unit opens a surrogate pair. -/
def isHighSurrogate (n : Nat) : Bool := 0xD800 ≤ n && n ≤ 0xDBFF

/-- Whether a code unit closes a surrogate pair. -/
def isLowSurrogate (n : Nat) : Bool := 0xDC00 ≤ n && n ≤ 0xDFFF

/-- The character of a code unit, or the one that stands for half of a pair. -/
def unitChar (n : Nat) (standIn : Char := '\ufffd') : Char :=
  if n.isValidChar then Char.ofNat n else standIn

/-- Reads the characters of a Unicode escape after the letter u, `start` being the text from that
letter on. Two escapes that form a surrogate pair are one character. At least one character has to
follow each escape. -/
def readUnicode (start afterLetter : Text) (standIn : Char := '\ufffd') :
    Except Stop (Char × Text) :=
  match hexFour? afterLetter with
  | none => .error ⟨.badUnicodeEscape, start⟩
  | some (_, []) => .error ⟨.badUnicodeEscape, start⟩
  | some (high, rest) =>
    match rest with
    | '\\' :: 'u' :: more =>
      if isHighSurrogate high && !(more.drop 4).isEmpty then
        match hexFour? more with
        | none => .error ⟨.badUnicodeEscape, 'u' :: more⟩
        | some (low, after) =>
          if isLowSurrogate low then
            .ok (Char.ofNat (0x10000 + (high - 0xD800) * 0x400 + (low - 0xDC00)), after)
          else
            .ok (unitChar high standIn, rest)
      else
        .ok (unitChar high standIn, rest)
    | _ => .ok (unitChar high standIn, rest)

/-- Reads a string after its opening quote, `start` being the text from that quote on. -/
def readString (start : Text) (fuel : Nat) (text : Text) (standIn : Char := '\ufffd') :
    Except Stop (Text × Text) :=
  match fuel, text with
  | 0, _ => .error ⟨.unterminatedString, start⟩
  | _ + 1, [] => .error ⟨.unterminatedString, start⟩
  | fuel + 1, c :: rest =>
    if c = '"' then
      .ok ([], rest)
    else if c = '\\' then
      match rest with
      | [] => .error ⟨.unterminatedString, start⟩
      | 'u' :: more => do
        let (char, after) ← readUnicode rest more standIn
        let (chars, after) ← readString start fuel after standIn
        return (char :: chars, after)
      | e :: after =>
        match simpleEscape? e with
        | none => .error ⟨.badEscape, c :: rest⟩
        | some char => do
          let (chars, after) ← readString start fuel after standIn
          return (char :: chars, after)
    else if c.toNat < 0x20 then
      .error ⟨.controlCharacter, c :: rest⟩
    else do
      let (chars, after) ← readString start fuel rest standIn
      return (c :: chars, after)

def spanDigits (text : Text) : Text × Text := text.span Char.isDigit

/-- The fraction of a number, if the text begins with one: its digits and the text after it. -/
def fraction? : Text → Option (Text × Text)
  | '.' :: rest =>
    match spanDigits rest with
    | ([], _) => none
    | (digits, after) => some (digits, after)
  | _ => none

/-- The exponent of a number, if the text begins with one, and the text after it. -/
def exponent? : Text → Option (Int × Text)
  | mark :: rest =>
    if mark = 'e' ∨ mark = 'E' then
      let (negative, unsigned) := match rest with
        | '-' :: more => (true, more)
        | '+' :: more => (false, more)
        | _ => (false, rest)
      match spanDigits unsigned with
      | ([], _) => none
      | (digits, after) =>
        let n : Int := Text.toNat 10 digits
        some (if negative then -n else n, after)
    else
      none
  | [] => none

/-- Reads the longest number at the front, without its minus sign. -/
def number? (negative : Bool) (text : Text) : Option (Value × Text) := do
  let (whole, rest) ← match text with
    | '0' :: rest => some (['0'], rest)
    | _ =>
      match spanDigits text with
      | ([], _) => none
      | (digits, rest) => some (digits, rest)
  match fraction? rest, exponent? ((fraction? rest).elim rest (·.2)) with
  | none, none =>
    let n : Int := Text.toNat 10 whole
    some (.int (if negative then -n else n), rest)
  | fraction, exponent =>
    let places := fraction.elim [] (·.1)
    let after := exponent.elim (fraction.elim rest (·.2)) (·.2)
    let power := exponent.elim 0 (·.1) - places.length
    some (.float (Binary64.ofDecimal negative (Text.toNat 10 (whole ++ places)) power), after)

def words : List (Text × Value) :=
  [("null".toList, .null), ("true".toList, .bool true), ("false".toList, .bool false),
    ("NaN".toList, .float .notANumber), ("Infinity".toList, .float (.infinite false)),
    ("-Infinity".toList, .float (.infinite true))]

/-- Reads a value that is neither a string nor a list nor an object. -/
def readAtom (text : Text) : Except Stop (Value × Text) :=
  match words.findSome? fun (word, value) => (Text.after? word text).map (value, ·) with
  | some result => .ok result
  | none =>
    let number := match text with
      | '-' :: rest => number? true rest
      | _ => number? false text
    match number with
    | some result => .ok result
    | none => .error ⟨.value, text⟩

mutual

def readValue (fuel : Nat) (text : Text) (standIn : Char := '\ufffd') :
    Except Stop (Value × Text) :=
  match fuel, text with
  | 0, text => .error ⟨.value, text⟩
  | fuel + 1, text =>
    match text with
    | '"' :: rest => do
      let (chars, after) ← readString text fuel rest standIn
      return (.str chars, after)
    | '[' :: rest =>
      match skipSpace rest with
      | ']' :: after => .ok (.list [], after)
      | more => do
        let (items, after) ← readItems fuel more standIn
        return (.list items, after)
    | '{' :: rest =>
      match skipSpace rest with
      | '}' :: after => .ok (.map [], after)
      | more => do
        let (entries, after) ← readMembers fuel [] more standIn
        return (.map entries, after)
    | _ => readAtom text

/-- Reads the items of a list from the first one to the closing bracket. -/
def readItems (fuel : Nat) (text : Text) (standIn : Char := '\ufffd') :
    Except Stop (List Value × Text) :=
  match fuel, text with
  | 0, text => .error ⟨.value, text⟩
  | fuel + 1, text => do
    let (item, after) ← readValue fuel text standIn
    match skipSpace after with
    | ']' :: rest => return ([item], rest)
    | ',' :: rest =>
      let (items, after) ← readItems fuel (skipSpace rest) standIn
      return (item :: items, after)
    | rest => throw ⟨.comma, rest⟩

/-- Reads the members of an object from the first one to the closing brace and sets them in the
mapping read so far. -/
def readMembers (fuel : Nat) (entries : Entries) (text : Text) (standIn : Char := '\ufffd') :
    Except Stop (Entries × Text) :=
  match fuel, entries, text with
  | 0, _, text => .error ⟨.value, text⟩
  | fuel + 1, entries, text =>
    match text with
    | '"' :: rest => do
      let (name, after) ← readString text fuel rest standIn
      match skipSpace after with
      | ':' :: rest =>
        let (value, after) ← readValue fuel (skipSpace rest) standIn
        let entries := entries.insert (.str name) value
        match skipSpace after with
        | '}' :: rest => return (entries, rest)
        | ',' :: rest => readMembers fuel entries (skipSpace rest) standIn
        | rest => throw ⟨.comma, rest⟩
      | rest => throw ⟨.colon, rest⟩
    | _ => .error ⟨.propertyName, text⟩

end

/-- A failure to read a whole text: the complaint and the offset of its place. -/
structure SyntaxError where
  complaint : Complaint
  text : Text
  offset : Nat
  deriving DecidableEq, Repr

/-- The complaint with its line, column and offset. Lines end at line feeds. -/
def SyntaxError.message (e : SyntaxError) : String :=
  let before := e.text.take e.offset
  let line := before.count '\n' + 1
  let column := (before.reverse.takeWhile (· != '\n')).length + 1
  s!"{e.complaint.message}: line {line} column {column} (char {e.offset})"

/-- Reads a text that has to be one value with nothing but white space around it. -/
def read (text : Text) (standIn : Char := '\ufffd') : Except SyntaxError Value :=
  let fail (stop : Stop) := SyntaxError.mk stop.complaint text (text.length - stop.rest.length)
  match text with
  | '\ufeff' :: _ => .error (fail ⟨.byteOrderMark, text⟩)
  | _ =>
    match readValue (2 * text.length + 2) (skipSpace text) standIn with
    | .error stop => .error (fail stop)
    | .ok (value, after) =>
      match skipSpace after with
      | [] => .ok value
      | rest => .error (fail ⟨.extraData, rest⟩)

end DocumentStream.Json
