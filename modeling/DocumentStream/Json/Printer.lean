import DocumentStream.Binary64.Shortest
import DocumentStream.Text.Quoted
import DocumentStream.Value

/-!
Writing values as JSON. Only the quote, the backslash and the control characters below the space
are escaped. Without an indent everything stands on one line with a space after each comma and
colon; with one, every item has a line of its own and empty lists and objects stay closed. There is
no JSON text of a value that holds a moment.
-/

namespace DocumentStream.Json

/-- Floating-point numbers in JSON are positional from `1e-4` up to `1e16`. -/
def floatLayout : FloatLayout where
  leastPositional := -4
  positionalEnd := 16
  infinity := "Infinity".toList
  notANumber := "NaN".toList

def stringChar (c : Char) : Text :=
  if c = '"' ∨ c = '\\' then ['\\', c]
  else if c = '\n' then ['\\', 'n']
  else if c = '\r' then ['\\', 'r']
  else if c = '\t' then ['\\', 't']
  else if c = '\x08' then ['\\', 'b']
  else if c = '\x0c' then ['\\', 'f']
  else if c.toNat < 0x20 then '\\' :: 'u' :: Text.hexadecimal 4 c.toNat
  else [c]

def string (text : Text) : Text := '"' :: text.flatMap stringChar ++ ['"']

/-- Whether a key can be the name of an object member. -/
def isMemberName : Key → Bool
  | .moment _ => false
  | .null | .bool _ | .int _ | .float _ | .str _ => true

mutual

/-- Whether a value holds no moment. -/
def isPrintable : Value → Bool
  | .moment _ => false
  | .list items => areItemsPrintable items
  | .map entries => areMembersPrintable entries
  | .null | .bool _ | .int _ | .float _ | .str _ => true

/-- Whether the items of a list hold no moment. -/
def areItemsPrintable : List Value → Bool
  | [] => true
  | item :: rest => isPrintable item && areItemsPrintable rest

/-- Whether the keys and values of a mapping hold no moment. -/
def areMembersPrintable : List (Key × Value) → Bool
  | [] => true
  | (key, value) :: rest =>
    isMemberName key && isPrintable value && areMembersPrintable rest

end

/-- A key as the name of an object member. A key that is no text becomes the JSON text of it. -/
def memberName : Key → Text
  | .null => string "null".toList
  | .bool b => string (if b then "true".toList else "false".toList)
  | .int n => string (Text.ofInt n)
  | .float x => string (x.text floatLayout)
  | .str text => string text
  | .moment _ => []

/-- The break between the items at a nesting level: nothing, or a new line with the indentation. -/
def lineBreak (indent : Option Int) (level : Nat) : Text :=
  match indent with
  | none => []
  | some width => '\n' :: Text.times (width * level) [' ']

/-- What separates two items at a nesting level. -/
def separator (indent : Option Int) (level : Nat) : Text :=
  match indent with
  | none => [',', ' ']
  | some _ => ',' :: lineBreak indent level

mutual

/-- The JSON text of a printable value that stands at a nesting level. -/
def print (indent : Option Int) (level : Nat) : Value → Text
  | .null => "null".toList
  | .bool b => if b then "true".toList else "false".toList
  | .int n => Text.ofInt n
  | .float x => x.text floatLayout
  | .str text => string text
  | .moment _ => []
  | .list [] => ['[', ']']
  | .list (item :: rest) =>
    '[' :: lineBreak indent (level + 1) ++ print indent (level + 1) item ++
      printItems indent (level + 1) rest ++ lineBreak indent level ++ [']']
  | .map [] => ['{', '}']
  | .map ((key, value) :: rest) =>
    '{' :: lineBreak indent (level + 1) ++ memberName key ++ ':' :: ' ' ::
      print indent (level + 1) value ++
      printMembers indent (level + 1) rest ++ lineBreak indent level ++ ['}']

/-- The items after the first one, each with the separator before it. -/
def printItems (indent : Option Int) (level : Nat) : List Value → Text
  | [] => []
  | item :: rest =>
    separator indent level ++ print indent level item ++ printItems indent level rest

/-- The members after the first one, each with the separator before it. -/
def printMembers (indent : Option Int) (level : Nat) : List (Key × Value) → Text
  | [] => []
  | (key, value) :: rest =>
    separator indent level ++ memberName key ++ ':' :: ' ' :: print indent level value ++
      printMembers indent level rest

end

def write (indent : Option Int) (value : Value) : Except FieldFault Text :=
  if isPrintable value then .ok (print indent 0 value) else .error .wrongKind

end DocumentStream.Json
