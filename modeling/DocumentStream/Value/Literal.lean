import DocumentStream.Binary64.Shortest
import DocumentStream.Text.Quoted
import DocumentStream.Value

/-!
How messages show values. `Value.literal` is the written form, with texts as quoted literals;
`Value.display` differs from it only in leaving a text that stands alone as it is, and in the plain
form of a moment that does.
-/

namespace DocumentStream

/-- Floating-point numbers in literals are positional from `1e-4` up to `1e16`. -/
def literalFloat : FloatLayout where
  leastPositional := -4
  positionalEnd := 16
  infinity := ['i', 'n', 'f']
  notANumber := ['n', 'a', 'n']

def Key.literal : Key → Text
  | .null => "None".toList
  | .bool b => if b then "True".toList else "False".toList
  | .int n => Text.ofInt n
  | .float x => x.text literalFloat
  | .str text => Text.quoted text
  | .moment m => m.literal

namespace Value

mutual

def literal : Value → Text
  | .null => Key.null.literal
  | .bool b => (Key.bool b).literal
  | .int n => (Key.int n).literal
  | .float x => (Key.float x).literal
  | .str text => (Key.str text).literal
  | .moment m => m.literal
  | .list items => '[' :: Text.join [',', ' '] (literals items) ++ [']']
  | .map entries => '{' :: Text.join [',', ' '] (entryLiterals entries) ++ ['}']

/-- The written forms of the items of a list. -/
def literals : List Value → List Text
  | [] => []
  | item :: rest => literal item :: literals rest

/-- The written forms of the entries of a mapping. -/
def entryLiterals : List (Key × Value) → List Text
  | [] => []
  | (key, value) :: rest => (key.literal ++ ':' :: ' ' :: literal value) :: entryLiterals rest

end

/-- The text of a value: a text is itself, a moment has a plain form, any other value its written
form. -/
def display : Value → Text
  | .str text => text
  | .moment m => m.display
  | value => value.literal

end Value

def Key.display (key : Key) : Text := key.toValue.display

end DocumentStream
