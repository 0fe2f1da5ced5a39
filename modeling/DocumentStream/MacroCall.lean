import DocumentStream.Value.Literal

/-!
Calls of macros in the syntax of XWiki 2.x, which a wiki that imports the Markdown can still
execute. Parameter values stand in double quotes, and inside them a tilde escapes the quote and
itself.
-/

namespace DocumentStream

/-- A call of a macro. Without content the call closes itself. -/
structure MacroCall where
  id : Text
  parameters : List (Text × Text)
  content : Option Text
  deriving DecidableEq, Repr

namespace MacroCall

def quotedValue (value : Text) : Text :=
  '"' :: (value.flatMap fun c => if c = '~' ∨ c = '"' then ['~', c] else [c]) ++ ['"']

/-- A parameter with the blank before it. -/
def parameterText (parameter : Text × Text) : Text :=
  ' ' :: parameter.1 ++ '=' :: quotedValue parameter.2

def text (call : MacroCall) : Text :=
  let head := call.id ++ call.parameters.flatMap parameterText
  match call.content with
  | none => ['\x7b', '\x7b'] ++ head ++ ['/', '\x7d', '\x7d']
  | some content =>
    ['\x7b', '\x7b'] ++ head ++ ['\x7d', '\x7d'] ++ content ++ ['\x7b', '\x7b', '/'] ++ call.id ++
      ['\x7d', '\x7d']

/-- Parameters whose values are all texts. -/
def textParameters : Entries → Except FieldFault (List (Text × Text))
  | [] => .ok []
  | (key, .str value) :: rest => return (key.display, value) :: (← textParameters rest)
  | _ :: _ => .error .missingMember

/-- The call made of field values. The parameters are looked at first. -/
def ofFields (id : Value) (parameters : Entries) (content : Value) :
    Except FieldFault MacroCall := do
  let parameters ← textParameters parameters
  match id, content with
  | .str id, .null => return ⟨id, parameters, none⟩
  | .str id, .str content => return ⟨id, parameters, some content⟩
  | _, _ => throw .wrongKind

end MacroCall

end DocumentStream
