import DocumentStream.Reference
import DocumentStream.Value.Literal

/-!
The markup of links and images around a reference. How a reference becomes the text between the
parentheses is left to a serializer, so that hosts with names of their own for pages and
attachments can supply one.
-/

namespace DocumentStream

/-- Turns a reference into the value that stands for it in markup. -/
abbrev Serializer := Reference → Except FieldFault Value

namespace Serializer

/-- The start of an electronic mail address. -/
def mailPrefix : Text := ['m', 'a', 'i', 'l', 't', 'o', ':']

/-- The target as it was written, with the scheme of mail addresses restored. Parameters are
dropped, since Markdown has no place for them. -/
def plain : Serializer := fun reference =>
  if reference.type = .mailto then
    match reference.target with
    | .str target =>
      .ok (.str (if mailPrefix.isPrefixOf target then target else mailPrefix ++ target))
    | _ => .error .missingMember
  else
    .ok reference.target

/-- The target below a fixed base, in a directory named for its type. -/
def below (base : Text) : Serializer := fun reference =>
  match reference.target with
  | .str target => .ok (.str (base ++ reference.type.label ++ '/' :: target))
  | _ => .error .wrongKind

end Serializer

namespace Reference

/-- A link: its label in brackets and the target in parentheses, or the target alone in double
brackets when the label is empty. -/
def link (serialize : Serializer) (reference : Reference) (label : Text) :
    Except FieldFault Text := do
  let target := (← serialize reference).display
  if label.isEmpty then
    return ['[', '['] ++ target ++ [']', ']']
  else
    return '[' :: label ++ ']' :: '(' :: target ++ [')']

/-- An image. A missing or blank alternative text is replaced by the target. -/
def image (serialize : Serializer) (reference : Reference) (alt : Value) :
    Except FieldFault Text := do
  let target := (← serialize reference).display
  let shown ← match alt with
    | .null => pure target
    | .str text => pure (if text.isAllBlank then target else text)
    | _ => throw .missingMember
  return '!' :: '[' :: shown ++ ']' :: '(' :: target ++ [')']

end Reference

end DocumentStream
