import DocumentStream.Output

/-!
Showing Markdown on a terminal: as the text that it is, or formatted. Formatting is the work of a
package that does not belong to this library, and without it a preview is a failure.
-/

namespace DocumentStream.Display

/-- Markdown as it is shown: the last line is always ended. -/
def plain (markdown : Text) : Text :=
  if markdown.isEmpty || Text.endsLine markdown then markdown else markdown ++ ['\n']

/-- The failure to format Markdown without the package for it. -/
def noFormatter : Failure :=
  .dependency "Markdown preview".toList [{ name := "rich".toList }]
    "pip install events2md[rich]".toList none

/-- Markdown as it is shown, formatted for a preview. -/
def renderWith (formatter : Option (Markdown → Markdown)) (preview : Bool) (markdown : Markdown) :
    Except Failure Markdown :=
  match preview, formatter with
  | false, _ => .ok { markdown with text := plain markdown.text }
  | true, some format => .ok (format markdown)
  | true, none => .error noFormatter

/-- Markdown as it is shown where the package is missing. -/
def render (preview : Bool) (markdown : Text) : Except Failure Text :=
  (renderWith none preview { text := markdown }).map (·.text)

end DocumentStream.Display
