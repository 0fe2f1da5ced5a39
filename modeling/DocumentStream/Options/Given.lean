import DocumentStream.Failure
import DocumentStream.Options

/-!
What callers pass as the options of a renderer, which need not be options of that renderer at all.
-/

namespace DocumentStream.Options

/-- What is passed as the options of a renderer: nothing, its own options, the ones that all
renderers share, or some value. -/
inductive Given where
  | nothing
  | own (options : Options)
  | shared
  | other (value : Value)
  deriving Repr

/-- The failure to use something as options. -/
def wrongKind (kind : Text) : Failure :=
  .options "markdown".toList "MarkdownRendererOptions".toList kind none

/-- The options that are passed, with the usual ones standing in for none. -/
def Given.check : Given → Except Failure Options
  | .nothing => .ok {}
  | .own options => .ok options
  | .shared => .error (wrongKind "BaseRendererOptions".toList)
  | .other value => .error (wrongKind value.kindName.toList)

end DocumentStream.Options
