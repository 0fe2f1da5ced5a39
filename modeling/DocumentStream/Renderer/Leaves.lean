import DocumentStream.MacroCall
import DocumentStream.Nesting
import DocumentStream.Renderer.State
import DocumentStream.Text.Lines

/-!
Leaves as Markdown: words, symbols, images, raw text and macros.
-/

namespace DocumentStream.Rendering

def indent : Text := [' ', ' ', ' ', ' ']

def codeMark : Char := '\x60'

/-- The fence around a block of code. -/
def fence : Text := [codeMark, codeMark, codeMark]

/-- Typographic symbols have a spelling in plain characters that readers of Markdown turn back. -/
def symbolMarkup? : Value → Option Text
  | .str ['\u201c'] => some ['<', '<']
  | .str ['\u201d'] => some ['>', '>']
  | .str ['\u2014'] => some ['-', '-', '-']
  | .str ['\u2026'] => some ['.', '.', '.']
  | .str ['\u2013'] => some ['-', '-']
  | _ => none

/-- Renders a symbol, which stands for itself unless it has a markup of its own. -/
def symbol (symbol : Value) : Rendering Unit :=
  if symbol.key?.isNone then throw (.field .wrongKind)
  else
    match symbolMarkup? symbol with
    | some markup => print markup
    | none => printText symbol

/-- A value as text, which it has to be. -/
def asText : Value → Rendering Text
  | .str text => pure text
  | _ => throw (.field .wrongKind)

/-- Parameters, of which there have to be some. -/
def asEntries : Parameters → Rendering Entries
  | some entries => pure entries
  | none => throw (.field .missingMember)

/-- Renders an image. Where no alternative text is given, a parameter may hold one. -/
def image (reference : Reference) (alt : Value) (parameters : Parameters) : Rendering Unit := do
  let isGiven ←
    if alt.isTruthy then
      match alt with
      | .str text => pure (!text.isAllBlank)
      | _ => throw (.field .missingMember)
    else
      pure false
  let shown ←
    if isGiven then
      pure alt
    else
      pure (((← asEntries parameters).get? "alt".toList).getD .null)
  print (← ofField (reference.image (← get).imageTarget shown))

/-- The abbreviation that raw text defines. Markup that looks like one and is none is reported. -/
def abbreviation? (text : Text) : Rendering (Option Abbreviation) :=
  if "<abbr ".toList.isPrefixOf text then
    match Abbreviation.ofMarkup text with
    | .ok abbreviation => pure (some abbreviation)
    | .error error => do
      report .debug ("Keeping abbreviation markup verbatim: ".toList ++ error.message.toList)
      return none
  else
    pure none

/-- Records an abbreviation in the innermost document. The first definition of a key counts. -/
def define (abbreviation : Abbreviation) : Rendering Unit := do
  match (← get).abbreviations with
  | [] => fail .abbreviationOutsideDocument
  | scope :: outer =>
    if scope.all fun known => known.key != abbreviation.key then
      modify fun r => { r with abbreviations := (scope ++ [abbreviation]) :: outer }

/-- Sets a block off, unless the leaf stands within a line. -/
def separateBlock (nesting : Nesting) : Rendering Unit :=
  unless nesting.isInLine do printEmptyLine

/-- Renders raw text, which is kept as it is except that an abbreviation shows only its key. -/
def rawText (nesting : Nesting) : Value → Rendering Unit
  | .str text => do
    match ← abbreviation? text with
    | some abbreviation =>
      define abbreviation
      print abbreviation.key
    | none =>
      separateBlock nesting
      print text
  | _ => throw (.field .missingMember)

/-- Renders code as a span, as a fenced block if its language is known, or as an indented block. -/
def code (nesting : Nesting) (content isInline : Value) (parameters : Parameters) :
    Rendering Unit := do
  let content := if content.isTruthy then content else .str []
  if isInline.isTruthy then
    print (codeMark :: (← asText content) ++ [codeMark])
  else
    separateBlock nesting
    match ((← asEntries parameters).get? "language".toList).getD .null with
    | .null =>
      let lines := Text.dropEmptyTail (Text.codeLines (← asText content))
      print (Text.join ['\n'] (lines.map (indent ++ ·)))
    | language =>
      let language ← asText language
      let content ← asText content
      print (fence ++ language ++ '\n' :: content ++ '\n' :: fence)

/-- Renders a macro that Markdown has no form for. -/
def unhandledMacro (nesting : Nesting) (id content isInline : Value) (parameters : Parameters) :
    Rendering Unit := do
  match (← get).options.unhandledMacroMode with
  | .refuse => fail (.unhandledMacro id)
  | .drop =>
    report .warning ("Dropping macro '".toList ++ id.display ++
      "' which has no Markdown rendering".toList)
  | .wiki =>
    unless isInline.isTruthy do separateBlock nesting
    let parameters ← asEntries parameters
    print (← ofField (MacroCall.ofFields id parameters content)).text

/-- Whether the macro with the given name holds code. -/
def isCode : Value → Bool
  | .str id => id = "code".toList
  | _ => false

def leaf (nesting : Nesting) : Leaf → Rendering Unit
  | .word text => printText text
  | .space => printText (.str [' '])
  | .lineBreak => print [' ', ' ', '\n']
  | .symbol value => symbol value
  | .rawText text _ => rawText nesting text
  | .image reference alt _ parameters => image reference alt parameters
  | .call id content isInline parameters =>
    if isCode id then code nesting content isInline parameters
    else unhandledMacro nesting id content isInline parameters
  | .rule _ => do
    printEmptyLine
    print ['-', '-', '-']

end DocumentStream.Rendering
