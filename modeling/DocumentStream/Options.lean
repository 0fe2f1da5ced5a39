import DocumentStream.Value.Literal

/-!
Options of the rendering. They are given as a mapping, usually from a configuration file, whose
keys may be written with dashes or underscores. Keys that name no option are skipped, because such
a file may carry the settings of other tools too.
-/

namespace DocumentStream

/-- What happens to macros that Markdown has no form for: the call is written in the syntax of a
wiki, it is left out, or rendering fails. -/
inductive MacroMode where
  | wiki
  | drop
  | refuse
  deriving DecidableEq, Repr

namespace MacroMode

def all : List MacroMode := [.wiki, .drop, .refuse]

def label : MacroMode → Text
  | .wiki => ['x', 'w', 'i', 'k', 'i']
  | .drop => ['d', 'r', 'o', 'p']
  | .refuse => ['r', 'a', 'i', 's', 'e']

def ofLabel? (label : Text) : Option MacroMode := all.find? fun mode => mode.label == label

end MacroMode

inductive OptionName where
  | escapeSpecial
  | tablePipeEscape
  | unhandledMacroMode
  deriving DecidableEq, Repr

namespace OptionName

/-- All names, in the order in which the options are listed. -/
def all : List OptionName := [.escapeSpecial, .tablePipeEscape, .unhandledMacroMode]

/-- The spelling of a name in mappings. -/
def label : OptionName → Text
  | .escapeSpecial => "escape_special".toList
  | .tablePipeEscape => "table_pipe_escape".toList
  | .unhandledMacroMode => "unhandled_macro_mode".toList

def ofLabel? (label : Text) : Option OptionName := all.find? fun name => name.label == label

end OptionName

/-- The options of the rendering. The two flags are whatever value was given, of which only the
truth matters. -/
structure Options where
  escapeSpecial : Value := .bool true
  tablePipeEscape : Value := .bool true
  unhandledMacroMode : MacroMode := .wiki
  deriving Repr

/-- Why values do not make options: a key is no text, it names no option where only options are
allowed, or the mode does not exist. -/
inductive OptionsError where
  | keyKind
  | unknownName (name : Text)
  | mode (value : Value)
  deriving Repr

def OptionsError.message : OptionsError → Text
  | .keyKind => "option names must be texts".toList
  | .unknownName name => "unknown option: ".toList ++ name
  | .mode value =>
    OptionName.unhandledMacroMode.label ++ " must be one of ".toList ++
      Text.join [',', ' '] (MacroMode.all.map MacroMode.label) ++ ", got ".toList ++ value.literal

namespace Options

/-- The values of all options, before the mode is checked. -/
structure Draft where
  escapeSpecial : Value
  tablePipeEscape : Value
  unhandledMacroMode : Value

namespace Draft

def set (draft : Draft) (value : Value) : OptionName → Draft
  | .escapeSpecial => { draft with escapeSpecial := value }
  | .tablePipeEscape => { draft with tablePipeEscape := value }
  | .unhandledMacroMode => { draft with unhandledMacroMode := value }

def check (draft : Draft) : Except OptionsError Options :=
  match draft.unhandledMacroMode.text?.bind MacroMode.ofLabel? with
  | some mode => .ok ⟨draft.escapeSpecial, draft.tablePipeEscape, mode⟩
  | none => .error (.mode draft.unhandledMacroMode)

end Draft

def value (options : Options) : OptionName → Value
  | .escapeSpecial => options.escapeSpecial
  | .tablePipeEscape => options.tablePipeEscape
  | .unhandledMacroMode => .str options.unhandledMacroMode.label

def draft (options : Options) : Draft :=
  ⟨options.value .escapeSpecial, options.value .tablePipeEscape,
    options.value .unhandledMacroMode⟩

/-- The option that a key of a mapping names; a dash stands for an underscore. -/
def nameOfKey? (key : Text) : Option OptionName :=
  OptionName.ofLabel? (Text.replaceChar '-' ['_'] key)

/-- Sets the options of a mapping in its order, so that the last of several spellings of a name
counts. -/
def setEntries (draft : Draft) : Entries → Except OptionsError Draft
  | [] => .ok draft
  | (.str key, value) :: rest =>
    match nameOfKey? key with
    | some name => setEntries (draft.set value name) rest
    | none => setEntries draft rest
  | _ :: _ => .error .keyKind

def ofEntries (entries : Entries) : Except OptionsError Options := do
  (← setEntries ({} : Options).draft entries).check

def setExactly (draft : Draft) : Entries → Except OptionsError Draft
  | [] => .ok draft
  | (key, value) :: rest =>
    match key.toValue.text?.bind OptionName.ofLabel? with
    | some name => setExactly (draft.set value name) rest
    | none => .error (.unknownName key.display)

/-- The options after some of them are set anew, by their exact names. -/
def update (options : Options) (entries : Entries) : Except OptionsError Options := do
  (← setExactly options.draft entries).check

end Options

/-- How an option is presented to the user: what it does, its name on a command line, how
prominent it is, and the values to choose from if they are few. -/
structure OptionHelp where
  summary : String
  choices : List Text := []
  flag : String
  importance : String

def OptionName.help : OptionName → OptionHelp
  | .escapeSpecial =>
    { summary := "Escape Markdown metacharacters appearing in document text"
      flag := "no-escape"
      importance := "core" }
  | .tablePipeEscape =>
    { summary := "Escape pipe characters inside table cells"
      flag := "no-table-pipe-escape"
      importance := "advanced" }
  | .unhandledMacroMode =>
    { summary := "How to render macros other than 'code': xwiki (macro syntax), drop, or raise"
      choices := MacroMode.all.map MacroMode.label
      flag := "unhandled-macros"
      importance := "core" }

/-- The options that every renderer has, whatever it renders to. -/
def OptionName.shared : List OptionName := [.escapeSpecial]

end DocumentStream
