import DocumentStream.CommandLine.Word
import DocumentStream.Text.Case

/-!
What a command line asks for. Flags and the name of the input can be mixed, and of several uses of
a flag the last one counts. What is left over is an error, but only once the rest is in order.
-/

namespace DocumentStream.CommandLine

/-- What the flags of a command line set. An option of the rendering that no flag sets is left to
the configuration. -/
structure Settings where
  output : Option Text := none
  config : Option Text := none
  escapeSpecial : Option Bool := none
  tablePipeEscape : Option Bool := none
  unhandledMacroMode : Option MacroMode := none
  preview : Bool := false
  logLevel : LogLevel := .warning
  logFile : Option Text := none
  trace : Bool := false
  deriving DecidableEq, Repr

/-- What a command line asks for. -/
inductive Request where
  | help
  | version
  | convert (input : Text) (settings : Settings)
  deriving DecidableEq, Repr

namespace Settings

/-- The value of an option that a flag sets. -/
def given? (s : Settings) : OptionName → Option Value
  | .escapeSpecial => s.escapeSpecial.map .bool
  | .tablePipeEscape => s.tablePipeEscape.map .bool
  | .unhandledMacroMode => s.unhandledMacroMode.map fun mode => .str mode.label

/-- A configuration with the options that flags set put in place of its own. -/
def override (s : Settings) (config : Entries) : Entries :=
  OptionName.all.foldl (fun entries name =>
      match s.given? name with
      | some value => Entries.insert (.str name.label) value entries
      | none => entries)
    config

/-- The options of the rendering under a configuration. -/
def options (s : Settings) (config : Entries) : Except OptionsError Options :=
  Options.ofEntries (s.override config)

end Settings

/-- Why the reading of a command line ends early: a flag has its own answer, or there is an
error. -/
inductive Stop where
  | asked (request : Request)
  | failed (error : Error)
  deriving Repr

/-- The level that a value names, in any letter case. -/
def levelOf (value : Text) : Except Error LogLevel :=
  let name := Text.upper value
  match LogLevel.all.find? fun level => level.label == name with
  | some level => .ok level
  | none => .error (.invalidChoice .logLevel name)

def modeOf (value : Text) : Except Error MacroMode :=
  match MacroMode.ofLabel? value with
  | some mode => .ok mode
  | none => .error (.invalidChoice .unhandledMacros value)

def Settings.set (s : Settings) (value : Text) : Flag → Except Stop Settings
  | .help => .error (.asked .help)
  | .version => .error (.asked .version)
  | .output => .ok { s with output := some value }
  | .config => .ok { s with config := some value }
  | .noEscape => .ok { s with escapeSpecial := some false }
  | .noTablePipeEscape => .ok { s with tablePipeEscape := some false }
  | .unhandledMacros => do
    return { s with unhandledMacroMode := some (← (modeOf value).mapError .failed) }
  | .preview => .ok { s with preview := true }
  | .logLevel => do return { s with logLevel := ← (levelOf value).mapError .failed }
  | .logFile => .ok { s with logFile := some value }
  | .trace => .ok { s with trace := true }

/-- How far the reading of a command line has come. -/
structure Reading where
  settings : Settings := {}
  input : Option Text := none
  unrecognized : List Text := []
  deriving Repr

namespace Reading

/-- Takes words that mean nothing. -/
def reject (words : List Text) (r : Reading) : Reading :=
  { r with unrecognized := r.unrecognized ++ words }

/-- Takes the uses of flags in order. -/
def take (r : Reading) (uses : List Use) : Except Stop Reading := do
  let settings ← uses.foldlM (fun s use => s.set (use.value.getD []) use.flag) r.settings
  return { r with settings }

/-- The flag among some uses that still waits for its value; only the last one can. -/
def waiting? (uses : List Use) : Option Flag :=
  match uses.getLast? with
  | some ⟨flag, none⟩ => if flag.takesValue then some flag else none
  | _ => none

/-- Reads the rest of a command line. The separator belongs to the input beside it. -/
def read (r : Reading) : List Word → Except Stop Reading
  | [] => .ok r
  | .plain text :: rest =>
    match r.input, rest with
    | none, .separator :: rest => read { r with input := some text } rest
    | none, rest => read { r with input := some text } rest
    | some _, rest => read (r.reject [text]) rest
  | .separator :: rest =>
    match r.input, rest with
    | none, .plain text :: rest => read { r with input := some text } rest
    | _, rest => read (r.reject [['-', '-']]) rest
  | word :: rest => do
    let (uses, left) ← word.uses.mapError .failed
    match waiting? uses, rest with
    | none, rest => read (← (r.reject left.toList).take uses) rest
    | some flag, .plain value :: rest =>
      read (← r.take (uses.dropLast ++ [⟨flag, some value⟩])) rest
    | some flag, _ => throw (.failed (.missingValue flag))

/-- What was read, if nothing is missing and nothing is left over. -/
def finish (r : Reading) : Except Error Request :=
  match r.input with
  | none => .error .missingInput
  | some input =>
    if r.unrecognized.isEmpty then .ok (.convert input r.settings)
    else .error (.unrecognized r.unrecognized)

end Reading

def parse (arguments : List Text) : Except Error Request := do
  match Reading.read {} (← Word.readAll arguments) with
  | .ok reading => reading.finish
  | .error (.asked request) => return request
  | .error (.failed error) => throw error

end DocumentStream.CommandLine
