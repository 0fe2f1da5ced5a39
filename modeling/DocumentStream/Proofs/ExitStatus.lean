import DocumentStream.Proofs.FlagPrecedence
import DocumentStream.Proofs.NoPartialOutput
import DocumentStream.Proofs.RecordFaults

/-!
How the program ends. What is asked of it, the configuration and the input together have a verdict,
and the program ends with the status of the verdict unless something goes wrong that it does not
look out for: an input that is not text or has too long a name, the record of a reference that
cannot be converted, the value of a field that its use is not defined for, a name with a null
character for a file to write, and Markdown that cannot be encoded. Then it ends with a fault.
-/

namespace DocumentStream

/-- The stream that a source holds, or why there is none. -/
def Source.events (fs : FileSystem) (source : Source) (standIn : Char := '\ufffd') :
    Except ConversionError (List Event) :=
  match source.read fs with
  | .error error => .error (.source error)
  | .ok stored => (readEvents stored standIn).mapError .stream

/-- The Markdown of a stream under given options, or why there is none. -/
def markdownOf (options : Options) (events : List Event) : Except RenderFault Text :=
  match (TrackedRendering.textOf events).run
      { renderer := .start options .plain .plain .buffer } with
  | .ok text _ => .ok text
  | .error fault _ => .error fault

namespace Conversion

theorem exists_run_ofEvents (options : Options) (events : List Event) (log : List LogRecord) :
    ∃ log', (ofEvents (.start options .plain .plain .buffer) events).run log =
      match markdownOf options events with
      | .ok text => .ok text log'
      | .error fault => .error (.rendering fault) log' := by
  simp only [EStateM.run, ofEvents, markdownOf]
  cases TrackedRendering.textOf events { renderer := .start options .plain .plain .buffer } with
  | ok text s => exact ⟨_, rfl⟩
  | error fault s => exact ⟨_, rfl⟩

/-- Converting a stored stream is reading it and then rendering it. -/
theorem exists_run_ofSource (options : Options) (fs : FileSystem) (source : Source)
    (standIn : Char) (log : List LogRecord) :
    ∃ log', (ofSource (.start options .plain .plain .buffer) fs source standIn).run log =
      match source.events fs standIn with
      | .error error => .error error log'
      | .ok events =>
        match markdownOf options events with
        | .ok text => .ok text log'
        | .error fault => .error (.rendering fault) log' := by
  unfold ofSource Source.events
  cases source.read fs with
  | error error => exact ⟨log, rfl⟩
  | ok stored =>
    simp only [ofExcept, EStateM.run_bind, EStateM.run_pure]
    cases readEvents stored standIn with
    | error error => exact ⟨log, rfl⟩
    | ok events => exact exists_run_ofEvents options events log

end Conversion

namespace Program

/-- The session when the log has been set up, or could not be. -/
def Session.logged (surroundings : Surroundings) (settings : CommandLine.Settings) : Session :=
  match (startLog settings).run (.initial surroundings) with
  | .ok _ s | .error _ s => s

/-- A conversion that the program is asked for: its surroundings, the input, the settings, and the
configuration that applies. -/
structure Task where
  surroundings : Surroundings
  input : Text
  settings : CommandLine.Settings
  config : Entries

namespace Task

/-- The files as the conversion finds them. The log may have added to one of them. -/
def files (t : Task) : FileSystem := (Session.logged t.surroundings t.settings).journal.files

/-- Whether the command line asks for the task, and the configuration is the one that applies and
has texts for keys. -/
structure Given (t : Task) (arguments : List Text) : Prop where
  parsed : CommandLine.parse arguments = .ok (.convert t.input t.settings)
  loaded : Config.loadApplicable t.files t.settings.config t.surroundings.config
    t.surroundings.readers = .ok t.config
  textKeys : Options.HasTextKeys t.config

def options (t : Task) : Except OptionsError Options := t.settings.options t.config

def source (t : Task) : Source := t.surroundings.source t.input

/-- The name of the file to write, if it is not to be shown. -/
def target? (t : Task) : Option Text := t.settings.output.filter fun name => !name.isEmpty

/-- The Markdown with a given text. Whether it can be encoded shows in the text that there is with
another character for unpaired surrogates. -/
def markdown (t : Task) (options : Options) (text : Text) : Markdown where
  text
  isEncodable := (Conversion.ofSource (.start options .plain .plain .buffer) t.files t.source
    Conversion.otherStandIn).gives text

/-- The Markdown as it is shown, or why it cannot be. -/
def shown (t : Task) (markdown : Markdown) : Except Failure Markdown :=
  Display.renderWith t.surroundings.formatter t.settings.preview markdown

/-- Whether the Markdown cannot be handed out for a reason that the program does not look out for:
the name of the file has a null character, or an unpaired surrogate would have to be encoded. -/
def FailsToDeliver (t : Task) (markdown : Markdown) : Prop :=
  match t.target? with
  | some name =>
    t.files.place (.ofText name) = .error .nulCharacter ∨
      (∃ place, t.files.place (.ofText name) = .ok place) ∧ markdown.isEncodable = false
  | none => ∃ shown, t.shown markdown = .ok shown ∧ shown.isEncodable = false

/-- Whether a session has handed out Markdown: the file that it was to be written to begins with
it, and holds nothing else unless the log goes there too; or it is what was shown. Either way it
could be encoded. -/
def HandsOut (t : Task) (markdown : Markdown) (s : Session) : Prop :=
  match t.target? with
  | some name =>
    markdown.isEncodable = true ∧
      ∃ place more, t.files.place (.ofText name) = .ok place ∧
        s.journal.files.content? place = some (Utf8.encode markdown.text ++ more) ∧
        (Journal.logPlace? t.surroundings.files t.settings.logFile ≠ some (.ok place) → more = [])
  | none => t.shown markdown = .ok { text := s.output, isEncodable := true }

end Task

/-- How the program ends after an error of a conversion. -/
def endingAfter (error : ConversionError) : Ending :=
  match error with
  | .source source =>
    if source.failure?.isSome then .status .noStream else .fault (.conversion error)
  | .stream stream =>
    if stream.failure?.isSome then .status .noStream else .fault (.conversion error)
  | .rendering (.rendering _) => .status .notRendered
  | _ => .fault (.conversion error)

theorem exists_run_reportRendering {α : Type} (error : ConversionError) (s : Session) :
    ∃ s', (reportRendering error : Action α).run s = .error (endingAfter error) s' := by
  cases error with
  | source error =>
    cases hfailure : error.failure? <;>
      simp only [reportRendering, endingAfter, hfailure] <;> exact ⟨_, rfl⟩
  | stream error =>
    cases hfailure : error.failure? <;>
      simp only [reportRendering, endingAfter, hfailure] <;> exact ⟨_, rfl⟩
  | rendering fault => cases fault <;> exact ⟨_, rfl⟩
  | output error => exact ⟨_, rfl⟩

/-- With texts for keys a configuration can only be refused for the mode it asks for. -/
theorem options_ne_keyKind {config : Entries} (h : Options.HasTextKeys config)
    (settings : CommandLine.Settings) : settings.options config ≠ .error .keyKind := by
  have hkeys : Options.HasTextKeys (settings.override config) := by
    rw [settings.override_eq]
    exact settings.hasTextKeys_place _ _ (settings.hasTextKeys_place _ _
      (settings.hasTextKeys_place _ _ h))
  obtain ⟨draft, hdraft, -⟩ := Options.setEntries_value ({} : Options).draft _ hkeys
  have hoptions : settings.options config = draft.check := by
    rw [CommandLine.Settings.options, Options.ofEntries, hdraft]
    rfl
  rw [hoptions, Options.Draft.check]
  split <;> simp

theorem run_chooseOptions {surroundings : Surroundings} {settings : CommandLine.Settings}
    {config : Entries} {s : Session} (htext : Options.HasTextKeys config)
    (hconfig : Config.loadApplicable s.journal.files settings.config surroundings.config
      surroundings.readers = .ok config) :
    ∃ s', (chooseOptions surroundings settings).run s =
      match settings.options config with
      | .ok options => .ok options s
      | .error _ => .error (.status .invalidUse) s' := by
  simp only [chooseOptions, EStateM.run_bind, EStateM.run_get, hconfig]
  cases hoptions : settings.options config with
  | ok options => exact ⟨s, rfl⟩
  | error error =>
    cases error with
    | keyKind => exact absurd hoptions (options_ne_keyKind htext settings)
    | unknownName name => exact ⟨_, rfl⟩
    | mode value => exact ⟨_, rfl⟩

theorem exists_run_convert_ofSource (options : Options) (source : Source) (s : Session) :
    ∃ s', (Action.convert (Conversion.ofSource (.start options .plain .plain .buffer)
        s.journal.files source) reportRendering).run s =
      match source.events s.journal.files with
      | .error error => .error (endingAfter error) s'
      | .ok events =>
        match markdownOf options events with
        | .ok text => .ok text s'
        | .error fault => .error (endingAfter (.rendering fault)) s' := by
  obtain ⟨log, hrun⟩ := Conversion.exists_run_ofSource options s.journal.files source '\ufffd' []
  let logged : Session := { s with journal := s.journal.logAll log }
  simp only [Action.convert, hrun]
  cases source.events s.journal.files with
  | error error =>
    obtain ⟨s', hreport⟩ := exists_run_reportRendering (α := Text) error logged
    exact ⟨s', hreport⟩
  | ok events =>
    dsimp only
    cases markdownOf options events with
    | ok text => exact ⟨logged, rfl⟩
    | error fault =>
      obtain ⟨s', hreport⟩ := exists_run_reportRendering (α := Text) (.rendering fault) logged
      exact ⟨s', hreport⟩

theorem exists_run_renderInput (surroundings : Surroundings) (input : Text) (options : Options)
    (s : Session) :
    ∃ s', (renderInput surroundings input options).run s =
      match (surroundings.source input).events s.journal.files with
      | .error error => .error (endingAfter error) s'
      | .ok events =>
        match markdownOf options events with
        | .ok text =>
          .ok
            { text
              isEncodable := (Conversion.ofSource (.start options .plain .plain .buffer)
                s.journal.files (surroundings.source input) Conversion.otherStandIn).gives text }
            s'
        | .error fault => .error (endingAfter (.rendering fault)) s' := by
  obtain ⟨s', hrun⟩ := exists_run_convert_ofSource options (surroundings.source input) s
  refine ⟨s', ?_⟩
  simp only [renderInput, EStateM.run_bind, EStateM.run_get, hrun]
  cases (surroundings.source input).events s.journal.files with
  | error error => rfl
  | ok events =>
    dsimp only
    cases markdownOf options events <;> rfl

/-- Writing to a file puts the whole text there, and what the log adds goes behind it. -/
theorem exists_run_writeFile {markdown : Markdown} (hencodable : markdown.isEncodable = true)
    {name : Text} {s : Session} {place : Location}
    (hplace : s.journal.files.place (.ofText name) = .ok place) :
    ∃ s' more, (writeFile name markdown).run s = .ok () s' ∧
      s'.journal.files.content? place = some (Utf8.encode markdown.text ++ more) ∧
      (¬ s.journal.LogsTo place → more = []) := by
  have hwrite : (Output.file (.ofText name)).write s.journal.files markdown =
      .ok (.files (s.journal.files.put place (Utf8.encode markdown.text))) := by
    simp only [Output.write, FileSystem.write, hplace]
    exact if_pos hencodable
  let written : Journal :=
    { s.journal with files := s.journal.files.put place (Utf8.encode markdown.text) }
  have hcontent : written.files.content? place = some (Utf8.encode markdown.text) :=
    (FileSystem.content?_put _ _ _ _).trans (if_pos rfl)
  let record : LogRecord :=
    .ofLevel "events2md.cli".toList .info ("Wrote ".toList ++ name)
  have hrun : (writeFile name markdown).run s =
      .ok () { s with journal := written.log record } := by
    simp only [writeFile, EStateM.run_bind, EStateM.run_get, hwrite]
    rfl
  have hcarries : written.Carries (written.log record) := .log record written
  by_cases hlogs : s.journal.LogsTo place
  · obtain ⟨more, hmore⟩ := hcarries.grown place _ hcontent
    exact ⟨_, more, hrun, hmore, fun h => absurd hlogs h⟩
  · refine ⟨_, [], hrun, ?_, fun _ => rfl⟩
    rw [List.append_nil, ← hcontent]
    exact hcarries.content place hlogs

theorem run_writeFile_of_not_encodable {markdown : Markdown}
    (hencodable : markdown.isEncodable = false) {name : Text} {s : Session} {place : Location}
    (hplace : s.journal.files.place (.ofText name) = .ok place) :
    (writeFile name markdown).run s = .error (.fault (.conversion (.output .unencodable))) s := by
  have hwrite : (Output.file (.ofText name)).write s.journal.files markdown =
      .error .unencodable := by
    simp only [Output.write, FileSystem.write, hplace]
    exact if_neg (by simp [hencodable])
  simp only [writeFile, EStateM.run_bind, EStateM.run_get, hwrite]
  rfl

theorem exists_run_writeFile_of_error (markdown : Markdown) {name : Text} {s : Session}
    {fault : FileFault}
    (hplace : s.journal.files.place (.ofText name) = .error fault) :
    ∃ s', (writeFile name markdown).run s =
      .error (if fault = .nulCharacter then .fault (.conversion (.output .nulCharacter))
        else .status .notRendered) s' := by
  have hwrite : (Output.file (.ofText name)).write s.journal.files markdown =
      .error (if fault = .nulCharacter then .nulCharacter else .unwritable (.ofText name)) := by
    simp only [Output.write, FileSystem.write, hplace]
    cases fault <;> rfl
  simp only [writeFile, EStateM.run_bind, EStateM.run_get, hwrite]
  cases fault <;> exact ⟨_, rfl⟩

/-- The ways in which the program ends once the log is set up, with what leads to them. -/
inductive Task.Ends (t : Task) : Ending × Session → Prop
  | invalidUse {s : Session} {error : OptionsError} (hoptions : t.options = .error error) :
      Ends t (.status .invalidUse, s)
  | noStream {s : Session} {options : Options} {error : ConversionError}
      (hoptions : t.options = .ok options) (hevents : t.source.events t.files = .error error) :
      Ends t (endingAfter error, s)
  | notRendered {s : Session} {options : Options} {events : List Event} {fault : RenderFault}
      (hoptions : t.options = .ok options) (hevents : t.source.events t.files = .ok events)
      (hmarkdown : markdownOf options events = .error fault) :
      Ends t (endingAfter (.rendering fault), s)
  | notWritten {s : Session} {options : Options} {events : List Event} {text name : Text}
      {fault : FileFault} (hoptions : t.options = .ok options)
      (hevents : t.source.events t.files = .ok events)
      (htext : markdownOf options events = .ok text) (hname : t.target? = some name)
      (hplace : t.files.place (.ofText name) = .error fault) :
      Ends t (if fault = .nulCharacter then .fault (.conversion (.output .nulCharacter))
        else .status .notRendered, s)
  | notShown {s : Session} {options : Options} {events : List Event} {text : Text}
      {failure : Failure} (hoptions : t.options = .ok options)
      (hevents : t.source.events t.files = .ok events)
      (htext : markdownOf options events = .ok text) (hname : t.target? = none)
      (hshown : t.shown (t.markdown options text) = .error failure) :
      Ends t (.status .notRendered, s)
  | unencodable {s : Session} {options : Options} {events : List Event} {text : Text}
      (hoptions : t.options = .ok options) (hevents : t.source.events t.files = .ok events)
      (htext : markdownOf options events = .ok text)
      (hfails : t.FailsToDeliver (t.markdown options text)) :
      Ends t (.fault (.conversion (.output .unencodable)), s)
  | success {s : Session} {options : Options} {events : List Event} {text : Text}
      (hoptions : t.options = .ok options) (hevents : t.source.events t.files = .ok events)
      (htext : markdownOf options events = .ok text)
      (hhands : t.HandsOut (t.markdown options text) s) : Ends t (.status .success, s)

theorem Task.ends_deliver {t : Task} {options : Options} {events : List Event} {text : Text}
    {s : Session} (hoptions : t.options = .ok options)
    (hevents : t.source.events t.files = .ok events)
    (htext : markdownOf options events = .ok text) (houtput : s.output = [])
    (hplaces : t.files.SamePlaces s.journal.files)
    (hlogs : ∀ place, s.journal.LogsTo place ↔
      Journal.logPlace? t.surroundings.files t.settings.logFile = some (.ok place)) :
    t.Ends (match (match t.target? with
        | some name => writeFile name (t.markdown options text)
        | none => display t.surroundings t.settings.preview (t.markdown options text)).run s with
      | .ok () s => (.status .success, s)
      | .error ending s => (ending, s)) := by
  cases htarget : t.target? with
  | some name =>
    dsimp only
    cases hplace : t.files.place (.ofText name) with
    | ok place =>
      have hsame : s.journal.files.place (.ofText name) = .ok place :=
        (hplaces.place _).trans hplace
      cases hencodable : (t.markdown options text).isEncodable with
      | true =>
        obtain ⟨s', more, hrun, hcontent, hmore⟩ := exists_run_writeFile hencodable hsame
        rw [hrun]
        refine .success hoptions hevents htext ?_
        rw [HandsOut, htarget]
        exact ⟨hencodable, place, more, hplace, hcontent,
          fun h => hmore fun h' => h ((hlogs place).mp h')⟩
      | false =>
        rw [run_writeFile_of_not_encodable hencodable hsame]
        refine .unencodable hoptions hevents htext ?_
        rw [FailsToDeliver, htarget]
        exact .inr ⟨⟨place, hplace⟩, hencodable⟩
    | error fault =>
      obtain ⟨s', hrun⟩ :=
        exists_run_writeFile_of_error (t.markdown options text) ((hplaces.place _).trans hplace)
      rw [hrun]
      exact .notWritten hoptions hevents htext htarget hplace
  | none =>
    simp only [display]
    cases hshown : Display.renderWith t.surroundings.formatter t.settings.preview
      (t.markdown options text) with
    | ok shown =>
      obtain ⟨shownText, isEncodable⟩ := shown
      cases isEncodable with
      | true =>
        refine .success hoptions hevents htext ?_
        rw [HandsOut, htarget]
        simp [shown, hshown, houtput]
      | false =>
        refine .unencodable hoptions hevents htext ?_
        rw [FailsToDeliver, htarget]
        exact ⟨_, hshown, rfl⟩
    | error failure => exact .notShown hoptions hevents htext htarget hshown

/-- The program ends because of the name of the log file, or in one of the ways described. -/
theorem Task.Given.ends {t : Task} {arguments : List Text} (h : t.Given arguments) :
    (Journal.logPlace? t.surroundings.files t.settings.logFile = some (.error .nulCharacter) ∧
        (run t.surroundings arguments).1 = .fault (.logging .nulCharacter)) ∨
      Journal.logPlace? t.surroundings.files t.settings.logFile ≠ some (.error .nulCharacter) ∧
        t.Ends (run t.surroundings arguments) := by
  rw [run_of_parse h.parsed, convert, EStateM.run_bind]
  obtain ⟨hplace, s, hrun, -, -⟩ | ⟨hplace, s, hrun, houtput, hconfigured⟩ :=
    startLog_cases t.settings (s := .initial t.surroundings) rfl
  · exact .inl ⟨hplace, by rw [hrun]⟩
  · refine .inr ⟨hplace, ?_⟩
    have hfiles : t.files = s.journal.files := by rw [Task.files, Session.logged, hrun]
    obtain ⟨s', hchoose⟩ := run_chooseOptions (s := s) h.textKeys (hfiles ▸ h.loaded)
    rw [hrun]
    simp only [EStateM.run_bind, hchoose]
    cases hoptions : t.settings.options t.config with
    | error error => exact .invalidUse hoptions
    | ok options =>
      obtain ⟨s', hrender⟩ := exists_run_renderInput t.surroundings t.input options s
      have hevents : (t.surroundings.source t.input).events s.journal.files =
          t.source.events t.files := by rw [hfiles]; rfl
      rw [hevents] at hrender
      cases hevents : t.source.events t.files with
      | error error =>
        simp only [hevents] at hrender
        simp only [hrender]
        exact .noStream hoptions hevents
      | ok events =>
        simp only [hevents] at hrender
        cases htext : markdownOf options events with
        | error fault =>
          simp only [htext] at hrender
          simp only [hrender]
          exact .notRendered hoptions hevents htext
        | ok text =>
          simp only [htext] at hrender
          have hlogs : Session.OnlyLogs s s' :=
            (staysWithin_renderInput t.surroundings t.input options).succeeds _ _ hrender
          simp only [hrender, ← hfiles]
          refine ends_deliver hoptions hevents htext (hlogs.output.trans houtput) ?_ ?_
          · rw [hfiles]
            exact hlogs.journal.places hconfigured.hasLogFiles
          · exact fun place => (hlogs.journal.logsTo place).trans (hconfigured.logsTo place)

end Program

end DocumentStream
