import DocumentStream.Config.Standard
import DocumentStream.Library
import DocumentStream.Program
import DocumentStream.Proofs.FallibleSearch
import DocumentStream.Proofs.LoggedFiles
import DocumentStream.Proofs.Within

/-!
No output in parts. What fails before its output is written leaves only a log behind, and the
output is written at once, last of all. So a call of the library that fails leaves its target as it
was, and the program shows nothing and changes no file but its log unless it succeeds.
-/

namespace DocumentStream

/-! ### The library -/

/-- What a target can be is as before: no file differs, and no stream received anything. -/
structure Outside.SameTargets (s s' : Outside) : Prop where
  files : s'.files = s.files
  characters : s'.characters = s.characters
  bytes : s'.bytes = s.bytes

namespace Outside.SameTargets

theorem refl (s : Outside) : SameTargets s s := ⟨rfl, rfl, rfl⟩

theorem trans (s t u : Outside) (h : SameTargets s t) (h' : SameTargets t u) : SameTargets s u :=
  ⟨h'.files.trans h.files, h'.characters.trans h.characters, h'.bytes.trans h.bytes⟩

end Outside.SameTargets

namespace LibraryCall

open Outside

theorem staysWithin_convert {α : Type} (conversion : Conversion α) :
    StaysWithin SameTargets (convert conversion) where
  fails s error s' h := by
    simp only [EStateM.run, convert] at h
    split at h
    · cases h
    · cases h
      exact ⟨rfl, rfl, rfl⟩
  succeeds s a s' h := by
    simp only [EStateM.run, convert] at h
    split at h
    · cases h
      exact ⟨rfl, rfl, rfl⟩
    · cases h
  fault _ _ _ _ := trivial

end LibraryCall

namespace Program

/-- Nothing is shown, and what is logged is all that changes. -/
structure Session.OnlyLogs (s s' : Session) : Prop where
  output : s'.output = s.output
  journal : s.journal.Carries s'.journal

namespace Session.OnlyLogs

theorem refl (s : Session) : OnlyLogs s s := ⟨rfl, .refl _⟩

theorem trans (s t u : Session) (h : OnlyLogs s t) (h' : OnlyLogs t u) : OnlyLogs s u :=
  ⟨h'.output.trans h.output, h.journal.trans h'.journal⟩

end Session.OnlyLogs

namespace Action

open Session

variable {α : Type}

theorem staysWithin_quit (status : Status) : StaysWithin OnlyLogs (quit status : Action α) :=
  .throw OnlyLogs.refl trivial

theorem staysWithin_log (level : LogLevel) (message : Text) :
    StaysWithin OnlyLogs (log level message) :=
  .modify fun s => ⟨rfl, .log _ s.journal⟩

theorem staysWithin_fail (status : Status) (message : Text) :
    StaysWithin OnlyLogs (fail status message : Action α) :=
  .bind OnlyLogs.trans (staysWithin_log _ _) fun _ => staysWithin_quit _

theorem staysWithin_convert (conversion : Conversion α) {failed : ConversionError → Action α}
    (hfailed : ∀ error, StaysWithin OnlyLogs (failed error)) :
    StaysWithin OnlyLogs (convert conversion failed) := by
  unfold convert
  split
  · exact .bind OnlyLogs.trans (.modify fun s => ⟨rfl, .logAll _ s.journal⟩) fun _ =>
      .pure OnlyLogs.refl _
  · exact .bind OnlyLogs.trans (.modify fun s => ⟨rfl, .logAll _ s.journal⟩) fun _ => hfailed _

end Action

open Session Program.Action

variable {α : Type}

theorem staysWithin_reportRendering (error : ConversionError) :
    StaysWithin OnlyLogs (reportRendering error : Action α) := by
  unfold reportRendering
  repeat' split
  all_goals first
    | exact staysWithin_fail _ _
    | exact .throw OnlyLogs.refl trivial

theorem staysWithin_renderInput (surroundings : Surroundings) (input : Text)
    (options : Options) : StaysWithin OnlyLogs (renderInput surroundings input options) :=
  .get_bind fun _ => .bind OnlyLogs.trans (staysWithin_convert _ staysWithin_reportRendering)
    fun _ => .pure OnlyLogs.refl _

/-- A session before anything has happened. -/
def Session.initial (surroundings : Surroundings) : Session where
  journal := { files := surroundings.files, stamp := surroundings.stamp }

theorem run_of_parse {surroundings : Surroundings} {arguments : List Text} {input : Text}
    {settings : CommandLine.Settings}
    (hparse : CommandLine.parse arguments = .ok (.convert input settings)) :
    run surroundings arguments =
      match (convert surroundings input settings).run (.initial surroundings) with
      | .ok () s => (.status .success, s)
      | .error ending s => (ending, s) := by
  simp only [run, perform, hparse]
  rfl

/-- Setting up the log fails only because of the name of the log file, and then the files are as
they were. -/
theorem startLog_cases (settings : CommandLine.Settings) {s : Session}
    (hhandlers : s.journal.logger.handlers = []) :
    (Journal.logPlace? s.journal.files settings.logFile = some (.error .nulCharacter) ∧
        ∃ s', (startLog settings).run s = .error (.fault (.logging .nulCharacter)) s' ∧
          s'.output = s.output ∧ s'.journal.files = s.journal.files) ∨
      Journal.logPlace? s.journal.files settings.logFile ≠ some (.error .nulCharacter) ∧
        ∃ s', (startLog settings).run s = .ok () s' ∧ s'.output = s.output ∧
          s'.journal.Configured s.journal.files settings.logFile := by
  obtain ⟨hplace, j, hrun, hfiles⟩ | ⟨hplace, j, hrun, hconfigured⟩ :=
    Journal.configure_cases settings.logLevel settings.logFile settings.trace hhandlers
  · refine .inl ⟨hplace, { s with journal := j }, ?_, rfl, hfiles⟩
    simp only [startLog, EStateM.run_bind, EStateM.run_get, hrun]
    rfl
  · refine .inr ⟨hplace, { s with journal := j }, ?_, rfl, hconfigured⟩
    simp only [startLog, EStateM.run_bind, EStateM.run_get, hrun]
    rfl

end Program

end DocumentStream
