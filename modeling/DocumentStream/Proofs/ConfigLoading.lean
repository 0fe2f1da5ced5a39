import Mathlib.Logic.Basic
import DocumentStream.Config
import DocumentStream.Proofs.TextFaults

/-!
What comes of loading a configuration file, by the bytes in it. A file of any format has to be text.
A project's file says something about the settings of this tool only if it is a TOML document whose
tools are a table; what it says is looked up in there.
-/

namespace DocumentStream

namespace FileSystem

variable {fs : FileSystem} {path : FilePath}

theorem isFile_of_read {content : Bytes} (h : fs.read path = .ok content) :
    fs.isFile path = .ok true := by
  unfold read at h
  unfold isFile check
  cases hplace : fs.locate path with
  | error fault =>
    rw [hplace] at h
    cases h
  | ok place =>
    rw [hplace] at h
    cases hcontent : fs.content? place with
    | some found => simp [hcontent]
    | none => simp [bind, Except.bind, hcontent, throw, throwThe, MonadExceptOf.throw] at h

theorem exists_read_of_isFile (h : fs.isFile path = .ok true) :
    ∃ content, fs.read path = .ok content := by
  unfold isFile check at h
  unfold read
  cases hplace : fs.locate path with
  | error fault =>
    rw [hplace] at h
    cases fault <;> cases h
  | ok place =>
    rw [hplace] at h
    obtain ⟨content, hcontent⟩ := Option.isSome_iff_exists.mp (Except.ok.inj h)
    exact ⟨content, by simp [hcontent, bind, Except.bind, pure, Except.pure]⟩

end FileSystem

def Value.isMap : Value → Bool
  | .map _ => true
  | _ => false

namespace Config

/-- What a project's file has for the tools, if it is a TOML document with anything for them. -/
def tools? (readers : Readers) (content : Bytes) : Option Value :=
  ((Utf8.decode content).bind readers.toml).bind fun table => table.get? toolTable

/-- The settings of this tool in the content of a project's file. -/
def settings? (readers : Readers) (content : Bytes) : Option Entries :=
  match tools? readers content with
  | some (.map tools) =>
    match Entries.get? toolName tools with
    | some (.map settings) => some settings
    | _ => none
  | _ => none

/-- Whether a project's file is a TOML document whose tools are no table. -/
def HasStrayTools (readers : Readers) (content : Bytes) : Prop :=
  ∃ tools ∈ tools? readers content, tools.isMap = false

/-- Whether a project's file is text, and if it is a TOML document, then one without tools or one
whose tools are a table. -/
def IsOrdinaryProject (readers : Readers) (content : Bytes) : Prop :=
  (Utf8.decode content).isSome ∧ ∀ tools ∈ tools? readers content, tools.isMap

variable {readers : Readers} {content : Bytes}

instance : Decidable (IsOrdinaryProject readers content) :=
  inferInstanceAs (Decidable ((Utf8.decode content).isSome ∧
    ∀ tools ∈ tools? readers content, tools.isMap))

instance : Decidable (HasStrayTools readers content) :=
  inferInstanceAs (Decidable (∃ tools ∈ tools? readers content, tools.isMap = false))

theorem isOrdinaryProject_iff :
    IsOrdinaryProject readers content ↔
      Utf8.decode content ≠ none ∧ ¬ HasStrayTools readers content := by
  simp only [IsOrdinaryProject, HasStrayTools, Option.isSome_iff_ne_none, not_exists, not_and,
    Bool.not_eq_false]

theorem isOrdinaryProject_of_settings {settings : Entries}
    (h : settings? readers content = some settings) : IsOrdinaryProject readers content := by
  unfold settings? at h
  split at h
  · rename_i entries htools
    refine ⟨?_, fun tools hmem => ?_⟩
    · cases htext : Utf8.decode content with
      | none => simp [tools?, htext] at htools
      | some text => rfl
    · obtain rfl := Option.some.inj (htools.symm.trans hmem)
      rfl
  · cases h

variable {fs : FileSystem} {path : FilePath}

theorem readText_of_decode {text : Text} (hread : fs.read path = .ok content)
    (htext : Utf8.decode content = some text) : readText fs path = .ok text := by
  have hfault : Utf8.fault? content = none :=
    Utf8.fault?_eq_none_iff.mpr (Option.isSome_of_eq_some htext)
  unfold readText
  rw [hread]
  simp only [Except.mapError, bind, Except.bind, htext, hfault]
  rfl

theorem readText_of_not_decode (hread : fs.read path = .ok content)
    (htext : Utf8.decode content = none) :
    ∃ fault, readText fs path = .error (.undecodable fault) := by
  obtain ⟨fault, hfault⟩ : ∃ fault, Utf8.fault? content = some fault := by
    rw [← Option.ne_none_iff_exists', Ne, Utf8.fault?_eq_none_iff, htext]
    exact Bool.false_ne_true
  refine ⟨fault, ?_⟩
  unfold readText
  rw [hread]
  simp only [Except.mapError, bind, Except.bind, htext, hfault]
  rfl

theorem readFile_of_decode {text : Text} (hread : fs.read path = .ok content)
    (htext : Utf8.decode content = some text) (format : Format) :
    format.readFile fs path = .ok text := by
  have hdone := readText_of_decode hread htext
  cases format with
  | toml | json => exact hdone
  | yaml =>
    simp only [Format.readFile, readPieces, hdone]
    rfl

theorem readFile_of_not_decode (hread : fs.read path = .ok content)
    (htext : Utf8.decode content = none) (format : Format) :
    ∃ fault, format.readFile fs path = .error (.undecodable fault) := by
  obtain ⟨fault, hfault⟩ := readText_of_not_decode hread htext
  cases format with
  | toml | json => exact ⟨fault, hfault⟩
  | yaml =>
    simp only [Format.readFile, readPieces, hfault]
    exact ⟨_, rfl⟩

theorem loadSection_of_not_decode (hread : fs.read path = .ok content)
    (htext : Utf8.decode content = none) :
    ∃ fault, loadSection fs path readers = .error (.undecodable fault) := by
  obtain ⟨fault, hfault⟩ := readText_of_not_decode hread htext
  refine ⟨fault, ?_⟩
  rw [loadSection, hfault]
  rfl

theorem loadSection_of_hasStrayTools (hread : fs.read path = .ok content)
    (hstray : HasStrayTools readers content) :
    loadSection fs path readers = .error .toolsKind := by
  obtain ⟨tools, htools, hkind⟩ := hstray
  obtain ⟨table, hdocument, htable⟩ := Option.bind_eq_some_iff.mp htools
  obtain ⟨text, htext, hread'⟩ := Option.bind_eq_some_iff.mp hdocument
  rw [loadSection, readText_of_decode hread htext]
  simp only [bind, Except.bind, hread', htable]
  cases tools with
  | map entries => cases hkind
  | _ => rfl

/-- An ordinary project's file yields the settings in it, or none, or an error that says what they
are instead. -/
theorem loadSection_of_isOrdinaryProject (hread : fs.read path = .ok content)
    (hproject : IsOrdinaryProject readers content) :
    loadSection fs path readers = .ok ((settings? readers content).getD []) ∨
      settings? readers content = none ∧
        ∃ error, loadSection fs path readers = .error error ∧ error.isExpected = true := by
  obtain ⟨hdecode, hmap⟩ := hproject
  obtain ⟨text, htext⟩ := Option.isSome_iff_exists.mp hdecode
  have htools : tools? readers content =
      (readers.toml text).bind fun table => table.get? toolTable := by
    rw [tools?, htext, Option.bind_some]
  rw [htools] at hmap
  rw [loadSection, readText_of_decode hread htext, settings?, htools]
  simp only [bind, Except.bind]
  cases htable : readers.toml text with
  | none => exact .inr ⟨rfl, _, rfl, rfl⟩
  | some table =>
    rw [htable] at hmap
    dsimp only [Option.bind] at hmap ⊢
    cases hget : table.get? toolTable with
    | none => exact .inl rfl
    | some tools =>
      cases tools with
      | map entries =>
        dsimp only
        cases hsettings : Entries.get? toolName entries with
        | none => exact .inl rfl
        | some settings =>
          cases settings with
          | map settings => exact .inl rfl
          | _ => exact .inr ⟨rfl, _, rfl, rfl⟩
      | _ => cases hmap _ hget

/-- Whether an attempt ended in a way that is looked out for: with a result or with an error that
says why a file is not a configuration. -/
def IsContained {α : Type} (result : Except Error α) : Prop :=
  ∀ error, result = .error error → error.isExpected = true

theorem isContained_ok {α : Type} (a : α) : IsContained (.ok a) := nofun

theorem isContained_error_iff {α : Type} {error : Error} :
    IsContained (.error error : Except Error α) ↔ error.isExpected = true :=
  ⟨fun h => h error rfl, fun h _ heq => Except.error.inj heq ▸ h⟩

instance {α : Type} : (result : Except Error α) → Decidable (IsContained result)
  | .ok a => .isTrue (isContained_ok a)
  | .error _ => decidable_of_iff' _ isContained_error_iff

theorem isContained_loadSection_iff (hread : fs.read path = .ok content) :
    IsContained (loadSection fs path readers) ↔ IsOrdinaryProject readers content := by
  by_cases hproject : IsOrdinaryProject readers content
  · refine iff_of_true ?_ hproject
    obtain hsome | ⟨-, error, herror, hexpected⟩ :=
      loadSection_of_isOrdinaryProject hread hproject
    · rw [hsome]
      exact isContained_ok _
    · rw [herror]
      exact isContained_error_iff.mpr hexpected
  · refine iff_of_false ?_ hproject
    rw [isOrdinaryProject_iff, not_and_or, not_not, not_not] at hproject
    rcases hproject with htext | hstray
    · obtain ⟨fault, hfault⟩ : ∃ fault, loadSection fs path readers = .error (.undecodable fault) :=
        loadSection_of_not_decode hread htext
      rw [hfault, isContained_error_iff]
      exact Bool.false_ne_true
    · rw [loadSection_of_hasStrayTools hread hstray, isContained_error_iff]
      exact Bool.false_ne_true

/-- Whether loading a file looks into it: it is a project's file, or its suffix tells the format. -/
def IsLookedInto (path : FilePath) : Prop :=
  Text.lower path.name = projectFile ∨ (formats.lookup (Text.lower path.suffix)).isSome = true

/-- Loading a file that is there is contained unless the file is looked into and no text, or is a
project's file whose tools are no table. -/
theorem isContained_load_iff (hread : fs.read path = .ok content) :
    IsContained (load fs path readers) ↔
      ¬ ((IsLookedInto path ∧ Utf8.decode content = none) ∨
        (Text.lower path.name = projectFile ∧ HasStrayTools readers content)) := by
  have hfile : (fs.isFile path).mapError Error.unreadable = .ok true := by
    rw [FileSystem.isFile_of_read hread]
    rfl
  by_cases hname : Text.lower path.name = projectFile
  · have hload : load fs path readers = loadSection fs path readers := by
      rw [load, hfile]
      simp only [bind, Except.bind, if_pos hname, if_true]
    rw [hload, isContained_loadSection_iff hread, isOrdinaryProject_iff, not_or]
    simp only [IsLookedInto, hname, true_or, true_and, ne_eq]
  · rw [load, hfile]
    simp only [bind, Except.bind, hname, if_true, if_false, IsLookedInto, false_or, false_and,
      or_false]
    cases hformat : formats.lookup (Text.lower path.suffix) with
    | none => exact iff_of_true (isContained_error_iff.mpr rfl) (by simp)
    | some format =>
      cases htext : Utf8.decode content with
      | none =>
        obtain ⟨fault, hfault⟩ := readFile_of_not_decode hread htext format
        simp only [hfault]
        exact iff_of_false (fun h => Bool.false_ne_true (isContained_error_iff.mp h)) (by simp)
      | some text =>
        simp only [readFile_of_decode hread htext format]
        refine iff_of_true ?_ (by simp)
        split
        · exact isContained_error_iff.mpr rfl
        · exact isContained_ok _
        · exact isContained_ok _
        · exact isContained_error_iff.mpr rfl

end Config

end DocumentStream
