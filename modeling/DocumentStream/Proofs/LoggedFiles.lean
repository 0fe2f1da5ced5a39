import DocumentStream.Logger

/-!
What logging does to files. Records go to the ends of the files that the handlers write to, and no
other file changes. As long as those files exist it does not even change which places are taken, so
all paths lead where they led before.
-/

namespace DocumentStream

namespace FileSystem

theorem lookup_replace (files : List (Location × Bytes)) (place other : Location)
    (content : Bytes) :
    (files.map fun file => if file.1 = place then (place, content) else file).lookup other =
      if other = place then (files.lookup place).map fun _ => content
      else files.lookup other := by
  induction files with
  | nil => simp
  | cons file rest ih =>
    obtain ⟨key, old⟩ := file
    rw [List.map_cons, List.lookup_cons, List.lookup_cons, ih]
    by_cases hother : other = place
    · subst hother
      by_cases hkey : key = other
      · simp [hkey]
      · have hne : (other == key) = false := beq_eq_false_iff_ne.mpr (Ne.symm hkey)
        simp [hkey, hne]
    · by_cases hkey : key = place
      · have hne : (other == place) = false := beq_eq_false_iff_ne.mpr hother
        simp [hkey, hother, hne, List.lookup_cons]
      · simp [hkey, hother, List.lookup_cons]

/-- A file that is put at a place is there, and all others are as they were. -/
theorem content?_put (fs : FileSystem) (place other : Location) (content : Bytes) :
    (fs.put place content).content? other =
      if other = place then some content else fs.content? other := by
  unfold put
  split
  · rename_i hthere
    obtain ⟨old, hold⟩ := Option.isSome_iff_exists.mp hthere
    rw [content?] at hold
    simp only [content?, lookup_replace, hold, Option.map_some]
  · rename_i hthere
    rw [Bool.not_eq_true, Option.isSome_eq_false_iff, Option.isNone_iff_eq_none] at hthere
    simp only [content?, List.lookup_append]
    by_cases hother : other = place
    · subst hother
      rw [content?] at hthere
      simp [hthere]
    · have hne : (other == place) = false := beq_eq_false_iff_ne.mpr hother
      simp [hother, List.lookup_cons, hne]

/-- File systems with files and directories at the same places. What the files hold may differ. -/
structure SamePlaces (fs fs' : FileSystem) : Prop where
  files : fs'.files.map Prod.fst = fs.files.map Prod.fst
  directories : fs'.directories = fs.directories
  work : fs'.work = fs.work

namespace SamePlaces

variable {fs fs' : FileSystem}

theorem refl (fs : FileSystem) : SamePlaces fs fs := ⟨rfl, rfl, rfl⟩

theorem trans {fs'' : FileSystem} (h : SamePlaces fs fs') (h' : SamePlaces fs' fs'') :
    SamePlaces fs fs'' :=
  ⟨h'.files.trans h.files, h'.directories.trans h.directories, h'.work.trans h.work⟩

theorem put {place : Location} (h : (fs.content? place).isSome = true) (content : Bytes) :
    SamePlaces fs (fs.put place content) := by
  rw [FileSystem.put, if_pos h]
  refine ⟨?_, rfl, rfl⟩
  rw [List.map_map]
  refine List.map_congr_left fun file _ => ?_
  by_cases hfile : file.1 = place <;> simp [hfile]

theorem isSome_content? (h : SamePlaces fs fs') (place : Location) :
    (fs'.content? place).isSome = (fs.content? place).isSome := by
  have hkeys : ∀ files : List (Location × Bytes),
      (files.lookup place).isSome = true ↔ place ∈ files.map Prod.fst := by
    intro files
    rw [List.lookup_isSome_iff]
    simp
  rw [Bool.eq_iff_iff, content?, content?, hkeys, hkeys, h.files]

theorem isDirectoryAt (h : SamePlaces fs fs') (place : Location) :
    fs'.isDirectoryAt place = fs.isDirectoryAt place := by
  have hkeys : ∀ files : List (Location × Bytes),
      (files.any fun file => place.isPrefixOf file.1 && place != file.1) =
        (files.map Prod.fst).any fun key => place.isPrefixOf key && place != key := by
    intro files
    rw [List.any_map]
    rfl
  rw [FileSystem.isDirectoryAt, FileSystem.isDirectoryAt, hkeys, hkeys, h.files, h.directories]

theorem walk (h : SamePlaces fs fs') (place : Location) (parts : List Text) :
    fs'.walk place parts = fs.walk place parts := by
  induction parts generalizing place with
  | nil => rfl
  | cons part rest ih =>
    simp only [FileSystem.walk, h.isDirectoryAt, h.isSome_content?, ih]

theorem place (h : SamePlaces fs fs') (path : FilePath) : fs'.place path = fs.place path := by
  simp only [FileSystem.place, locate, h.walk, h.isDirectoryAt, h.work]

end SamePlaces

end FileSystem

namespace Journal

/-- Whether the log goes to the file at a place. -/
def LogsTo (j : Journal) (place : Location) : Prop :=
  ∃ style, .file place style ∈ j.logger.handlers

/-- Whether the files that the log goes to are there. -/
def HasLogFiles (j : Journal) : Prop := ∀ place, j.LogsTo place → (j.files.content? place).isSome

/-- What there is after something was logged: the same logger, the same files apart from those that
the log goes to, which have only grown, and files at the same places as before if these existed. -/
structure Carries (j j' : Journal) : Prop where
  logger : j'.logger = j.logger
  content : ∀ place, ¬ j.LogsTo place → j'.files.content? place = j.files.content? place
  grown : ∀ place content, j.files.content? place = some content →
    ∃ more, j'.files.content? place = some (content ++ more)
  places : j.HasLogFiles → FileSystem.SamePlaces j.files j'.files

namespace Carries

variable {j j' j'' : Journal}

/-- Nothing but the errors shown has changed. -/
theorem of_files (hlogger : j'.logger = j.logger) (hfiles : j'.files = j.files) : Carries j j' where
  logger := hlogger
  content place _ := by rw [hfiles]
  grown place content h := ⟨[], by rw [hfiles, h, List.append_nil]⟩
  places _ := hfiles ▸ .refl _

theorem refl (j : Journal) : Carries j j := .of_files rfl rfl

theorem logsTo (h : Carries j j') (place : Location) : j'.LogsTo place ↔ j.LogsTo place := by
  rw [LogsTo, LogsTo, h.logger]

theorem hasLogFiles (h : Carries j j') (hfiles : j.HasLogFiles) : j'.HasLogFiles := by
  intro place hplace
  rw [(h.places hfiles).isSome_content?]
  exact hfiles place ((h.logsTo place).mp hplace)

theorem trans (h : Carries j j') (h' : Carries j' j'') : Carries j j'' where
  logger := h'.logger.trans h.logger
  content place hplace :=
    (h'.content place fun hlogs => hplace ((h.logsTo place).mp hlogs)).trans
      (h.content place hplace)
  grown place content hcontent := by
    obtain ⟨more, hmore⟩ := h.grown place content hcontent
    obtain ⟨more', hmore'⟩ := h'.grown place _ hmore
    exact ⟨more ++ more', by rw [hmore', List.append_assoc]⟩
  places hfiles := (h.places hfiles).trans (h'.places (h.hasLogFiles hfiles))

theorem writeError (j : Journal) (text : Text) : Carries j (j.writeError text) := .of_files rfl rfl

theorem handle (record : LogRecord) {handler : LogHandler} (h : handler ∈ j.logger.handlers) :
    Carries j (handle record j handler) := by
  cases handler with
  | errors style => exact writeError j _
  | foreign owner => exact refl j
  | file place style =>
    refine ⟨rfl, fun other hother => ?_, fun other content hcontent => ?_,
      fun hfiles => .put (hfiles place ⟨style, h⟩) _⟩
    · have hne : other ≠ place := by
        rintro rfl
        exact hother ⟨style, h⟩
      exact (FileSystem.content?_put _ _ _ _).trans (if_neg hne)
    · by_cases hother : other = place
      · subst hother
        refine ⟨Utf8.encode (record.line j.stamp style ++ ['\n']), ?_⟩
        rw [Journal.handle, FileSystem.append, FileSystem.content?_put, if_pos rfl, hcontent]
        rfl
      · refine ⟨[], ?_⟩
        rw [List.append_nil, ← hcontent]
        exact (FileSystem.content?_put _ _ _ _).trans (if_neg hother)

theorem foldl_handle (record : LogRecord) (handlers : List LogHandler)
    (h : ∀ handler ∈ handlers, handler ∈ j.logger.handlers) :
    Carries j (handlers.foldl (Journal.handle record) j) := by
  induction handlers generalizing j with
  | nil => exact refl j
  | cons handler rest ih =>
    rw [List.forall_mem_cons] at h
    have hfirst := handle record h.1
    exact hfirst.trans (ih fun other hother => hfirst.logger ▸ h.2 other hother)

theorem lastResort (record : LogRecord) (j : Journal) : Carries j (j.lastResort record) := by
  unfold Journal.lastResort
  split
  · exact writeError j _
  · exact refl j

theorem log (record : LogRecord) (j : Journal) : Carries j (j.log record) := by
  unfold Journal.log
  split
  · exact refl j
  · split
    · exact lastResort record j
    · split
      · exact refl j
      · split
        · exact lastResort record j
        · exact foldl_handle record _ fun _ h => h

theorem logAll (records : List LogRecord) (j : Journal) : Carries j (j.logAll records) := by
  induction records generalizing j with
  | nil => exact refl j
  | cons record rest ih => exact (log record j).trans (ih _)

end Carries

/-- The outcome of looking for the place of the log file, if one is named. -/
def logPlace? (fs : FileSystem) (file : Option Text) : Option (Except FileFault Location) :=
  (file.filter fun name => !name.isEmpty).map fun name => fs.place (fs.absolute (.ofText name))

/-- A journal that logs to the file of a name if it can be opened, and to no other, when the files
were as given before the log began. -/
structure Configured (fs : FileSystem) (file : Option Text) (j : Journal) : Prop where
  logsTo : ∀ place, j.LogsTo place ↔ logPlace? fs file = some (.ok place)
  hasLogFiles : j.HasLogFiles
  content : ∀ place, logPlace? fs file ≠ some (.ok place) →
    j.files.content? place = fs.content? place

theorem Configured.carries {fs : FileSystem} {file : Option Text} {j j' : Journal}
    (h : Configured fs file j) (hcarries : Carries j j') : Configured fs file j' where
  logsTo place := (hcarries.logsTo place).trans (h.logsTo place)
  hasLogFiles := hcarries.hasLogFiles h.hasLogFiles
  content place hplace :=
    (hcarries.content place fun hlogs => hplace ((h.logsTo place).mp hlogs)).trans
      (h.content place hplace)

theorem thresholdOf_label (level : LogLevel) :
    thresholdOf (.str level.label) = .ok (.ofLevel level) := by
  have hupper : Text.upper level.label = level.label := by
    cases level <;> decide +kernel
  have hfind : (LogLevel.all.find? fun other => other.label == level.label) = some level := by
    cases level <;> decide +kernel
  simp only [thresholdOf, Value.display, hupper, hfind]

variable {j : Journal} {name : Text} {style : LogStyle}

theorem run_openFile {place : Location}
    (h : j.files.place (j.files.absolute (.ofText name)) = .ok place) :
    (openFile name style).run j =
      .ok () (log (.ofLevel programLogger .debug ("Logging to file: ".toList ++ name))
        (install (.file place style) { j with files := j.files.append place [] })) := by
  rw [openFile, EStateM.run_bind, EStateM.run_get]
  dsimp only
  rw [h]
  rfl

theorem run_openFile_of_nulCharacter
    (h : j.files.place (j.files.absolute (.ofText name)) = .error .nulCharacter) :
    (openFile name style).run j = .error .nulCharacter j := by
  rw [openFile, EStateM.run_bind, EStateM.run_get]
  dsimp only
  rw [h]
  rfl

theorem run_openFile_of_error {fault : FileFault} (hfault : fault ≠ .nulCharacter)
    (h : j.files.place (j.files.absolute (.ofText name)) = .error fault) :
    ∃ record, (openFile name style).run j = .ok () (log record j) := by
  rw [openFile, EStateM.run_bind, EStateM.run_get]
  dsimp only
  rw [h]
  cases fault with
  | nulCharacter => exact absurd rfl hfault
  | _ => exact ⟨_, rfl⟩

theorem configured_of_not_logsTo {file : Option Text} (h : ∀ place, ¬ j.LogsTo place)
    (hfile : ∀ place, logPlace? j.files file ≠ some (.ok place)) : Configured j.files file j where
  logsTo place := by simp [h, hfile]
  hasLogFiles place hplace := absurd hplace (h place)
  content _ _ := rfl

theorem configured_install {file : Option Text} {place : Location}
    (h : ∀ place, ¬ j.LogsTo place) (hfile : logPlace? j.files file = some (.ok place)) :
    Configured j.files file
      (install (.file place style) { j with files := j.files.append place [] }) where
  logsTo other := by
    have hinstalled : ∀ style', LogHandler.file other style' ∉ j.logger.handlers :=
      fun style' hmem => h other ⟨style', hmem⟩
    simp [LogsTo, install, hinstalled, hfile, eq_comm]
  hasLogFiles other hother := by
    obtain ⟨style', hmem⟩ := hother
    rcases List.mem_append.mp hmem with hmem | hmem
    · exact absurd ⟨style', hmem⟩ (h other)
    · obtain ⟨rfl, rfl⟩ : other = place ∧ style' = style := by simpa using hmem
      simp [install, FileSystem.append, FileSystem.content?_put]
  content other hother := by
    have hne : other ≠ place := by
      rintro rfl
      exact hother hfile
    simp [install, FileSystem.append, FileSystem.content?_put, hne]

/-- A journal when it has been configured but for the log file. -/
def reset (threshold : Threshold) (style : LogStyle) (j : Journal) : Journal :=
  install (.errors style)
    { j with
      logger.handlers := j.logger.handlers.filter LogHandler.isForeign
      logger.level := if style = .traced then threshold.lowerTo .debug else threshold }

theorem run_configure {level : Value} {threshold : Threshold}
    (h : thresholdOf level = .ok threshold) (file : Option Text) (trace : Bool) :
    let style : LogStyle := if trace then .traced else .brief
    (configure level file trace).run j =
      (match file.filter fun name : Text => !name.isEmpty with
        | some name => openFile name style
        | none => pure ()).run (j.reset threshold style) := by
  simp only [configure, h, EStateM.run_bind, EStateM.run_modify]
  cases trace <;> rfl

theorem not_logsTo_reset (hhandlers : j.logger.handlers = []) (threshold : Threshold)
    (style : LogStyle) (place : Location) : ¬ (j.reset threshold style).LogsTo place := by
  simp [LogsTo, reset, install, hhandlers]

/-- Configuring a new logger fails only because of the name of the log file, and then the files are
as they were. -/
theorem configure_cases (level : LogLevel) (file : Option Text) (trace : Bool)
    (hhandlers : j.logger.handlers = []) :
    (logPlace? j.files file = some (.error .nulCharacter) ∧
        ∃ j', (configure (.str level.label) file trace).run j = .error .nulCharacter j' ∧
          j'.files = j.files) ∨
      logPlace? j.files file ≠ some (.error .nulCharacter) ∧
        ∃ j', (configure (.str level.label) file trace).run j = .ok () j' ∧
          Configured j.files file j' := by
  have hrun := run_configure (j := j) (thresholdOf_label level) file trace
  generalize (if trace then LogStyle.traced else .brief) = style at hrun
  have hlogs := not_logsTo_reset hhandlers (.ofLevel level) style
  have hplace? : logPlace? j.files file =
      (file.filter fun name : Text => !name.isEmpty).map fun name =>
        j.files.place (j.files.absolute (.ofText name)) := rfl
  rw [hrun]
  cases hfile : file.filter fun name : Text => !name.isEmpty with
  | none =>
    rw [hfile, Option.map_none] at hplace?
    exact .inr ⟨by simp [hplace?], _, rfl,
      configured_of_not_logsTo hlogs fun place => by simp [reset, install, hplace?]⟩
  | some name =>
    rw [hfile, Option.map_some] at hplace?
    cases hplace : j.files.place (j.files.absolute (.ofText name)) with
    | ok place =>
      rw [hplace] at hplace?
      refine .inr ⟨by simp [hplace?], _, run_openFile hplace, ?_⟩
      exact (configured_install hlogs hplace?).carries (.log _ _)
    | error fault =>
      rw [hplace] at hplace?
      by_cases hfault : fault = .nulCharacter
      · subst hfault
        exact .inl ⟨hplace?, _, run_openFile_of_nulCharacter hplace, rfl⟩
      · obtain ⟨record, hrun⟩ :=
          run_openFile_of_error (j := j.reset (.ofLevel level) style) hfault hplace
        refine .inr ⟨by simpa [hplace?] using hfault, _, hrun, ?_⟩
        have hnone : Configured j.files file (j.reset (.ofLevel level) style) :=
          configured_of_not_logsTo hlogs fun place => by simp [reset, install, hplace?]
        exact hnone.carries (.log _ _)

end Journal

end DocumentStream
