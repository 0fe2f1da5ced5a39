import DocumentStream.Proofs.LoggedFiles

/-!
A logger over time. It is configured again and again, others attach handlers of their own to it and
detach them, and files come and go. The handlers of others are what their owners left them, and the
handlers that configuring installs are those of the last time.
-/

namespace DocumentStream

/-- What is done to a logger or to what it writes to. -/
inductive LoggerAct where
  | configure (level : Value) (file : Option Text) (trace : Bool)
  | attach (owner : Text)
  | detach (owner : Text)
  | log (record : LogRecord)
  | surround (files : FileSystem) (stamp : LogStamp)

namespace LoggerAct

/-- Who has a handler attached after an act, in the order in which they attached them. -/
def owners (owners : List Text) : LoggerAct → List Text
  | .attach owner => if owners.contains owner then owners else owners ++ [owner]
  | .detach owner => owners.erase owner
  | .configure .. | .log _ | .surround .. => owners

/-- Who takes a handler away. -/
def detached? : LoggerAct → Option Text
  | .detach owner => some owner
  | _ => none

/-- Those who do not take their handlers away keep them, in the same order. -/
theorem sublist_foldl_owners (acts : List LoggerAct) (owners : List Text) :
    (owners.filter (· ∉ acts.filterMap detached?)).Sublist
      (acts.foldl LoggerAct.owners owners) := by
  induction acts generalizing owners with
  | nil => simp
  | cons act rest ih =>
    refine List.Sublist.trans ?_ (ih _)
    cases act with
    | attach owner =>
      rw [LoggerAct.owners]
      split
      · exact List.Sublist.refl _
      · exact (List.sublist_append_left owners [owner]).filter _
    | detach owner =>
      have herase : (owners.filter (· ≠ owner)).Sublist (owners.erase owner) := by
        have hmem : owner ∉ owners.filter (· ≠ owner) := by simp
        rw [← List.erase_of_not_mem hmem]
        exact List.filter_sublist.erase owner
      have hfilter : owners.filter (· ∉ (LoggerAct.detach owner :: rest).filterMap detached?) =
          (owners.filter (· ≠ owner)).filter (· ∉ rest.filterMap detached?) := by
        rw [List.filter_filter, List.filterMap_cons_some (f := detached?) rfl]
        refine List.filter_congr fun other _ => ?_
        simp only [List.mem_cons, not_or, Bool.decide_and]
        exact Bool.and_comm _ _
      rw [hfilter]
      exact herase.filter _
    | configure | log | surround => exact List.Sublist.refl _

end LoggerAct

/-- The names of the levels, with their severities. -/
def LogLevel.named : List (String × Int) :=
  [("DEBUG", 10), ("INFO", 20), ("WARNING", 30), ("ERROR", 40), ("CRITICAL", 50)]

/-- What severity a value stands for where a level is asked for. An integer stands for itself, and
so does a truth value as zero or one. Any other value stands for the level that has its text as the
name, in any letter case. -/
inductive Value.LevelIs (value : Value) : Int → Prop where
  | number {severity : Int} (hnumber : value.numeric? = some (.int severity)) :
      LevelIs value severity
  | name {name : String} {severity : Int} (hnumber : ∀ n, value.numeric? ≠ some (.int n))
      (hname : Text.upper value.display = name.toList)
      (hmem : (name, severity) ∈ LogLevel.named) : LevelIs value severity

namespace LogLevel

theorem mem_named {name : String} {severity : Int} :
    (name, severity) ∈ named ↔
      ∃ level : LogLevel, level.label = name.toList ∧ level.severity = severity := by
  constructor
  · intro hmem
    simp only [named, List.mem_cons, Prod.mk.injEq, List.not_mem_nil, or_false] at hmem
    obtain ⟨rfl, rfl⟩ | ⟨rfl, rfl⟩ | ⟨rfl, rfl⟩ | ⟨rfl, rfl⟩ | ⟨rfl, rfl⟩ := hmem
    · exact ⟨.debug, rfl, rfl⟩
    · exact ⟨.info, rfl, rfl⟩
    · exact ⟨.warning, rfl, rfl⟩
    · exact ⟨.error, rfl, rfl⟩
    · exact ⟨.critical, rfl, rfl⟩
  · rintro ⟨level, hlabel, rfl⟩
    obtain rfl : String.ofList level.label = name := by rw [hlabel, String.ofList_toList]
    cases level <;> decide

theorem find?_label (level : LogLevel) :
    (all.find? fun other => other.label == level.label) = some level := by
  cases level <;> rfl

end LogLevel

theorem Threshold.least_lowerTo (level : LogLevel) (threshold : Threshold) :
    (threshold.lowerTo level).least = min threshold.least level.severity := by
  rw [lowerTo]
  split
  · rename_i hlower
    exact (Int.min_eq_right (Int.le_of_lt hlower)).symm
  · rename_i hlower
    exact (Int.min_eq_left (Int.not_lt.mp hlower)).symm

/-- Who installed the handler, if it was somebody else. -/
def LogHandler.owner? : LogHandler → Option Text
  | .foreign owner => some owner
  | _ => none

namespace Logger

/-- Who has a handler attached. -/
def owners (l : Logger) : List Text := l.handlers.filterMap LogHandler.owner?

theorem filter_isForeign (l : Logger) :
    l.handlers.filter LogHandler.isForeign = l.owners.map .foreign := by
  rw [owners]
  induction l.handlers with
  | nil => rfl
  | cons handler rest ih =>
    cases handler with
    | foreign owner =>
      rw [List.filter_cons_of_pos rfl, List.filterMap_cons_some (f := LogHandler.owner?) rfl,
        List.map_cons, ih]
    | errors | file =>
      rw [List.filter_cons_of_neg (by simp [LogHandler.isForeign]),
        List.filterMap_cons_none rfl, ih]

theorem mem_owners {l : Logger} {owner : Text} :
    owner ∈ l.owners ↔ .foreign owner ∈ l.handlers := by
  rw [owners, List.mem_filterMap]
  constructor
  · rintro ⟨handler, hmem, howner⟩
    cases handler with
    | foreign other => exact Option.some.inj howner ▸ hmem
    | _ => cases howner
  · exact fun hmem => ⟨_, hmem, rfl⟩

theorem filterMap_erase_foreign (handlers : List LogHandler) (owner : Text) :
    (handlers.erase (.foreign owner)).filterMap LogHandler.owner? =
      (handlers.filterMap LogHandler.owner?).erase owner := by
  induction handlers with
  | nil => rfl
  | cons handler rest ih =>
    cases handler with
    | foreign other =>
      rw [List.filterMap_cons_some (f := LogHandler.owner?) rfl, List.erase_cons, List.erase_cons]
      by_cases hother : other = owner
      · simp [hother]
      · simp [hother, List.filterMap_cons_some, LogHandler.owner?, ih]
    | errors | file =>
      rw [List.erase_cons_tail (by simp), List.filterMap_cons_none rfl,
        List.filterMap_cons_none rfl, ih]

end Logger

namespace Journal

theorem thresholdOf_of_not_integer {level : Value}
    (hnumber : ∀ n, level.numeric? ≠ some (.int n)) :
    thresholdOf level =
      match LogLevel.all.find? fun known => known.label == Text.upper level.display with
      | some known => .ok (.ofLevel known)
      | none => .error (.unknownLevel level) := by
  cases level with
  | int n => exact absurd rfl (hnumber n)
  | bool b => exact absurd rfl (hnumber b.toNat)
  | _ => rfl

/-- A value that stands for a severity is taken as a threshold of that severity. -/
theorem exists_thresholdOf_eq_ok {level : Value} {severity : Int} (h : level.LevelIs severity) :
    ∃ threshold, thresholdOf level = .ok threshold ∧ threshold.least = severity := by
  cases h with
  | number hnumber =>
    cases level with
    | int n => exact ⟨.severity n, rfl, Numeric.int.inj (Option.some.inj hnumber)⟩
    | bool b => exact ⟨.flag b, rfl, Numeric.int.inj (Option.some.inj hnumber)⟩
    | _ => cases hnumber
  | name hnumber hname hmem =>
    obtain ⟨known, hlabel, rfl⟩ := LogLevel.mem_named.mp hmem
    refine ⟨.ofLevel known, ?_, rfl⟩
    rw [thresholdOf_of_not_integer hnumber, hname, ← hlabel, LogLevel.find?_label]

/-- A value that stands for no severity is rejected by name. -/
theorem thresholdOf_eq_error {level : Value} (h : ∀ severity, ¬ level.LevelIs severity) :
    thresholdOf level = .error (.unknownLevel level) := by
  have hnumber : ∀ n, level.numeric? ≠ some (.int n) := fun n hn => h n (.number hn)
  rw [thresholdOf_of_not_integer hnumber]
  split
  · rename_i known hfind
    have hlabel : known.label = Text.upper level.display := by simpa using List.find?_some hfind
    have hname : Text.upper level.display = (String.ofList known.label).toList := by
      rw [String.toList_ofList, hlabel]
    refine absurd (.name hnumber hname (LogLevel.mem_named.mpr ⟨known, ?_, rfl⟩)) (h _)
    rw [String.toList_ofList]
  · rfl

/-- What an act makes of a journal. Configuring may fail, and the journal goes on from there. -/
def act (j : Journal) : LoggerAct → Journal
  | .configure level file trace =>
    match (configure level file trace).run j with
    | .ok _ j' | .error _ j' => j'
  | .attach owner =>
    if .foreign owner ∈ j.logger.handlers then j else j.install (.foreign owner)
  | .detach owner => { j with logger.handlers := j.logger.handlers.erase (.foreign owner) }
  | .log record => j.log record
  | .surround files stamp => { j with files, stamp }

/-- The handler of the log file, if that can be opened. -/
def fileHandlers (style : LogStyle) : Option (Except FileFault Location) → List LogHandler
  | some (.ok place) => [.file place style]
  | _ => []

theorem owner?_fileHandlers (style : LogStyle) (place? : Option (Except FileFault Location)) :
    (fileHandlers style place?).filterMap LogHandler.owner? = [] := by
  rcases place? with _ | _ | _ <;> rfl

/-- How configuring ends. It fails at the end, if the name of the log file cannot be one. -/
def ending (after : Journal) :
    Option (Except FileFault Location) → EStateM.Result LogError Journal Unit
  | some (.error .nulCharacter) => .error .nulCharacter after
  | _ => .ok () after

variable {j : Journal} {level : Value} {threshold : Threshold}

theorem run_configure_of_unknownLevel {fault : LogError} (h : thresholdOf level = .error fault)
    (file : Option Text) (trace : Bool) :
    (configure level file trace).run j = .error fault j := by
  simp only [configure, h, EStateM.run_bind]
  rfl

theorem run_openFile_eq_ending (name : Text) (style : LogStyle) :
    let place := j.files.place (j.files.absolute (.ofText name))
    ∃ after, (openFile name style).run j = ending after (some place) ∧
      after.logger =
        { j.logger with handlers := j.logger.handlers ++ fileHandlers style (some place) } := by
  intro place
  cases hplace : place with
  | ok place => exact ⟨_, run_openFile hplace, (Carries.log _ _).logger⟩
  | error fault =>
    rw [fileHandlers, List.append_nil]
    · by_cases hfault : fault = .nulCharacter
      · subst hfault
        exact ⟨j, run_openFile_of_nulCharacter hplace, rfl⟩
      · obtain ⟨record, hrun⟩ : ∃ record, (openFile name style).run j = .ok () (log record j) :=
          run_openFile_of_error hfault hplace
        refine ⟨_, hrun.trans ?_, (Carries.log record j).logger⟩
        cases fault <;> first | rfl | exact absurd rfl hfault
    · nofun

/-- What configuring does to the logger: its own handlers are installed anew behind those of
others. -/
theorem run_configure_eq_ending (h : thresholdOf level = .ok threshold) (file : Option Text)
    (trace : Bool) :
    let style : LogStyle := if trace then .traced else .brief
    ∃ after, (configure level file trace).run j = ending after (logPlace? j.files file) ∧
      after.logger.level = (if trace then threshold.lowerTo .debug else threshold) ∧
      after.logger.handlers =
        j.logger.owners.map .foreign ++
          .errors style :: fileHandlers style (logPlace? j.files file) := by
  intro style
  have hlevel : (j.reset threshold style).logger.level =
      if trace then threshold.lowerTo .debug else threshold := by cases trace <;> rfl
  have hhandlers : (j.reset threshold style).logger.handlers =
      j.logger.owners.map .foreign ++ [.errors style] := by
    rw [← Logger.filter_isForeign]
    rfl
  rw [run_configure h, logPlace?]
  cases file.filter fun name : Text => !name.isEmpty with
  | none => exact ⟨_, rfl, hlevel, hhandlers⟩
  | some name =>
    obtain ⟨after, hrun, hlogger⟩ :=
      run_openFile_eq_ending (j := j.reset threshold style) name style
    refine ⟨after, hrun, hlogger ▸ hlevel, ?_⟩
    rw [hlogger, hhandlers, List.append_assoc]
    rfl

/-- What is done to a logger changes who has handlers attached as it says. -/
theorem owners_act (j : Journal) (act : LoggerAct) :
    (j.act act).logger.owners = act.owners j.logger.owners := by
  cases act with
  | configure level file trace =>
    cases hlevel : thresholdOf level with
    | error fault => rw [Journal.act, run_configure_of_unknownLevel hlevel, LoggerAct.owners]
    | ok threshold =>
      obtain ⟨after, hrun, -, hhandlers⟩ := run_configure_eq_ending (j := j) hlevel file trace
      have hafter : j.act (.configure level file trace) = after := by
        rw [Journal.act, hrun]
        unfold ending
        split <;> rename_i hend <;> split at hend <;> cases hend <;> rfl
      rw [hafter, Logger.owners, hhandlers, List.filterMap_append,
        List.filterMap_cons_none (f := LogHandler.owner?) rfl, owner?_fileHandlers,
        List.append_nil, List.filterMap_map, LoggerAct.owners]
      exact List.filterMap_some
  | attach owner =>
    simp only [Journal.act, LoggerAct.owners, List.contains_iff_mem, Logger.mem_owners]
    split
    · rfl
    · simp [Logger.owners, install, LogHandler.owner?]
  | detach owner => exact Logger.filterMap_erase_foreign j.logger.handlers owner
  | log record => exact congrArg Logger.owners (Carries.log record j).logger
  | surround files stamp => rfl

theorem owners_foldl_act (j : Journal) (acts : List LoggerAct) :
    (acts.foldl act j).logger.owners = acts.foldl LoggerAct.owners j.logger.owners := by
  induction acts generalizing j with
  | nil => rfl
  | cons a rest ih => rw [List.foldl_cons, List.foldl_cons, ih, owners_act]

/-- Configuring replaces. Whatever was done before, those who have handlers attached are the ones
who attached them and did not take them away. A level that stands for no severity is reported and
changes nothing. With any other the logger has that severity, or that of the debug level if it is
traced and this is lower, and it keeps the handlers of others in their order, behind them one for
the error stream and, if the log file can be opened, one for the file, all of the same style, and
nothing of what was installed before. -/
theorem configure_replaces (j : Journal) (acts : List LoggerAct) (level : Value)
    (file : Option Text) (trace : Bool) :
    let before := acts.foldl act j
    let place? := logPlace? before.files file
    let style : LogStyle := if trace then .traced else .brief
    let owners := acts.foldl LoggerAct.owners j.logger.owners
    before.logger.owners = owners ∧
      (j.logger.owners.filter (· ∉ acts.filterMap LoggerAct.detached?)).Sublist owners ∧
      (∀ severity, level.LevelIs severity →
        ∃ after, (configure level file trace).run before = ending after place? ∧
          after.logger.level.least =
            (if trace then min severity LogLevel.debug.severity else severity) ∧
          after.logger.handlers =
            owners.map .foreign ++ .errors style :: fileHandlers style place?) ∧
      ((∀ severity, ¬ level.LevelIs severity) →
        (configure level file trace).run before = .error (.unknownLevel level) before) := by
  intro before place? style owners
  have howners : before.logger.owners = owners := owners_foldl_act j acts
  refine ⟨howners, LoggerAct.sublist_foldl_owners acts j.logger.owners, ?_, ?_⟩
  · intro severity hlevel
    obtain ⟨threshold, hthreshold, rfl⟩ := exists_thresholdOf_eq_ok hlevel
    obtain ⟨after, hrun, hafter, hhandlers⟩ :=
      run_configure_eq_ending (j := before) hthreshold file trace
    refine ⟨after, hrun, ?_, howners ▸ hhandlers⟩
    rw [hafter]
    cases trace with
    | false => rfl
    | true => exact threshold.least_lowerTo .debug
  · exact fun hlevel => run_configure_of_unknownLevel (thresholdOf_eq_error hlevel) file trace

/-- A file that was logged to is given up, and the handler of somebody else moves to the front. -/
example :
    let first : LoggerAct := .configure (.str "info".toList) (some "a.log".toList) false
    let before := [first, .attach "host".toList].foldl act {}
    before.logger.handlers =
        [.errors .brief, .file ["a.log".toList] .brief, .foreign "host".toList] ∧
      (before.act (.configure (.str "INFO".toList) none true)).logger.handlers =
        [.foreign "host".toList, .errors .traced] := by
  decide +kernel

end Journal

end DocumentStream
