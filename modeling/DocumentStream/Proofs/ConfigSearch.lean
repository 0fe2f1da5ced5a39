import Mathlib.Data.List.Find
import Mathlib.Data.List.Infix
import DocumentStream.Config.Search
import DocumentStream.Config.Standard
import DocumentStream.Proofs.ConfigLoading
import DocumentStream.Proofs.FallibleSearch

/-!
In which order configurations are looked for, and which one applies. A search asks of one file after
another whether it is taken, and ends at the first that is or of which it cannot be told. Where the
files are given by their contents, and every project's file is an ordinary one, it can always be
told, so that the first file that is taken is found.
-/

namespace DocumentStream

/-- Whether contents tell what is at each of some paths: a file with that content, or no file where
there is no content. -/
def FileSystem.IsGivenBy (fs : FileSystem) (contents : FilePath → Option Bytes)
    (paths : List FilePath) : Prop :=
  ∀ path ∈ paths, fs.isFile path = .ok (contents path).isSome ∧
    (fs.read path).toOption = contents path

namespace Config

/-- The files that a search from a directory looks for, in order: those of the directory itself
first and those of the root last, and in each directory a project's file after all others. -/
def candidates (start : Location) : List FilePath :=
  start.inits.reverse.flatMap fun directory : Location =>
    (fileNames ++ [projectFile]).map directory.path.child

/-- The files that are looked for in the home directory. -/
def homeCandidates (fs : FileSystem) : List FilePath := fileNames.map fs.home.path.child

/-- Whether a file is taken, by its content if there is one. A project's file has to hold settings
for this tool. -/
def isHit (readers : Readers) (path : FilePath) (content? : Option Bytes) : Bool :=
  match content? with
  | none => false
  | some content =>
    path.name != projectFile || (settings? readers content).any fun settings => !settings.isEmpty

/-- Asks of a file whether it is taken. It fails where the search does. -/
def probe (fs : FileSystem) (readers : Readers) (path : FilePath) : Except Error Bool := do
  if ← isFile fs path then
    if path.name = projectFile then
      match loadSection fs path readers with
      | .ok settings => return !settings.isEmpty
      | .error error => if error.isExpected then return false else throw error
    else
      return true
  else
    return false

/-- What is above a location are its beginnings, the longest first. -/
theorem upwards_eq (start : Location) : upwards start = start.inits.reverse := by
  apply List.ext_getElem
  · simp [upwards]
  · intro n hn _
    simp [upwards]

theorem name_child (directory : Location) (name : Text) :
    (directory.path.child name).name = name := by
  simp [FilePath.child, FilePath.name]

variable {fs : FileSystem} {readers : Readers}

theorem probe_of_name_ne {path : FilePath} (h : path.name ≠ projectFile) :
    probe fs readers path = isFile fs path := by
  rw [probe]
  cases isFile fs path with
  | error error => rfl
  | ok isThere =>
    cases isThere with
    | true => simp [bind, Except.bind, h, pure, Except.pure]
    | false => rfl

/-- Whether it cannot be told of a file if it is taken: there is no answer to whether it is there,
or it is a project's file that is no text or whose tools are no table. -/
def Stops (fs : FileSystem) (readers : Readers) (path : FilePath) : Prop :=
  (∃ fault, fs.isFile path = .error fault) ∨
    path.name = projectFile ∧ ∃ content, fs.read path = .ok content ∧
      (Utf8.decode content = none ∨ HasStrayTools readers content)

theorem isFile_of_read {path : FilePath} {content : Bytes} (hread : fs.read path = .ok content) :
    isFile fs path = .ok true := by
  rw [isFile, FileSystem.isFile_of_read hread]
  rfl

/-- A project's file is asked for its settings. -/
theorem probe_of_name_eq {path : FilePath} {content : Bytes} (hread : fs.read path = .ok content)
    (hname : path.name = projectFile) :
    probe fs readers path =
      match loadSection fs path readers with
      | .ok settings => .ok !settings.isEmpty
      | .error error => if error.isExpected then .ok false else .error error := by
  rw [probe, isFile_of_read hread]
  simp only [bind, Except.bind, if_true, hname]
  rfl

theorem probe_of_isOrdinaryProject {path : FilePath} {content : Bytes}
    (hread : fs.read path = .ok content) (hname : path.name = projectFile)
    (hproject : IsOrdinaryProject readers content) :
    probe fs readers path = .ok (isHit readers path (some content)) := by
  have hhit : isHit readers path (some content) =
      !((settings? readers content).getD []).isEmpty := by
    rw [isHit, hname, bne_self_eq_false, Bool.false_or]
    cases settings? readers content <;> rfl
  rw [probe_of_name_eq hread hname, hhit]
  obtain hsettings | ⟨hnone, error, herror, hexpected⟩ :=
    loadSection_of_isOrdinaryProject hread hproject
  · rw [hsettings]
  · rw [herror, hnone]
    exact if_pos hexpected

theorem probe_of_not_isOrdinaryProject {path : FilePath} {content : Bytes}
    (hread : fs.read path = .ok content) (hname : path.name = projectFile)
    (hproject : ¬ IsOrdinaryProject readers content) :
    ∃ error, probe fs readers path = .error error := by
  rw [← isContained_loadSection_iff hread] at hproject
  rw [probe_of_name_eq hread hname]
  cases hsection : loadSection fs path readers with
  | ok settings =>
    rw [hsection] at hproject
    exact absurd (isContained_ok settings) hproject
  | error error =>
    rw [hsection, isContained_error_iff] at hproject
    exact ⟨error, if_neg hproject⟩

theorem probe_of_stops {path : FilePath} (h : Stops fs readers path) :
    ∃ error, probe fs readers path = .error error := by
  rcases h with ⟨fault, hfault⟩ | ⟨hname, content, hread, hcontent⟩
  · rw [probe, isFile, hfault]
    exact ⟨_, rfl⟩
  · refine probe_of_not_isOrdinaryProject hread hname ?_
    rw [isOrdinaryProject_iff, not_and_or, not_not, not_not]
    exact hcontent

theorem probe_of_not_stops {path : FilePath} (h : ¬ Stops fs readers path) :
    probe fs readers path = .ok (isHit readers path (fs.read path).toOption) := by
  rw [Stops, not_or] at h
  cases hfile : fs.isFile path with
  | error fault => exact absurd ⟨fault, hfile⟩ h.1
  | ok isThere =>
    cases hread : fs.read path with
    | error fault =>
      cases isThere with
      | true =>
        obtain ⟨content, hcontent⟩ := FileSystem.exists_read_of_isFile hfile
        cases hread.symm.trans hcontent
      | false =>
        rw [probe, isFile, hfile]
        rfl
    | ok content =>
      by_cases hname : path.name = projectFile
      · refine probe_of_isOrdinaryProject hread hname (isOrdinaryProject_iff.mpr ?_)
        exact not_or.mp fun hcontent => h.2 ⟨hname, content, hread, hcontent⟩
      · rw [probe_of_name_ne hname, isFile_of_read hread, Except.toOption, isHit,
          bne_iff_ne.mpr hname]
        rfl

theorem firstFile_eq (readers : Readers) (directory : Location) {names : List Text}
    (h : projectFile ∉ names) :
    firstFile fs directory names =
      (names.map directory.path.child).findM? (probe fs readers) := by
  induction names with
  | nil => rfl
  | cons name names ih =>
    rw [List.mem_cons, not_or] at h
    rw [firstFile, List.map_cons, List.findM?, ih h.2,
      probe_of_name_ne (by rw [name_child]; exact Ne.symm h.1)]
    refine bind_congr fun isThere => ?_
    cases isThere <;> rfl

theorem projectIn_eq (directory : Location) :
    projectIn fs directory readers =
      [directory.path.child projectFile].findM? (probe fs readers) := by
  rw [projectIn, List.findM?, probe, name_child]
  cases isFile fs (directory.path.child projectFile) with
  | error error => rfl
  | ok isThere =>
    cases isThere with
    | false => rfl
    | true =>
      simp only [bind, Except.bind, if_true]
      cases loadSection fs (directory.path.child projectFile) readers with
      | ok settings => cases settings <;> rfl
      | error error => cases hexpected : error.isExpected <;> simp [hexpected] <;> rfl

theorem projectFile_notMem_fileNames : projectFile ∉ fileNames := by decide

theorem findIn_eq (directory : Location) :
    findIn fs directory readers =
      ((fileNames ++ [projectFile]).map directory.path.child).findM? (probe fs readers) := by
  rw [findIn, firstFile_eq readers directory projectFile_notMem_fileNames, projectIn_eq,
    List.map_append, findM?_append]
  exact bind_congr fun found => by cases found <;> rfl

theorem findFirst_eq (directories : List Location) :
    findFirst fs directories readers =
      (directories.flatMap fun directory : Location =>
        (fileNames ++ [projectFile]).map directory.path.child).findM? (probe fs readers) := by
  induction directories with
  | nil => rfl
  | cons directory directories ih =>
    rw [findFirst, findIn_eq, ih, List.flatMap_cons, findM?_append]
    exact bind_congr fun found => by cases found <;> rfl

theorem find_eq (start : Location) :
    find fs start readers = (candidates start).findM? (probe fs readers) := by
  rw [find, findFirst_eq, upwards_eq]
  rfl

theorem discover_eq :
    discover fs readers = (candidates fs.work ++ homeCandidates fs).findM? (probe fs readers) := by
  rw [discover, find_eq, firstFile_eq readers fs.home projectFile_notMem_fileNames, findM?_append]
  exact bind_congr fun found => by cases found <;> rfl

/-- Whether all the project's files among some paths are ordinary ones. -/
def HasOrdinaryProjects (readers : Readers) (contents : FilePath → Option Bytes)
    (paths : List FilePath) : Prop :=
  ∀ path ∈ paths, path.name = projectFile →
    ∀ content ∈ contents path, IsOrdinaryProject readers content

instance (contents : FilePath → Option Bytes) (paths : List FilePath) :
    Decidable (HasOrdinaryProjects readers contents paths) :=
  inferInstanceAs (Decidable (∀ path ∈ paths, path.name = projectFile →
    ∀ content ∈ contents path, IsOrdinaryProject readers content))

variable {contents : FilePath → Option Bytes} {paths : List FilePath}

theorem not_stops_of_isGivenBy (hgiven : fs.IsGivenBy contents paths)
    (hprojects : HasOrdinaryProjects readers contents paths) {path : FilePath}
    (hpath : path ∈ paths) : ¬ Stops fs readers path := by
  obtain ⟨hfile, hread⟩ := hgiven path hpath
  rintro (⟨fault, hfault⟩ | ⟨hname, content, hcontent, hstops⟩)
  · cases hfile.symm.trans hfault
  · rw [hcontent] at hread
    obtain ⟨htext, hstray⟩ :=
      isOrdinaryProject_iff.mp (hprojects path hpath hname content hread.symm)
    exact hstops.elim htext hstray

theorem probe_of_isGivenBy (hgiven : fs.IsGivenBy contents paths)
    (hprojects : HasOrdinaryProjects readers contents paths) {path : FilePath}
    (hpath : path ∈ paths) : probe fs readers path = .ok (isHit readers path (contents path)) := by
  rw [← (hgiven path hpath).2]
  exact probe_of_not_stops (not_stops_of_isGivenBy hgiven hprojects hpath)

theorem name_of_mem_homeCandidates {path : FilePath} (h : path ∈ homeCandidates fs) :
    path.name ≠ projectFile := by
  obtain ⟨name, hname, rfl⟩ := List.mem_map.mp h
  rw [name_child]
  exact ne_of_mem_of_not_mem hname projectFile_notMem_fileNames

theorem find_eq_find? {start : Location} (hgiven : fs.IsGivenBy contents (candidates start))
    (hprojects : HasOrdinaryProjects readers contents (candidates start)) :
    find fs start readers =
      .ok ((candidates start).find? fun path => isHit readers path (contents path)) := by
  rw [find_eq]
  exact findM?_eq_find? fun path hpath => probe_of_isGivenBy hgiven hprojects hpath

theorem discover_eq_find?
    (hgiven : fs.IsGivenBy contents (candidates fs.work ++ homeCandidates fs))
    (hprojects : HasOrdinaryProjects readers contents (candidates fs.work)) :
    discover fs readers =
      .ok (((candidates fs.work).find? fun path => isHit readers path (contents path)).or
        ((homeCandidates fs).find? fun path => (contents path).isSome)) := by
  have hhome : ∀ path ∈ homeCandidates fs,
      isHit readers path (contents path) = (contents path).isSome := by
    intro path hpath
    cases contents path with
    | none => rfl
    | some content => rw [isHit, bne_iff_ne.mpr (name_of_mem_homeCandidates hpath)]; rfl
  have hprojects' :
      HasOrdinaryProjects readers contents (candidates fs.work ++ homeCandidates fs) := by
    intro path hpath hname
    rcases List.mem_append.mp hpath with hwork | hhome
    · exact hprojects path hwork hname
    · exact absurd hname (name_of_mem_homeCandidates hhome)
  rw [discover_eq, findM?_eq_find? fun path hpath => probe_of_isGivenBy hgiven hprojects' hpath,
    List.find?_append, List.find?_congr hhome]

theorem named_cons_of_ne_nil {name : Text} (h : name ≠ []) (names : List (Option Text)) :
    named (some name :: names) = some name := by
  simp [named, List.findSome?, Option.filter, h]

theorem named_cons_of_getD_eq_nil {name? : Option Text} (h : name?.getD [] = [])
    (names : List (Option Text)) : named (name? :: names) = named names := by
  cases name? with
  | none => rfl
  | some name =>
    obtain rfl : name = [] := h
    rfl

/-- A search takes the first file in its order that is a hit, and comes to an end with it. The
configuration that applies is that of a file which is named, first by the user and then by the
environment, and else that of the first hit of the search from the working directory, and else that
of the first file in the home directory. What loading the file yields is the result, an error
too. -/
theorem loadApplicable_in_search_order (fs : FileSystem) (readers : Readers)
    (contents : FilePath → Option Bytes) :
    (∀ start, fs.IsGivenBy contents (candidates start) →
      HasOrdinaryProjects readers contents (candidates start) →
      find fs start readers =
        .ok ((candidates start).find? fun path => isHit readers path (contents path))) ∧
    (∀ name environment, name ≠ [] →
      loadApplicable fs (some name) environment readers = load fs (.ofText name) readers) ∧
    (∀ given name, given.getD [] = [] → name ≠ [] →
      loadApplicable fs given (some name) readers = load fs (.ofText name) readers) ∧
    (∀ given environment, given.getD [] = [] → environment.getD [] = [] →
      fs.IsGivenBy contents (candidates fs.work ++ homeCandidates fs) →
      HasOrdinaryProjects readers contents (candidates fs.work) →
      loadApplicable fs given environment readers =
        (((candidates fs.work).find? fun path => isHit readers path (contents path)).or
          ((homeCandidates fs).find? fun path => (contents path).isSome)).elim (.ok []) fun path =>
            load fs path readers) := by
  refine ⟨fun start hgiven hprojects => find_eq_find? hgiven hprojects, ?_, ?_, ?_⟩
  · intro name environment hname
    rw [loadApplicable, named_cons_of_ne_nil hname]
  · intro given name hgiven hname
    rw [loadApplicable, named_cons_of_getD_eq_nil hgiven, named_cons_of_ne_nil hname]
  · intro given environment hnone hempty hgiven hprojects
    rw [loadApplicable, named_cons_of_getD_eq_nil hnone, named_cons_of_getD_eq_nil hempty,
      discover_eq_find? hgiven hprojects]
    cases ((candidates fs.work).find? fun path => isHit readers path (contents path)).or
      ((homeCandidates fs).find? fun path => (contents path).isSome) <;> rfl

/-- From a directory with a foreign project's file, below one with a broken project's file and a
configuration. -/
theorem loadApplicable_in_search_order_above :
    let foreign : Location := ["w".toList, "d".toList, projectFile]
    let broken : Location := ["w".toList, projectFile]
    let own : Location := ["w".toList, ".events2md.yml".toList]
    let fs : FileSystem :=
      { files :=
          [(foreign, Utf8.encode "[tool.x]\n".toList), (broken, Utf8.encode ['[']), (own, [])]
        work := ["w".toList, "d".toList] }
    find fs fs.work .standard = .ok (some own.path) ∧
      loadApplicable fs (some ['a']) (some ['b']) .standard = load fs (.ofText ['a']) .standard ∧
      loadApplicable fs (some []) (some ['b']) .standard = load fs (.ofText ['b']) .standard ∧
      loadApplicable fs none (some []) .standard = load fs own.path .standard := by
  intro foreign broken own fs
  let contents (path : FilePath) : Option Bytes := (fs.read path).toOption
  have hgiven : fs.IsGivenBy contents (candidates fs.work ++ homeCandidates fs) := by
    refine fun path hpath => ⟨eq_ok_of_toOption ?_, rfl⟩
    revert path
    decide +kernel
  have hprojects : HasOrdinaryProjects .standard contents (candidates fs.work) := by
    decide +kernel
  have hfirst : ((candidates fs.work).find? fun path => isHit .standard path (contents path)) =
      some own.path := by
    decide +kernel
  obtain ⟨hfind, hnamed, henvironment, hfound⟩ :=
    loadApplicable_in_search_order fs .standard contents
  refine ⟨?_, hnamed _ _ (by decide), henvironment _ _ rfl (by decide), ?_⟩
  · rw [hfind fs.work (fun path hpath => hgiven path (List.mem_append_left _ hpath)) hprojects,
      hfirst]
  · rw [hfound none (some []) rfl rfl hgiven hprojects, hfirst]
    rfl

end Config

end DocumentStream
