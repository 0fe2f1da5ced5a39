import Mathlib.Tactic.ByContra
import DocumentStream.Proofs.ConfigSearch

/-!
Which configuration files end a loading or a search with a fault that nobody looks out for. Loading
does so where a file is no text or the tools of a project's file are no table, and a search where it
comes to such a project's file before it has a hit.
-/

namespace DocumentStream.Config

variable {fs : FileSystem} {readers : Readers} {path : FilePath}

theorem isHit_of_stops (h : Stops fs readers path) :
    isHit readers path (fs.read path).toOption = false := by
  rcases h with ⟨fault, hfault⟩ | ⟨hname, content, hread, hcontent⟩
  · cases hread : fs.read path with
    | error fault => rfl
    | ok content => cases hfault.symm.trans (FileSystem.isFile_of_read hread)
  · have hsettings : settings? readers content = none := by
      by_contra hsome
      obtain ⟨settings, hsettings⟩ := Option.ne_none_iff_exists'.mp hsome
      obtain ⟨htext, hstray⟩ := isOrdinaryProject_iff.mp (isOrdinaryProject_of_settings hsettings)
      exact hcontent.elim htext hstray
    rw [hread, Except.toOption, isHit, hname, bne_self_eq_false, hsettings]
    rfl

theorem probe_eq_error_iff :
    (∃ error, probe fs readers path = .error error) ↔ Stops fs readers path := by
  refine ⟨fun ⟨error, herror⟩ => ?_, probe_of_stops⟩
  by_contra hstops
  cases herror.symm.trans (probe_of_not_stops hstops)

theorem probe_ne_true_iff :
    probe fs readers path ≠ .ok true ↔ isHit readers path (fs.read path).toOption = false := by
  by_cases hstops : Stops fs readers path
  · obtain ⟨error, herror⟩ := probe_of_stops hstops
    rw [herror]
    exact iff_of_true nofun (isHit_of_stops hstops)
  · rw [probe_of_not_stops hstops, Ne, Except.ok.injEq, Bool.not_eq_true]

/-- Loading a file that is there is contained unless the file is looked into and no text, or is a
project's file whose tools are no table. A search is contained unless a file that is looked for has
no hit before it and stops the search. -/
theorem contained_iff (fs : FileSystem) (readers : Readers) :
    (∀ path content, fs.read path = .ok content →
      (IsContained (load fs path readers) ↔
        ¬ ((IsLookedInto path ∧ Utf8.decode content = none) ∨
          (Text.lower path.name = projectFile ∧ HasStrayTools readers content)))) ∧
    ∀ start, (∃ found, find fs start readers = .ok found) ↔
      ¬ ∃ before path after, candidates start = before ++ path :: after ∧
        (∀ earlier ∈ before, isHit readers earlier (fs.read earlier).toOption = false) ∧
        Stops fs readers path := by
  refine ⟨fun path content hread => isContained_load_iff hread, fun start => ?_⟩
  have hstopped : (∃ error, find fs start readers = .error error) ↔
      ∃ before path after, candidates start = before ++ path :: after ∧
        (∀ earlier ∈ before, isHit readers earlier (fs.read earlier).toOption = false) ∧
        Stops fs readers path := by
    rw [find_eq, findM?_eq_error_iff]
    simp only [probe_ne_true_iff, probe_eq_error_iff]
  rw [← hstopped]
  cases find fs start readers with
  | ok found => exact iff_of_true ⟨found, rfl⟩ (by simp)
  | error error => exact iff_of_false (by simp) (by simp)

/-- A project's file with settings for another tool only. -/
theorem contained_iff_foreign :
    let fs : FileSystem := { files := [([projectFile], Utf8.encode "[tool.x]\n".toList)] }
    IsContained (load fs (Location.path [projectFile]) .standard) ∧
      ∃ found, find fs [] .standard = .ok found := by
  intro fs
  let contents (path : FilePath) : Option Bytes := (fs.read path).toOption
  have hgiven : fs.IsGivenBy contents (candidates []) := by
    refine fun path hpath => ⟨eq_ok_of_toOption ?_, rfl⟩
    revert path
    decide +kernel
  have hprojects : HasOrdinaryProjects .standard contents (candidates []) := by
    decide +kernel
  have hread : fs.read (Location.path [projectFile]) =
      .ok (Utf8.encode "[tool.x]\n".toList) := by
    decide +kernel
  obtain ⟨hload, hfind⟩ := contained_iff fs .standard
  refine ⟨(hload _ _ hread).mpr ?_, (hfind []).mpr ?_⟩
  · rw [not_or]
    exact ⟨fun h => absurd h.2 (by decide +kernel), fun h => absurd h.2 (by decide +kernel)⟩
  · rintro ⟨before, path, after, hsplit, -, hstops⟩
    have hpath : path ∈ candidates [] := by
      rw [hsplit]
      exact List.mem_append_right _ List.mem_cons_self
    exact not_stops_of_isGivenBy hgiven hprojects hpath hstops

/-- The tools are a number in one project's file, and the other one is no text. Neither can be
loaded, nor can a search get past it. -/
theorem stray_projects_stop_search :
    let numbered : FileSystem := { files := [([projectFile], Utf8.encode "tool = 1".toList)] }
    let undecodable : FileSystem := { files := [([projectFile], [0xff])] }
    find numbered [] .standard = .error .toolsKind ∧
      ¬ IsContained (load numbered (Location.path [projectFile]) .standard) ∧
      ¬ IsContained (find undecodable [] .standard) ∧
      ¬ IsContained (load undecodable (Location.path [projectFile]) .standard) := by
  decide +kernel

end DocumentStream.Config
