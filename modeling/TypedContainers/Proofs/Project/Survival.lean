import TypedContainers.Proofs.Project.Places

/-!
# Files that survive a run

A run that keeps files leaves every file as it was, whether or not it gives a report,
with one exception: the module list is replaced by every real run that reports a unit.
-/

namespace TypedContainers

/-- Every file of the first tree is one of the second, with the same content. -/
def FileTree.KeepsFiles (before after : FileTree) : Prop :=
  ∀ location content, before.get? location = some (.file content) →
    after.get? location = some (.file content)

namespace Generation

variable {world after : World} {configuration : Path} {options : GenerateOptions}
variable {result : Except Failure GenerationReport}

/-- A run replaces a file by another module list. -/
def ReplacesList (world : World) (options : GenerateOptions)
    (result : Except Failure GenerationReport) (after : World) : Prop :=
  ∃ report location content,
    result = .ok report ∧ options.dryRun = false ∧ report.units ≠ [] ∧
    after.tree.LeadsTo world.workingDir (Output.moduleListFile options.outputDir) location ∧
    world.tree.get? location = some (.file content) ∧
    content ≠ .text (Source.moduleList (report.units.map (·.fileBaseName)))

/-- A run that keeps files leaves a file as it was, or leaves the module list in its
place. -/
theorem file_of_run (hkeep : options.force = false)
    (hrun : Action.runIn (run configuration options) world = (result, after))
    {location : Location} {content : Content}
    (hfile : world.tree.get? location = some (.file content)) :
    after.tree.get? location = some (.file content) ∨
      after.tree.LeadsTo world.workingDir (Output.moduleListFile options.outputDir)
        location ∧
      ∃ report, result = .ok report ∧ options.dryRun = false ∧ report.units ≠ [] ∧
        after.tree.get? location = some (.file (.text
          (Source.moduleList (report.units.map (·.fileBaseName))))) := by
  have hleaves := leaves_of_run world configuration options location
  rw [hrun] at hleaves
  cases hleaves with
  | same hsame => exact .inl (hsame.trans hfile)
  | directory hmissing _ _ => simp [hmissing] at hfile
  | unit _ _ _ _ hwritten =>
      rcases hwritten with hmissing | hforce
      · simp [hmissing] at hfile
      · simp [hkeep] at hforce
  | list _ hreport hreal hunits hleads htext _ =>
      exact .inr ⟨hleads, _, hreport, hreal, hunits, htext⟩

/-- A real run that reports a unit leaves its module list. -/
theorem moduleList_of_report {report : GenerationReport} (hreal : options.dryRun = false)
    (hrun : Action.runIn (run configuration options) world = (.ok report, after))
    (hunits : report.units ≠ []) {location : Location}
    (hleads : after.tree.LeadsTo world.workingDir
      (Output.moduleListFile options.outputDir) location) :
    after.tree.get? location =
      some (.file (.text (Source.moduleList (report.units.map (·.fileBaseName))))) := by
  obtain ⟨_, _, _, _, _, _, hwrote⟩ := report_eq_of_run hreal hrun
  obtain ⟨place, hplace, htext⟩ :=
    hwrote.exists_leadsTo (List.mem_append_right _ (mem_listTexts hunits))
  rwa [hplace.unique hleads] at htext

/-- What survives a run that keeps files.  Every file survives that is not the module
list, and all files survive exactly unless the run replaces the module list by
another. -/
theorem keepsFiles_of_run (hkeep : options.force = false)
    (hrun : Action.runIn (run configuration options) world = (result, after)) :
    (∀ location content, world.tree.get? location = some (.file content) →
      ¬after.tree.LeadsTo world.workingDir (Output.moduleListFile options.outputDir)
        location →
      after.tree.get? location = some (.file content)) ∧
    (world.tree.KeepsFiles after.tree ↔ ¬ReplacesList world options result after) := by
  constructor
  · intro location content hfile hother
    rcases file_of_run hkeep hrun hfile with hsame | ⟨hleads, _⟩
    · exact hsame
    · exact absurd hleads hother
  · constructor
    · rintro hkeeps ⟨report, location, content, rfl, hreal, hunits, hleads, hfile, hne⟩
      have htext := moduleList_of_report hreal hrun hunits hleads
      rw [hkeeps location content hfile] at htext
      exact hne (by simpa using htext)
    · intro hreplaces location content hfile
      rcases file_of_run hkeep hrun hfile with
        hsame | ⟨hleads, report, hreport, hreal, hunits, htext⟩
      · exact hsame
      · by_cases hcontent : content =
            .text (Source.moduleList (report.units.map (·.fileBaseName)))
        · rw [htext, hcontent]
        · exact absurd ⟨report, location, content, hreport, hreal, hunits, hleads, hfile,
            hcontent⟩ hreplaces

/-! ## The edited project -/

theorem leadsTo_edited {after : FileTree}
    (hkeep : FileTree.KeepsDirectories edited.tree after) :
    after.LeadsTo [] (Output.moduleListFile ⟨"out"⟩) ["mod.rs", "out"] := by
  have hleads := FileTree.leadsTo_join Output.isFileName_moduleList (by decide)
    resolve_edited
  exact hleads.of_keepsDirectories hkeep

/-- The edited module survives a run on the edited project. -/
theorem module_survives_edited : ∃ report after,
    Action.runIn (run ⟨"c.json"⟩ (into "out")) edited = (.ok report, after) ∧
    after.tree.get? ["Foo.rs", "out"] = some (.file (.text "// edited\n")) ∧
    ¬edited.tree.KeepsFiles after.tree := by
  obtain ⟨report, after, hrun, hunits, hwrote⟩ := exists_report_edited
  have hlist := leadsTo_edited hwrote.directories
  obtain ⟨hothers, hkeeps⟩ := keepsFiles_of_run rfl hrun
  refine ⟨report, after, hrun, ?_, ?_⟩
  · apply hothers _ _ rfl
    intro hleads
    exact absurd (hleads.unique hlist) (by decide)
  · rw [hkeeps, Classical.not_not]
    exact ⟨report, _, _, rfl, rfl, by simp [hunits], hlist, rfl, by rw [hunits]; decide⟩

/-- An edited module list does not survive a run without overwriting. -/
theorem not_keepsFiles_edited : (into "out").force = false ∧
    ¬edited.tree.KeepsFiles (Action.runIn (run ⟨"c.json"⟩ (into "out")) edited).2.tree := by
  obtain ⟨report, after, hrun, hunits, hwrote⟩ := exists_report_edited
  refine ⟨rfl, fun hkeeps => ?_⟩
  rw [hrun] at hkeeps
  have htext := moduleList_of_report rfl hrun (by simp [hunits])
    (leadsTo_edited hwrote.directories)
  rw [hkeeps _ _ rfl, hunits] at htext
  exact absurd htext (by decide)

end Generation

end TypedContainers
