import TypedContainers.Proofs.Files.Directories
import TypedContainers.Proofs.Project.Places
import TypedContainers.Proofs.Project.Preview

/-!
# Running another time

A real run that gives a report leaves nothing to do.  As long as it did not write over
its own configuration, a second run reads the same, finds the file of every unit, and
writes the module list with the text that it has.
-/

namespace TypedContainers

/-- Two paths lead to one place. -/
def FileTree.Meet (tree : FileTree) (workingDir : Location) (path other : Path) : Prop :=
  ∃ location, tree.LeadsTo workingDir path location ∧ tree.LeadsTo workingDir other location

/-- Different files of one directory never meet. -/
theorem FileTree.not_meet_join {tree : FileTree} {workingDir : Location} {directory : Path}
    {name other : String} (hname : IsFileName name) (hother : IsFileName other)
    (hne : directory.join name ≠ directory.join other) :
    ¬tree.Meet workingDir (directory.join name) (directory.join other) := by
  rintro ⟨location, hleads, hmeets⟩
  obtain ⟨parent, _, rfl⟩ := exists_resolve_of_leadsTo hname hleads
  obtain ⟨_, _, heq⟩ := exists_resolve_of_leadsTo hother hmeets
  exact hne (congrArg directory.join (List.cons.inj heq).1)

namespace Generation

open FileTree (IsFileName Wrote Created created_of_createDirs)
open Output (unitFile fileName keeps texts filesOf)

variable {world after : World} {configuration : Path} {options : GenerateOptions}
variable {units : List GeneratedUnit} {skipped : List String} {report : GenerationReport}

/-- No run moves to another directory. -/
theorem workingDir_of_run {result : Except Failure GenerationReport}
    (hrun : Action.runIn (run configuration options) world = (result, after)) :
    after.workingDir = world.workingDir := by
  rw [eq_of_run hrun]

/-- What comes before the first change depends on the text of the configuration only. -/
theorem prepared_congr
    (hread : after.readText configuration = world.readText configuration) :
    prepared after configuration options = prepared world configuration options := by
  rw [prepared, prepared, Configuration.declared, Configuration.declared, hread]

theorem exists_readText_of_prepared
    (hprepared : prepared world configuration options = .ok (units, skipped)) :
    ∃ text, world.tree.find world.workingDir configuration = .ok (.file (.text text)) := by
  obtain ⟨_, schemas, hdeclared, _⟩ := prepared_eq_ok_iff.mp hprepared
  obtain ⟨text, hread, _⟩ := bind_eq_ok_iff.mp hdeclared
  have htext := mapError_eq_ok_iff.mp hread
  rw [World.readText, FileTree.readText] at htext
  split at htext
  · simp at htext
  · simp at htext
  · simp at htext
  · rename_i known hfind
    exact ⟨known, hfind⟩

/-- What another run writes where all files of units are there, the first run has
written, if another run writes over files only when the first one did. -/
theorem mem_files_of_again (made : FileTree) {tree : FileTree} {workingDir : Location}
    {directory : Path} {force again : Bool} (hforce : again = true → force = true)
    (hexists : ∀ unit ∈ units,
      tree.pathExists workingDir (unitFile directory unit) = true) :
    ∀ file ∈ texts tree workingDir directory again units ++ listTexts units,
      file ∈ texts made workingDir directory force units ++ listTexts units := by
  intro file hfile
  rcases List.mem_append.mp hfile with htext | hlist
  · obtain ⟨unit, hunit, rfl⟩ := List.mem_map.mp htext
    obtain ⟨hunit, hkeeps⟩ := List.mem_filter.mp hunit
    have hagain : again = true := by simpa [keeps, hexists unit hunit] using hkeeps
    apply List.mem_append_left
    exact Output.mem_texts hunit (by simp [keeps, hforce hagain])
  · exact List.mem_append_right _ hlist

section Finished

variable (hreal : options.dryRun = false)
  (hrun : Action.runIn (run configuration options) world = (.ok report, after))
  (hapart : ∀ path ∈ report.written,
    ¬after.tree.Meet world.workingDir configuration path)
include hreal hrun

/-- Every written file is one of the output directory. -/
theorem exists_name_of_written : ∀ path ∈ report.written,
    ∃ name, IsFileName name ∧ path = options.outputDir.join name := by
  obtain ⟨made, _, hprepared, _, hwritten, _⟩ := report_eq_of_run hreal hrun
  obtain ⟨hnames, _, _⟩ := files_of_prepared hprepared
  intro path hpath
  rw [hwritten] at hpath
  rcases List.mem_append.mp hpath with hfile | hlist
  · obtain ⟨unit, hunit, rfl⟩ := List.mem_map.mp hfile
    exact ⟨fileName unit, hnames unit (List.mem_filter.mp hunit).1, rfl⟩
  · rw [listFiles] at hlist
    split at hlist
    · exact absurd hlist List.not_mem_nil
    · exact ⟨"mod.rs", Output.isFileName_moduleList, List.mem_singleton.mp hlist⟩

/-- No kept file is written, under this path or another. -/
theorem kept_apart_of_run : ∀ kept ∈ report.kept, kept ∉ report.written ∧
    ∀ file ∈ report.written, ∀ tree workingDir, ¬FileTree.Meet tree workingDir kept file := by
  obtain ⟨made, _, hprepared, _, hwritten, hkept, _⟩ := report_eq_of_run hreal hrun
  obtain ⟨hnames, hdistinct, hlist⟩ := files_of_prepared hprepared
  have hapart := nodup_files hnames hdistinct hlist made world.workingDir options.outputDir
    options.force
  rw [← hwritten, ← hkept, List.nodup_append] at hapart
  intro kept hmem
  have hnot : kept ∉ report.written := fun hfile => hapart.2.2 kept hfile kept hmem rfl
  refine ⟨hnot, ?_⟩
  intro file hfile tree workingDir
  have hne : kept ≠ file := fun heq => hnot (heq ▸ hfile)
  obtain ⟨name, hname, rfl⟩ := exists_name_of_written hreal hrun file hfile
  rw [hkept] at hmem
  obtain ⟨unit, hfiltered, rfl⟩ := List.mem_map.mp hmem
  exact FileTree.not_meet_join (hnames unit (List.mem_filter.mp hfiltered).1) hname hne

theorem pathExists_of_report : ∀ unit ∈ report.units,
    after.tree.pathExists world.workingDir (unitFile options.outputDir unit) = true := by
  obtain ⟨made, _, hprepared, _, _, _, hwrote⟩ := report_eq_of_run hreal hrun
  exact fun unit hunit => pathExists_of_handled (handled_of_finished hprepared hwrote) hunit

include hapart

/-- A configuration that is not written over is read as before. -/
theorem readText_of_report : after.readText configuration = world.readText configuration := by
  obtain ⟨made, hmade, hprepared, _, hwritten, _, hwrote⟩ := report_eq_of_run hreal hrun
  obtain ⟨text, hfind⟩ := exists_readText_of_prepared hprepared
  have hmadeFind := (created_of_createDirs hmade).find_of_ok hfind
  obtain ⟨hcheck, location, hwalk, hfile⟩ := FileTree.find_eq_ok_iff.mp hmadeFind
  have hleads : after.tree.LeadsTo world.workingDir configuration location :=
    FileTree.walk_of_keepsDirectories hwrote.directories hwalk
  have hsame : after.tree.get? location = made.get? location := by
    apply elsewhere_of_wrote hwrote
    intro path hpath hpathLeads
    exact hapart path (hwritten ▸ hpath) ⟨location, hleads, hpathLeads⟩
  have hafter : after.tree.find world.workingDir configuration = .ok (.file (.text text)) :=
    FileTree.find_eq_ok_iff.mpr ⟨hcheck, location, hleads, hsame.trans hfile⟩
  rw [World.readText, World.readText, workingDir_of_run hrun, FileTree.readText,
    FileTree.readText, hafter, hfind]

/-- Another run, which may write over files only if the first one did, gives a report of
the same units and leaves every place as it is. -/
theorem exists_report_again (force : Bool) (hforce : force = true → options.force = true) :
    ∃ again final,
      Action.runIn (run configuration { options with force := force }) after =
        (.ok again, final) ∧
      (∀ location, final.tree.get? location = after.tree.get? location) ∧
      again.units = report.units ∧ again.skipped = report.skipped ∧
      again.written = (filesOf after.tree world.workingDir options.outputDir force
        report.units).written ++ listFiles options.outputDir report.units ∧
      again.kept = (filesOf after.tree world.workingDir options.outputDir force
        report.units).kept := by
  obtain ⟨made, hmade, hprepared, _, _, _, hwrote⟩ := report_eq_of_run hreal hrun
  obtain ⟨hnames, _, _⟩ := files_of_prepared hprepared
  have hexists := pathExists_of_report hreal hrun
  rw [← workingDir_of_run hrun] at hmade hwrote hexists ⊢
  have hprepared : prepared after configuration { options with force := force } =
      .ok (report.units, report.skipped) :=
    (prepared_congr (readText_of_report hreal hrun hapart)).trans hprepared
  have hmade : after.tree.createDirs after.workingDir options.outputDir =
      (.ok (), after.tree) := FileTree.createDirs_again hmade hwrote.directories
  have hfiles := mem_files_of_again made hforce hexists
  have hunits : ∀ unit ∈ report.units,
      keeps after.tree after.workingDir options.outputDir force unit = false →
      ∃ changed, after.tree.writeFile after.workingDir (unitFile options.outputDir unit)
        (.text unit.text) = .ok changed := by
    intro unit hunit hkeeps
    have hmem := List.mem_append_left (listTexts report.units)
      (Output.mem_texts hunit hkeeps)
    have hfind := hwrote.written (fileName unit, unit.text) (hfiles _ hmem)
    exact FileTree.exists_writeFile_of_find (hnames unit hunit) hfind (.text unit.text)
  have hlist : report.units ≠ [] → ∃ changed, after.tree.writeFile after.workingDir
      (Output.moduleListFile options.outputDir)
      (.text (Source.moduleList (report.units.map (·.fileBaseName)))) = .ok changed := by
    intro hsome
    have hfind := hwrote.written ("mod.rs", _)
      (List.mem_append_right _ (mem_listTexts hsome))
    exact FileTree.exists_writeFile_of_find Output.isFileName_moduleList hfind (.text _)
  have hagain : ({ options with force := force } : GenerateOptions).dryRun = false := hreal
  obtain ⟨again, tree, events, hrerun, hsame, hrewrote⟩ :=
    exists_report_of_list hagain hprepared hmade hunits hlist
  obtain ⟨_, hremade, hreprepared, _, hwritten, hkept, _⟩ := report_eq_of_run hagain hrerun
  rw [hmade, Prod.mk.injEq] at hremade
  rw [hprepared, Except.ok.injEq, Prod.mk.injEq] at hreprepared
  rw [← hremade.2, hsame] at hwritten hkept
  exact ⟨again, _, hrerun, hwrote.get?_again hrewrote hfiles, hsame, hreprepared.2.symm,
    hwritten, hkept⟩

/-- A second run converges.  Without overwriting it changes nothing, writes the module
list and keeps the files of all units.  With overwriting it changes nothing either if the
first run had written over files. -/
theorem converges_of_run :
    (∃ again final,
      Action.runIn (run configuration { options with force := false }) after =
        (.ok again, final) ∧
      (∀ location, final.tree.get? location = after.tree.get? location) ∧
      again.written = (if report.units = [] then []
        else [Output.moduleListFile options.outputDir]) ∧
      again.kept = report.units.map (unitFile options.outputDir) ∧
      again.units = report.units ∧ again.skipped = report.skipped) ∧
    (options.force = true → ∃ again final,
      Action.runIn (run configuration options) after = (.ok again, final) ∧
      ∀ location, final.tree.get? location = after.tree.get? location) := by
  constructor
  · have hkeeps : ∀ unit ∈ report.units,
        keeps after.tree world.workingDir options.outputDir false unit = true := by
      intro unit hunit
      simp [keeps, pathExists_of_report hreal hrun unit hunit]
    obtain ⟨again, final, hagain, hsame, hunits, hskipped, hwritten, hkept⟩ :=
      exists_report_again hreal hrun hapart false (by simp)
    refine ⟨again, final, hagain, hsame, ?_, ?_, hunits, hskipped⟩
    · rw [hwritten, filesOf, List.filter_eq_nil_iff.mpr fun unit hunit => by
        simp [hkeeps unit hunit]]
      simp [listFiles]
    · rw [hkept, filesOf, List.filter_eq_self.mpr hkeeps]
  · intro hforce
    have hoptions : { options with force := true } = options := by rw [← hforce]
    obtain ⟨again, final, hagain, hsame, _⟩ :=
      exists_report_again hreal hrun hapart true fun _ => hforce
    rw [hoptions] at hagain
    exact ⟨again, final, hagain, hsame⟩

end Finished

/-! ## The edited project -/

theorem exists_report_overwriting : ∃ report after,
    Action.runIn (run ⟨"c.json"⟩ { into "out" with force := true }) edited =
      (.ok report, after) ∧
    report.units = [projectUnit] ∧
    FileTree.KeepsDirectories edited.tree after.tree := by
  have hprepared : prepared edited ⟨"c.json"⟩ { into "out" with force := true } =
      .ok ([projectUnit], []) := prepared_edited "out"
  have hpaths : ∀ unit ∈ [projectUnit], ¬FileTree.isTooLong (fileName unit) ∧
      FileTree.checkPath (unitFile ⟨"out"⟩ unit) = .ok () := by
    intro unit hunit
    rw [List.mem_singleton.mp hunit]
    exact ⟨by decide, checkPath_projectUnit (by decide) (by decide)⟩
  have hplaces : ∀ unit ∈ [projectUnit], keeps edited.tree [] ⟨"out"⟩ true unit = false →
      edited.tree.get? [fileName unit, "out"] ≠ some .directory := by
    intro unit hunit _
    rw [List.mem_singleton.mp hunit]
    decide
  obtain ⟨report, tree, events, hrun, hreport, hwrote⟩ := exists_report_of_places rfl
    hprepared createDirs_edited resolve_edited hpaths hplaces
    (checkPath_moduleList (by decide) (by decide)) (by decide)
  exact ⟨report, _, hrun, hreport, hwrote.directories⟩

/-- The configuration of the edited project is not one of the files in `out`. -/
theorem not_meet_edited {after : FileTree} {name : String} (hname : IsFileName name)
    (hkeep : FileTree.KeepsDirectories edited.tree after) :
    ¬after.Meet [] ⟨"c.json"⟩ (Path.join ⟨"out"⟩ name) := by
  rintro ⟨location, hconfiguration, hfile⟩
  have hleads : edited.tree.LeadsTo [] ⟨"c.json"⟩ ["c.json"] := by
    rw [FileTree.LeadsTo, FileTree.origin_nil]
    exact toOption_eq_some_iff.mp (by decide)
  obtain ⟨parent, hparent, hlocation⟩ := FileTree.exists_resolve_of_leadsTo hname hfile
  rw [FileTree.resolve_of_keepsDirectories hkeep resolve_edited, Except.ok.injEq] at hparent
  have hplace := hconfiguration.unique (hleads.of_keepsDirectories hkeep)
  rw [hlocation, ← hparent] at hplace
  simp at hplace

/-- A second run on the edited project keeps the module that the first one has written
over. -/
theorem converges_of_edited : ∃ report after,
    Action.runIn (run ⟨"c.json"⟩ { into "out" with force := true }) edited =
      (.ok report, after) ∧
    (∃ again final,
      Action.runIn (run ⟨"c.json"⟩ (into "out")) after = (.ok again, final) ∧
      (∀ location, final.tree.get? location = after.tree.get? location) ∧
      again.written = [⟨"out/mod.rs"⟩] ∧ again.kept = [⟨"out/Foo.rs"⟩]) ∧
    ∃ again final,
      Action.runIn (run ⟨"c.json"⟩ { into "out" with force := true }) after =
        (.ok again, final) ∧
      ∀ location, final.tree.get? location = after.tree.get? location := by
  obtain ⟨report, after, hrun, hunits, hkeep⟩ := exists_report_overwriting
  have hapart : ∀ path ∈ report.written, ¬after.tree.Meet [] ⟨"c.json"⟩ path := by
    intro path hpath
    obtain ⟨name, hname, rfl⟩ := exists_name_of_written rfl hrun path hpath
    exact not_meet_edited hname hkeep
  obtain ⟨⟨again, final, hagain, hsame, hwritten, hkept, _⟩, hforced⟩ :=
    converges_of_run rfl hrun hapart
  refine ⟨report, after, hrun, ⟨again, final, hagain, hsame, ?_, ?_⟩, hforced rfl⟩
  · rw [hwritten, hunits]
    exact congrArg (fun file => [file]) moduleListFile_out
  · rw [hkept, hunits]
    exact congrArg (fun file => [file]) unitFile_project

end Generation

end TypedContainers
