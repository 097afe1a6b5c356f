import TypedContainers.Proofs.Files.Directories
import TypedContainers.Proofs.Project.Generate

/-!
# Outcomes of a run

A run that gives a report has written every unit whose file was not there, and the
module list, and has created missing directories around its output; the report
names exactly these files.
-/

namespace TypedContainers.Generation

open FileTree (IsFileName Wrote Created created_of_createDirs find_createDirs
  createDirs_eq_of_toOption)
open Output (unitFile fileName keeps texts filesOf Handles Handled)

variable {world : World} {configuration : Path} {options : GenerateOptions}
variable {units : List GeneratedUnit} {skipped : List String}

/-! ## The three kinds of run -/

/-- A run that cannot be prepared only reports. -/
theorem runIn_run_of_error {failure : Failure}
    (hprepared : prepared world configuration options = .error failure) :
    ∃ events, Action.runIn (run configuration options) world =
      (.error failure, { world with events := events }) := by
  obtain ⟨events, hprepare⟩ := runIn_prepare world configuration options
  refine ⟨events, ?_⟩
  rw [run, Action.runIn_bind, hprepare, hprepared]

/-- A dry run only reports. -/
theorem runIn_run_dry (hdry : options.dryRun = true)
    (hprepared : prepared world configuration options = .ok (units, skipped)) :
    ∃ events, Action.runIn (run configuration options) world =
      (.ok ⟨options.outputDir, units, [], [], skipped⟩,
        { world with events := events }) := by
  obtain ⟨events, hprepare⟩ := runIn_prepare world configuration options
  obtain ⟨reported, hpreview⟩ :=
    runIn_preview options units skipped { world with events := events }
  refine ⟨reported, ?_⟩
  rw [run, Action.runIn_bind, hprepare, hprepared]
  simp only [hdry, if_true]
  exact hpreview

/-- The units of a prepared run have files of their own, none of them the module
list's. -/
theorem files_of_prepared
    (hprepared : prepared world configuration options = .ok (units, skipped)) :
    (∀ unit ∈ units, IsFileName (fileName unit)) ∧ (units.map fileName).Nodup ∧
      ∀ unit ∈ units, fileName unit ≠ "mod.rs" := by
  obtain ⟨_, schemas, _, hdistinct, rfl, _⟩ := prepared_eq_ok_iff.mp hprepared
  refine ⟨?_, Output.nodup_fileName hdistinct options.registry, ?_⟩
  · intro unit hunit
    obtain ⟨schema, _, rfl⟩ := List.mem_map.mp hunit
    exact Output.isFileName_fileName_ofSchema options.registry schema
  · intro unit hunit
    obtain ⟨schema, _, rfl⟩ := List.mem_map.mp hunit
    exact Output.fileName_ofSchema_ne options.registry schema

/-- A real run writes the units it has prepared. -/
theorem runIn_run_real (hreal : options.dryRun = false)
    (hprepared : prepared world configuration options = .ok (units, skipped)) :
    ∃ result tree events,
      Action.runIn (run configuration options) world =
        (result, { world with tree := tree, events := events }) ∧
      Writes options units skipped world.workingDir world.tree result tree := by
  obtain ⟨events, hprepare⟩ := runIn_prepare world configuration options
  obtain ⟨hnames, hdistinct, hlist⟩ := files_of_prepared hprepared
  obtain ⟨result, tree, reported, hwrite, hwrites⟩ := runIn_write options skipped hnames
    hdistinct hlist { world with events := events }
  refine ⟨result, tree, reported, ?_, hwrites⟩
  rw [run, Action.runIn_bind, hprepare, hprepared]
  simp only [hreal, Bool.false_eq_true, if_false]
  exact hwrite

/-- Of a world a run changes the files only, and it reports. -/
theorem eq_of_run {result : Except Failure GenerationReport} {after : World}
    (hrun : Action.runIn (run configuration options) world = (result, after)) :
    after = { world with tree := after.tree, events := after.events } := by
  cases hprepared : prepared world configuration options with
  | error failure =>
      obtain ⟨events, hfailed⟩ := runIn_run_of_error hprepared
      rw [hfailed, Prod.mk.injEq] at hrun
      rw [← hrun.2]
  | ok prepared =>
      obtain ⟨units, skipped⟩ := prepared
      cases hdry : options.dryRun with
      | true =>
          obtain ⟨events, hshown⟩ := runIn_run_dry hdry hprepared
          rw [hshown, Prod.mk.injEq] at hrun
          rw [← hrun.2]
      | false =>
          obtain ⟨_, tree, events, hwrite, _⟩ := runIn_run_real hdry hprepared
          rw [hwrite, Prod.mk.injEq] at hrun
          rw [← hrun.2]

/-- What a real run reports when it gives a report: its units, the files of those it
wrote and then the module list, and the files of those it kept. -/
theorem report_eq_of_run {report : GenerationReport} {after : World}
    (hreal : options.dryRun = false)
    (hrun : Action.runIn (run configuration options) world = (.ok report, after)) :
    ∃ made, world.tree.createDirs world.workingDir options.outputDir = (.ok (), made) ∧
      prepared world configuration options = .ok (report.units, report.skipped) ∧
      report.outputDir = options.outputDir ∧
      report.written = (filesOf made world.workingDir options.outputDir options.force
        report.units).written ++ listFiles options.outputDir report.units ∧
      report.kept = (filesOf made world.workingDir options.outputDir options.force
        report.units).kept ∧
      Wrote world.workingDir options.outputDir
        (texts made world.workingDir options.outputDir options.force report.units ++
          listTexts report.units) made after.tree := by
  cases hprepared : prepared world configuration options with
  | error failure =>
      obtain ⟨events, hfailed⟩ := runIn_run_of_error hprepared
      simp [hfailed] at hrun
  | ok prepared =>
      obtain ⟨units, skipped⟩ := prepared
      obtain ⟨result, tree, events, hwrite, hwrites⟩ := runIn_run_real hreal hprepared
      rw [hwrite, Prod.mk.injEq] at hrun
      obtain ⟨rfl, rfl⟩ := hrun
      cases hwrites with
      | finished hmade hwrote => exact ⟨_, hmade, rfl, rfl, rfl, rfl, hwrote⟩

/-- Every file that is reported as written holds a text. -/
theorem find_of_written {report : GenerationReport} {after : World}
    (hreal : options.dryRun = false)
    (hrun : Action.runIn (run configuration options) world = (.ok report, after)) :
    ∀ file ∈ report.written, ∃ text,
      after.tree.find world.workingDir file = .ok (.file (.text text)) := by
  obtain ⟨made, _, _, _, hwritten, _, hwrote⟩ := report_eq_of_run hreal hrun
  intro file hfile
  rw [hwritten] at hfile
  rcases List.mem_append.mp hfile with hmem | hlist
  · obtain ⟨unit, hfiltered, rfl⟩ := List.mem_map.mp hmem
    obtain ⟨hunit, hkeeps⟩ := List.mem_filter.mp hfiltered
    have hfind := hwrote.written (fileName unit, unit.text)
      (List.mem_append_left _ (Output.mem_texts hunit (by simpa using hkeeps)))
    exact ⟨unit.text, hfind⟩
  · rw [listFiles] at hlist
    split at hlist
    · exact absurd hlist List.not_mem_nil
    · rename_i hsome
      obtain rfl := List.mem_singleton.mp hlist
      have hfind := hwrote.written ("mod.rs", _)
        (List.mem_append_right _ (mem_listTexts (by simpa using hsome)))
      exact ⟨_, hfind⟩

/-! ## Runs that reach the module list -/

section Writable

variable {made : FileTree} (hreal : options.dryRun = false)
  (hprepared : prepared world configuration options = .ok (units, skipped))
  (hmade : world.tree.createDirs world.workingDir options.outputDir = (.ok (), made))
  (hunits : ∀ unit ∈ units,
    keeps made world.workingDir options.outputDir options.force unit = false →
      ∃ changed, made.writeFile world.workingDir (unitFile options.outputDir unit)
        (.text unit.text) = .ok changed)
include hreal hprepared hmade hunits

/-- Only the module list can still fail when each unit can be written. -/
theorem runIn_run_writable : ∃ result tree events,
    Action.runIn (run configuration options) world =
      (result, { world with tree := tree, events := events }) ∧
    ((∃ e, result = .error (.outputFile e) ∧
        Wrote world.workingDir options.outputDir
          (texts made world.workingDir options.outputDir options.force units) made tree ∧
        tree.writeFile world.workingDir (Output.moduleListFile options.outputDir)
          (.text (Source.moduleList (units.map (·.fileBaseName)))) = .error e ∧
        units ≠ []) ∨
      ∃ report, result = .ok report ∧ report.units = units ∧
        Wrote world.workingDir options.outputDir
          (texts made world.workingDir options.outputDir options.force units ++
            listTexts units) made tree) := by
  obtain ⟨hnames, hdistinct, _⟩ := files_of_prepared hprepared
  obtain ⟨result, tree, events, hrun, hwrites⟩ := runIn_run_real hreal hprepared
  refine ⟨result, tree, events, hrun, ?_⟩
  cases hwrites with
  | noDirectory hfailed => simp [hmade] at hfailed
  | stopped hdirectory hhandles =>
      rw [hmade, Prod.mk.injEq] at hdirectory
      obtain ⟨_, rfl⟩ := hdirectory
      exact absurd hhandles (Output.not_handles_error hnames hdistinct hunits)
  | noList hdirectory hwrote hfailed hsome =>
      rw [hmade, Prod.mk.injEq] at hdirectory
      obtain ⟨_, rfl⟩ := hdirectory
      exact .inl ⟨_, rfl, hwrote, hfailed, hsome⟩
  | finished hdirectory hwrote =>
      rw [hmade, Prod.mk.injEq] at hdirectory
      obtain ⟨_, rfl⟩ := hdirectory
      exact .inr ⟨_, rfl, rfl, hwrote⟩

/-- A real run gives a report if the module list of some units can be written, too. -/
theorem exists_report_of_list (hlist : units ≠ [] → ∃ changed,
      made.writeFile world.workingDir (Output.moduleListFile options.outputDir)
        (.text (Source.moduleList (units.map (·.fileBaseName)))) = .ok changed) :
    ∃ report tree events,
      Action.runIn (run configuration options) world =
        (.ok report, { world with tree := tree, events := events }) ∧
      report.units = units ∧
      Wrote world.workingDir options.outputDir
        (texts made world.workingDir options.outputDir options.force units ++
          listTexts units) made tree := by
  obtain ⟨result, tree, events, hrun, hresult⟩ :=
    runIn_run_writable hreal hprepared hmade hunits
  rcases hresult with ⟨e, rfl, hwrote, hfailed, hsome⟩ | ⟨report, rfl, hreport, hwrote⟩
  · obtain ⟨_, _, hother⟩ := files_of_prepared hprepared
    have hname : "mod.rs" ∉ (texts made world.workingDir options.outputDir options.force
        units).map Prod.fst := by
      intro hmem
      obtain ⟨unit, hunit, heq⟩ := Output.mem_map_fst_texts hmem
      exact hother unit hunit heq
    obtain ⟨changed, hwrite⟩ :=
      hwrote.exists_writeFile Output.isFileName_moduleList hname (hlist hsome)
    rw [Output.join_moduleList, hfailed] at hwrite
    contradiction
  · exact ⟨report, tree, events, hrun, hreport, hwrote⟩

theorem exists_report (hlist : ∃ changed, made.writeFile world.workingDir
      (Output.moduleListFile options.outputDir)
      (.text (Source.moduleList (units.map (·.fileBaseName)))) = .ok changed) :
    ∃ report tree events,
      Action.runIn (run configuration options) world =
        (.ok report, { world with tree := tree, events := events }) ∧
      report.units = units ∧
      Wrote world.workingDir options.outputDir
        (texts made world.workingDir options.outputDir options.force units ++
          listTexts units) made tree :=
  exists_report_of_list hreal hprepared hmade hunits fun _ => hlist

/-- A real run with a directory in the module list's place fails after all units. -/
theorem exists_failure_of_directory (hsome : units ≠ [])
    (hlist : made.find world.workingDir (Output.moduleListFile options.outputDir) =
      .ok .directory) :
    ∃ failure tree events,
      Action.runIn (run configuration options) world =
        (.error failure, { world with tree := tree, events := events }) ∧
      Wrote world.workingDir options.outputDir
        (texts made world.workingDir options.outputDir options.force units) made tree := by
  obtain ⟨result, tree, events, hrun, hresult⟩ :=
    runIn_run_writable hreal hprepared hmade hunits
  rcases hresult with ⟨e, rfl, hwrote, _⟩ | ⟨report, rfl, _, hwrote⟩
  · exact ⟨.outputFile e, tree, events, hrun, hwrote⟩
  · have hfile := hwrote.written _ (List.mem_append_right _ (mem_listTexts hsome))
    have hkept := FileTree.find_directory_of_keepsDirectories hwrote.directories hlist
    rw [Output.join_moduleList, hkept] at hfile
    simp at hfile

end Writable

/-- A real run stops at a unit that is to be written and in whose place there is a
directory, if those before it can be written. -/
theorem exists_failure_at {made : FileTree} {done rest : List GeneratedUnit}
    {unit : GeneratedUnit} (hreal : options.dryRun = false)
    (hprepared : prepared world configuration options = .ok (done ++ unit :: rest, skipped))
    (hmade : world.tree.createDirs world.workingDir options.outputDir = (.ok (), made))
    (hdone : ∀ other ∈ done,
      keeps made world.workingDir options.outputDir options.force other = false →
        ∃ changed, made.writeFile world.workingDir (unitFile options.outputDir other)
          (.text other.text) = .ok changed)
    (hkeeps : keeps made world.workingDir options.outputDir options.force unit = false)
    (hplace : made.find world.workingDir (unitFile options.outputDir unit) = .ok .directory) :
    ∃ failure tree events,
      Action.runIn (run configuration options) world =
        (.error failure, { world with tree := tree, events := events }) ∧
      Wrote world.workingDir options.outputDir
        (texts made world.workingDir options.outputDir options.force done) made tree := by
  obtain ⟨hnames, hdistinct, _⟩ := files_of_prepared hprepared
  obtain ⟨result, tree, events, hrun, hwrites⟩ := runIn_run_real hreal hprepared
  -- No text can have been written where a directory stays.
  have hunwritten : ∀ {files}, Wrote world.workingDir options.outputDir files made tree →
      (fileName unit, unit.text) ∉ files := by
    intro files hwrote hmem
    have hkept := FileTree.find_directory_of_keepsDirectories hwrote.directories hplace
    have hfile := hwrote.written _ hmem
    rw [Output.join_fileName, hkept] at hfile
    simp at hfile
  have hall : (fileName unit, unit.text) ∈ texts made world.workingDir options.outputDir
      options.force (done ++ unit :: rest) := Output.mem_texts (by simp) hkeeps
  cases hwrites with
  | noDirectory hfailed => simp [hmade] at hfailed
  | noList hdirectory hwrote =>
      rw [hmade, Prod.mk.injEq] at hdirectory
      obtain ⟨_, rfl⟩ := hdirectory
      exact absurd hall (hunwritten hwrote)
  | finished hdirectory hwrote =>
      rw [hmade, Prod.mk.injEq] at hdirectory
      obtain ⟨_, rfl⟩ := hdirectory
      exact absurd (List.mem_append_left _ hall) (hunwritten hwrote)
  | stopped hdirectory hhandles =>
      rw [hmade, Prod.mk.injEq] at hdirectory
      obtain ⟨_, rfl⟩ := hdirectory
      cases hhandles with
      | stopped hunits hother hwrote hfailed =>
          rename_i before later stopped e
          rcases List.append_eq_append_iff.mp hunits with
            ⟨more, hbefore, hcons⟩ | ⟨more, hmore, hcons⟩
          · cases more with
            | nil =>
                rw [List.append_nil] at hbefore
                exact ⟨_, tree, events, hrun, hbefore ▸ hwrote⟩
            | cons first others =>
                -- The unit is one of those that were written.
                obtain rfl := (List.cons_eq_cons.mp hcons).1
                exact absurd (Output.mem_texts (by simp [hbefore]) hkeeps) (hunwritten hwrote)
          · cases more with
            | nil =>
                rw [List.append_nil] at hmore
                exact ⟨_, tree, events, hrun, hmore ▸ hwrote⟩
            | cons first others =>
                -- The run stopped at a unit that can be written.
                obtain rfl := (List.cons_eq_cons.mp hcons).1
                obtain ⟨changed, hwrite⟩ := Output.exists_writeFile_after hunits hnames
                  hdistinct hwrote (hdone stopped (by simp [hmore]) hother)
                rw [hfailed] at hwrite
                contradiction

/-- A real run gives a report once its output directory is there, if the paths of its files
are short enough and no directory is in the place of a file that it writes. -/
theorem exists_report_of_places {made : FileTree} {place : Location}
    (hreal : options.dryRun = false)
    (hprepared : prepared world configuration options = .ok (units, skipped))
    (hmade : world.tree.createDirs world.workingDir options.outputDir = (.ok (), made))
    (hresolve : made.resolve world.workingDir options.outputDir = .ok place)
    (hpaths : ∀ unit ∈ units, ¬FileTree.isTooLong (fileName unit) ∧
      FileTree.checkPath (unitFile options.outputDir unit) = .ok ())
    (hplaces : ∀ unit ∈ units,
      keeps made world.workingDir options.outputDir options.force unit = false →
        made.get? (fileName unit :: place) ≠ some .directory)
    (hlistPath : FileTree.checkPath (Output.moduleListFile options.outputDir) = .ok ())
    (hlistPlace : made.get? ("mod.rs" :: place) ≠ some .directory) :
    ∃ report tree events,
      Action.runIn (run configuration options) world =
        (.ok report, { world with tree := tree, events := events }) ∧
      report.units = units ∧
      Wrote world.workingDir options.outputDir
        (texts made world.workingDir options.outputDir options.force units ++
          listTexts units) made tree := by
  obtain ⟨hnames, _, _⟩ := files_of_prepared hprepared
  apply exists_report hreal hprepared hmade
  · intro unit hunit hkeeps
    obtain ⟨hshort, hpath⟩ := hpaths unit hunit
    apply (FileTree.writeFile_join_eq_ok_iff (hnames unit hunit) _).mpr
    exact ⟨hpath, hshort, place, hresolve, hplaces unit hunit hkeeps⟩
  · apply (FileTree.writeFile_join_eq_ok_iff Output.isFileName_moduleList _).mpr
    exact ⟨hlistPath, by decide, place, hresolve, hlistPlace⟩

/-- A real run that keeps files gives a report once its output directory is there, if
the paths of its files are short enough and the module list's is not a directory. -/
theorem exists_report_of_resolve {made : FileTree} {place : Location}
    (hreal : options.dryRun = false) (hkeep : options.force = false)
    (hprepared : prepared world configuration options = .ok (units, skipped))
    (hmade : world.tree.createDirs world.workingDir options.outputDir = (.ok (), made))
    (hresolve : made.resolve world.workingDir options.outputDir = .ok place)
    (hpaths : ∀ unit ∈ units, ¬FileTree.isTooLong (fileName unit) ∧
      FileTree.checkPath (unitFile options.outputDir unit) = .ok ())
    (hlistPath : FileTree.checkPath (Output.moduleListFile options.outputDir) = .ok ())
    (hlistPlace : made.get? ("mod.rs" :: place) ≠ some .directory) :
    ∃ report tree events,
      Action.runIn (run configuration options) world =
        (.ok report, { world with tree := tree, events := events }) ∧
      report.units = units ∧
      Wrote world.workingDir options.outputDir
        (texts made world.workingDir options.outputDir options.force units ++
          listTexts units) made tree := by
  obtain ⟨hnames, _, _⟩ := files_of_prepared hprepared
  refine exists_report_of_places hreal hprepared hmade hresolve hpaths ?_ hlistPath hlistPlace
  intro unit hunit hkeeps hdirectory
  obtain ⟨hshort, hpath⟩ := hpaths unit hunit
  -- A directory in the place of the file would have been kept.
  have hfind : made.find world.workingDir (unitFile options.outputDir unit) =
      .ok .directory := by
    rw [← Output.join_fileName, FileTree.find_join (hnames unit hunit),
      Output.join_fileName, hpath, hresolve]
    simp [Except.bind, hshort, hdirectory]
  simp [keeps, FileTree.pathExists, hfind, Except.isOk, Except.toBool, hkeep] at hkeeps

/-! ## A project of one container -/

/-- A working directory with nothing but a configuration of one container. -/
def project : World where
  tree := ⟨[(["c.json"], .file (.text
    "\x7b\"Maconomy\":\x7b\"containers\":\x7b\"foo\":\x7b\"card\":[\"k\",[]]\x7d\x7d\x7d\x7d"))]⟩
  workingDir := []
  environment := []
  start := fun _ tree => .ok (true, tree)
  events := []
  invocations := []

/-- A real run into a directory that keeps files. -/
def into (directory : String) : GenerateOptions where
  outputDir := ⟨directory⟩
  force := false
  dryRun := false
  registry := ⟨[]⟩

/-- The unit of the project's container. -/
def projectUnit : GeneratedUnit :=
  .ofSchema ⟨[]⟩ ⟨"foo", "k", []⟩

/-- The project with a module and a module list in `out` that were edited. -/
def edited : World :=
  { project with
    tree := ⟨project.tree.nodes ++
      [(["out"], .directory), (["Foo.rs", "out"], .file (.text "// edited\n")),
        (["mod.rs", "out"], .file (.text "mod tests;\n"))]⟩ }

theorem declared_of_eq {world : World} (hworld : world = project ∨ world = edited) :
    Configuration.declared world ⟨"c.json"⟩ = .ok ⟨[⟨"foo", "k", []⟩], []⟩ := by
  have hcheck : FileTree.checkPath ⟨"c.json"⟩ = .ok () :=
    FileTree.checkPath_eq_ok_iff.mpr (by decide)
  apply toOption_eq_some_iff.mp
  rw [Configuration.declared, World.readText, FileTree.readText, FileTree.find, hcheck]
  rcases hworld with rfl | rfl <;> decide +kernel

theorem declared_project :
    Configuration.declared project ⟨"c.json"⟩ = .ok ⟨[⟨"foo", "k", []⟩], []⟩ :=
  declared_of_eq (.inl rfl)

theorem prepared_project (directory : String) :
    prepared project ⟨"c.json"⟩ (into directory) = .ok ([projectUnit], []) :=
  prepared_eq_ok_iff.mpr ⟨rfl, _, declared_project, by simp, rfl, rfl⟩

theorem prepared_edited (directory : String) :
    prepared edited ⟨"c.json"⟩ (into directory) = .ok ([projectUnit], []) :=
  prepared_eq_ok_iff.mpr ⟨rfl, _, declared_of_eq (.inr rfl), by simp, rfl, rfl⟩

theorem resolve_edited : edited.tree.resolve [] ⟨"out"⟩ = .ok ["out"] :=
  FileTree.resolve_eq_ok_of_names (by decide) (by decide)
    (toOption_eq_some_iff.mp (by decide)) rfl

theorem createDirs_project {name : String} (hname : name = "Foo.rs" ∨ name = "mod.rs") :
    project.tree.createDirs [] ⟨name ++ "/.."⟩ =
      (.ok (), project.tree.set [name] .directory) := by
  have hancestors : (⟨name ++ "/.."⟩ : Path).ancestors = [⟨name ++ "/.."⟩, ⟨name⟩] := by
    rcases hname with rfl | rfl <;> decide
  apply createDirs_eq_of_toOption
  simp only [FileTree.createDirs, hancestors, FileTree.createNested, FileTree.createDir,
    FileTree.entry?, FileTree.orPresent, FileTree.isDirectory, FileTree.find,
    FileTree.checkPath_eq, FileTree.origin_nil]
  rcases hname with rfl | rfl <;> decide

theorem createDirs_edited : edited.tree.createDirs [] ⟨"out"⟩ = (.ok (), edited.tree) := by
  apply FileTree.createDirs_of_find
  rw [FileTree.find_eq_ok_iff, FileTree.checkPath_eq_ok_iff, FileTree.origin_nil]
  exact ⟨by decide, ["out"], rfl, rfl⟩

theorem isFileName_projectUnit : IsFileName (fileName projectUnit) :=
  Output.isFileName_fileName_ofSchema ⟨[]⟩ ⟨"foo", "k", []⟩

theorem checkPath_projectUnit {directory : Path} (hnul : '\x00' ∉ directory.text.toList)
    (hshort : directory.text.utf8ByteSize ≤ 4000) :
    FileTree.checkPath (unitFile directory projectUnit) = .ok () := by
  have hname : '\x00' ∉ (fileName projectUnit).toList := by decide
  have hsize : (fileName projectUnit).utf8ByteSize = 6 := by decide
  apply FileTree.checkPath_join isFileName_projectUnit
  · simp [hnul, hname]
  · rw [hsize, FileTree.maxPath]
    omega

theorem checkPath_moduleList {directory : Path} (hnul : '\x00' ∉ directory.text.toList)
    (hshort : directory.text.utf8ByteSize ≤ 4000) :
    FileTree.checkPath (Output.moduleListFile directory) = .ok () := by
  have hsize : "mod.rs".utf8ByteSize = 6 := by decide
  apply FileTree.checkPath_join Output.isFileName_moduleList
  · simp [hnul]
  · rw [hsize, FileTree.maxPath]
    omega

/-- A run that keeps files gives a report of the project's unit unless a directory is in
the module list's place. -/
theorem exists_report_projectUnit {directory : String} {made : FileTree} {place : Location}
    (hprepared : prepared world ⟨"c.json"⟩ (into directory) = .ok ([projectUnit], []))
    (hmade : world.tree.createDirs world.workingDir ⟨directory⟩ = (.ok (), made))
    (hresolve : made.resolve world.workingDir ⟨directory⟩ = .ok place)
    (hnul : '\x00' ∉ directory.toList) (hshort : directory.utf8ByteSize ≤ 4000)
    (hplace : made.get? ("mod.rs" :: place) ≠ some .directory) :
    ∃ report tree events,
      Action.runIn (run ⟨"c.json"⟩ (into directory)) world =
        (.ok report, { world with tree := tree, events := events }) ∧
      report.units = [projectUnit] ∧
      Wrote world.workingDir ⟨directory⟩
        (texts made world.workingDir ⟨directory⟩ false [projectUnit] ++
          listTexts [projectUnit]) made tree := by
  apply exists_report_of_resolve rfl rfl hprepared hmade hresolve _
    (checkPath_moduleList hnul hshort) hplace
  intro unit hunit
  rw [List.mem_singleton.mp hunit]
  exact ⟨by decide, checkPath_projectUnit hnul hshort⟩

theorem exists_report_edited : ∃ report after,
    Action.runIn (run ⟨"c.json"⟩ (into "out")) edited = (.ok report, after) ∧
    report.units = [projectUnit] ∧
    Wrote [] ⟨"out"⟩ (texts edited.tree [] ⟨"out"⟩ false [projectUnit] ++
      listTexts [projectUnit]) edited.tree after.tree := by
  obtain ⟨report, tree, events, hrun, hunits, hwrote⟩ := exists_report_projectUnit
    (prepared_edited "out") createDirs_edited resolve_edited (by decide) (by decide)
    (by decide)
  exact ⟨report, _, hrun, hunits, hwrote⟩

theorem unitFile_project : unitFile ⟨"out"⟩ projectUnit = ⟨"out/Foo.rs"⟩ :=
  (FileTree.join_eq_of_getLast? isFileName_projectUnit (by decide) (by decide)).trans
    (by decide)

theorem moduleListFile_out : Output.moduleListFile ⟨"out"⟩ = ⟨"out/mod.rs"⟩ :=
  (FileTree.join_eq_of_getLast? Output.isFileName_moduleList (by decide) (by decide)).trans
    (by decide)

/-! ## A project of several containers -/

def severalSchemas : List ContainerSchema :=
  ["bar", "foo", "qux"].map fun name => ⟨name, "k", []⟩

def severalText : String :=
  "\x7b\"Maconomy\":\x7b\"containers\":\x7b\"bar\":\x7b\"card\":[\"k\",[]]\x7d," ++
    "\"foo\":\x7b\"card\":[\"k\",[]]\x7d,\"qux\":\x7b\"card\":[\"k\",[]]\x7d\x7d\x7d\x7d"

/-- A configuration of several containers and a directory `out`, with more that is there. -/
def several (more : List (Location × FileNode)) : World :=
  { project with
    tree := ⟨[(["c.json"], .file (.text severalText)), (["out"], .directory)] ++ more⟩ }

def barUnit : GeneratedUnit :=
  .ofSchema ⟨[]⟩ ⟨"bar", "k", []⟩

def quxUnit : GeneratedUnit :=
  .ofSchema ⟨[]⟩ ⟨"qux", "k", []⟩

/-- The units of the containers, in name order. -/
def severalUnits : List GeneratedUnit :=
  [barUnit, projectUnit, quxUnit]

section Several

variable {more : List (Location × FileNode)} {unit : GeneratedUnit}

theorem declared_several :
    Configuration.declared (several more) ⟨"c.json"⟩ = .ok ⟨severalSchemas, []⟩ := by
  have hfind : (several more).tree.find [] ⟨"c.json"⟩ = .ok (.file (.text severalText)) := by
    rw [FileTree.find_eq_ok_iff, FileTree.checkPath_eq_ok_iff, FileTree.origin_nil]
    exact ⟨by decide, _, rfl, rfl⟩
  have hread : (several more).readText ⟨"c.json"⟩ = .ok severalText := by
    rw [World.readText, FileTree.readText]
    exact hfind ▸ rfl
  apply toOption_eq_some_iff.mp
  rw [Configuration.declared, hread]
  decide +kernel

theorem prepared_several {options : GenerateOptions} (hregistry : options.registry = ⟨[]⟩) :
    prepared (several more) ⟨"c.json"⟩ options = .ok (severalUnits, []) := by
  refine prepared_eq_ok_iff.mpr ⟨hregistry ▸ rfl, _, declared_several, by decide, ?_, rfl⟩
  rw [hregistry]
  rfl

theorem resolve_several : (several more).tree.resolve [] ⟨"out"⟩ = .ok ["out"] :=
  FileTree.resolve_eq_ok_of_names (by decide) (by decide) rfl rfl

theorem createDirs_several :
    (several more).tree.createDirs [] ⟨"out"⟩ = (.ok (), (several more).tree) := by
  apply FileTree.createDirs_of_find
  rw [FileTree.find_eq_ok_iff, FileTree.checkPath_eq_ok_iff, FileTree.origin_nil]
  exact ⟨by decide, ["out"], rfl, rfl⟩

theorem isFileName_several (hunit : unit ∈ severalUnits) : IsFileName (fileName unit) := by
  have hunits : severalUnits = severalSchemas.map (.ofSchema ⟨[]⟩) := rfl
  rw [hunits] at hunit
  obtain ⟨schema, _, rfl⟩ := List.mem_map.mp hunit
  exact Output.isFileName_fileName_ofSchema ⟨[]⟩ schema

theorem checkPath_several (hunit : unit ∈ severalUnits) :
    ¬FileTree.isTooLong (fileName unit) ∧
      FileTree.checkPath (unitFile ⟨"out"⟩ unit) = .ok () := by
  have hname : ∀ name ∈ severalUnits.map fileName, ¬FileTree.isTooLong name ∧
      '\x00' ∉ "out".toList ++ name.toList ∧ 4 + name.utf8ByteSize ≤ 4095 := by
    decide
  obtain ⟨hshort, hnul, hsize⟩ := hname _ (List.mem_map_of_mem hunit)
  exact ⟨hshort, FileTree.checkPath_join (isFileName_several hunit) hnul hsize⟩

theorem find_several {node : FileNode} (hunit : unit ∈ severalUnits)
    (hnode : (several more).tree.get? [fileName unit, "out"] = some node) :
    (several more).tree.find [] (unitFile ⟨"out"⟩ unit) = .ok node := by
  obtain ⟨hshort, hpath⟩ := checkPath_several hunit
  have hleads := FileTree.leadsTo_join (isFileName_several hunit) hshort
    (resolve_several : (several more).tree.resolve [] ⟨"out"⟩ = .ok ["out"])
  exact FileTree.find_eq_ok_iff.mpr ⟨hpath, _, hleads, hnode⟩

/-- Units are told apart by what stands in the places of their files. -/
theorem keeps_several (hunit : unit ∈ severalUnits) (force : Bool) :
    keeps (several more).tree [] ⟨"out"⟩ force unit =
      (((several more).tree.get? [fileName unit, "out"]).isSome && !force) := by
  obtain ⟨hshort, hpath⟩ := checkPath_several hunit
  exact FileTree.stays_of_resolve (isFileName_several hunit) hshort hpath resolve_several

end Several

theorem unitFiles_several : severalUnits.map (unitFile ⟨"out"⟩) =
    [⟨"out/Bar.rs"⟩, ⟨"out/Foo.rs"⟩, ⟨"out/Qux.rs"⟩] := by
  have hjoin : ∀ unit ∈ severalUnits,
      unitFile ⟨"out"⟩ unit = ⟨"out" ++ "/" ++ fileName unit⟩ := fun unit hunit =>
    FileTree.join_eq_of_getLast? (isFileName_several hunit) (by decide) (by decide)
  rw [List.map_congr_left hjoin]
  decide

/-- A module of the project that was edited. -/
def editedFoo : List (Location × FileNode) :=
  [(["Foo.rs", "out"], .file (.text "// edited\n"))]

theorem keeps_editedFoo :
    keeps (several editedFoo).tree [] ⟨"out"⟩ false barUnit = false ∧
    keeps (several editedFoo).tree [] ⟨"out"⟩ false projectUnit = true ∧
    keeps (several editedFoo).tree [] ⟨"out"⟩ false quxUnit = false := by
  rw [keeps_several (by simp [severalUnits]), keeps_several (by simp [severalUnits]),
    keeps_several (by simp [severalUnits])]
  decide

theorem exists_report_several : ∃ report after,
    Action.runIn (run ⟨"c.json"⟩ (into "out")) (several editedFoo) = (.ok report, after) ∧
    report.units = severalUnits := by
  have hprepared : prepared (several editedFoo) ⟨"c.json"⟩ (into "out") =
      .ok (severalUnits, []) := prepared_several rfl
  have hmade : (several editedFoo).tree.createDirs (several editedFoo).workingDir ⟨"out"⟩ =
      (.ok (), (several editedFoo).tree) := createDirs_several
  obtain ⟨report, tree, events, hrun, hunits, _⟩ := exists_report_of_resolve rfl rfl
    hprepared hmade resolve_several (fun unit hunit => checkPath_several hunit)
    (checkPath_moduleList (by decide) (by decide)) (by decide)
  exact ⟨report, _, hrun, hunits⟩

/-! ## Reports -/

theorem fst_mem_listTexts {name : String}
    (hname : name ∈ (listTexts units).map Prod.fst) : name = "mod.rs" := by
  rw [listTexts] at hname
  split at hname
  · simp at hname
  · simpa using hname

/-- All units are handled when they are written with the module list. -/
theorem handled_of_finished {made after : FileTree}
    (hprepared : prepared world configuration options = .ok (units, skipped))
    (hwrote : Wrote world.workingDir options.outputDir
      (texts made world.workingDir options.outputDir options.force units ++ listTexts units)
      made after) :
    Handled world.workingDir options.outputDir options.force units [] made after := by
  obtain ⟨hnames, hdistinct, hlist⟩ := files_of_prepared hprepared
  apply Output.handled_of_wrote _ _ _ hwrote
  · simpa using hnames
  · simpa using hdistinct
  · intro unit hunit hmem
    rw [List.append_nil] at hunit
    exact hlist unit hunit (fst_mem_listTexts hmem)

/-- The places that a change touches are those of the written files. -/
theorem elsewhere_of_wrote {made after : FileTree} {workingDir : Location}
    (hwrote : Wrote workingDir options.outputDir
      (texts made workingDir options.outputDir options.force units ++ listTexts units)
      made after) (location : Location)
    (hlocation : ∀ path ∈ (filesOf made workingDir options.outputDir options.force
      units).written ++ listFiles options.outputDir units,
      ¬after.LeadsTo workingDir path location) :
    after.get? location = made.get? location := by
  apply hwrote.elsewhere location
  intro file hfile
  rcases List.mem_append.mp hfile with hfile | hfile
  · obtain ⟨unit, hunit, rfl⟩ := List.mem_map.mp hfile
    exact hlocation _ (List.mem_append_left _ (List.mem_map.mpr ⟨unit, hunit, rfl⟩))
  · rw [listTexts] at hfile
    rw [listFiles] at hlocation
    split at hfile
    · exact absurd hfile List.not_mem_nil
    · rename_i hempty
      rw [List.mem_singleton] at hfile
      subst hfile
      apply hlocation
      rw [if_neg hempty]
      exact List.mem_append_right _ (List.mem_singleton_self _)

/-- No file is named twice by a report. -/
theorem nodup_files (hnames : ∀ unit ∈ units, IsFileName (fileName unit))
    (hdistinct : (units.map fileName).Nodup)
    (hlist : ∀ unit ∈ units, fileName unit ≠ "mod.rs") (made : FileTree)
    (workingDir : Location) (directory : Path) (force : Bool) :
    ((filesOf made workingDir directory force units).written ++
      listFiles directory units ++
      (filesOf made workingDir directory force units).kept).Nodup := by
  have hpaths : (units.map (unitFile directory)).Nodup := by
    rw [List.nodup_iff_pairwise_ne, List.pairwise_map] at hdistinct ⊢
    refine hdistinct.imp_of_mem ?_
    intro first second hfirst hsecond hne heq
    exact hne (FileTree.join_injective (hnames first hfirst) (hnames second hsecond) heq)
  have hlisted : ∀ path ∈ listFiles directory units, path ∉ units.map (unitFile directory) := by
    intro path hpath hmem
    obtain ⟨unit, hunit, heq⟩ := List.mem_map.mp hmem
    rw [listFiles] at hpath
    split at hpath
    · exact List.not_mem_nil hpath
    · rw [List.mem_singleton] at hpath
      exact hlist unit hunit (FileTree.join_injective (hnames unit hunit)
        Output.isFileName_moduleList (heq.trans hpath))
  have hparts := Output.nodup_partition hpaths (keeps made workingDir directory force)
  have hlists : (listFiles directory units).Nodup := by
    rw [listFiles]
    split
    · exact List.nodup_nil
    · exact List.nodup_cons.mpr ⟨List.not_mem_nil, List.nodup_nil⟩
  have happ : (listFiles directory units ++
      ((filesOf made workingDir directory force units).kept ++
        (filesOf made workingDir directory force units).written)).Nodup := by
    refine List.nodup_append.mpr ⟨hlists, hparts, ?_⟩
    rintro path hpath other hother rfl
    apply hlisted path hpath
    rcases List.mem_append.mp hother with hmem | hmem
    · obtain ⟨unit, hunit, rfl⟩ := List.mem_map.mp hmem
      exact List.mem_map.mpr ⟨unit, (List.mem_filter.mp hunit).1, rfl⟩
    · obtain ⟨unit, hunit, rfl⟩ := List.mem_map.mp hmem
      exact List.mem_map.mpr ⟨unit, (List.mem_filter.mp hunit).1, rfl⟩
  refine happ.perm ?_
  rw [← List.append_assoc]
  exact List.perm_append_comm.trans (by rw [← List.append_assoc])

/-- What a real run has done when it gives a report.  The units are those of the
complete containers in strict name order.  Each unit whose path did not lead anywhere
once the output directory was there, or every unit when overwriting is asked for,
has its text in its file; any other path leads to what it led to, and one that led
somewhere before the run to what it led to then.  The module list names all units.
Every other place is as it was before the run, except for missing directories that
prefixes of the output directory lead to.  The report lists the written files in
order, the module list last, and the kept ones, and no file twice. -/
theorem report_of_run {report : GenerationReport} {after : World}
    (hreal : options.dryRun = false)
    (hrun : Action.runIn (run configuration options) world = (.ok report, after)) :
    ∃ schemas made,
      Configuration.declared world configuration = .ok schemas ∧
      schemas.containers.Pairwise (fun first second => first.name < second.name) ∧
      report.units = schemas.containers.map (GeneratedUnit.ofSchema options.registry) ∧
      world.tree.createDirs world.workingDir options.outputDir = (.ok (), made) ∧
      Handled world.workingDir options.outputDir options.force report.units [] made
        after.tree ∧
      (∀ unit ∈ report.units, options.force = false →
        world.pathExists (unitFile options.outputDir unit) = true →
        after.tree.find world.workingDir (unitFile options.outputDir unit) =
          world.tree.find world.workingDir (unitFile options.outputDir unit)) ∧
      (report.units ≠ [] →
        after.tree.readText world.workingDir (Output.moduleListFile options.outputDir) =
          .ok (Source.moduleList (report.units.map (·.fileBaseName)))) ∧
      (∀ location, (∀ path ∈ report.written,
          ¬after.tree.LeadsTo world.workingDir path location) →
        after.tree.get? location = world.tree.get? location ∨
          (world.tree.get? location = none ∧
            after.tree.get? location = some .directory ∧
            ∃ ancestor ∈ options.outputDir.ancestors,
              after.tree.LeadsTo world.workingDir ancestor location)) ∧
      report.written =
        (report.units.filter fun unit => !keeps made world.workingDir options.outputDir
          options.force unit).map (unitFile options.outputDir) ++
          (if report.units = [] then [] else [Output.moduleListFile options.outputDir]) ∧
      report.kept = (report.units.filter (keeps made world.workingDir options.outputDir
        options.force)).map (unitFile options.outputDir) ∧
      (report.written ++ report.kept).Nodup := by
  cases hprepared : prepared world configuration options with
  | error failure =>
      obtain ⟨events, hfailed⟩ := runIn_run_of_error hprepared
      simp [hfailed] at hrun
  | ok result =>
      obtain ⟨units, skipped⟩ := result
      obtain ⟨_, schemas, hdeclared, _, hunits, _⟩ := prepared_eq_ok_iff.mp hprepared
      obtain ⟨hnames, hdistinct, hlist⟩ := files_of_prepared hprepared
      obtain ⟨result, tree, events, hwrite, hwrites⟩ := runIn_run_real hreal hprepared
      rw [hwrite, Prod.mk.injEq] at hrun
      obtain ⟨rfl, rfl⟩ := hrun
      cases hwrites with
      | finished hmade hwrote =>
          rename_i made
          have hhandled := handled_of_finished hprepared hwrote
          have hcreated := created_of_createDirs hmade
          refine ⟨schemas, made, hdeclared, Configuration.pairwise_declared hdeclared, hunits,
            hmade, hhandled, ?_, ?_, ?_, ?_, rfl, ?_⟩
          · intro unit hunit hforce hexists
            have hfind := find_createDirs hmade hexists
            have hkeeps : keeps made world.workingDir options.outputDir options.force unit =
                true := by
              rw [keeps, FileTree.pathExists, hfind, hforce]
              simpa [World.pathExists, FileTree.pathExists] using hexists
            rw [hhandled.kept unit hunit hkeeps, hfind]
          · intro hunits
            have hmem : ("mod.rs", Source.moduleList (units.map (·.fileBaseName))) ∈
                listTexts units := by
              simp [listTexts, hunits]
            have hfind := hwrote.written _ (List.mem_append_right _ hmem)
            rw [Output.join_moduleList] at hfind
            simp only [FileTree.readText, hfind]
          · intro location hlocation
            exact hcreated.get?_of_eq hwrote.directories
              (elsewhere_of_wrote hwrote location hlocation)
          · simp [filesOf, listFiles]
          · exact nodup_files hnames hdistinct hlist made world.workingDir options.outputDir
              options.force

/-- A run on the project writes two modules and their list, and keeps the edited one. -/
theorem report_of_several : ∃ report after,
    Action.runIn (run ⟨"c.json"⟩ (into "out")) (several editedFoo) = (.ok report, after) ∧
    report.units = severalUnits ∧
    report.written = [⟨"out/Bar.rs"⟩, ⟨"out/Qux.rs"⟩, ⟨"out/mod.rs"⟩] ∧
    report.kept = [⟨"out/Foo.rs"⟩] ∧
    after.tree.readText [] ⟨"out/Bar.rs"⟩ = .ok barUnit.text ∧
    after.tree.readText [] ⟨"out/Foo.rs"⟩ = .ok "// edited\n" ∧
    after.tree.readText [] ⟨"out/mod.rs"⟩ =
      .ok (Source.moduleList ["Bar", "Foo", "Qux"]) := by
  obtain ⟨report, after, hrun, hunits⟩ := exists_report_several
  obtain ⟨schemas, made, _, _, _, hmade, hhandled, _, hlisted, _, hwritten, hnames, _⟩ :=
    report_of_run rfl hrun
  obtain rfl : (several editedFoo).tree = made :=
    congrArg Prod.snd (createDirs_several.symm.trans hmade)
  obtain ⟨hbar, hfoo, hqux⟩ := keeps_editedFoo
  obtain ⟨hbarFile, hfooFile, hquxFile⟩ :
      unitFile ⟨"out"⟩ barUnit = ⟨"out/Bar.rs"⟩ ∧
      unitFile ⟨"out"⟩ projectUnit = ⟨"out/Foo.rs"⟩ ∧
      unitFile ⟨"out"⟩ quxUnit = ⟨"out/Qux.rs"⟩ := by
    simpa [severalUnits] using unitFiles_several
  rw [hunits] at hhandled hlisted hwritten hnames
  refine ⟨report, after, hrun, hunits, ?_, ?_, ?_, ?_, ?_⟩
  · rw [hwritten]
    change (severalUnits.filter fun unit => !keeps (several editedFoo).tree [] ⟨"out"⟩ false
      unit).map (unitFile ⟨"out"⟩) ++ [Output.moduleListFile ⟨"out"⟩] = _
    simp [severalUnits, hbar, hfoo, hqux, hbarFile, hquxFile, moduleListFile_out]
  · rw [hnames]
    change (severalUnits.filter (keeps (several editedFoo).tree [] ⟨"out"⟩ false)).map
      (unitFile ⟨"out"⟩) = _
    simp [severalUnits, hbar, hfoo, hqux, hfooFile]
  · rw [← hbarFile]
    exact hhandled.written barUnit (by simp [severalUnits]) hbar
  · have hfind : (several editedFoo).tree.find [] (unitFile ⟨"out"⟩ projectUnit) =
        .ok (.file (.text "// edited\n")) :=
      find_several (by simp [severalUnits]) (by decide)
    have hsame := hhandled.kept projectUnit (by simp [severalUnits]) hfoo
    rw [FileTree.readText, ← hfooFile]
    exact (hsame.trans hfind) ▸ rfl
  · have htext := hlisted (by simp [severalUnits])
    have hmodules : severalUnits.map (·.fileBaseName) = ["Bar", "Foo", "Qux"] := by decide
    rwa [hmodules, into, moduleListFile_out] at htext

/-- The path of a unit may lead nowhere before a run and not hold the unit's text
after it: a run into `Foo.rs/..` creates the directory `Foo.rs`. -/
theorem exists_report_without_text : ∃ report after,
    Action.runIn (run ⟨"c.json"⟩ (into "Foo.rs/..")) project = (.ok report, after) ∧
    ∃ unit ∈ report.units,
      project.pathExists (unitFile ⟨"Foo.rs/.."⟩ unit) = false ∧
      after.tree.readText [] (unitFile ⟨"Foo.rs/.."⟩ unit) = .error .isADirectory := by
  have hmade : project.tree.createDirs [] ⟨"Foo.rs/.."⟩ =
      (.ok (), project.tree.set ["Foo.rs"] .directory) := createDirs_project (.inl rfl)
  have hpath : FileTree.checkPath (unitFile ⟨"Foo.rs/.."⟩ projectUnit) = .ok () :=
    FileTree.checkPath_eq_ok_iff.mpr (by decide +kernel)
  have hfind : (project.tree.set ["Foo.rs"] .directory).find []
      (unitFile ⟨"Foo.rs/.."⟩ projectUnit) = .ok .directory := by
    apply FileTree.find_eq_ok_iff.mpr
    exact ⟨hpath, ["Foo.rs"], toOption_eq_some_iff.mp (by decide +kernel), rfl⟩
  have hlist : ∃ changed, (project.tree.set ["Foo.rs"] .directory).writeFile []
      (Output.moduleListFile ⟨"Foo.rs/.."⟩)
      (.text (Source.moduleList ([projectUnit].map (·.fileBaseName)))) = .ok changed := by
    apply (FileTree.writeFile_join_eq_ok_iff Output.isFileName_moduleList _).mpr
    exact ⟨FileTree.checkPath_eq_ok_iff.mpr (by decide +kernel), by decide +kernel, [],
      toOption_eq_some_iff.mp (by decide +kernel), by decide +kernel⟩
  have hkeeps : ∀ unit ∈ [projectUnit], keeps (project.tree.set ["Foo.rs"] .directory) []
      ⟨"Foo.rs/.."⟩ false unit = true := by
    intro unit hmem
    rw [List.mem_singleton.mp hmem, keeps, FileTree.pathExists, hfind]
    rfl
  obtain ⟨report, tree, events, hrun, hunits, hwrote⟩ :=
    exists_report rfl (prepared_project "Foo.rs/..") hmade
      (fun unit hmem hwritten => absurd ((hkeeps unit hmem).symm.trans hwritten) (by simp))
      hlist
  refine ⟨report, _, hrun, projectUnit, by simp [hunits], ?_, ?_⟩
  · rw [World.pathExists, FileTree.pathExists, FileTree.find, hpath]
    decide +kernel
  · have hkept := FileTree.find_directory_of_keepsDirectories hwrote.directories hfind
    change FileTree.readText tree [] _ = _
    rw [FileTree.readText, hkept]

end TypedContainers.Generation
