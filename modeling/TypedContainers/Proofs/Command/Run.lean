import Mathlib.Data.List.Nodup
import TypedContainers.Command.Run
import TypedContainers.Proofs.Project.Convergence
import TypedContainers.Proofs.Project.Format
import TypedContainers.Proofs.Project.Settings
import TypedContainers.Proofs.Record.Dependence

/-!
# Commands that generate

Settings are loaded, files are generated, and what was written is formatted if that is
asked for.  Each step is reached only if the one before it succeeds, and only generation
and the formatter change files.
-/

namespace TypedContainers.Command

open Formatter (Formats)

variable {command : GenerateCommand} {settings : Settings} {report : GenerationReport}
variable {world : World} {configuration : Path}

/-- What is formatted of a report. -/
def toFormat (command : GenerateCommand) (settings : Settings) (report : GenerationReport) :
    List Path :=
  if (command.format || settings.format) && !command.dryRun then report.written else []

/-- How a command that generates can end: without settings, without a report, or as the
formatter ends on what was written. -/
inductive Generates (command : GenerateCommand) (world : World) :
    Except Failure Unit → World → Prop
  | unset {failure : Failure}
      (hsettings : Settings.applied world command.settings? command.configuration =
        .error failure) :
      Generates command world (.error failure) world
  | failed {settings : Settings} {failure : Failure} {generated : World}
      (hsettings : Settings.applied world command.settings? command.configuration =
        .ok settings)
      (hrun : Action.runIn (Generation.run command.configuration (options command settings))
        world = (.error failure, generated)) :
      Generates command world (.error failure) generated
  | reported {settings : Settings} {report : GenerationReport} {generated formatted : World}
      {result : Except Failure Unit} {events : List Log.Event}
      (hsettings : Settings.applied world command.settings? command.configuration =
        .ok settings)
      (hrun : Action.runIn (Generation.run command.configuration (options command settings))
        world = (.ok report, generated))
      (hformats : Formats generated (toFormat command settings report) result formatted) :
      Generates command world result { formatted with events := events }

/-- Telling which containers were skipped only reports. -/
theorem runIn_tellSkipped (skipped : List String) (world : World) :
    ∃ events, Action.runIn
        (if !skipped.isEmpty then Action.report (.skipped skipped) else pure ()) world =
      (.ok (), { world with events := events }) := by
  cases skipped.isEmpty with
  | true => exact ⟨world.events, rfl⟩
  | false => exact ⟨_, rfl⟩

theorem runIn_run_generate (command : GenerateCommand) (world : World) :
    ∃ result final, Action.runIn (run (.generate command)) world = (result, final) ∧
      Generates command world result final := by
  rw [run, runGenerate, Action.runIn_bind, Settings.runIn_loadFor]
  cases hsettings : Settings.applied world command.settings? command.configuration with
  | error failure => exact ⟨_, world, rfl, .unset hsettings⟩
  | ok settings =>
      obtain ⟨generation, generated, hrun⟩ : ∃ generation generated,
          Action.runIn (Generation.run command.configuration (options command settings))
            world = (generation, generated) := ⟨_, _, rfl⟩
      simp only [Action.runIn_bind, hrun]
      cases generation with
      | error failure => exact ⟨_, _, rfl, .failed hsettings hrun⟩
      | ok report =>
          cases hdue : (command.format || settings.format) && !command.dryRun with
          | false =>
              have hidle : Formats generated (toFormat command settings report) (.ok ())
                  generated := .idle (by simp [toFormat, hdue])
              obtain ⟨told, htold⟩ := runIn_tellSkipped report.skipped generated
              simp only [Bool.false_eq_true, if_false, htold]
              exact ⟨_, _, rfl, .reported hsettings hrun hidle⟩
          | true =>
              have hall : toFormat command settings report = report.written := by
                simp [toFormat, hdue]
              obtain ⟨result, formatted, hformat, hformats⟩ :=
                Formatter.runIn_run report.written generated
              rw [← hall] at hformats
              simp only [if_true, Action.runIn_bind, hformat]
              cases result with
              | error failure => exact ⟨_, _, rfl, .reported hsettings hrun hformats⟩
              | ok =>
                  obtain ⟨told, htold⟩ := runIn_tellSkipped report.skipped formatted
                  simp only [htold]
                  exact ⟨_, _, rfl, .reported hsettings hrun hformats⟩

/-! ## Starts of the formatter -/

/-- A generation after which there is something to format: it gave a report of written
files, and formatting is asked for, not a dry run. -/
structure Due (command : GenerateCommand) (settings : Settings)
    (generation : Except Failure GenerationReport) (report : GenerationReport) : Prop where
  reported : generation = .ok report
  real : command.dryRun = false
  asked : command.format = true ∨ settings.format = true
  written : report.written ≠ []

/-- The formatter is started once, on what the report says was written, and one that cannot
be started changes no file.  A program with a NUL in its name is one that cannot. -/
structure HandsOver (world generated : World) (report : GenerationReport) (final : World) :
    Prop where
  started : '\x00' ∉ (Formatter.program world).toList →
    final.invocations = world.invocations ++
      [⟨Formatter.program world, "--edition" :: "2021" :: report.written.map (·.text)⟩]
  refused : '\x00' ∈ (Formatter.program world).toList →
    final.invocations = world.invocations ∧ final.tree = generated.tree
  unavailable : ∀ e,
    world.start
        ⟨Formatter.program world, "--edition" :: "2021" :: report.written.map (·.text)⟩
        generated.tree = .error e →
      final.tree = generated.tree
  apart : ∀ kept ∈ report.kept, kept ∉ report.written ∧
    ∀ file ∈ report.written, ∀ tree workingDir, ¬FileTree.Meet tree workingDir kept file

theorem Due.toFormat_eq {generation : Except Failure GenerationReport}
    (hdue : Due command settings generation report) :
    toFormat command settings report = report.written := by
  simp [toFormat, hdue.real, hdue.asked]

theorem toFormat_eq_nil
    (hnot : ∀ other, ¬Due command settings (.ok report) other) :
    toFormat command settings report = [] := by
  by_cases hwritten : report.written = []
  · simp [toFormat, hwritten]
  · rw [toFormat, if_neg]
    intro hcondition
    simp only [Bool.and_eq_true, Bool.or_eq_true, Bool.not_eq_true'] at hcondition
    exact hnot report ⟨rfl, hcondition.2, hcondition.1, hwritten⟩

section Reported

variable {generated formatted : World} {result : Except Failure Unit}
  (hdue : Due command settings (.ok report) report)
  (hrun : Action.runIn (Generation.run command.configuration (options command settings))
    world = (.ok report, generated))
include hdue hrun

/-- What was written has no NUL in its paths, so only the formatter's name may have one. -/
theorem hasNul_iff : Formatter.HasNul generated report.written ↔
    '\x00' ∈ (Formatter.program world).toList := by
  have hprogram : Formatter.program generated = Formatter.program world := by
    rw [Formatter.program, Generation.eq_of_run hrun, Formatter.program]
  have hclean : ∀ file ∈ report.written, '\x00' ∉ file.text.toList := by
    intro file hfile
    obtain ⟨text, hfind⟩ := Generation.find_of_written hdue.real hrun file hfile
    exact (FileTree.checkPath_eq_ok_iff.mp (FileTree.find_eq_ok_iff.mp hfind).1).1
  rw [Formatter.HasNul, hprogram]
  constructor
  · rintro (hnul | ⟨file, hfile, hnul⟩)
    · exact hnul
    · exact absurd hnul (hclean file hfile)
  · exact .inl

theorem handsOver_of_formats (hformats : Formats generated report.written result formatted)
    (events : List Log.Event) :
    HandsOver world generated report { formatted with events := events } := by
  have hnul := hasNul_iff hdue hrun
  have hapart := Generation.kept_apart_of_run hdue.real hrun
  -- The environment and the programs are those of the world before the run.
  obtain ⟨tree, reports, rfl⟩ : ∃ tree reports,
      generated = { world with tree := tree, events := reports } :=
    ⟨_, _, Generation.eq_of_run hrun⟩
  refine ⟨?_, ?_, ?_, hapart⟩
  · intro hclean
    exact hformats.invocations hdue.written (hnul.not.mpr hclean)
  · intro hname
    rw [hformats.eq_of_hasNul (hnul.mpr hname)]
    exact ⟨rfl, rfl⟩
  · intro e hstart
    exact hformats.tree_of_error hstart

end Reported

/-- What a command that generates starts and changes.  Without settings it fails and does
nothing.  With them it generates into the directory that it names itself, or else the
settings, or else `Generated`.  If that gives a report of written files, formatting is asked
for and it is no dry run, the formatter is started once, on the edition and these files, of
which none was kept.  In every other case no program is started, and then, as with a
formatter that cannot be started, the files are those that generation left. -/
theorem formatter_of_generate (command : GenerateCommand) (world : World) :
    ∃ result final, Action.runIn (run (.generate command)) world = (result, final) ∧
      (final.invocations = world.invocations ∨
        ∃ invocation, final.invocations = world.invocations ++ [invocation]) ∧
      (∀ failure,
        (Action.runIn (Settings.loadFor command.settings? command.configuration) world).1 =
            .error failure →
          result = .error failure ∧ final = world) ∧
      ∀ settings,
        (Action.runIn (Settings.loadFor command.settings? command.configuration) world).1 =
            .ok settings →
          ∃ generation generated,
            Action.runIn (Generation.run command.configuration
                { outputDir := command.output?.getD (settings.outputDir?.getD ⟨"Generated"⟩)
                  force := command.force
                  dryRun := command.dryRun
                  registry := CategoricalRegistry.builtin.withExtra settings.categorical })
              world = (generation, generated) ∧
            ((∀ report, ¬Due command settings generation report) →
              final.invocations = world.invocations ∧ final.tree = generated.tree) ∧
            ∀ report, Due command settings generation report →
              HandsOver world generated report final := by
  obtain ⟨result, final, hrun, hgenerates⟩ := runIn_run_generate command world
  refine ⟨result, final, hrun, ?_⟩
  simp only [Settings.runIn_loadFor]
  cases hgenerates with
  | unset hsettings =>
      refine ⟨.inl rfl, ?_, by simp [hsettings]⟩
      intro failure hfailure
      rw [hsettings, Except.error.injEq] at hfailure
      exact ⟨congrArg Except.error hfailure, rfl⟩
  | failed hsettings hgeneration =>
      have hnone : final.invocations = world.invocations := by
        rw [Generation.eq_of_run hgeneration]
      refine ⟨.inl hnone, by simp [hsettings], ?_⟩
      intro settings hloaded
      obtain rfl := Except.ok.inj (hsettings.symm.trans hloaded)
      refine ⟨_, _, hgeneration, fun _ => ⟨hnone, rfl⟩, ?_⟩
      intro report hdue
      exact absurd hdue.reported (by simp)
  | reported hsettings hgeneration hformats =>
      rename_i generated formatted events
      have hnone : generated.invocations = world.invocations := by
        rw [Generation.eq_of_run hgeneration]
      refine ⟨?_, by simp [hsettings], ?_⟩
      · rw [← hnone]
        exact hformats.once.imp_right fun hstarted => ⟨_, hstarted⟩
      intro settings hloaded
      obtain rfl := Except.ok.inj (hsettings.symm.trans hloaded)
      refine ⟨_, _, hgeneration, ?_, ?_⟩
      · intro hnot
        rw [hformats.eq_of_nil (toFormat_eq_nil hnot)]
        exact ⟨hnone, rfl⟩
      · intro report hdue
        obtain rfl := Except.ok.inj hdue.reported
        rw [hdue.toFormat_eq] at hformats
        exact handsOver_of_formats hdue hgeneration hformats events

/-! ## Formatting the edited project -/

/-- A command that generates into `out` and formats. -/
def formatting : GenerateCommand where
  configuration := ⟨"c.json"⟩
  output? := some ⟨"out"⟩
  settings? := none
  force := false
  dryRun := false
  format := true

theorem pathExists_edited {file : Path}
    (hfile : file = ⟨"voldelig.toml"⟩ ∨ file = ⟨"s.toml"⟩) :
    Generation.edited.pathExists file = false := by
  have hcheck : FileTree.checkPath file = .ok () := by
    rcases hfile with rfl | rfl <;> exact FileTree.checkPath_eq_ok_iff.mpr (by decide)
  have horigin : FileTree.origin Generation.edited.workingDir file = [] :=
    FileTree.origin_nil file
  rw [World.pathExists, FileTree.pathExists, FileTree.find, hcheck, horigin]
  rcases hfile with rfl | rfl <;> decide

theorem prepared_formatting :
    Generation.prepared Generation.edited ⟨"c.json"⟩ (options formatting {}) =
      .ok ([Generation.projectUnit], []) := by
  have hmodel : RecordModel.ofSchema ⟨"foo", "k", []⟩ .builtin =
      RecordModel.ofSchema ⟨"foo", "k", []⟩ ⟨[]⟩ :=
    RecordModel.ofSchema_eq_of_presentIn_eq (by decide)
  have hunit : Generation.projectUnit = .ofSchema .builtin ⟨"foo", "k", []⟩ :=
    (GeneratedUnit.ofSchema_eq_of_model_eq hmodel).symm
  rw [hunit]
  exact Generation.prepared_eq_ok_iff.mpr ⟨CategoricalRegistry.fault?_builtin, _,
    Generation.declared_of_eq (.inr rfl), by simp, rfl, rfl⟩

theorem exists_report_formatting : ∃ report generated,
    Action.runIn (Generation.run ⟨"c.json"⟩ (options formatting {})) Generation.edited =
      (.ok report, generated) ∧
    report.written = [⟨"out/mod.rs"⟩] := by
  have hpaths : ∀ unit ∈ [Generation.projectUnit],
      ¬FileTree.isTooLong (Output.fileName unit) ∧
        FileTree.checkPath (Output.unitFile ⟨"out"⟩ unit) = .ok () := by
    intro unit hunit
    rw [List.mem_singleton.mp hunit]
    exact ⟨by decide, Generation.checkPath_projectUnit (by decide) (by decide)⟩
  obtain ⟨report, tree, events, hrun, hunits, _⟩ := Generation.exists_report_of_resolve rfl rfl
    prepared_formatting Generation.createDirs_edited Generation.resolve_edited hpaths
    (Generation.checkPath_moduleList (by decide) (by decide)) (by decide)
  obtain ⟨made, hmade, _, _, hwritten, _⟩ := Generation.report_eq_of_run rfl hrun
  have hsame := hmade.symm.trans Generation.createDirs_edited
  rw [Prod.mk.injEq] at hsame
  refine ⟨report, _, hrun, ?_⟩
  rw [hwritten, hunits, hsame.2, Output.filesOf]
  have hkeeps : Output.keeps Generation.edited.tree Generation.edited.workingDir ⟨"out"⟩ false
      Generation.projectUnit = true := Generation.keeps_edited
  change ([Generation.projectUnit].filter fun unit => !Output.keeps Generation.edited.tree
    Generation.edited.workingDir ⟨"out"⟩ false unit).map _ ++ _ = _
  rw [List.filter_cons_of_neg (by simp [hkeeps])]
  exact congrArg (fun file => [file]) Generation.moduleListFile_out

/-- The formatter gets the module list of the edited project, and not the module, which was
kept.  With settings named that are not there, nothing happens. -/
theorem formatter_of_edited :
    (∃ result final,
      Action.runIn (run (.generate formatting)) Generation.edited = (result, final) ∧
      final.invocations = [⟨"rustfmt", ["--edition", "2021", "out/mod.rs"]⟩]) ∧
    Action.runIn (run (.generate { formatting with settings? := some ⟨"s.toml"⟩ }))
        Generation.edited =
      (.error (.settingsMissing ⟨"s.toml"⟩), Generation.edited) := by
  constructor
  · obtain ⟨result, final, hrun, _, _, hloaded⟩ :=
      formatter_of_generate formatting Generation.edited
    have hsettings : (Action.runIn (Settings.loadFor formatting.settings?
        formatting.configuration) Generation.edited).1 = .ok {} := by
      have hbeside : Settings.beside formatting.configuration = ⟨"voldelig.toml"⟩ := by
        have hparent : formatting.configuration.parent?.getD ⟨""⟩ = ⟨""⟩ := by decide
        rw [Settings.beside_eq_join, hparent]
        exact FileTree.join_empty Settings.isFileName_fileName
      rw [Settings.runIn_loadFor]
      exact Settings.applied_eq_ok_iff.mpr
        (.unset (hbeside ▸ pathExists_edited (.inl rfl)))
    obtain ⟨generation, generated, hgeneration, _, hdue⟩ := hloaded {} hsettings
    obtain ⟨report, after, hreport, hwritten⟩ := exists_report_formatting
    obtain ⟨rfl, rfl⟩ := Prod.mk.inj (hgeneration.symm.trans hreport)
    have hhands := hdue report ⟨rfl, rfl, .inl rfl, by simp [hwritten]⟩
    refine ⟨result, final, hrun, ?_⟩
    rw [hhands.started (by decide), hwritten]
    rfl
  · obtain ⟨result, final, hrun, _, hfailed, _⟩ := formatter_of_generate
      { formatting with settings? := some ⟨"s.toml"⟩ } Generation.edited
    have hmissing : (Action.runIn (Settings.loadFor (some ⟨"s.toml"⟩) ⟨"c.json"⟩)
        Generation.edited).1 = .error (.settingsMissing ⟨"s.toml"⟩) := by
      rw [Settings.runIn_loadFor, Settings.applied, pathExists_edited (.inr rfl)]
      rfl
    obtain ⟨rfl, rfl⟩ := hfailed _ hmissing
    exact hrun

end TypedContainers.Command
