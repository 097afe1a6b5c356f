import TypedContainers.Proofs.Project.Outcome

/-!
# Dry runs

A dry run announces the file of every unit.  A real run from the same world writes or
keeps exactly these files, and after them the module list, which no dry run announces.
-/

namespace TypedContainers

/-- The file that an event says would be written. -/
def Log.Event.announced? : Log.Event → Option Path
  | .wouldWrite file => some file
  | _ => none

/-- The files that were said to be written in a real run, in order. -/
def World.announced (world : World) : List Path :=
  world.events.filterMap Log.Event.announced?

theorem World.announced_report (world : World) (event : Log.Event) :
    (world.report event).announced = world.announced ++ event.announced?.toList := by
  rw [World.announced, World.report, List.filterMap_append]
  cases event <;> rfl

/-! ## Actions that announce nothing -/

namespace Action

variable {α β : Type}

/-- An action that announces no file. -/
def Quiet (action : Action (StateM World) α) : Prop :=
  ∀ world, (action.runIn world).2.announced = world.announced

theorem quiet_pure (value : α) : Quiet (pure value) := fun _ => rfl

theorem quiet_throw (failure : Failure) :
    Quiet (throw failure : Action (StateM World) α) := fun _ => rfl

theorem quiet_report {event : Log.Event} (hevent : event.announced? = none) :
    Quiet (report event) := by
  intro world
  rw [runIn_report, World.announced_report, hevent]
  exact List.append_nil _

theorem quiet_require {ε : Type} (failure : ε → Failure) (result : Except ε α) :
    Quiet (require failure result) := by
  intro world
  rw [runIn_require]

theorem quiet_readText (failure : IoError → Failure) (file : Path) :
    Quiet (attempt failure (Machine.readText file)) := by
  intro world
  rw [runIn_attempt]
  rfl

/-- A sequence of quiet actions is quiet. -/
theorem Quiet.bind {action : Action (StateM World) α}
    {next : α → Action (StateM World) β} (haction : Quiet action)
    (hnext : ∀ value, Quiet (next value)) : Quiet (action >>= next) := by
  intro world
  have hfirst := haction world
  rw [runIn_bind]
  generalize action.runIn world = outcome at hfirst ⊢
  obtain ⟨result, after⟩ := outcome
  cases result with
  | error failure => exact hfirst
  | ok value => exact (hnext value after).trans hfirst

theorem quiet_forM {action : α → Action (StateM World) Unit} {items : List α}
    (hitems : ∀ item ∈ items, Quiet (action item)) : Quiet (items.forM action) := by
  induction items with
  | nil => exact quiet_pure ()
  | cons item rest ih =>
      exact (hitems item List.mem_cons_self).bind fun _ =>
        ih fun other hother => hitems other (List.mem_cons_of_mem item hother)

end Action

open TypedContainers.Action
  (Quiet quiet_pure quiet_throw quiet_report quiet_require quiet_readText quiet_forM)

theorem Configuration.quiet_load (file : Path) :
    Quiet (load file : Action (StateM World) SchemaSet) := by
  have hevent : ∀ declaration, (event declaration).announced? = none := by
    intro declaration
    rw [event]
    cases declaration.schema? with
    | none => rfl
    | some schema => rfl
  exact (quiet_readText _ file).bind fun _ => (quiet_require id _).bind fun _ =>
    (quiet_require _ _).bind fun _ =>
      (quiet_forM fun declaration _ => quiet_report (hevent declaration)).bind fun _ =>
        quiet_pure _

namespace Generation

open Output (unitFile fileName keeps filesOf)

variable {world : World} {configuration : Path} {options : GenerateOptions}
variable {units : List GeneratedUnit} {skipped : List String}

theorem quiet_generateAll (containers : List ContainerSchema)
    (registry : CategoricalRegistry) :
    Quiet (generateAll containers registry : Action (StateM World) (List GeneratedUnit)) :=
  (quiet_forM fun _ _ => quiet_report rfl).bind fun _ => quiet_require _ _

/-- Nothing is announced before all units are there. -/
theorem quiet_prepare (configuration : Path) (options : GenerateOptions) :
    Quiet (prepare configuration options :
      Action (StateM World) (List GeneratedUnit × List String)) := by
  refine (quiet_report rfl).bind fun _ => ?_
  have hrest : Quiet (Configuration.load configuration >>= fun schemas =>
      generateAll schemas.containers options.registry >>= fun units =>
        (pure (units, schemas.skipped) :
          Action (StateM World) (List GeneratedUnit × List String))) :=
    (Configuration.quiet_load configuration).bind fun _ =>
      (quiet_generateAll _ _).bind fun _ => quiet_pure _
  cases options.registry.fault? with
  | some fault => exact (quiet_throw _).bind fun _ => hrest
  | none => exact hrest

/-! ## Dry runs and real runs -/

/-- A preview announces the file of every unit, in order. -/
theorem announced_forM_wouldWrite (directory : Path) (units : List GeneratedUnit)
    (world : World) :
    (Action.runIn (units.forM fun unit =>
      Action.report (.wouldWrite (unitFile directory unit))) world).2.announced =
        world.announced ++ units.map (unitFile directory) := by
  induction units generalizing world with
  | nil => exact (List.append_nil _).symm
  | cons unit rest ih =>
      change (Action.runIn (Action.report (.wouldWrite (unitFile directory unit)) >>= fun _ =>
        rest.forM fun unit => Action.report (.wouldWrite (unitFile directory unit)))
          world).2.announced = _
      rw [Action.runIn_bind, Action.runIn_report]
      simp only [ih, World.announced_report, List.map_cons]
      simp [Log.Event.announced?]

theorem announced_preview (options : GenerateOptions) (units : List GeneratedUnit)
    (skipped : List String) (world : World) :
    (Action.runIn (preview options units skipped) world).2.announced =
      world.announced ++ units.map (unitFile options.outputDir) := by
  have hfiles := announced_forM_wouldWrite options.outputDir units world
  rw [preview, Action.runIn_bind]
  obtain ⟨events, hreports⟩ := Action.runIn_forM_report
    (fun unit => Log.Event.wouldWrite (unitFile options.outputDir unit)) units world
  rw [hreports] at hfiles ⊢
  exact hfiles

/-- What a dry run gives and announces once its units are there. -/
theorem exists_preview (hdry : options.dryRun = true)
    (hprepared : prepared world configuration options = .ok (units, skipped)) : ∃ shown,
    Action.runIn (run configuration options) world =
      (.ok ⟨options.outputDir, units, [], [], skipped⟩, shown) ∧
    shown.announced = world.announced ++ units.map (unitFile options.outputDir) := by
  obtain ⟨events, hprepare⟩ := runIn_prepare world configuration options
  have hquiet := quiet_prepare configuration options world
  have hannounced := announced_preview options units skipped { world with events := events }
  obtain ⟨reported, hpreview⟩ :=
    runIn_preview options units skipped { world with events := events }
  rw [hprepare] at hquiet
  rw [hpreview] at hannounced
  refine ⟨{ world with events := reported }, ?_, hannounced.trans (by rw [hquiet])⟩
  rw [run, Action.runIn_bind, hprepare, hprepared]
  simp only [hdry, if_true]
  exact hpreview

theorem moduleListFile_not_mem_map
    (hprepared : prepared world configuration options = .ok (units, skipped)) :
    Output.moduleListFile options.outputDir ∉ units.map (unitFile options.outputDir) := by
  intro hmem
  obtain ⟨hnames, _, hlist⟩ := files_of_prepared hprepared
  obtain ⟨unit, hunit, heq⟩ := List.mem_map.mp hmem
  exact hlist unit hunit
    (FileTree.join_injective (hnames unit hunit) Output.isFileName_moduleList heq)

/-- Written and kept files are those of all units, and the module list. -/
theorem perm_files (tree : FileTree) (workingDir : Location) (directory : Path)
    (force : Bool) (units : List GeneratedUnit) :
    ((filesOf tree workingDir directory force units).written ++ listFiles directory units ++
      (filesOf tree workingDir directory force units).kept).Perm
        (units.map (unitFile directory) ++ listFiles directory units) := by
  have hparts : (units.map (unitFile directory)).Perm
      ((filesOf tree workingDir directory force units).kept ++
        (filesOf tree workingDir directory force units).written) := by
    rw [filesOf, ← List.map_append]
    exact ((List.filter_append_perm (keeps tree workingDir directory force) units).map
      _).symm
  refine List.perm_append_comm.trans ?_
  rw [← List.append_assoc]
  exact hparts.symm.append_right _

/-- A dry run from the world of a real one that gives a report.  It gives the same
units, and announces the files that the real run writes or keeps, except the module
list; so it announces the written files exactly if there is no unit. -/
theorem preview_of_report {report : GenerationReport} {after : World}
    (hrun : Action.runIn (run configuration { options with dryRun := false }) world =
      (.ok report, after)) :
    ∃ preview shown announced,
      Action.runIn (run configuration { options with dryRun := true }) world =
        (.ok preview, shown) ∧
      preview.units = report.units ∧ preview.skipped = report.skipped ∧
      preview.outputDir = report.outputDir ∧
      shown.announced = world.announced ++ announced ∧
      announced = report.units.map (unitFile options.outputDir) ∧
      (report.written ++ report.kept).Perm
        (announced ++ listFiles options.outputDir report.units) ∧
      ((∀ file, file ∈ announced ↔ file ∈ report.written) ↔ report.units = []) := by
  obtain ⟨made, _, hprepared, hdirectory, hwritten, hkept, _⟩ := report_eq_of_run rfl hrun
  have hdry : prepared world configuration { options with dryRun := true } =
      .ok (report.units, report.skipped) := hprepared
  obtain ⟨shown, hpreview, hshown⟩ := exists_preview rfl hdry
  refine ⟨_, shown, _, hpreview, rfl, rfl, hdirectory.symm, hshown, rfl, ?_, ?_⟩
  · rw [hwritten, hkept]
    exact perm_files made world.workingDir options.outputDir options.force report.units
  · constructor
    · intro hsame
      -- The module list is written with the units and never announced.
      by_cases hunits : report.units = []
      · exact hunits
      · have hlist : Output.moduleListFile options.outputDir ∈ report.written := by
          rw [hwritten]
          exact List.mem_append_right _ (by simp [listFiles, hunits])
        exact absurd ((hsame _).mpr hlist) (moduleListFile_not_mem_map hprepared)
    · intro hunits file
      simp [hwritten, hunits, filesOf, listFiles]

/-! ## The edited project -/

theorem keeps_edited : keeps edited.tree [] ⟨"out"⟩ false projectUnit = true := by
  have hfind : edited.tree.find [] (unitFile ⟨"out"⟩ projectUnit) =
      .ok (.file (.text "// edited\n")) := by
    apply FileTree.find_eq_ok_iff.mpr
    exact ⟨checkPath_projectUnit (by decide) (by decide), ["Foo.rs", "out"],
      FileTree.leadsTo_join isFileName_projectUnit (by decide) resolve_edited, rfl⟩
  rw [keeps, FileTree.pathExists, hfind]
  rfl

/-- A dry run on the edited project announces its module. -/
theorem preview_of_edited : ∃ report after preview shown announced,
    Action.runIn (run ⟨"c.json"⟩ (into "out")) edited = (.ok report, after) ∧
    Action.runIn (run ⟨"c.json"⟩ { into "out" with dryRun := true }) edited =
      (.ok preview, shown) ∧
    preview.units = report.units ∧ shown.announced = announced ∧
    announced = [⟨"out/Foo.rs"⟩] ∧
    ¬∀ file, file ∈ announced ↔ file ∈ report.written := by
  obtain ⟨report, after, hrun, hunits, _⟩ := exists_report_edited
  have hreal : Action.runIn (run ⟨"c.json"⟩ { into "out" with dryRun := false }) edited =
      (.ok report, after) := hrun
  obtain ⟨preview, shown, announced, hpreview, hsame, _, _, hshown, hfiles, _, hexact⟩ :=
    preview_of_report hreal
  refine ⟨report, after, preview, shown, announced, hrun, hpreview, hsame, hshown, ?_, ?_⟩
  · rw [hfiles, hunits]
    exact congrArg (fun file => [file]) unitFile_project
  · rw [hexact, hunits]
    simp

/-- A dry run on the edited project announces a file that a real run keeps, and not
the one that it writes. -/
theorem announced_ne_written_edited : ∃ report after preview shown,
    Action.runIn (run ⟨"c.json"⟩ (into "out")) edited = (.ok report, after) ∧
    Action.runIn (run ⟨"c.json"⟩ { into "out" with dryRun := true }) edited =
      (.ok preview, shown) ∧
    shown.announced = [⟨"out/Foo.rs"⟩] ∧ report.written = [⟨"out/mod.rs"⟩] := by
  obtain ⟨report, after, hrun, hunits, _⟩ := exists_report_edited
  obtain ⟨made, hmade, hprepared, _, hwritten, _⟩ := report_eq_of_run rfl hrun
  have hdry : prepared edited ⟨"c.json"⟩ { into "out" with dryRun := true } =
      .ok (report.units, report.skipped) := hprepared
  obtain ⟨shown, hpreview, hshown⟩ := exists_preview rfl hdry
  refine ⟨report, after, _, shown, hrun, hpreview, ?_, ?_⟩
  · rw [hshown, hunits]
    exact congrArg (fun file => [file]) unitFile_project
  · have hsame := hmade.symm.trans createDirs_edited
    rw [Prod.mk.injEq] at hsame
    rw [hwritten, hunits, hsame.2, filesOf]
    have hkeeps : keeps edited.tree [] ⟨"out"⟩ false projectUnit = true := keeps_edited
    change ([projectUnit].filter fun unit =>
      !keeps edited.tree [] ⟨"out"⟩ false unit).map _ ++ _ = _
    rw [List.filter_cons_of_neg (by simp [hkeeps])]
    exact congrArg (fun file => [file]) moduleListFile_out

end Generation

end TypedContainers
