import TypedContainers.Proofs.Project.Outcome

/-!
# Failures of a run

A run that fails before its first change leaves everything as it was.  One that fails
later leaves the first units handled as a run that gives a report handles them, and
nothing else but missing directories around its output.
-/

namespace TypedContainers.Generation

open FileTree (IsFileName Wrote Created created_of_createDirs)
open Output (unitFile fileName keeps texts Handled)

variable {world : World} {configuration : Path} {options : GenerateOptions}
variable {units : List GeneratedUnit} {skipped : List String}

/-- The state of a run that failed after its first units: these are handled, later
units and the module list are as they were once the output directory was there, and
every other place is as it was before the run, except for missing directories that
prefixes of the output directory lead to. -/
structure StoppedAfter (options : GenerateOptions) (workingDir : Location)
    (done rest : List GeneratedUnit) (before made after : FileTree) : Prop where
  handled : Handled workingDir options.outputDir options.force done rest made after
  list : after.find workingDir (Output.moduleListFile options.outputDir) =
    made.find workingDir (Output.moduleListFile options.outputDir)
  elsewhere : ∀ location,
    (∀ unit ∈ done, keeps made workingDir options.outputDir options.force unit = false →
      ¬after.LeadsTo workingDir (unitFile options.outputDir unit) location) →
    after.get? location = before.get? location ∨
      (before.get? location = none ∧ after.get? location = some .directory ∧
        ∃ ancestor ∈ options.outputDir.ancestors, after.LeadsTo workingDir ancestor location)

theorem stoppedAfter_of_wrote {workingDir : Location} {before made after : FileTree}
    {done rest : List GeneratedUnit}
    (hnames : ∀ unit ∈ done ++ rest, IsFileName (fileName unit))
    (hdistinct : ((done ++ rest).map fileName).Nodup)
    (hlist : ∀ unit ∈ done ++ rest, fileName unit ≠ "mod.rs")
    (hcreated : Created workingDir options.outputDir.ancestors before made)
    (hwrote : Wrote workingDir options.outputDir
      (texts made workingDir options.outputDir options.force done) made after) :
    StoppedAfter options workingDir done rest before made after where
  handled := by
    have hmore : Wrote workingDir options.outputDir
        (texts made workingDir options.outputDir options.force done ++ []) made after := by
      rwa [List.append_nil]
    exact Output.handled_of_wrote hnames hdistinct (by simp) hmore
  list := by
    apply hwrote.beside "mod.rs" Output.isFileName_moduleList
    intro hmem
    obtain ⟨unit, hunit, heq⟩ := Output.mem_map_fst_texts hmem
    exact hlist unit (List.mem_append_left rest hunit) heq
  elsewhere := by
    intro location hlocation
    have hsame := hwrote.elsewhere location (by
      intro file hfile
      obtain ⟨unit, hunit, rfl⟩ := List.mem_map.mp hfile
      obtain ⟨hmem, hkeeps⟩ := List.mem_filter.mp hunit
      exact hlocation unit hmem (by simpa using hkeeps))
    exact hcreated.get?_of_eq hwrote.directories hsame

theorem exists_failure_of_cause
    (hcause : options.registry.fault? ≠ none ∨
      (∃ failure, Configuration.declared world configuration = .error failure) ∨
      ∃ schemas, Configuration.declared world configuration = .ok schemas ∧
        ¬(schemas.containers.map ContainerSchema.typeName).Nodup) :
    ∃ failure after,
      Action.runIn (run configuration options) world = (.error failure, after) ∧
        after.tree = world.tree := by
  cases hprepared : prepared world configuration options with
  | error failure =>
      obtain ⟨events, hrun⟩ := runIn_run_of_error hprepared
      exact ⟨failure, _, hrun, rfl⟩
  | ok result =>
      obtain ⟨units, skipped⟩ := result
      obtain ⟨hfault, schemas, hdeclared, hdistinct, _⟩ := prepared_eq_ok_iff.mp hprepared
      rcases hcause with hcause | ⟨failure, hcause⟩ | ⟨others, hothers, hcause⟩
      · exact absurd hfault hcause
      · simp [hcause] at hdeclared
      · rw [hothers, Except.ok.injEq] at hdeclared
        exact absurd (hdeclared ▸ hdistinct) hcause

theorem tree_of_dryRun (hdry : options.dryRun = true) :
    (Action.runIn (run configuration options) world).2.tree = world.tree := by
  cases hprepared : prepared world configuration options with
  | error failure =>
      obtain ⟨events, hrun⟩ := runIn_run_of_error hprepared
      rw [hrun]
  | ok result =>
      obtain ⟨units, skipped⟩ := result
      obtain ⟨events, hrun⟩ := runIn_run_dry hdry hprepared
      rw [hrun]

/-- What a run that fails has done.  A table with a fault, a configuration that cannot
be loaded or containers that share a name make the run fail without a change, and a
dry run changes nothing whatever it gives.  A real run that fails later could not
create its output directory, and then no file is changed; or it has handled exactly
the first units, some number of them, as a successful run handles them. -/
theorem failure_of_run (world : World) (configuration : Path) (options : GenerateOptions) :
    ((options.registry.fault? ≠ none ∨
        (∃ failure, Configuration.declared world configuration = .error failure) ∨
        ∃ schemas, Configuration.declared world configuration = .ok schemas ∧
          ¬(schemas.containers.map ContainerSchema.typeName).Nodup) →
      ∃ failure after,
        Action.runIn (run configuration options) world = (.error failure, after) ∧
          after.tree = world.tree) ∧
    (options.dryRun = true →
      (Action.runIn (run configuration options) world).2.tree = world.tree) ∧
    ∀ schemas failure after, options.dryRun = false → options.registry.fault? = none →
      Configuration.declared world configuration = .ok schemas →
      (schemas.containers.map ContainerSchema.typeName).Nodup →
      Action.runIn (run configuration options) world = (.error failure, after) →
      ∃ created made,
        world.tree.createDirs world.workingDir options.outputDir = (created, made) ∧
        ((∃ e, created = .error e ∧ ∀ location content,
            after.tree.get? location = some (.file content) ↔
              world.tree.get? location = some (.file content)) ∨
          created = .ok () ∧ ∃ k ≤ schemas.containers.length,
            StoppedAfter options world.workingDir
              ((schemas.containers.map (GeneratedUnit.ofSchema options.registry)).take k)
              ((schemas.containers.map (GeneratedUnit.ofSchema options.registry)).drop k)
              world.tree made after.tree) := by
  refine ⟨exists_failure_of_cause, tree_of_dryRun, ?_⟩
  intro schemas failure after hreal hfault hdeclared hdistinct hrun
  have hprepared : prepared world configuration options = .ok
      (schemas.containers.map (GeneratedUnit.ofSchema options.registry),
        schemas.skipped) :=
    prepared_eq_ok_iff.mpr ⟨hfault, schemas, hdeclared, hdistinct, rfl, rfl⟩
  obtain ⟨hnames, hfiles, hlist⟩ := files_of_prepared hprepared
  obtain ⟨result, tree, events, hwrite, hwrites⟩ := runIn_run_real hreal hprepared
  rw [hwrite, Prod.mk.injEq] at hrun
  obtain ⟨rfl, rfl⟩ := hrun
  cases hwrites with
  | noDirectory hmade =>
      exact ⟨_, tree, hmade, .inl ⟨_, rfl, (created_of_createDirs hmade).file_iff⟩⟩
  | stopped hmade hhandles =>
      cases hhandles with
      | stopped hunits hkeeps hwrote hfailed =>
          rename_i done rest unit e
          rw [hunits] at hnames hfiles hlist
          refine ⟨_, _, hmade, .inr ⟨rfl, done.length, ?_, ?_⟩⟩
          · have hlength := congrArg List.length hunits
            rw [List.length_map, List.length_append] at hlength
            omega
          · rw [hunits, List.take_left, List.drop_left]
            exact stoppedAfter_of_wrote hnames hfiles hlist (created_of_createDirs hmade)
              hwrote
  | noList hmade hwrote hfailed =>
      refine ⟨_, _, hmade, .inr ⟨rfl, schemas.containers.length, Nat.le_refl _, ?_⟩⟩
      rw [List.take_of_length_le (by simp), List.drop_eq_nil_of_le (by simp)]
      apply stoppedAfter_of_wrote _ _ _ (created_of_createDirs hmade) hwrote
      · simpa using hnames
      · simpa using hfiles
      · simpa using hlist

/-! ## Projects that fail -/

/-- A directory in the place of a module, and a module that was edited. -/
def blockedFoo : List (Location × FileNode) :=
  [(["Foo.rs", "out"], .directory), (["Qux.rs", "out"], .file (.text "// edited\n"))]

/-- A run into `out` that overwrites files. -/
def overwriting : GenerateOptions :=
  { into "out" with force := true }

theorem find_blockedFoo :
    (several blockedFoo).tree.pathExists [] (unitFile ⟨"out"⟩ barUnit) = false ∧
    (several blockedFoo).tree.find [] (unitFile ⟨"out"⟩ projectUnit) = .ok .directory ∧
    (several blockedFoo).tree.find [] (unitFile ⟨"out"⟩ quxUnit) =
      .ok (.file (.text "// edited\n")) := by
  have hbar : keeps (several blockedFoo).tree [] ⟨"out"⟩ false barUnit = _ :=
    keeps_several (by simp [severalUnits]) false
  have hnew : ((several blockedFoo).tree.get? [fileName barUnit, "out"]).isSome = false := by
    decide
  rw [keeps, hnew, Bool.not_false, Bool.and_true, Bool.and_true] at hbar
  exact ⟨hbar, find_several (by simp [severalUnits]) (by decide),
    find_several (by simp [severalUnits]) (by decide)⟩

theorem keeps_overwriting (tree : FileTree) (unit : GeneratedUnit) :
    keeps tree [] ⟨"out"⟩ true unit = false := by
  simp [keeps]

theorem exists_failure_several : ∃ failure tree events,
    Action.runIn (run ⟨"c.json"⟩ overwriting) (several blockedFoo) =
        (.error failure, { several blockedFoo with tree := tree, events := events }) ∧
    Wrote [] ⟨"out"⟩ [(fileName barUnit, barUnit.text)] (several blockedFoo).tree tree := by
  have hprepared : prepared (several blockedFoo) ⟨"c.json"⟩ overwriting =
      .ok ([barUnit] ++ projectUnit :: [quxUnit], []) := prepared_several rfl
  have hmade : (several blockedFoo).tree.createDirs (several blockedFoo).workingDir ⟨"out"⟩ =
      (.ok (), (several blockedFoo).tree) := createDirs_several
  obtain ⟨_, hplace, _⟩ := find_blockedFoo
  have hwritable : ∃ changed, (several blockedFoo).tree.writeFile []
      (unitFile ⟨"out"⟩ barUnit) (.text barUnit.text) = .ok changed := by
    have hunit : barUnit ∈ severalUnits := List.mem_cons_self
    obtain ⟨hshort, hpath⟩ := checkPath_several hunit
    apply (FileTree.writeFile_join_eq_ok_iff (isFileName_several hunit) _).mpr
    exact ⟨hpath, hshort, ["out"], resolve_several, by decide⟩
  obtain ⟨failure, tree, events, hrun, hwrote⟩ := exists_failure_at rfl hprepared hmade
    (fun other hother _ => by rwa [List.mem_singleton.mp hother])
    (keeps_overwriting _ projectUnit) hplace
  have htexts : texts (several blockedFoo).tree [] ⟨"out"⟩ true [barUnit] =
      [(fileName barUnit, barUnit.text)] := by
    simp [texts, keeps_overwriting]
  exact ⟨failure, tree, events, hrun, htexts ▸ hwrote⟩

/-- A run on the project writes one module, fails at the next one, and leaves the last one
and the module list alone. -/
theorem failure_of_several : ∃ failure after,
    Action.runIn (run ⟨"c.json"⟩ overwriting) (several blockedFoo) = (.error failure, after) ∧
    StoppedAfter overwriting [] [barUnit] [projectUnit, quxUnit] (several blockedFoo).tree
      (several blockedFoo).tree after.tree ∧
    after.tree.readText [] ⟨"out/Bar.rs"⟩ = .ok barUnit.text ∧
    after.tree.readText [] ⟨"out/Qux.rs"⟩ = .ok "// edited\n" := by
  obtain ⟨failure, tree, events, hrun, hwrote⟩ := exists_failure_several
  obtain ⟨hmissing, hfoo, hqux⟩ := find_blockedFoo
  obtain ⟨_, made, hmade, hstate⟩ :=
    (failure_of_run (several blockedFoo) ⟨"c.json"⟩ overwriting).2.2 _ failure _ rfl rfl
      declared_several (by decide) hrun
  obtain ⟨rfl, rfl⟩ := Prod.mk.inj (createDirs_several.symm.trans hmade)
  rcases hstate with ⟨e, hcreated, _⟩ | ⟨_, k, _, hstopped⟩
  · simp at hcreated
  · have hunits : severalSchemas.map (GeneratedUnit.ofSchema overwriting.registry) =
        severalUnits := rfl
    rw [hunits] at hstopped
    have hbar : tree.find [] (unitFile ⟨"out"⟩ barUnit) = .ok (.file (.text barUnit.text)) :=
      hwrote.written (fileName barUnit, barUnit.text) (List.mem_singleton_self _)
    have hbarFile : unitFile ⟨"out"⟩ barUnit = ⟨"out/Bar.rs"⟩ := by
      simpa [severalUnits] using congrArg List.head? unitFiles_several
    have hquxFile : unitFile ⟨"out"⟩ quxUnit = ⟨"out/Qux.rs"⟩ := by
      simpa [severalUnits] using congrArg List.getLast? unitFiles_several
    rcases k with _ | _ | k
    · have hsame := hstopped.handled.later barUnit (by simp [severalUnits])
      have hthere : (several blockedFoo).tree.find [] (unitFile ⟨"out"⟩ barUnit) =
          .ok (.file (.text barUnit.text)) := hsame.symm.trans hbar
      rw [FileTree.pathExists, hthere] at hmissing
      simp [Except.isOk, Except.toBool] at hmissing
    · refine ⟨failure, _, hrun, hstopped, ?_, ?_⟩
      · rw [← hbarFile, FileTree.readText]
        exact hbar ▸ rfl
      · have hsame := hstopped.handled.later quxUnit (by simp [severalUnits])
        rw [← hquxFile, FileTree.readText]
        exact (hsame.trans hqux) ▸ rfl
    · -- A directory stays in the place of the second module.
      have hkept := FileTree.find_directory_of_keepsDirectories hwrote.directories hfoo
      have htext : tree.readText [] (unitFile ⟨"out"⟩ projectUnit) = .ok projectUnit.text :=
        hstopped.handled.written projectUnit (by simp [severalUnits])
          (keeps_overwriting _ projectUnit)
      rw [FileTree.readText, hkept] at htext
      simp at htext

theorem exists_failure_project : ∃ failure tree events,
    Action.runIn (run ⟨"c.json"⟩ (into "mod.rs/..")) project =
        (.error failure, { project with tree := tree, events := events }) ∧
    Wrote [] ⟨"mod.rs/.."⟩ (texts (project.tree.set ["mod.rs"] .directory) []
      ⟨"mod.rs/.."⟩ false [projectUnit]) (project.tree.set ["mod.rs"] .directory) tree := by
  have hmade : project.tree.createDirs [] ⟨"mod.rs/.."⟩ =
      (.ok (), project.tree.set ["mod.rs"] .directory) := createDirs_project (.inr rfl)
  have hlist : (project.tree.set ["mod.rs"] .directory).find []
      (Output.moduleListFile ⟨"mod.rs/.."⟩) = .ok .directory := by
    apply FileTree.find_eq_ok_iff.mpr
    exact ⟨FileTree.checkPath_eq_ok_iff.mpr (by decide +kernel), ["mod.rs"],
      toOption_eq_some_iff.mp (by decide +kernel), rfl⟩
  have hunit : ∃ changed, (project.tree.set ["mod.rs"] .directory).writeFile []
      (unitFile ⟨"mod.rs/.."⟩ projectUnit) (.text projectUnit.text) = .ok changed := by
    apply (FileTree.writeFile_join_eq_ok_iff isFileName_projectUnit _).mpr
    exact ⟨FileTree.checkPath_eq_ok_iff.mpr (by decide +kernel), by decide +kernel, [],
      toOption_eq_some_iff.mp (by decide +kernel), by decide +kernel⟩
  have hwritable : ∀ unit ∈ [projectUnit], keeps (project.tree.set ["mod.rs"] .directory) []
      ⟨"mod.rs/.."⟩ false unit = false →
      ∃ changed, (project.tree.set ["mod.rs"] .directory).writeFile []
        (unitFile ⟨"mod.rs/.."⟩ unit) (.text unit.text) = .ok changed := by
    intro unit hmem _
    rwa [List.mem_singleton.mp hmem]
  exact exists_failure_of_directory rfl (prepared_project "mod.rs/..") hmade hwritable
    (by simp) hlist

/-- The module list's path need not lead where it led before a run that fails after
all units: a run into `mod.rs/..` creates the directory `mod.rs`. -/
theorem exists_failure_with_directory : ∃ failure after,
    Action.runIn (run ⟨"c.json"⟩ (into "mod.rs/..")) project = (.error failure, after) ∧
    project.pathExists (unitFile ⟨"mod.rs/.."⟩ projectUnit) = false ∧
    after.tree.readText [] (unitFile ⟨"mod.rs/.."⟩ projectUnit) = .ok projectUnit.text ∧
    project.pathExists (Output.moduleListFile ⟨"mod.rs/.."⟩) = false ∧
    after.tree.find [] (Output.moduleListFile ⟨"mod.rs/.."⟩) = .ok .directory := by
  obtain ⟨failure, tree, events, hrun, hwrote⟩ := exists_failure_project
  have hunit : FileTree.checkPath (unitFile ⟨"mod.rs/.."⟩ projectUnit) = .ok () :=
    FileTree.checkPath_eq_ok_iff.mpr (by decide +kernel)
  have hlist : FileTree.checkPath (Output.moduleListFile ⟨"mod.rs/.."⟩) = .ok () :=
    FileTree.checkPath_eq_ok_iff.mpr (by decide +kernel)
  have hkeeps : keeps (project.tree.set ["mod.rs"] .directory) [] ⟨"mod.rs/.."⟩ false
      projectUnit = false := by
    rw [keeps, FileTree.pathExists, FileTree.find, hunit]
    decide +kernel
  have hmem : (fileName projectUnit, projectUnit.text) ∈
      texts (project.tree.set ["mod.rs"] .directory) [] ⟨"mod.rs/.."⟩ false [projectUnit] := by
    simp [texts, hkeeps]
  refine ⟨failure, _, hrun, ?_, ?_, ?_, ?_⟩
  · rw [World.pathExists, FileTree.pathExists, FileTree.find, hunit]
    decide +kernel
  · have hfind := hwrote.written (fileName projectUnit, projectUnit.text) hmem
    rw [Output.join_fileName] at hfind
    change FileTree.readText tree [] _ = _
    rw [FileTree.readText, hfind]
  · rw [World.pathExists, FileTree.pathExists, FileTree.find, hlist]
    decide +kernel
  · apply FileTree.find_directory_of_keepsDirectories hwrote.directories
    apply FileTree.find_eq_ok_iff.mpr
    exact ⟨hlist, ["mod.rs"], toOption_eq_some_iff.mp (by decide +kernel), rfl⟩

end TypedContainers.Generation
