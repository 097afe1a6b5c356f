import TypedContainers.Project.Generate
import TypedContainers.Proofs.Project.Configuration
import TypedContainers.Proofs.Project.Output

/-!
# Runs of the generator

A run is decided before it changes a file: by the table, the configuration and the
names of the containers.  After that only the output directory, the files of units
and the module list change, one after the other, and a failure leaves what was done
before it.
-/

namespace TypedContainers.Generation

open FileTree (IsFileName Wrote Created)
open Output (unitFile fileName keeps texts filesOf Handles)

/-! ## Before the first change -/

/-- The units of a run, and the names of the containers it skips. -/
def prepared (world : World) (configuration : Path) (options : GenerateOptions) :
    Except Failure (List GeneratedUnit × List String) :=
  match options.registry.fault? with
  | some fault => .error (.registry fault)
  | none =>
    (Configuration.declared world configuration).bind fun schemas =>
      ((generateUnits schemas.containers options.registry).mapError Failure.collision).map
        fun units => (units, schemas.skipped)

variable {world : World} {configuration : Path} {options : GenerateOptions}
variable {units : List GeneratedUnit} {skipped : List String}

theorem prepared_eq_ok_iff :
    prepared world configuration options = .ok (units, skipped) ↔
      options.registry.fault? = none ∧ ∃ schemas,
        Configuration.declared world configuration = .ok schemas ∧
        (schemas.containers.map ContainerSchema.typeName).Nodup ∧
        units = schemas.containers.map (GeneratedUnit.ofSchema options.registry) ∧
        skipped = schemas.skipped := by
  rw [prepared]
  cases options.registry.fault? with
  | some fault => simp
  | none =>
      simp only [bind_eq_ok_iff, map_eq_ok_iff, mapError_eq_ok_iff, generateUnits_eq_ok_iff,
        Prod.mk.injEq, true_and]
      constructor
      · rintro ⟨schemas, hdeclared, found, ⟨hdistinct, rfl⟩, rfl, rfl⟩
        exact ⟨schemas, hdeclared, hdistinct, rfl, rfl⟩
      · rintro ⟨schemas, hdeclared, hdistinct, rfl, rfl⟩
        exact ⟨schemas, hdeclared, _, ⟨hdistinct, rfl⟩, rfl, rfl⟩

/-- Generating units only reports. -/
theorem runIn_generateAll (containers : List ContainerSchema)
    (registry : CategoricalRegistry) (world : World) :
    ∃ events, Action.runIn (generateAll containers registry) world =
        ((generateUnits containers registry).mapError Failure.collision,
          { world with events := events }) := by
  obtain ⟨events, hreports⟩ := Action.runIn_forM_report
    (fun schema => Log.Event.emitting (.ofSchema schema registry)) (attempted containers)
    world
  refine ⟨events, ?_⟩
  rw [generateAll, Action.runIn_bind, hreports]
  exact Action.runIn_require _ _ _

/-- Everything before the first change is decided by the world, and only reports. -/
theorem runIn_prepare (world : World) (configuration : Path) (options : GenerateOptions) :
    ∃ events, Action.runIn (prepare configuration options) world =
        (prepared world configuration options, { world with events := events }) := by
  rw [prepare, prepared, Action.runIn_bind, Action.runIn_report]
  cases options.registry.fault? with
  | some fault => exact ⟨_, rfl⟩
  | none =>
      obtain ⟨events, hload⟩ :=
        Configuration.runIn_load configuration (world.report (.generating configuration))
      have hdeclared : Configuration.declared (world.report (.generating configuration))
          configuration = Configuration.declared world configuration := rfl
      simp only [Action.runIn_bind, Action.runIn_pure, hload, hdeclared]
      cases Configuration.declared world configuration with
      | error failure => exact ⟨events, rfl⟩
      | ok schemas =>
          obtain ⟨events, hgenerate⟩ := runIn_generateAll schemas.containers
            options.registry { world.report (.generating configuration) with events := events }
          refine ⟨events, ?_⟩
          simp only [hgenerate, Except.bind]
          cases generateUnits schemas.containers options.registry with
          | error collision => rfl
          | ok units => rfl

/-- Telling what would be written only reports. -/
theorem runIn_preview (options : GenerateOptions) (units : List GeneratedUnit)
    (skipped : List String) (world : World) :
    ∃ events, Action.runIn (preview options units skipped) world =
        (.ok ⟨options.outputDir, units, [], [], skipped⟩,
          { world with events := events }) := by
  obtain ⟨events, hreports⟩ := Action.runIn_forM_report
    (fun unit => Log.Event.wouldWrite (unitFile options.outputDir unit)) units world
  refine ⟨events, ?_⟩
  rw [preview, Action.runIn_bind, hreports]
  rfl

/-! ## Changes -/

/-- The module list of some units, as a file to write. -/
def listTexts (units : List GeneratedUnit) : List (String × String) :=
  if units.isEmpty then []
  else [("mod.rs", Source.moduleList (units.map (·.fileBaseName)))]

theorem mem_listTexts (hsome : units ≠ []) :
    ("mod.rs", Source.moduleList (units.map (·.fileBaseName))) ∈ listTexts units := by
  simp [listTexts, hsome]

/-- The file of the module list of some units. -/
def listFiles (directory : Path) (units : List GeneratedUnit) : List Path :=
  if units.isEmpty then [] else [Output.moduleListFile directory]

/-- How the units of a run can be written: not at all without the output directory,
up to one that cannot be written, without the module list, or all with it. -/
inductive Writes (options : GenerateOptions) (units : List GeneratedUnit)
    (skipped : List String) (workingDir : Location) (before : FileTree) :
    Except Failure GenerationReport → FileTree → Prop
  | noDirectory {made : FileTree} {e : IoError}
      (hmade : before.createDirs workingDir options.outputDir = (.error e, made)) :
      Writes options units skipped workingDir before
        (.error (.outputDirectory options.outputDir e)) made
  | stopped {made after : FileTree} {failure : Failure}
      (hmade : before.createDirs workingDir options.outputDir = (.ok (), made))
      (hhandles : Handles workingDir options.outputDir options.force units made
        (.error failure) after) :
      Writes options units skipped workingDir before (.error failure) after
  | noList {made after : FileTree} {e : IoError}
      (hmade : before.createDirs workingDir options.outputDir = (.ok (), made))
      (hwrote : Wrote workingDir options.outputDir
        (texts made workingDir options.outputDir options.force units) made after)
      (hfailed : after.writeFile workingDir (Output.moduleListFile options.outputDir)
        (.text (Source.moduleList (units.map (·.fileBaseName)))) = .error e)
      (hsome : units ≠ []) :
      Writes options units skipped workingDir before (.error (.outputFile e)) after
  | finished {made after : FileTree}
      (hmade : before.createDirs workingDir options.outputDir = (.ok (), made))
      (hwrote : Wrote workingDir options.outputDir
        (texts made workingDir options.outputDir options.force units ++ listTexts units)
        made after) :
      Writes options units skipped workingDir before
        (.ok
          { outputDir := options.outputDir
            units := units
            written := (filesOf made workingDir options.outputDir options.force
              units).written ++ listFiles options.outputDir units
            kept := (filesOf made workingDir options.outputDir options.force units).kept
            skipped := skipped })
        after

/-- The module list is written, or not and then nothing changes. -/
theorem runIn_writeModuleList (directory : Path) (modules : List String) (world : World) :
    Action.runIn (Output.writeModuleList directory modules) world =
      match world.tree.writeFile world.workingDir (Output.moduleListFile directory)
        (.text (Source.moduleList modules)) with
      | .ok tree =>
        (.ok (Output.moduleListFile directory), { world with tree := tree }.report
          (.wroteModuleList (Output.moduleListFile directory)))
      | .error e => (.error (.outputFile e), world) := by
  have hwrite : (Machine.writeText (Output.moduleListFile directory)
      (Source.moduleList modules) : StateM World (Except IoError Unit)) world =
      World.writeText (Output.moduleListFile directory) (Source.moduleList modules) world :=
    rfl
  rw [Output.writeModuleList, Action.runIn_bind, Action.runIn_attempt, hwrite,
    World.writeText]
  cases world.tree.writeFile world.workingDir (Output.moduleListFile directory)
    (.text (Source.moduleList modules)) with
  | error e => rfl
  | ok tree => rfl

theorem isFileName_of_mem_texts {tree : FileTree} {workingDir : Location}
    {directory : Path} {force : Bool} (hnames : ∀ unit ∈ units, IsFileName (fileName unit)) :
    ∀ file ∈ texts tree workingDir directory force units, IsFileName file.1 := by
  intro file hfile
  obtain ⟨unit, hunit, heq⟩ := Output.mem_map_fst_texts (List.mem_map_of_mem hfile)
  exact heq ▸ hnames unit hunit

theorem ne_of_mem_texts {tree : FileTree} {workingDir : Location} {directory : Path}
    {force : Bool} {name : String} (hother : ∀ unit ∈ units, fileName unit ≠ name) :
    ∀ file ∈ texts tree workingDir directory force units, file.1 ≠ name := by
  intro file hfile
  obtain ⟨unit, hunit, heq⟩ := Output.mem_map_fst_texts (List.mem_map_of_mem hfile)
  exact heq ▸ hother unit hunit

/-- Units with files of their own, none of them the module list's, are written
after the output directory is there. -/
theorem runIn_write (options : GenerateOptions) (skipped : List String)
    (hnames : ∀ unit ∈ units, IsFileName (fileName unit))
    (hdistinct : (units.map fileName).Nodup)
    (hlist : ∀ unit ∈ units, fileName unit ≠ "mod.rs") (world : World) :
    ∃ result tree events,
      Action.runIn (write options units skipped) world =
        (result, { world with tree := tree, events := events }) ∧
      Writes options units skipped world.workingDir world.tree result tree := by
  have hcreate : (Machine.createDirs options.outputDir :
      StateM World (Except IoError Unit)) world =
      World.createDirs options.outputDir world := rfl
  rw [write, Action.runIn_bind, Action.runIn_attempt, hcreate, World.createDirs]
  cases hmade : world.tree.createDirs world.workingDir options.outputDir with
  | mk created made =>
      cases created with
      | error e => exact ⟨_, made, world.events, rfl, .noDirectory hmade⟩
      | ok =>
          have hfiles := Output.runIn_writeUnits options.outputDir options.force
            hnames hdistinct { world with tree := made }
          obtain ⟨result, tree, events, hrun, hhandles⟩ := hfiles
          simp only [mapError_ok, Action.runIn_bind, hrun]
          cases hhandles with
          | stopped hunits hkeeps hwrote hfailed =>
              exact ⟨_, tree, events, rfl,
                .stopped hmade (.stopped hunits hkeeps hwrote hfailed)⟩
          | finished hwrote =>
              cases hempty : units.isEmpty with
              | true =>
                  refine ⟨_, tree, _, rfl, ?_⟩
                  have hfinished : Writes options units skipped world.workingDir world.tree
                      _ tree := .finished hmade
                    (by rw [listTexts, hempty, if_pos rfl, List.append_nil]; exact hwrote)
                  rw [listFiles, hempty] at hfinished
                  exact hfinished
              | false =>
                  simp only [Bool.false_eq_true, if_false, Action.runIn_bind,
                    runIn_writeModuleList]
                  cases hwrite : tree.writeFile world.workingDir
                    (Output.moduleListFile options.outputDir)
                    (.text (Source.moduleList (units.map (·.fileBaseName)))) with
                  | error e =>
                      have hsome : units ≠ [] := by simpa using hempty
                      exact ⟨_, tree, events, rfl, .noList hmade hwrote hwrite hsome⟩
                  | ok after =>
                      refine ⟨_, after, _, rfl, ?_⟩
                      have hlast := FileTree.wrote_of_writeFile
                        Output.isFileName_moduleList hwrite
                      have hboth := hwrote.append hlast
                        (isFileName_of_mem_texts hnames) (by simpa using ne_of_mem_texts hlist)
                      have hfinished : Writes options units skipped world.workingDir
                          world.tree _ after := .finished hmade
                        (by rw [listTexts, hempty, if_neg (by simp)]; exact hboth)
                      rw [listFiles, hempty] at hfinished
                      exact hfinished

end TypedContainers.Generation
