import TypedContainers.Proofs.Project.Outcome

/-!
# What a run leaves at a place

A run leaves a place of the tree as it was, makes a directory of it on the way to its
output directory, writes the text of a unit there, or writes the module list there.  A
unit is written where nothing was unless overwriting is asked for, and the module list
only after the files of all its units are there.
-/

namespace TypedContainers.Generation

open FileTree (Wrote Created KeepsDirectories created_of_createDirs)
open Output (unitFile keeps texts Handled)

/-- What a run leaves at a place. -/
inductive Leaves (world : World) (configuration : Path) (options : GenerateOptions)
    (location : Location) (result : Except Failure GenerationReport) (after : FileTree) :
    Prop
  | same (hsame : after.get? location = world.tree.get? location)
  | directory (hmissing : world.tree.get? location = none)
      (hnew : after.get? location = some .directory)
      (hpath : ∃ path ∈ options.outputDir.ancestors,
        after.LeadsTo world.workingDir path location)
  | unit {units : List GeneratedUnit} {skipped : List String} {unit : GeneratedUnit}
      (hprepared : prepared world configuration options = .ok (units, skipped))
      (hunit : unit ∈ units)
      (hleads : after.LeadsTo world.workingDir (unitFile options.outputDir unit) location)
      (htext : after.get? location = some (.file (.text unit.text)))
      (hwritten : world.tree.get? location = none ∨ options.force = true)
  | list {report : GenerationReport}
      (hprepared : prepared world configuration options =
        .ok (report.units, report.skipped))
      (hreport : result = .ok report) (hreal : options.dryRun = false)
      (hunits : report.units ≠ [])
      (hleads : after.LeadsTo world.workingDir (Output.moduleListFile options.outputDir)
        location)
      (htext : after.get? location = some (.file (.text
        (Source.moduleList (report.units.map (·.fileBaseName))))))
      (hfiles : ∀ unit ∈ report.units,
        after.pathExists world.workingDir (unitFile options.outputDir unit) = true)

variable {world : World} {configuration : Path} {options : GenerateOptions}
variable {units : List GeneratedUnit} {skipped : List String}
variable {result : Except Failure GenerationReport} {made after : FileTree}

theorem leaves_of_created {location : Location}
    (hcreated : Created world.workingDir options.outputDir.ancestors world.tree made)
    (hkeep : KeepsDirectories made after)
    (hsame : after.get? location = made.get? location) :
    Leaves world configuration options location result after := by
  rcases hcreated.get?_of_eq hkeep hsame with hsame | ⟨hmissing, hnew, hpath⟩
  · exact .same hsame
  · exact .directory hmissing hnew hpath

/-- A unit that is not kept is written where nothing was, or over what was there. -/
theorem missing_or_force {unit : GeneratedUnit} {location : Location}
    (hcreated : Created world.workingDir options.outputDir.ancestors world.tree made)
    (hkeeps : keeps made world.workingDir options.outputDir options.force unit = false)
    (hfind : ∀ node, made.get? location = some node →
      made.find world.workingDir (unitFile options.outputDir unit) = .ok node) :
    world.tree.get? location = none ∨ options.force = true := by
  cases hnode : world.tree.get? location with
  | none => exact .inl rfl
  | some node =>
      have hmade : made.get? location = some node := by
        rcases hcreated location with hsame | ⟨hmissing, _⟩
        · rw [hsame, hnode]
        · simp [hmissing] at hnode
      rw [keeps, FileTree.pathExists, hfind node hmade] at hkeeps
      exact .inr (by simpa [Except.isOk, Except.toBool] using hkeeps)

/-- The texts of units that were written first leave the units' files. -/
theorem leaves_of_texts {done : List GeneratedUnit} {more : List (String × String)}
    (hprepared : prepared world configuration options = .ok (units, skipped))
    (hdone : ∀ unit ∈ done, unit ∈ units)
    (hcreated : Created world.workingDir options.outputDir.ancestors world.tree made)
    (hwrote : Wrote world.workingDir options.outputDir
      (texts made world.workingDir options.outputDir options.force done ++ more) made after)
    (location : Location) :
    Leaves world configuration options location result after ∨
      ∃ file ∈ more,
        after.LeadsTo world.workingDir (options.outputDir.join file.1) location ∧
        after.get? location = some (.file (.text file.2)) := by
  rcases hwrote.get?_eq_or location with hsame | ⟨file, hfile, hleads, htext⟩
  · exact .inl (leaves_of_created hcreated hwrote.directories hsame)
  · have hafter := hleads.of_keepsDirectories hwrote.directories
    rcases List.mem_append.mp hfile with hunit | hmore
    · have hfind : ∀ node, made.get? location = some node →
          made.find world.workingDir (options.outputDir.join file.1) = .ok node :=
        fun _ hnode => hwrote.find_of_leadsTo hfile hleads hnode
      obtain ⟨unit, hmem, rfl⟩ := List.mem_map.mp hunit
      rw [Output.join_fileName] at hafter hfind
      obtain ⟨hmem, hkeeps⟩ := List.mem_filter.mp hmem
      rw [Bool.not_eq_true'] at hkeeps
      exact .inl (.unit hprepared (hdone unit hmem) hafter htext
        (missing_or_force hcreated hkeeps hfind))
    · exact .inr ⟨file, hmore, hafter, htext⟩

/-- When all units are handled, the file of each is there. -/
theorem pathExists_of_handled {done rest : List GeneratedUnit} {workingDir : Location}
    {directory : Path} {force : Bool} {unit : GeneratedUnit}
    (hhandled : Handled workingDir directory force done rest made after)
    (hunit : unit ∈ done) : after.pathExists workingDir (unitFile directory unit) = true := by
  cases hkeeps : keeps made workingDir directory force unit with
  | false =>
      have htext := hhandled.written unit hunit hkeeps
      rw [FileTree.readText] at htext
      cases hfind : after.find workingDir (unitFile directory unit) with
      | error e => simp [hfind] at htext
      | ok node => simp [FileTree.pathExists, hfind, Except.isOk, Except.toBool]
  | true =>
      rw [FileTree.pathExists, hhandled.kept unit hunit hkeeps]
      rw [keeps, Bool.and_eq_true] at hkeeps
      exact hkeeps.1

/-- The files that a real run writes are all it leaves. -/
theorem leaves_of_writes (hreal : options.dryRun = false)
    (hprepared : prepared world configuration options = .ok (units, skipped))
    (hwrites : Writes options units skipped world.workingDir world.tree result after)
    (location : Location) : Leaves world configuration options location result after := by
  cases hwrites with
  | noDirectory hmade =>
      exact leaves_of_created (created_of_createDirs hmade) (.refl after) rfl
  | stopped hmade hhandles =>
      cases hhandles with
      | stopped hunits _ hwrote _ =>
          rw [← List.append_nil (texts _ _ _ _ _)] at hwrote
          simpa using leaves_of_texts hprepared (fun unit hunit => by simp [hunits, hunit])
            (created_of_createDirs hmade) hwrote location
  | noList hmade hwrote _ =>
      rw [← List.append_nil (texts _ _ _ _ _)] at hwrote
      simpa using leaves_of_texts hprepared (fun _ hunit => hunit)
        (created_of_createDirs hmade) hwrote location
  | finished hmade hwrote =>
      rcases leaves_of_texts hprepared (fun _ hunit => hunit) (created_of_createDirs hmade)
        hwrote location with hleaves | ⟨file, hfile, hleads, htext⟩
      · exact hleaves
      · have hhandled := handled_of_finished hprepared hwrote
        rw [listTexts] at hfile
        split at hfile
        · exact absurd hfile List.not_mem_nil
        · rename_i hsome
          rw [List.mem_singleton] at hfile
          subst hfile
          exact .list hprepared rfl hreal (by simpa using hsome) hleads htext
            fun unit hunit => pathExists_of_handled hhandled hunit

/-- Every place is left in one of these ways, whatever a run gives. -/
theorem leaves_of_run (world : World) (configuration : Path) (options : GenerateOptions)
    (location : Location) :
    Leaves world configuration options location
      (Action.runIn (run configuration options) world).1
      (Action.runIn (run configuration options) world).2.tree := by
  cases hprepared : prepared world configuration options with
  | error failure =>
      obtain ⟨events, hrun⟩ := runIn_run_of_error hprepared
      exact .same (by rw [hrun])
  | ok prepared =>
      obtain ⟨units, skipped⟩ := prepared
      cases hdry : options.dryRun with
      | true =>
          obtain ⟨events, hrun⟩ := runIn_run_dry hdry hprepared
          exact .same (by rw [hrun])
      | false =>
          obtain ⟨result, tree, events, hrun, hwrites⟩ := runIn_run_real hdry hprepared
          rw [hrun]
          exact leaves_of_writes hdry hprepared hwrites location

/-- Nothing is removed. -/
theorem Leaves.get?_ne_none {location : Location}
    (hleaves : Leaves world configuration options location result after)
    (hthere : world.tree.get? location ≠ none) : after.get? location ≠ none := by
  cases hleaves with
  | same hsame => rwa [hsame]
  | directory hmissing _ _ => exact absurd hmissing hthere
  | unit _ _ _ htext _ => simp [htext]
  | list _ _ _ _ _ htext _ => simp [htext]

end TypedContainers.Generation
