import TypedContainers.Project.Format
import TypedContainers.Proofs.Project.Action

/-!
# Starting the formatter

Files are formatted by one start of one program, which the environment may name.  Whatever
that program does, no other is started, and a program that cannot be started changes no
file.
-/

namespace TypedContainers.Formatter

variable {world : World} {files : List Path}

/-- The formatter that a world has. -/
def program (world : World) : String :=
  (world.environment.lookup programVariable).getD defaultProgram

/-- The formatter with some files. -/
def invocation (world : World) (files : List Path) : Invocation :=
  ⟨program world, arguments files⟩

/-- Whether there is a NUL in what the formatter would be started with. -/
def HasNul (world : World) (files : List Path) : Prop :=
  '\x00' ∈ (program world).toList ∨ ∃ file ∈ files, '\x00' ∈ file.text.toList

theorem any_contains_eq_true_iff :
    (program world :: arguments files).any (·.contains '\x00') = true ↔
      HasNul world files := by
  simp [HasNul, arguments, String.contains_char_eq]

/-- A world in which one more program was started. -/
def started (world : World) (invocation : Invocation) : World :=
  { world with invocations := world.invocations ++ [invocation] }

/-- How formatting files can end.  Without files nothing happens, and with a NUL in its name
or its arguments the formatter is not started.  Otherwise it is started once, which may
fail, and what it does to the files and whether it is successful are up to it. -/
inductive Formats (world : World) (files : List Path) : Except Failure Unit → World → Prop
  | idle (hnone : files = []) : Formats world files (.ok ()) world
  | refused (hsome : files ≠ []) (hnul : HasNul world files) :
      Formats world files (.error (.formatterUnavailable .invalidInput)) world
  | unavailable {e : IoError} (hsome : files ≠ []) (hclean : ¬HasNul world files)
      (hstart : world.start (invocation world files) world.tree = .error e) :
      Formats world files (.error (.formatterUnavailable e))
        (started world (invocation world files))
  | failed {tree : FileTree} (hsome : files ≠ []) (hclean : ¬HasNul world files)
      (hstart : world.start (invocation world files) world.tree = .ok (false, tree)) :
      Formats world files (.error .formatterFailed)
        { started world (invocation world files) with tree := tree }
  | formatted {tree : FileTree} (hsome : files ≠ []) (hclean : ¬HasNul world files)
      (hstart : world.start (invocation world files) world.tree = .ok (true, tree)) :
      Formats world files (.ok ())
        ({ started world (invocation world files) with tree := tree }.report
          (.formatted files.length))

theorem runIn_run_of_ne (hsome : files ≠ []) :
    Action.runIn (run files) world =
      match World.invoke (program world) (arguments files) world with
      | (.ok true, after) => (.ok (), after.report (.formatted files.length))
      | (.ok false, after) => (.error .formatterFailed, after)
      | (.error e, after) => (.error (.formatterUnavailable e), after) := by
  have henvironment : Action.runIn (Action.environment programVariable) world =
      (.ok (world.environment.lookup programVariable), world) := rfl
  have hrequest : (Machine.invoke (program world) (arguments files) :
      StateM World (Except IoError Bool)) world =
      World.invoke (program world) (arguments files) world := rfl
  rw [run, List.isEmpty_eq_false_iff.mpr hsome]
  simp only [Bool.false_eq_true, if_false, Action.runIn_bind, henvironment,
    Action.runIn_attempt]
  rw [← program, hrequest]
  obtain ⟨reply, after⟩ := World.invoke (program world) (arguments files) world
  cases reply with
  | error e => rfl
  | ok success =>
      cases success with
      | true => rfl
      | false => rfl

theorem runIn_run (files : List Path) (world : World) :
    ∃ result final, Action.runIn (run files) world = (result, final) ∧
      Formats world files result final := by
  by_cases hnone : files = []
  · exact ⟨_, world, hnone ▸ rfl, .idle hnone⟩
  rw [runIn_run_of_ne hnone, World.invoke]
  by_cases hnul : HasNul world files
  · rw [if_pos (any_contains_eq_true_iff.mpr hnul)]
    exact ⟨_, world, rfl, .refused hnone hnul⟩
  rw [if_neg fun hany => hnul (any_contains_eq_true_iff.mp hany)]
  cases hstart : world.start (invocation world files) world.tree with
  | error e =>
      rw [invocation] at hstart
      simp only [hstart]
      exact ⟨_, _, rfl, .unavailable hnone hnul hstart⟩
  | ok reply =>
      obtain ⟨success, tree⟩ := reply
      rw [invocation] at hstart
      simp only [hstart]
      cases success with
      | true => exact ⟨_, _, rfl, .formatted hnone hnul hstart⟩
      | false => exact ⟨_, _, rfl, .failed hnone hnul hstart⟩

/-! ## What formatting does -/

section Formatted

variable {result : Except Failure Unit} {final : World}
  (hformats : Formats world files result final)
include hformats

/-- The formatter is started once or not at all. -/
theorem Formats.once : final.invocations = world.invocations ∨
    final.invocations = world.invocations ++ [invocation world files] := by
  cases hformats with
  | idle | refused => exact .inl rfl
  | unavailable | failed | formatted => exact .inr rfl

theorem Formats.invocations (hsome : files ≠ []) (hclean : ¬HasNul world files) :
    final.invocations = world.invocations ++ [invocation world files] := by
  cases hformats with
  | idle hnone => exact absurd hnone hsome
  | refused _ hnul => exact absurd hnul hclean
  | unavailable | failed | formatted => rfl

theorem Formats.eq_of_nil (hnone : files = []) : final = world := by
  cases hformats with
  | idle | refused => rfl
  | unavailable hsome | failed hsome | formatted hsome => exact absurd hnone hsome

theorem Formats.eq_of_hasNul (hnul : HasNul world files) : final = world := by
  cases hformats with
  | idle | refused => rfl
  | unavailable _ hclean | failed _ hclean | formatted _ hclean => exact absurd hnul hclean

/-- A formatter that cannot be started changes no file. -/
theorem Formats.tree_of_error {e : IoError}
    (hstart : world.start (invocation world files) world.tree = .error e) :
    final.tree = world.tree := by
  cases hformats with
  | idle | refused | unavailable => rfl
  | failed _ _ hreply | formatted _ _ hreply => simp [hstart] at hreply

end Formatted

end TypedContainers.Formatter
