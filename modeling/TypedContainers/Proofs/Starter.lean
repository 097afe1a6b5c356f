import TypedContainers.Proofs.Toml.Line
import TypedContainers.Settings
import TypedContainers.Starter

/-!
# Starter settings that are read back

The settings of a new project are lines of their own kind, of which two set something.
The output directory is not escaped, and so it is read back if nothing in it would have
to be.
-/

namespace TypedContainers.Starter

open Toml (Line)

/-- The lines of the settings of a new project. -/
def settingsLines (outputDir : String) : List Line :=
  [.comment " voldelig generator settings",
    .blank,
    .comment " Directory generated files are written to, relative to the working directory.",
    .assignment "output_dir" (.string outputDir),
    .blank,
    .comment " Run rustfmt over generated files.",
    .assignment "format" (.bool false),
    .blank,
    .comment " Extra fields typed as enums. The first variant is the not-present default.",
    .comment "",
    .comment " [[categorical]]",
    .comment " field = \"status\"",
    .comment " type_name = \"StatusType\"",
    .comment " variants = [\"STATUS_NOT_HERE\", \"OPEN\", \"CLOSED\"]"]

theorem settings_eq_joinLines (outputDir : String) :
    settings outputDir = Text.joinLines ((settingsLines outputDir).map Line.text) := by
  have houtput : "output_dir = \"" ++ outputDir ++ "\"" =
      (Line.assignment "output_dir" (.string outputDir)).text := by
    apply String.toList_inj.mp
    simp [Line.text, Toml.LineValue.text]
  rw [settings, houtput]
  rfl

theorem writable_settingsLines {outputDir : String} (hplain : Toml.IsPlain outputDir) :
    ∀ line ∈ settingsLines outputDir, line.Writable := by
  have houtput : (Line.assignment "output_dir" (.string outputDir)).Writable :=
    ⟨⟨by decide, by decide⟩, hplain⟩
  have hformat : (Line.assignment "format" (.bool false)).Writable :=
    ⟨⟨by decide, by decide⟩, trivial⟩
  simp only [settingsLines, List.forall_mem_cons]
  refine ⟨?_, trivial, ?_, houtput, trivial, ?_, hformat, trivial, ?_, ?_, ?_, ?_, ?_, ?_, ?_⟩
  case refine_10 => simp
  all_goals exact Line.writable_comment (by decide)

theorem nodup_names_settingsLines (outputDir : String) :
    (((settingsLines outputDir).filterMap Line.entry?).map Prod.fst).Nodup := by
  show ["output_dir", "format"].Nodup
  decide

/-- The settings of a new project are read as the output directory that they were written
with, whatever it is as long as nothing in it has to be escaped, and otherwise as what
applies without settings. -/
theorem parse_settings {outputDir : String} (hplain : Toml.IsPlain outputDir) :
    Settings.parse (settings outputDir) = .ok ⟨some ⟨outputDir⟩, false, []⟩ := by
  have hread := Toml.read_joinLines (writable_settingsLines hplain)
    (nodup_names_settingsLines outputDir)
  rw [Settings.parse, settings_eq_joinLines, hread]
  rfl

/-- Characters that mean something elsewhere in a settings text are part of the output
directory. -/
theorem parse_settings_marks :
    let outputDir := "out/# [[a]] = 'b' \x7bc\x7d\té"
    Toml.IsPlain outputDir ∧
      Settings.parse (settings outputDir) = .ok ⟨some ⟨outputDir⟩, false, []⟩ := by
  intro outputDir
  have hplain : Toml.IsPlain outputDir := Toml.isPlain_of_all (by decide)
  exact ⟨hplain, parse_settings hplain⟩

end TypedContainers.Starter
