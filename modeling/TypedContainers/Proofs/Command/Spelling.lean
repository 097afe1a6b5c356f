import TypedContainers.Command.Basic
import TypedContainers.Proofs.Command.Options

/-!
# Commands however they are written

A command is its name and then its options, which may stand in any order and may each be
written in any of their ways.  All of these arguments are read as the command.
-/

namespace TypedContainers

namespace Command

/-! ## Ways of writing -/

/-- The choice of a path, if there is one. -/
def Choice.ofPath (name : String) (letter? : Option Char) (path? : Option Path) :
    List Choice :=
  path?.toList.map fun path => .value name letter? path.text

/-- The choice of a flag, if it is set. -/
def Choice.ofFlag (name : String) (letter? : Option Char) (isSet : Bool) : List Choice :=
  if isSet then [.flag name letter?] else []

/-- What is chosen to set up a project, in some order. -/
def createChoices (directory? : Option Path) (force : Bool) : List Choice :=
  Choice.ofPath "dir" (some 'd') directory? ++ Choice.ofFlag "force" (some 'f') force

/-- What is chosen to generate, in some order. -/
def generateChoices (configuration? : Option Path) (command : GenerateCommand) :
    List Choice :=
  Choice.ofPath "config" (some 'c') configuration? ++
    Choice.ofPath "output" (some 'o') command.output? ++
    Choice.ofPath "settings" none command.settings? ++
    Choice.ofFlag "force" (some 'f') command.force ++
    Choice.ofFlag "dry-run" none command.dryRun ++
    Choice.ofFlag "fmt" none command.format

/-- The ways of writing a command: its name, and then its options in any order, each of
them in any of its ways.  The directory of a new project and the configuration may be left
out if they are the usual ones. -/
inductive Spells : Command → List String → Prop
  | create {directory : Path} {directory? : Option Path} {force : Bool}
      {choices : List Choice} {blocks : List (List String)}
      (hdirectory : directory?.getD ⟨"."⟩ = directory)
      (hchoices : choices.Perm (createChoices directory? force))
      (hblocks : List.Forall₂ Choice.Spells choices blocks) :
      Spells (.create directory force) ("init" :: blocks.flatten)
  | generate {command : GenerateCommand} {configuration? : Option Path}
      {choices : List Choice} {blocks : List (List String)}
      (hconfiguration : configuration?.getD ⟨"appsettings.json"⟩ = command.configuration)
      (hchoices : choices.Perm (generateChoices configuration? command))
      (hblocks : List.Forall₂ Choice.Spells choices blocks) :
      Spells (.generate command) ("generate" :: blocks.flatten)

/-- Every command can be written. -/
theorem exists_spells (command : Command) : ∃ arguments, command.Spells arguments := by
  cases command with
  | create directory force =>
      obtain ⟨blocks, hblocks⟩ := Choice.exists_blocks (createChoices (some directory) force)
      exact ⟨_, .create rfl (.refl _) hblocks⟩
  | generate command =>
      obtain ⟨blocks, hblocks⟩ :=
        Choice.exists_blocks (generateChoices (some command.configuration) command)
      exact ⟨_, .generate rfl (.refl _) hblocks⟩

/-- A command none of whose paths is empty. -/
def HasPaths : Command → Prop
  | .create directory _ => directory.text ≠ ""
  | .generate command =>
    command.configuration.text ≠ "" ∧ (∀ output ∈ command.output?, output.text ≠ "") ∧
      ∀ settings ∈ command.settings?, settings.text ≠ ""

/-! ## Options in any order -/

section Order

variable {given other : List Given} (hperm : given.Perm other)
include hperm

theorem isGiven_of_perm (name : String) : isGiven name given = isGiven name other :=
  hperm.any_eq

theorem valueOf?_of_perm (hdistinct : (other.map (·.name)).Nodup) (name : String) :
    valueOf? name given = valueOf? name other := by
  have hgiven : (given.map (·.name)).Nodup := (hperm.map _).nodup_iff.mpr hdistinct
  have hfind : given.find? (·.name = name) = other.find? (·.name = name) := by
    ext option
    rw [Naming.find?_eq_some_iff_of_nodup hgiven, Naming.find?_eq_some_iff_of_nodup hdistinct,
      hperm.mem_iff]
  rw [valueOf?, hfind, valueOf?]

end Order

@[simp]
theorem valueOf?_append (name : String) (front rest : List Given) :
    valueOf? name (front ++ rest) = (valueOf? name front).or (valueOf? name rest) := by
  rw [valueOf?, List.find?_append, valueOf?, valueOf?]
  cases front.find? (·.name = name) <;> rfl

@[simp]
theorem isGiven_append (name : String) (front rest : List Given) :
    isGiven name (front ++ rest) = (isGiven name front || isGiven name rest) :=
  List.any_append

@[simp]
theorem valueOf?_ofPath (searched name : String) (letter? : Option Char)
    (path? : Option Path) :
    valueOf? searched ((Choice.ofPath name letter? path?).map Choice.given) =
      if name = searched then path?.map (·.text) else none := by
  cases path? with
  | none => simp [Choice.ofPath, valueOf?]
  | some path =>
      by_cases hname : name = searched
      · simp [Choice.ofPath, valueOf?, Choice.given, hname]
      · simp [Choice.ofPath, valueOf?, Choice.given, hname]

@[simp]
theorem isGiven_ofPath (searched name : String) (letter? : Option Char)
    (path? : Option Path) :
    isGiven searched ((Choice.ofPath name letter? path?).map Choice.given) =
      (decide (name = searched) && path?.isSome) := by
  cases path? <;> simp [Choice.ofPath, isGiven, Choice.given]

@[simp]
theorem isGiven_ofFlag (searched name : String) (letter? : Option Char) (isSet : Bool) :
    isGiven searched ((Choice.ofFlag name letter? isSet).map Choice.given) =
      (decide (name = searched) && isSet) := by
  cases isSet <;> simp [Choice.ofFlag, isGiven, Choice.given]

@[simp]
theorem valueOf?_ofFlag (searched name : String) (letter? : Option Char) (isSet : Bool) :
    valueOf? searched ((Choice.ofFlag name letter? isSet).map Choice.given) =
      if name = searched ∧ isSet = true then some "" else none := by
  by_cases hname : name = searched
  · cases isSet <;> simp [Choice.ofFlag, valueOf?, Choice.given, hname]
  · cases isSet <;> simp [Choice.ofFlag, valueOf?, Choice.given, hname]

theorem ofCreateOptions_choices (directory? : Option Path) (force : Bool) :
    ofCreateOptions ((createChoices directory? force).map Choice.given) =
      .create (directory?.getD ⟨"."⟩) force := by
  cases directory? <;> simp [ofCreateOptions, createChoices]

theorem ofGenerateOptions_choices (configuration? : Option Path)
    (command : GenerateCommand) :
    ofGenerateOptions ((generateChoices configuration? command).map Choice.given) =
      .generate
        { command with configuration := configuration?.getD ⟨"appsettings.json"⟩ } := by
  have hpath : (Path.mk ∘ fun path : Path => path.text) = id := rfl
  cases configuration? <;> simp [ofGenerateOptions, generateChoices, hpath]

/-! ## The tables of the commands -/

theorem sublist_spec_ofPath (name : String) (letter? : Option Char) (path? : Option Path) :
    ((Choice.ofPath name letter? path?).map Choice.spec).Sublist
      [⟨name, letter?, .value⟩] := by
  cases path? with
  | none => exact List.nil_sublist _
  | some path => exact List.Sublist.refl _

theorem sublist_spec_ofFlag (name : String) (letter? : Option Char) (isSet : Bool) :
    ((Choice.ofFlag name letter? isSet).map Choice.spec).Sublist
      [⟨name, letter?, .flag⟩] := by
  cases isSet with
  | false => exact List.nil_sublist _
  | true => exact List.Sublist.refl _

/-- What can be chosen to set up a project are options of its table. -/
theorem sublist_spec_createChoices (directory? : Option Path) (force : Bool) :
    ((createChoices directory? force).map Choice.spec).Sublist createOptions := by
  rw [createChoices, List.map_append]
  exact ((sublist_spec_ofPath _ _ _).append (sublist_spec_ofFlag _ _ _)).trans
    (List.sublist_append_left _ [OptionSpec.help])

theorem sublist_spec_generateChoices (configuration? : Option Path)
    (command : GenerateCommand) :
    ((generateChoices configuration? command).map Choice.spec).Sublist generateOptions := by
  simp only [generateChoices, List.map_append]
  have hpaths := ((sublist_spec_ofPath "config" (some 'c') configuration?).append
    (sublist_spec_ofPath "output" (some 'o') command.output?)).append
    (sublist_spec_ofPath "settings" none command.settings?)
  have hflags := ((hpaths.append (sublist_spec_ofFlag "force" (some 'f') command.force)).append
    (sublist_spec_ofFlag "dry-run" none command.dryRun)).append
    (sublist_spec_ofFlag "fmt" none command.format)
  exact hflags.trans (List.sublist_append_left _ [OptionSpec.help])

theorem unambiguous_createOptions : Unambiguous createOptions where
  names := by decide
  letters := by decide
  plain := by decide
  noDash := by decide

theorem unambiguous_generateOptions : Unambiguous generateOptions where
  names := by decide
  letters := by decide
  plain := by decide
  noDash := by decide

/-- Choices among the options of a table are read as they are, in whatever order and way
they are written. -/
theorem exists_readOptions {specs : List OptionSpec} {choices ordered : List Choice}
    {blocks : List (List String)} (hspecs : Unambiguous specs)
    (hsublist : (ordered.map Choice.spec).Sublist specs)
    (hpossible : ∀ choice ∈ ordered, choice.Possible) (hchoices : choices.Perm ordered)
    (hblocks : List.Forall₂ Choice.Spells choices blocks) :
    ∃ given, readOptions specs blocks.flatten = .ok given ∧
      given.Perm (ordered.map Choice.given) ∧
        ((ordered.map Choice.given).map (·.name)).Nodup := by
  have hname : Given.name ∘ Choice.given = OptionSpec.name ∘ Choice.spec := by
    funext choice
    cases choice <;> rfl
  have hdistinct : ((ordered.map Choice.given).map (·.name)).Nodup := by
    rw [List.map_map, hname, ← List.map_map]
    exact hspecs.names.sublist (hsublist.map _)
  have hgiven : (choices.map Choice.given).Perm (ordered.map Choice.given) := hchoices.map _
  refine ⟨choices.map Choice.given, ?_, hgiven, hdistinct⟩
  apply readOptions_of_spells hspecs _ _ _ hblocks
  · intro choice hchoice
    exact hsublist.subset (List.mem_map_of_mem (hchoices.mem_iff.mp hchoice))
  · exact (hgiven.map _).nodup_iff.mpr hdistinct
  · intro choice hchoice
    exact hpossible choice (hchoices.mem_iff.mp hchoice)

/-! ## Commands -/

theorem possible_ofPath {name : String} {letter? : Option Char} {path? : Option Path}
    (hpath : ∀ path ∈ path?, path.text ≠ "") :
    ∀ choice ∈ Choice.ofPath name letter? path?, choice.Possible := by
  cases path? with
  | none => simp [Choice.ofPath]
  | some path => simpa [Choice.ofPath, Choice.Possible] using hpath

theorem possible_ofFlag {name : String} {letter? : Option Char} {isSet : Bool} :
    ∀ choice ∈ Choice.ofFlag name letter? isSet, choice.Possible := by
  cases isSet <;> simp [Choice.ofFlag, Choice.Possible]

theorem possible_createChoices {directory? : Option Path} {force : Bool}
    (hdirectory : ∀ directory ∈ directory?, directory.text ≠ "") :
    ∀ choice ∈ createChoices directory? force, choice.Possible := by
  rw [createChoices, List.forall_mem_append]
  exact ⟨possible_ofPath hdirectory, possible_ofFlag⟩

theorem possible_generateChoices {configuration? : Option Path} {command : GenerateCommand}
    (hconfiguration : ∀ configuration ∈ configuration?, configuration.text ≠ "")
    (houtput : ∀ output ∈ command.output?, output.text ≠ "")
    (hsettings : ∀ settings ∈ command.settings?, settings.text ≠ "") :
    ∀ choice ∈ generateChoices configuration? command, choice.Possible := by
  simp only [generateChoices, List.forall_mem_append]
  exact ⟨⟨⟨⟨⟨possible_ofPath hconfiguration, possible_ofPath houtput⟩,
    possible_ofPath hsettings⟩, possible_ofFlag⟩, possible_ofFlag⟩, possible_ofFlag⟩

/-- A path that may be left out is not empty if what it stands for is not. -/
theorem text_ne_of_getD {path? : Option Path} {usual path : Path}
    (hpath : path?.getD usual = path) (hne : path.text ≠ "") :
    ∀ written ∈ path?, written.text ≠ "" := by
  rintro written hwritten
  rw [Option.mem_def.mp hwritten, Option.getD_some] at hpath
  rwa [hpath]

/-- A command is read from all arguments that it may be written as, whatever stands in
front of them as the name of the program. -/
theorem read_of_spells {command : Command} {arguments : List String} (program : String)
    (hpaths : command.HasPaths) (hspells : command.Spells arguments) :
    read (program :: arguments) = .ok command := by
  cases hspells with
  | @create directory directory? force choices blocks hdirectory hchoices hblocks =>
      obtain ⟨given, hread, hperm, hdistinct⟩ := exists_readOptions unambiguous_createOptions
        (sublist_spec_createChoices directory? force)
        (possible_createChoices (text_ne_of_getD hdirectory hpaths)) hchoices hblocks
      have hcreate : ofCreateOptions given = .create directory force := by
        rw [← hdirectory, ← ofCreateOptions_choices, ofCreateOptions, ofCreateOptions,
          valueOf?_of_perm hperm hdistinct, isGiven_of_perm hperm]
      show (readOptions createOptions blocks.flatten).map ofCreateOptions = _
      rw [hread, ← hcreate]
      rfl
  | @generate command configuration? choices blocks hconfiguration hchoices hblocks =>
      obtain ⟨hne, houtput, hsettings⟩ := hpaths
      obtain ⟨given, hread, hperm, hdistinct⟩ := exists_readOptions
        unambiguous_generateOptions (sublist_spec_generateChoices configuration? command)
        (possible_generateChoices (text_ne_of_getD hconfiguration hne) houtput hsettings)
        hchoices hblocks
      have hgenerate : ofGenerateOptions given = .generate command := by
        have hordered := ofGenerateOptions_choices configuration? command
        rw [hconfiguration] at hordered
        rw [← hordered]
        simp only [ofGenerateOptions, valueOf?_of_perm hperm hdistinct,
          isGiven_of_perm hperm]
      show (readOptions generateOptions blocks.flatten).map ofGenerateOptions = _
      rw [hread, ← hgenerate]
      rfl

/-- Values that look like options, hold equals signs or name commands are values still. -/
theorem read_of_spells_lookalikes :
    let command : GenerateCommand :=
      ⟨⟨"--fmt"⟩, some ⟨"generate"⟩, some ⟨"-c=a.json"⟩, true, true, false⟩
    let arguments :=
      ["generate", "--dry-run", "-o", "generate", "--settings=-c=a.json", "-f",
        "--config=--fmt"]
    (Command.generate command).HasPaths ∧ (Command.generate command).Spells arguments ∧
      read ("voldelig" :: arguments) = .ok (.generate command) := by
  intro command arguments
  have hpaths : (Command.generate command).HasPaths := by
    simp [HasPaths, command]
  have hspells : (Command.generate command).Spells arguments := by
    have hchoices : List.Perm
        [Choice.flag "dry-run" none, .value "output" (some 'o') "generate",
          .value "settings" none "-c=a.json", .flag "force" (some 'f'),
          .value "config" (some 'c') "--fmt"]
        (generateChoices (some ⟨"--fmt"⟩) command) := by decide
    have hdash : ¬Choice.BeginsWithDash "generate" := by simp [Choice.BeginsWithDash]
    exact .generate rfl hchoices
      (.cons .byName (.cons (.behindLetter hdash) (.cons .attached (.cons .byLetter
        (.cons .attached .nil)))))
  exact ⟨hpaths, hspells, read_of_spells "voldelig" hpaths hspells⟩

end Command
end TypedContainers
