import TypedContainers.Project.Settings
import TypedContainers.Proofs.Files.Path
import TypedContainers.Proofs.Project.Action
import TypedContainers.Proofs.Toml.Line

/-!
# The settings of a world

One file decides which settings apply: the named one, or else the one beside the
configuration.  A file that is there is never passed over, whatever is wrong with it, and
a named one is all that is looked at.
-/

namespace TypedContainers

namespace Settings

variable {world other : World} {configuration file : Path} {settings : Settings}

/-! ## What is loaded -/

/-- The settings of a file that is there. -/
def ofFile (world : World) (file : Path) : Except Failure Settings :=
  ((world.readText file).mapError (Failure.settingsUnreadable file)).bind fun text =>
    (parse text).mapError (Failure.settingsInvalid file)

/-- The settings that apply in a world. -/
def applied (world : World) (named? : Option Path) (configuration : Path) :
    Except Failure Settings :=
  match named? with
  | some file =>
    if world.pathExists file then ofFile world file else .error (.settingsMissing file)
  | none =>
    if world.pathExists (beside configuration) then ofFile world (beside configuration)
    else .ok {}

theorem ofFile_eq_ok_iff : ofFile world file = .ok settings ↔
    ∃ text, world.readText file = .ok text ∧ parse text = .ok settings := by
  rw [ofFile, bind_eq_ok_iff]
  simp only [mapError_eq_ok_iff]

/-- Loading a file gives its settings if it is there, and leaves the world alone. -/
theorem runIn_load (file : Path) (world : World) :
    Action.runIn (load file) world =
      (if world.pathExists file then (ofFile world file).map some else .ok none, world) := by
  have hread : (Machine.readText file : StateM World (Except IoError String)) world =
      (world.readText file, world) := rfl
  rw [load, Action.runIn_bind, Action.runIn_pathExists]
  cases world.pathExists file with
  | false => rfl
  | true =>
      simp only [Bool.not_true, Bool.false_eq_true, if_false, if_true, ofFile,
        Action.runIn_bind, Action.runIn_attempt, hread]
      cases world.readText file with
      | error e => rfl
      | ok text =>
          simp only [mapError_ok, Except.bind, Action.runIn_require]
          cases parse text with
          | error fault => rfl
          | ok settings => rfl

/-- Loading the settings that apply leaves the world alone. -/
theorem runIn_loadFor (named? : Option Path) (configuration : Path) (world : World) :
    Action.runIn (loadFor named? configuration) world =
      (applied world named? configuration, world) := by
  rw [loadFor, Action.runIn_bind]
  cases named? with
  | some file =>
      simp only [resolve, applied, Action.runIn_pure, Action.runIn_bind, runIn_load]
      cases world.pathExists file with
      | false => rfl
      | true =>
          simp only [if_true]
          cases ofFile world file with
          | error failure => rfl
          | ok settings => rfl
  | none =>
      simp only [resolve, applied, Action.runIn_bind, Action.runIn_pathExists]
      cases hexists : world.pathExists (beside configuration) with
      | false => rfl
      | true =>
          simp only [if_true, Action.runIn_pure, Action.runIn_bind, runIn_load, hexists]
          cases ofFile world (beside configuration) with
          | error failure => rfl
          | ok settings => rfl

/-- A file is seen if its path can be walked and something stands where it leads.  A path
that no walk may start from, such as one that is too long, is not seen to lead anywhere. -/
theorem pathExists_iff : world.pathExists file = true ↔
    FileTree.checkPath file = .ok () ∧ ∃ location node,
      FileTree.LeadsTo world.tree world.workingDir file location ∧
        world.tree.get? location = some node := by
  rw [World.pathExists, FileTree.pathExists_eq_true_iff]
  simp only [FileTree.find_eq_ok_iff]
  constructor
  · rintro ⟨node, hcheck, location, hleads, hnode⟩
    exact ⟨hcheck, location, node, hleads, hnode⟩
  · rintro ⟨hcheck, location, node, hleads, hnode⟩
    exact ⟨node, hcheck, location, hleads, hnode⟩

theorem pathExists_of_find {node : FileNode}
    (hfind : world.tree.find world.workingDir file = .ok node) :
    world.pathExists file = true :=
  FileTree.pathExists_eq_true_iff.mpr ⟨node, hfind⟩

theorem readText_of_find {text : String}
    (hfind : world.tree.find world.workingDir file = .ok (.file (.text text))) :
    world.readText file = .ok text := by
  rw [World.readText, FileTree.readText, hfind]

/-! ## Which settings apply -/

/-- The settings of a project are those of the named file, or those of the file beside
the configuration if none is named, or the default ones if there is no such file. -/
inductive Applies (world : World) (configuration : Path) : Option Path → Settings → Prop
  | named {file : Path} {text : String} {settings : Settings}
      (hexists : world.pathExists file = true) (hread : world.readText file = .ok text)
      (hparse : parse text = .ok settings) : Applies world configuration (some file) settings
  | found {text : String} {settings : Settings}
      (hexists : world.pathExists (beside configuration) = true)
      (hread : world.readText (beside configuration) = .ok text)
      (hparse : parse text = .ok settings) : Applies world configuration none settings
  | unset (hmissing : world.pathExists (beside configuration) = false) :
      Applies world configuration none {}

theorem applied_eq_ok_iff {named? : Option Path} :
    applied world named? configuration = .ok settings ↔
      Applies world configuration named? settings := by
  constructor
  · intro happlied
    cases named? with
    | some file =>
        rw [applied] at happlied
        split at happlied
        · rename_i hexists
          obtain ⟨text, hread, hparse⟩ := ofFile_eq_ok_iff.mp happlied
          exact .named hexists hread hparse
        · simp at happlied
    | none =>
        rw [applied] at happlied
        split at happlied
        · rename_i hexists
          obtain ⟨text, hread, hparse⟩ := ofFile_eq_ok_iff.mp happlied
          exact .found hexists hread hparse
        · rename_i hmissing
          obtain rfl := Except.ok.inj happlied
          exact .unset (by simpa using hmissing)
  · intro happlies
    cases happlies with
    | named hexists hread hparse =>
        rw [applied, if_pos hexists]
        exact ofFile_eq_ok_iff.mpr ⟨_, hread, hparse⟩
    | found hexists hread hparse =>
        rw [applied, if_pos hexists]
        exact ofFile_eq_ok_iff.mpr ⟨_, hread, hparse⟩
    | unset hmissing => simp [applied, hmissing]

/-- A file that decides and is there is the one whose settings are loaded. -/
theorem applied_of_exists {named? : Option Path}
    (hexists : world.pathExists (named?.getD (beside configuration)) = true) :
    applied world named? configuration =
      ofFile world (named?.getD (beside configuration)) := by
  cases named? with
  | some file => exact if_pos hexists
  | none => exact if_pos hexists

/-- Settings beside a configuration are not seen if their path is too long. -/
theorem applied_of_tooLong
    (hlong : FileTree.maxPath < (beside configuration).text.utf8ByteSize) :
    applied world none configuration = .ok {} := by
  have hmissing : world.pathExists (beside configuration) = false := by
    rw [Bool.eq_false_iff]
    intro hexists
    have hshort := (FileTree.checkPath_eq_ok_iff.mp (pathExists_iff.mp hexists).1).2.2
    exact absurd hshort (Nat.not_le.mpr hlong)
  exact applied_eq_ok_iff.mpr (.unset hmissing)

/-- Where a file is named, only what is seen along its path counts. -/
theorem applied_congr (hworkingDir : other.workingDir = world.workingDir)
    (hagree : FileTree.AgreeAt world.workingDir file world.tree other.tree)
    (otherConfiguration : Path) :
    applied other (some file) otherConfiguration =
      applied world (some file) configuration := by
  have hexists : other.pathExists file = world.pathExists file := by
    rw [World.pathExists, World.pathExists, hworkingDir, hagree.pathExists]
  rw [applied, applied, hexists]
  split
  · rename_i hthere
    have hread : other.readText file = world.readText file := by
      rw [World.readText, World.readText, hworkingDir, hagree.readText hthere]
    rw [ofFile, ofFile, hread]
  · rfl

/-! ## The file beside a configuration -/

theorem isFileName_fileName : FileTree.IsFileName fileName :=
  ⟨by decide, by decide, by decide, by decide⟩

/-- The file beside a configuration is one of the directory that the configuration is in,
which is the working directory if its path names none. -/
theorem beside_eq_join (configuration : Path) :
    beside configuration = (configuration.parent?.getD ⟨""⟩).join fileName := by
  rw [beside]
  cases configuration.parent? with
  | some directory => rfl
  | none => rw [Option.getD_none, FileTree.join_empty isFileName_fileName]

/-- A directory whose path ends with a name of its own has the settings for the
configurations in it. -/
theorem beside_join {directory : Path} {name : String} (hname : FileTree.IsFileName name)
    (hnonempty : directory.text ≠ "") (hslash : directory.text.toList.getLast? ≠ some '/')
    (htrim : Path.trimTrailing directory.parts.2 = directory.parts.2) :
    beside (directory.join name) = directory.join fileName := by
  rw [beside, FileTree.parent?_join hname hnonempty hslash htrim]

theorem liesIn_beside (configuration : Path) :
    FileTree.LiesIn (configuration.parent?.getD ⟨""⟩) fileName (beside configuration) :=
  beside_eq_join configuration ▸ FileTree.liesIn_join isFileName_fileName _

/-! ## Loading -/

/-- Loading settings changes nothing, and gives exactly those that apply.  The file that
decides is the named one, or else `voldelig.toml` in the directory of the configuration,
which is the working directory if the configuration's path names none.  If it is seen
and cannot be read or holds no settings, or if it was named and is not seen, loading
fails.  Seen is a file to which a path leads that a walk may start from.  What a named
file gives depends on what is seen along its path only, not on any other file. -/
theorem loaded_iff_applies (world : World) (configuration : Path) (named? : Option Path) :
    (Action.runIn (loadFor named? configuration) world).2 = world ∧
    (∀ settings, (Action.runIn (loadFor named? configuration) world).1 = .ok settings ↔
      Applies world configuration named? settings) ∧
    (∀ file, world.pathExists file = true ↔
      FileTree.checkPath file = .ok () ∧ ∃ location node,
        FileTree.LeadsTo world.tree world.workingDir file location ∧
          world.tree.get? location = some node) ∧
    FileTree.LiesIn (configuration.parent?.getD ⟨""⟩) "voldelig.toml"
      (beside configuration) ∧
    (configuration.parent?.getD ⟨""⟩ = ⟨""⟩ → ∀ tree workingDir location,
      FileTree.LeadsTo tree workingDir (beside configuration) location ↔
        tree.get? workingDir = some .directory ∧
          location = "voldelig.toml" :: workingDir) ∧
    (∀ file, named?.getD (beside configuration) = file → world.pathExists file = true →
      (∀ e, world.readText file = .error e →
        (Action.runIn (loadFor named? configuration) world).1 =
          .error (.settingsUnreadable file e)) ∧
      ∀ text fault, world.readText file = .ok text → parse text = .error fault →
        (Action.runIn (loadFor named? configuration) world).1 =
          .error (.settingsInvalid file fault)) ∧
    ∀ file, named? = some file →
      (world.pathExists file = false →
        (Action.runIn (loadFor named? configuration) world).1 =
          .error (.settingsMissing file)) ∧
      ∀ other otherConfiguration, other.workingDir = world.workingDir →
        FileTree.AgreeAt world.workingDir file world.tree other.tree →
        (Action.runIn (loadFor named? otherConfiguration) other).1 =
          (Action.runIn (loadFor named? configuration) world).1 := by
  simp only [runIn_loadFor]
  refine ⟨trivial, fun _ => applied_eq_ok_iff, fun _ => pathExists_iff,
    liesIn_beside configuration, ?_, ?_, ?_⟩
  · intro hparent tree workingDir location
    have hlies := liesIn_beside configuration
    rw [hparent] at hlies
    rw [hlies.leadsTo]
    simp only [FileTree.leadsTo_empty]
    constructor
    · rintro ⟨_, place, ⟨hworkingDir, rfl⟩, _, rfl⟩
      exact ⟨hworkingDir, rfl⟩
    · rintro ⟨hworkingDir, rfl⟩
      exact ⟨by decide, workingDir, ⟨hworkingDir, rfl⟩, hworkingDir, rfl⟩
  · rintro file rfl hexists
    rw [applied_of_exists hexists, ofFile]
    constructor
    · intro e hread
      rw [hread]
      rfl
    · intro text fault hread hparse
      rw [hread, mapError_ok, Except.bind, hparse]
      rfl
  · rintro file rfl
    constructor
    · intro hmissing
      simp [applied, hmissing]
    · intro other otherConfiguration hworkingDir hagree
      exact applied_congr hworkingDir hagree otherConfiguration

/-! ## Settings beside a configuration and elsewhere -/

/-- A text of one line is read as what the line sets. -/
theorem parse_line {line : Toml.Line} (hline : line.Writable) {text : String}
    (htext : line.text ++ "\n" = text) :
    parse text = ofTable line.entry?.toList >>= checked := by
  have hlines : ∀ other ∈ [line, .blank], other.Writable := by
    simpa [Toml.Line.Writable] using hline
  have hjoin : Text.joinLines ([line, .blank].map Toml.Line.text) = text := by
    apply String.toList_inj.mp
    rw [Toml.toList_joinLines, ← htext, String.toList_append, line.toList_text]
    rfl
  have hentries : [line, .blank].filterMap Toml.Line.entry? = line.entry?.toList := by
    cases line <;> rfl
  have hdistinct : (([line, .blank].filterMap Toml.Line.entry?).map Prod.fst).Nodup := by
    rw [hentries]
    cases line <;> simp [Toml.Line.entry?]
  have hread := Toml.read_joinLines hlines hdistinct
  rw [hentries, hjoin] at hread
  rw [parse, hread]

theorem parse_format : parse "format = true\n" = .ok ⟨none, true, []⟩ := by
  have hline : (Toml.Line.assignment "format" (.bool true)).Writable :=
    ⟨⟨by decide, by decide⟩, trivial⟩
  rw [parse_line hline (by decide)]
  rfl

theorem parse_outputDir :
    parse "output_dir = \"gen\"\n" = .ok ⟨some ⟨"gen"⟩, false, []⟩ := by
  have hline : (Toml.Line.assignment "output_dir" (.string "gen")).Writable :=
    ⟨⟨by decide, by decide⟩, Toml.isPlain_of_all (by decide)⟩
  rw [parse_line hline (by decide)]
  rfl

/-- A configuration's directory with settings in it, other settings outside, and a file
that is no text. -/
def arranged (besideText : String) : World where
  tree := ⟨[(["conf"], .directory),
    (["voldelig.toml", "conf"], .file (.text besideText)),
    (["s.toml"], .file (.text "output_dir = \"gen\"\n")),
    (["b.toml"], .file (.binary [255]))]⟩
  workingDir := []
  environment := []
  start := fun _ tree => .ok (true, tree)
  events := []
  invocations := []

theorem find_arranged (besideText : String) :
    (arranged besideText).tree.find [] ⟨"conf/voldelig.toml"⟩ =
        .ok (.file (.text besideText)) ∧
      (arranged besideText).tree.find [] ⟨"s.toml"⟩ =
        .ok (.file (.text "output_dir = \"gen\"\n")) ∧
      (arranged besideText).tree.find [] ⟨"b.toml"⟩ = .ok (.file (.binary [255])) := by
  simp only [FileTree.find_eq_ok_iff, FileTree.checkPath_eq_ok_iff, FileTree.origin_nil]
  exact ⟨⟨by decide, _, rfl, rfl⟩, ⟨by decide, _, rfl, rfl⟩, ⟨by decide, _, rfl, rfl⟩⟩

/-- What is beside a configuration applies if nothing is named, and what is named applies
whatever is beside the configuration, or fails if it is no text. -/
theorem loaded_arranged :
    (Action.runIn (loadFor none ⟨"conf/c.json"⟩) (arranged "format = true\n")).1 =
        .ok ⟨none, true, []⟩ ∧
      (Action.runIn (loadFor (some ⟨"s.toml"⟩) ⟨"conf/c.json"⟩)
        (arranged "format = true\n")).1 = .ok ⟨some ⟨"gen"⟩, false, []⟩ ∧
      (Action.runIn (loadFor (some ⟨"s.toml"⟩) ⟨"conf/c.json"⟩) (arranged "]")).1 =
        .ok ⟨some ⟨"gen"⟩, false, []⟩ ∧
      (Action.runIn (loadFor (some ⟨"b.toml"⟩) ⟨"conf/c.json"⟩) (arranged "]")).1 =
        .error (.settingsUnreadable ⟨"b.toml"⟩ .invalidData) := by
  have hbeside : beside ⟨"conf/c.json"⟩ = ⟨"conf/voldelig.toml"⟩ := by
    have hparent : (⟨"conf/c.json"⟩ : Path).parent? = some ⟨"conf"⟩ := by decide
    rw [beside, hparent]
    exact FileTree.join_eq_of_getLast? isFileName_fileName (by decide) (by decide)
  obtain ⟨hfound, hnamed, _⟩ := find_arranged "format = true\n"
  have hgiven : (Action.runIn (loadFor (some ⟨"s.toml"⟩) ⟨"conf/c.json"⟩)
      (arranged "format = true\n")).1 = .ok ⟨some ⟨"gen"⟩, false, []⟩ :=
    ((loaded_iff_applies _ _ _).2.1 _).mpr
      (.named (pathExists_of_find hnamed) (readText_of_find hnamed) parse_outputDir)
  refine ⟨?_, hgiven, ?_, ?_⟩
  · rw [← hbeside] at hfound
    exact ((loaded_iff_applies _ _ _).2.1 _).mpr
      (.found (pathExists_of_find hfound) (readText_of_find hfound) parse_format)
  · have hplace : (arranged "format = true\n").tree.LeadsTo [] ⟨"s.toml"⟩ ["s.toml"] := by
      rw [FileTree.LeadsTo, FileTree.origin_nil]
      rfl
    have hother : ¬(arranged "format = true\n").tree.LeadsTo [] ⟨"s.toml"⟩
        ["voldelig.toml", "conf"] :=
      fun hleads => absurd (hleads.unique hplace) (by decide)
    have hagree : FileTree.AgreeAt [] ⟨"s.toml"⟩ (arranged "format = true\n").tree
        (arranged "]").tree := FileTree.agreeAt_set hother (by decide) (.text "]")
    have hsame := ((loaded_iff_applies (arranged "format = true\n") ⟨"conf/c.json"⟩
      (some ⟨"s.toml"⟩)).2.2.2.2.2.2 ⟨"s.toml"⟩ rfl).2
    rw [hsame (arranged "]") ⟨"conf/c.json"⟩ rfl hagree, hgiven]
  · obtain ⟨_, _, hbinary⟩ := find_arranged "]"
    refine ((loaded_iff_applies _ _ _).2.2.2.2.2.1 ⟨"b.toml"⟩ rfl
      (pathExists_of_find hbinary)).1 _ ?_
    rw [World.readText, FileTree.readText]
    exact hbinary ▸ rfl

/-! ## Settings out of sight -/

/-- The way into a directory of the working directory and back, some times over. -/
def roundabout : Nat → Path
  | 0 => ⟨"a/.."⟩
  | n + 1 => ⟨(roundabout n).text ++ "/a/.."⟩

theorem split_roundabout (n : Nat) : Text.split '/' (roundabout n).text.toList =
    (List.replicate (n + 1) [['a'], ['.', '.']]).flatten := by
  induction n with
  | zero => decide
  | succ n ih =>
      have hstep : (roundabout (n + 1)).text.toList =
          (roundabout n).text.toList ++ '/' :: ['a', '/', '.', '.'] := by
        rw [roundabout, String.toList_append]
        rfl
      have hlast : List.replicate (n + 1 + 1) [['a'], ['.', '.']] =
          List.replicate (n + 1) [['a'], ['.', '.']] ++ [[['a'], ['.', '.']]] :=
        List.replicate_succ'
      rw [hstep, Text.split_append_cons, ih, hlast, List.flatten_append]
      rfl

theorem utf8ByteSize_roundabout (n : Nat) :
    (roundabout n).text.utf8ByteSize = 5 * n + 4 := by
  induction n with
  | zero => rfl
  | succ n ih =>
      have hstep : "/a/..".utf8ByteSize = 5 := rfl
      rw [roundabout, String.utf8ByteSize_append, ih, hstep]
      omega

/-- A configuration beside settings, with a directory next to them. -/
def nearby : World where
  tree := ⟨[(["a"], .directory), (["c.json"], .file (.text "\x7b\x7d")),
    (["voldelig.toml"], .file (.text "format = true\n"))]⟩
  workingDir := []
  environment := []
  start := fun _ tree => .ok (true, tree)
  events := []
  invocations := []

theorem leadsTo_roundabout (n : Nat) : nearby.tree.LeadsTo [] (roundabout n) [] := by
  have hnames : FileTree.names (roundabout n) = (List.replicate (n + 1) ["a", ".."]).flatten := by
    rw [FileTree.names, split_roundabout, List.map_flatten, List.map_replicate]
    rfl
  rw [FileTree.LeadsTo, FileTree.origin_nil, hnames]
  induction n + 1 with
  | zero => rfl
  | succ n ih =>
      rw [List.replicate_succ, List.flatten_cons, FileTree.walk_append]
      exact ih

theorem getLast?_roundabout (n : Nat) :
    (roundabout n).text.toList.getLast? = some '.' := by
  cases n with
  | zero => decide
  | succ n => simp [roundabout]

theorem nul_not_mem_roundabout (n : Nat) : '\x00' ∉ (roundabout n).text.toList := by
  induction n with
  | zero => decide
  | succ n ih => simp [roundabout, ih]

theorem text_roundabout_ne (n : Nat) : (roundabout n).text ≠ "" := by
  intro hempty
  have hlast := getLast?_roundabout n
  simp [hempty] at hlast

/-- The directory's path is the parent of those of its files, however long it is. -/
theorem beside_roundabout (n : Nat) :
    beside ((roundabout n).join "c.json") = (roundabout n).join fileName := by
  have hsplit := split_roundabout n
  apply beside_join ⟨by decide, by decide, by decide, by decide⟩ (text_roundabout_ne n)
  · simp [getLast?_roundabout]
  · rw [List.replicate_succ, List.flatten_cons] at hsplit
    have hparts : (roundabout n).parts =
        ([], (List.replicate (n + 1) [['a'], ['.', '.']]).flatten) := by
      simp [Path.parts, hsplit, List.replicate_succ]
    have hdots : (List.replicate (n + 1) [['a'], ['.', '.']]).flatten =
        ((List.replicate n [['a'], ['.', '.']]).flatten ++ [['a']]) ++ [['.', '.']] := by
      rw [List.replicate_succ', List.flatten_append]
      simp
    rw [hparts, hdots]
    exact FileTree.trimTrailing_concat rfl _

theorem utf8ByteSize_join_roundabout {name : String} (hname : FileTree.IsFileName name)
    (n : Nat) :
    ((roundabout n).join name).text.utf8ByteSize = 5 * n + 5 + name.utf8ByteSize := by
  have hslash : "/".utf8ByteSize = 1 := rfl
  rw [FileTree.join_eq_of_getLast? hname (text_roundabout_ne n)
    (by simp [getLast?_roundabout])]
  simp only [String.utf8ByteSize_append, utf8ByteSize_roundabout, hslash]

/-- Settings beside a configuration are passed over where the configuration's path is short
enough to be walked and theirs is not: 4091 octets and 4098. -/
theorem exists_settings_passed_over :
    let configuration := (roundabout 816).join "c.json"
    nearby.readText configuration = .ok "\x7b\x7d" ∧
    nearby.tree.LeadsTo nearby.workingDir (beside configuration) ["voldelig.toml"] ∧
    nearby.tree.get? ["voldelig.toml"] = some (.file (.text "format = true\n")) ∧
    parse "format = true\n" = .ok ⟨none, true, []⟩ ∧
    (Action.runIn (loadFor none configuration) nearby).1 = .ok {} ∧
    (Action.runIn (loadFor none configuration) nearby).1 ≠ .ok ⟨none, true, []⟩ := by
  intro configuration
  have hname : FileTree.IsFileName "c.json" :=
    ⟨by decide, by decide, by decide, by decide⟩
  have hresolve := FileTree.resolve_eq_ok_iff_leadsTo.mpr ⟨leadsTo_roundabout 816, rfl⟩
  have hcheck : FileTree.checkPath configuration = .ok () := by
    have hsize : "c.json".utf8ByteSize = 6 := rfl
    apply FileTree.checkPath_join hname
    · simp [nul_not_mem_roundabout]
    · rw [utf8ByteSize_roundabout, hsize]
      decide
  have hdefault : (Action.runIn (loadFor none configuration) nearby).1 = .ok {} := by
    have hsize : fileName.utf8ByteSize = 13 := rfl
    rw [runIn_loadFor]
    apply applied_of_tooLong
    rw [beside_roundabout, utf8ByteSize_join_roundabout isFileName_fileName, hsize]
    decide
  refine ⟨?_, ?_, rfl, parse_format, hdefault, by simp [hdefault]⟩
  · apply readText_of_find
    apply FileTree.find_eq_ok_iff.mpr
    exact ⟨hcheck, ["c.json"], FileTree.leadsTo_join hname (by decide) hresolve, rfl⟩
  · rw [beside_roundabout]
    exact FileTree.leadsTo_join isFileName_fileName (by decide) hresolve

end Settings

end TypedContainers
