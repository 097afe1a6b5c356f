import TypedContainers.Proofs.Files.Changes

/-!
# Where paths lead

The name of a file put after the path of a directory is one more component.  The file is
found in the directory, and nowhere else, in every tree and from every working directory.
What is seen along a path is decided by the directories and by the one place that it leads
to.
-/

namespace TypedContainers

namespace Path

/-- What a path starts from, and its names without those that stand for the directory
before them.  Slashes at the end, double ones and single dots make no difference. -/
def components (path : Path) : List Char × List (List Char) :=
  (path.parts.1, path.parts.2.filter fun name => !isTrivial name)

/-- Only the empty path has nothing but an empty piece. -/
theorem text_eq_of_split {path : Path} (hsplit : Text.split '/' path.text.toList = [[]]) :
    path.text = "" := by
  have hjoin := Text.join_split '/' path.text.toList
  rw [hsplit, Text.join] at hjoin
  exact String.toList_eq_nil_iff.mp hjoin.symm

/-- The first pieces of a path decide what it starts from. -/
theorem exists_parts (first : List Char) (rest : List (List Char)) :
    ∃ start names, ∀ (path : Path) (more : List (List Char)), path.text ≠ "" →
      Text.split '/' path.text.toList = first :: (rest ++ more) →
      path.parts = (start, names ++ more) := by
  by_cases hroot : first = []
  · refine ⟨['/'], rest, fun path more hnonempty hsplit => ?_⟩
    subst hroot
    cases hmore : rest ++ more with
    | nil =>
        rw [hmore] at hsplit
        exact absurd (text_eq_of_split hsplit) hnonempty
    | cons second others => simp [parts, hsplit, hmore]
  · by_cases hdot : first = ['.']
    · refine ⟨['.'], rest, fun path more _ hsplit => ?_⟩
      simp [parts, hsplit, hdot]
    · refine ⟨[], first :: rest, fun path more _ hsplit => ?_⟩
      simp [parts, hsplit, hroot, hdot]

/-- A path is what it starts from, and then its names. -/
theorem ofParts_parts (path : Path) : ofParts path.parts.1 path.parts.2 = path := by
  have hjoin := Text.join_split '/' path.text.toList
  have htext : ∀ chars, chars = path.text.toList → (⟨String.ofList chars⟩ : Path) = path := by
    rintro chars rfl
    rw [String.ofList_toList]
  cases hsplit : Text.split '/' path.text.toList with
  | nil => exact absurd hsplit (Text.split_ne_nil _ _)
  | cons first rest =>
      rw [hsplit] at hjoin
      by_cases hroot : first = []
      · subst hroot
        cases rest with
        | nil => simpa [parts, hsplit, ofParts, Text.join] using htext _ hjoin
        | cons second others => simpa [parts, hsplit, ofParts, Text.join] using htext _ hjoin
      · by_cases hdot : first = ['.']
        · simpa [parts, hsplit, ofParts, hdot] using htext _ hjoin
        · simpa [parts, hsplit, ofParts, hroot, hdot] using htext _ hjoin

end Path

namespace FileTree

variable {tree other : FileTree} {workingDir location : Location}
variable {directory path : Path} {name : String}

theorem split_eq_names (path : Path) :
    Text.split '/' path.text.toList = (names path).map String.toList := by
  simp [names, Function.comp_def]

/-- The names of a directory's path are those before the name of a file in it, up to an
empty one at the end. -/
theorem names_eq_leading (directory : Path) :
    names directory = leading directory ++ [""] ∨
      directory.text ≠ "" ∧ names directory = leading directory := by
  rw [leading]
  by_cases hempty : directory.text = ""
  · simp [hempty, names, Text.split]
  · by_cases hslash : directory.text.endsWith "/"
    · obtain ⟨start, hstart⟩ := exists_of_endsWith hslash
      left
      simp [hempty, hslash, names, hstart,
        Text.split_append_separator_last (List.not_mem_nil)]
    · right
      simp [hempty, hslash]

/-- The directory of a path's files is where the path itself leads. -/
theorem resolve_eq_ok_iff_leadsTo : tree.resolve workingDir directory = .ok location ↔
    tree.LeadsTo workingDir directory location ∧
      tree.get? location = some .directory := by
  rw [resolve_eq_ok_iff, LeadsTo]
  rcases names_eq_leading directory with hblank | ⟨_, hsame⟩
  · rw [hblank, walk_append, bind_eq_ok_iff]
    simp only [walk_eq_ok_cons_iff]
    constructor
    · rintro ⟨hwalk, hdirectory⟩
      exact ⟨⟨location, hwalk, hdirectory, location, rfl, rfl⟩, hdirectory⟩
    · rintro ⟨⟨reached, hwalk, _, next, hnext, hlast⟩, hdirectory⟩
      obtain rfl : reached = next := Except.ok.inj hnext
      obtain rfl : reached = location := Except.ok.inj hlast
      exact ⟨hwalk, hdirectory⟩
  · rw [hsame]

theorem not_isTrivial (hname : IsFileName name) : Path.isTrivial name.toList = false := by
  have hdot : name.toList ≠ ['.'] := fun heq => hname.dot (String.toList_inj.mp heq)
  simp [Path.isTrivial, hname.nonempty, hdot]

/-- A file's path starts like that of its directory, and its name comes after the names
of the directory. -/
theorem exists_parts_join (hname : IsFileName name) (directory : Path) :
    ∃ start names others, directory.parts = (start, names) ∧
      (directory.join name).parts = (start, others ++ [name.toList]) ∧
      others.filter (fun other => !Path.isTrivial other) =
        names.filter fun other => !Path.isTrivial other := by
  have hpieces : Text.split '/' (directory.join name).text.toList =
      (leading directory).map String.toList ++ [name.toList] := by
    rw [split_eq_names, names_join hname, List.map_append]
    rfl
  have hchars : name.toList ≠ [] := by simpa using hname.nonempty
  cases hleading : leading directory with
  | nil =>
      have hempty : directory.text = "" := by
        have hnames := split_eq_names directory
        rcases names_eq_leading directory with hblank | ⟨_, hsame⟩
        · exact Path.text_eq_of_split (by simpa [hblank, hleading] using hnames)
        · exact absurd (by simpa [hsame, hleading] using hnames) (Text.split_ne_nil _ _)
      rw [hleading] at hpieces
      have hdot : name.toList ≠ ['.'] := fun heq =>
        hname.dot (String.toList_inj.mp heq)
      exact ⟨[], [], [], by simp [Path.parts, hempty, Text.split],
        by simp [Path.parts, hpieces, hchars, hdot], rfl⟩
  | cons first rest =>
      have hnonempty : directory.text ≠ "" := by
        intro hempty
        simp [leading, hempty] at hleading
      have hfile : (directory.join name).text ≠ "" := by
        intro hempty
        simp [hempty, hleading, Text.split] at hpieces
      obtain ⟨start, others, hparts⟩ := Path.exists_parts first.toList (rest.map String.toList)
      rw [hleading] at hpieces
      have hjoined := hparts (directory.join name) [name.toList] hfile hpieces
      rcases names_eq_leading directory with hnames | ⟨_, hnames⟩
      · refine ⟨start, others ++ [[]], others, hparts directory [[]] hnonempty ?_, hjoined, ?_⟩
        · simp [split_eq_names, hnames, hleading]
        · simp [Path.isTrivial]
      · refine ⟨start, others, others, ?_, hjoined, rfl⟩
        simpa using hparts directory [] hnonempty (by simp [split_eq_names, hnames, hleading])

theorem trimTrailing_concat {last : List Char} (hlast : Path.isTrivial last = false)
    (names : List (List Char)) : Path.trimTrailing (names ++ [last]) = names ++ [last] := by
  simp [Path.trimTrailing, hlast]

/-- A directory is the parent of its files if its path ends with a name of its own. -/
theorem parent?_join (hname : IsFileName name) (hnonempty : directory.text ≠ "")
    (hslash : directory.text.toList.getLast? ≠ some '/')
    (htrim : Path.trimTrailing directory.parts.2 = directory.parts.2) :
    (directory.join name).parent? = some directory := by
  have hjoin := join_eq_of_getLast? hname hnonempty hslash
  have hpieces : Text.split '/' (directory.join name).text.toList =
      Text.split '/' directory.text.toList ++ [name.toList] := by
    simp [hjoin, Text.split_append_separator_last hname.slash]
  have hjoined : (directory.join name).text ≠ "" := by
    simp [hjoin]
  cases hsplit : Text.split '/' directory.text.toList with
  | nil => exact absurd hsplit (Text.split_ne_nil _ _)
  | cons first rest =>
      obtain ⟨start, names, hparts⟩ := Path.exists_parts first rest
      have hdirectory := hparts directory [] hnonempty (by rw [hsplit, List.append_nil])
      have hfile := hparts (directory.join name) [name.toList] hjoined
        (by rw [hpieces, hsplit, List.cons_append])
      have hsame := Path.ofParts_parts directory
      rw [List.append_nil] at hdirectory
      rw [hdirectory] at hsame htrim
      rw [Path.parent?, hfile]
      simp only [trimTrailing_concat (not_isTrivial hname)]
      split
      · rename_i hnone
        simp at hnone
      · rename_i hcons
        rw [← hcons, List.dropLast_concat, htrim, hsame]

theorem components_join (hname : IsFileName name) :
    (directory.join name).components =
      (directory.components.1, directory.components.2 ++ [name.toList]) := by
  obtain ⟨start, names, others, hdirectory, hfile, hsame⟩ :=
    exists_parts_join hname directory
  rw [Path.components, Path.components, hdirectory, hfile]
  simp [hsame, not_isTrivial hname]

/-- The paths of different files of a directory differ in their components. -/
theorem name_eq_of_components {other : String} (hname : IsFileName name)
    (hother : IsFileName other)
    (heq : (directory.join name).components = (directory.join other).components) :
    name = other := by
  rw [components_join hname, components_join hother] at heq
  have hlast := List.append_cancel_left (congrArg Prod.snd heq)
  exact String.toList_inj.mp (List.singleton_inj.mp hlast)

theorem fileName?_join (hname : IsFileName name) :
    (directory.join name).fileName? = some name.toList := by
  obtain ⟨start, names, others, _, hfile, _⟩ := exists_parts_join hname directory
  have hlast : (Path.trimTrailing (others ++ [name.toList])).getLast? = some name.toList := by
    rw [trimTrailing_concat (not_isTrivial hname), List.getLast?_concat]
  rw [Path.fileName?, hfile, hlast]
  split
  · rename_i heq
    exact absurd (String.toList_inj.mp (Option.some.inj heq)) hname.dots
  · rfl

/-- A path is that of a file directly in a directory: it has one component more, the name
of the file, and leads to this name at the place of the directory, whatever is there and
wherever it is walked from. -/
structure LiesIn (directory : Path) (name : String) (file : Path) : Prop where
  components : file.components =
    (directory.components.1, directory.components.2 ++ [name.toList])
  fileName : file.fileName? = some name.toList
  leadsTo : ∀ (tree : FileTree) (workingDir location : Location),
    tree.LeadsTo workingDir file location ↔
      ¬isTooLong name ∧ ∃ place, tree.LeadsTo workingDir directory place ∧
        tree.get? place = some .directory ∧ location = name :: place

/-- A name that a file can have, put after the path of a directory, gives the path of a
file in it. -/
theorem liesIn_join (hname : IsFileName name) (directory : Path) :
    LiesIn directory name (directory.join name) where
  components := components_join hname
  fileName := fileName?_join hname
  leadsTo := by
    intro tree workingDir location
    simp only [LeadsTo, walk_join_eq_ok_iff hname, resolve_eq_ok_iff_leadsTo, and_assoc]

/-! ## Looking along one path -/

/-- Two trees look the same along a path: they have the same directories, and the same
stands where the path leads. -/
structure AgreeAt (workingDir : Location) (path : Path) (tree other : FileTree) : Prop where
  directories : ∀ location, other.get? location = some .directory ↔
    tree.get? location = some .directory
  place : ∀ location, tree.LeadsTo workingDir path location →
    other.get? location = tree.get? location

theorem AgreeAt.find_eq_ok_iff (hagree : AgreeAt workingDir path tree other)
    (node : FileNode) :
    other.find workingDir path = .ok node ↔ tree.find workingDir path = .ok node := by
  have hthere : KeepsDirectories tree other :=
    fun location hdirectory => (hagree.directories location).mpr hdirectory
  have hback : KeepsDirectories other tree :=
    fun location hdirectory => (hagree.directories location).mp hdirectory
  rw [FileTree.find_eq_ok_iff, FileTree.find_eq_ok_iff]
  refine and_congr_right fun _ => ⟨?_, ?_⟩
  · rintro ⟨location, hwalk, hnode⟩
    have hleads := walk_of_keepsDirectories hback hwalk
    exact ⟨location, hleads, (hagree.place location hleads).symm.trans hnode⟩
  · rintro ⟨location, hwalk, hnode⟩
    exact ⟨location, walk_of_keepsDirectories hthere hwalk,
      (hagree.place location hwalk).trans hnode⟩

theorem AgreeAt.pathExists (hagree : AgreeAt workingDir path tree other) :
    other.pathExists workingDir path = tree.pathExists workingDir path := by
  rw [Bool.eq_iff_iff, pathExists_eq_true_iff, pathExists_eq_true_iff]
  exact exists_congr hagree.find_eq_ok_iff

theorem AgreeAt.readText (hagree : AgreeAt workingDir path tree other)
    (hexists : tree.pathExists workingDir path = true) :
    other.readText workingDir path = tree.readText workingDir path := by
  obtain ⟨node, hfind⟩ := pathExists_eq_true_iff.mp hexists
  rw [FileTree.readText, FileTree.readText, hfind, (hagree.find_eq_ok_iff node).mpr hfind]

/-- A file at any other place makes no difference along a path. -/
theorem agreeAt_set (hother : ¬tree.LeadsTo workingDir path location)
    (hplace : tree.get? location ≠ some .directory) (content : Content) :
    AgreeAt workingDir path tree (tree.set location (.file content)) where
  directories := by
    intro searched
    by_cases hsame : searched = location
    · subst hsame
      have hroot : searched ≠ [] := by
        rintro rfl
        exact hplace rfl
      simp [get?_set_self hroot, hplace]
    · rw [get?_set_of_ne hsame]
  place := by
    intro searched hleads
    have hne : searched ≠ location := by
      rintro rfl
      exact hother hleads
    exact get?_set_of_ne hne _

/-- The empty path leads to the working directory. -/
theorem leadsTo_empty : tree.LeadsTo workingDir ⟨""⟩ location ↔
    tree.get? workingDir = some .directory ∧ workingDir = location := by
  have hnames : names ⟨""⟩ = [""] := by decide
  have horigin : origin workingDir ⟨""⟩ = workingDir := by
    simp [origin]
  rw [LeadsTo, hnames, horigin, walk_eq_ok_cons_iff]
  simp [advance, walk]

end FileTree

end TypedContainers
