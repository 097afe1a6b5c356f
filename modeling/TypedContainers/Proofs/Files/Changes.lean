import TypedContainers.Proofs.Files.Tree

/-!
# What an operation changes

Writing files of one directory changes these files and nothing else, and creating
directories adds missing ones only.  Both keep every directory, so that paths lead
where they led before.
-/

namespace TypedContainers.FileTree

variable {tree before middle after : FileTree} {location : Location}
variable {workingDir : Location} {directory path : Path} {name text : String}

/-- The place that the names of a path lead to, whether or not there is anything. -/
def LeadsTo (tree : FileTree) (workingDir : Location) (path : Path)
    (location : Location) : Prop :=
  tree.walk (origin workingDir path) (names path) = .ok location

theorem LeadsTo.of_keepsDirectories (hkeep : KeepsDirectories before after)
    (hleads : before.LeadsTo workingDir path location) :
    after.LeadsTo workingDir path location :=
  walk_of_keepsDirectories hkeep hleads

/-- A path leads to one place. -/
theorem LeadsTo.unique {other : Location} (hleads : tree.LeadsTo workingDir path location)
    (hother : tree.LeadsTo workingDir path other) : location = other :=
  Except.ok.inj (hleads.symm.trans hother)

theorem leadsTo_join (hname : IsFileName name) (hshort : ¬isTooLong name)
    (hresolve : tree.resolve workingDir directory = .ok location) :
    tree.LeadsTo workingDir (directory.join name) (name :: location) :=
  (walk_join_eq_ok_iff hname).mpr ⟨hshort, location, hresolve, rfl⟩

theorem exists_resolve_of_leadsTo (hname : IsFileName name)
    (hleads : tree.LeadsTo workingDir (directory.join name) location) :
    ∃ parent, tree.resolve workingDir directory = .ok parent ∧ location = name :: parent :=
  ((walk_join_eq_ok_iff hname).mp hleads).2

/-! ## Written files -/

/-- The files of a directory with the given names hold the given texts, and there
is no other change. -/
structure Wrote (workingDir : Location) (directory : Path) (files : List (String × String))
    (before after : FileTree) : Prop where
  directories : KeepsDirectories before after
  written : ∀ file ∈ files,
    after.find workingDir (directory.join file.1) = .ok (.file (.text file.2))
  beside : ∀ name, IsFileName name → name ∉ files.map Prod.fst →
    after.find workingDir (directory.join name) =
      before.find workingDir (directory.join name)
  elsewhere : ∀ location,
    (∀ file ∈ files, ¬after.LeadsTo workingDir (directory.join file.1) location) →
    after.get? location = before.get? location

theorem Wrote.nil (tree : FileTree) : Wrote workingDir directory [] tree tree where
  directories := .refl tree
  written := by simp
  beside := fun _ _ _ => rfl
  elsewhere := fun _ _ => rfl

/-- Writing one file is a change of this file. -/
theorem wrote_of_writeFile (hname : IsFileName name)
    (hwrite : before.writeFile workingDir (directory.join name) (.text text) = .ok after) :
    Wrote workingDir directory [(name, text)] before after := by
  rw [writeFile_join hname] at hwrite
  obtain ⟨checked, hcheck, hwrite⟩ := bind_eq_ok_iff.mp hwrite
  obtain ⟨parent, hresolve, hwrite⟩ := bind_eq_ok_iff.mp hwrite
  by_cases hlong : isTooLong name
  · simp [hlong] at hwrite
  by_cases hplace : before.get? (name :: parent) = some .directory
  · simp [hlong, hplace] at hwrite
  rw [if_neg hlong, if_neg hplace, Except.ok.injEq] at hwrite
  subst hwrite
  have hroot : name :: parent ≠ [] := List.cons_ne_nil name parent
  have hkeep : KeepsDirectories before
      (before.set (name :: parent) (.file (.text text))) :=
    keepsDirectories_set fun hdirectory => absurd hdirectory hplace
  have hafter := resolve_of_keepsDirectories hkeep hresolve
  refine ⟨hkeep, ?_, ?_, ?_⟩
  · intro file hfile
    rw [List.mem_singleton] at hfile
    subst hfile
    rw [find_join hname, hcheck, hafter]
    simp [Except.bind, hlong, get?_set_self hroot]
  · intro other hother hdistinct
    have hne : other :: parent ≠ name :: parent := by simpa using hdistinct
    rw [find_join hother, find_join hother, hafter, hresolve]
    simp only [Except.bind, get?_set_of_ne hne]
  · intro location hlocation
    have hleads := leadsTo_join hname hlong hafter
    have hne : location ≠ name :: parent := by
      rintro rfl
      exact hlocation (name, text) List.mem_cons_self hleads
    exact get?_set_of_ne hne _

/-- Changes of different files add up. -/
theorem Wrote.append {first last : List (String × String)}
    (hfirst : Wrote workingDir directory first before middle)
    (hlast : Wrote workingDir directory last middle after)
    (hnames : ∀ file ∈ first, IsFileName file.1)
    (hdistinct : ∀ file ∈ first, file.1 ∉ last.map Prod.fst) :
    Wrote workingDir directory (first ++ last) before after where
  directories := hfirst.directories.trans hlast.directories
  written := by
    intro file hfile
    rcases List.mem_append.mp hfile with hfile | hfile
    · rw [hlast.beside file.1 (hnames file hfile) (hdistinct file hfile)]
      exact hfirst.written file hfile
    · exact hlast.written file hfile
  beside := by
    intro name hname hother
    rw [List.map_append, List.mem_append, not_or] at hother
    rw [hlast.beside name hname hother.2, hfirst.beside name hname hother.1]
  elsewhere := by
    intro location hlocation
    have hmiddle : ∀ file ∈ first,
        ¬middle.LeadsTo workingDir (directory.join file.1) location := by
      intro file hfile hleads
      exact hlocation file (List.mem_append_left last hfile)
        (hleads.of_keepsDirectories hlast.directories)
    rw [hlast.elsewhere location fun file hfile =>
      hlocation file (List.mem_append_right first hfile)]
    exact hfirst.elsewhere location hmiddle

theorem Wrote.exists_leadsTo {files : List (String × String)} {file : String × String}
    (hwrote : Wrote workingDir directory files before after) (hfile : file ∈ files) :
    ∃ location, after.LeadsTo workingDir (directory.join file.1) location ∧
      after.get? location = some (.file (.text file.2)) :=
  (find_eq_ok_iff.mp (hwrote.written file hfile)).2

/-- Writing files makes no directory. -/
theorem Wrote.noNewDirectories {files : List (String × String)}
    (hwrote : Wrote workingDir directory files before after) :
    KeepsDirectories after before := by
  intro location hdirectory
  rw [← hwrote.elsewhere location]
  · exact hdirectory
  · intro file hfile hleads
    obtain ⟨place, hplace, htext⟩ := hwrote.exists_leadsTo hfile
    rw [hplace.unique hleads, hdirectory] at htext
    simp at htext

/-- The file of a written text is where its path led before. -/
theorem Wrote.get?_of_mem {files : List (String × String)} {file : String × String}
    (hwrote : Wrote workingDir directory files before after) (hfile : file ∈ files) :
    ∃ location, before.LeadsTo workingDir (directory.join file.1) location ∧
      after.get? location = some (.file (.text file.2)) := by
  obtain ⟨location, hleads, htext⟩ := hwrote.exists_leadsTo hfile
  exact ⟨location, hleads.of_keepsDirectories hwrote.noNewDirectories, htext⟩

/-- Every place is as it was, or one where the path of a written text led. -/
theorem Wrote.get?_eq_or {files : List (String × String)}
    (hwrote : Wrote workingDir directory files before after) (location : Location) :
    after.get? location = before.get? location ∨
      ∃ file ∈ files, before.LeadsTo workingDir (directory.join file.1) location ∧
        after.get? location = some (.file (.text file.2)) := by
  by_cases hleads : ∃ file ∈ files, after.LeadsTo workingDir (directory.join file.1) location
  · obtain ⟨file, hfile, hleads⟩ := hleads
    obtain ⟨place, hplace, htext⟩ := hwrote.exists_leadsTo hfile
    rw [hplace.unique hleads] at htext
    exact .inr ⟨file, hfile, hleads.of_keepsDirectories hwrote.noNewDirectories, htext⟩
  · left
    apply hwrote.elsewhere location
    intro file hfile hfileLeads
    exact hleads ⟨file, hfile, hfileLeads⟩

/-- What stands where the path of a written text leads is what the path led to. -/
theorem Wrote.find_of_leadsTo {files : List (String × String)} {file : String × String}
    {node : FileNode} (hwrote : Wrote workingDir directory files before after)
    (hfile : file ∈ files)
    (hleads : before.LeadsTo workingDir (directory.join file.1) location)
    (hnode : before.get? location = some node) :
    before.find workingDir (directory.join file.1) = .ok node :=
  find_eq_ok_iff.mpr
    ⟨(find_eq_ok_iff.mp (hwrote.written file hfile)).1, location, hleads, hnode⟩

/-- A file that can be written can still be written after others. -/
theorem Wrote.exists_writeFile {files : List (String × String)} {content : Content}
    (hwrote : Wrote workingDir directory files before after) (hname : IsFileName name)
    (hother : name ∉ files.map Prod.fst)
    (hwrite : ∃ changed, before.writeFile workingDir (directory.join name) content =
      .ok changed) :
    ∃ changed, after.writeFile workingDir (directory.join name) content = .ok changed := by
  rw [writeFile_join_eq_ok_iff hname] at hwrite ⊢
  obtain ⟨hcheck, hshort, parent, hresolve, hplace⟩ := hwrite
  have hafter := resolve_of_keepsDirectories hwrote.directories hresolve
  refine ⟨hcheck, hshort, parent, hafter, fun hdirectory => ?_⟩
  have hfind := hwrote.beside name hname hother
  rw [find_join hname, find_join hname, hcheck, hresolve, hafter] at hfind
  simp only [Except.bind, hshort, hdirectory, if_false, Bool.false_eq_true] at hfind
  cases hbefore : before.get? (name :: parent) with
  | none => simp [hbefore] at hfind
  | some node =>
      rw [hbefore] at hfind
      exact hplace (hbefore.trans (by simpa using hfind.symm))

/-! ## Created directories -/

/-- There are new directories where some paths lead, and there is no other
change. -/
def Created (workingDir : Location) (paths : List Path) (before after : FileTree) : Prop :=
  ∀ location, after.get? location = before.get? location ∨
    (before.get? location = none ∧ after.get? location = some .directory ∧
      ∃ path ∈ paths, after.LeadsTo workingDir path location)

theorem Created.refl (workingDir : Location) (paths : List Path) (tree : FileTree) :
    Created workingDir paths tree tree :=
  fun _ => .inl rfl

theorem Created.keepsDirectories {paths : List Path}
    (hcreated : Created workingDir paths before after) : KeepsDirectories before after := by
  intro location hdirectory
  rcases hcreated location with hsame | ⟨hmissing, hnew, _⟩
  · rw [hsame, hdirectory]
  · exact hnew

theorem Created.trans {paths : List Path} (hfirst : Created workingDir paths before middle)
    (hlast : Created workingDir paths middle after) :
    Created workingDir paths before after := by
  intro location
  rcases hfirst location with hsame | ⟨hmissing, hnew, path, hpath, hleads⟩
  · rw [← hsame]
    exact hlast location
  · right
    exact ⟨hmissing, hlast.keepsDirectories location hnew, path, hpath,
      hleads.of_keepsDirectories hlast.keepsDirectories⟩

theorem Created.mono {paths more : List Path} (hcreated : Created workingDir paths before after)
    (hmore : ∀ path ∈ paths, path ∈ more) : Created workingDir more before after := by
  intro location
  rcases hcreated location with hsame | ⟨hmissing, hnew, path, hpath, hleads⟩
  · exact .inl hsame
  · exact .inr ⟨hmissing, hnew, path, hmore path hpath, hleads⟩

/-- Creating directories touches no file. -/
theorem Created.file_iff {paths : List Path} (hcreated : Created workingDir paths before after)
    (location : Location) (content : Content) :
    after.get? location = some (.file content) ↔
      before.get? location = some (.file content) := by
  rcases hcreated location with hsame | ⟨hmissing, hnew, _⟩
  · rw [hsame]
  · simp [hmissing, hnew]

/-- Creating directories leaves what a path leads to. -/
theorem Created.find_of_ok {paths : List Path} {node : FileNode}
    (hcreated : Created workingDir paths before after)
    (hfind : before.find workingDir path = .ok node) :
    after.find workingDir path = .ok node := by
  obtain ⟨hcheck, location, hwalk, hnode⟩ := find_eq_ok_iff.mp hfind
  apply find_eq_ok_iff.mpr
  refine ⟨hcheck, location, walk_of_keepsDirectories hcreated.keepsDirectories hwalk, ?_⟩
  rcases hcreated location with hsame | ⟨hmissing, _⟩
  · rw [hsame, hnode]
  · simp [hmissing] at hnode

/-- A place that nothing touched after directories were created is as it was before
them, or is one of these. -/
theorem Created.get?_of_eq {paths : List Path} (hcreated : Created workingDir paths before middle)
    (hkeep : KeepsDirectories middle after)
    (hsame : after.get? location = middle.get? location) :
    after.get? location = before.get? location ∨
      (before.get? location = none ∧ after.get? location = some .directory ∧
        ∃ path ∈ paths, after.LeadsTo workingDir path location) := by
  rcases hcreated location with hbefore | ⟨hmissing, hnew, path, hpath, hleads⟩
  · exact .inl (hsame.trans hbefore)
  · exact .inr ⟨hmissing, hsame.trans hnew, path, hpath, hleads.of_keepsDirectories hkeep⟩

theorem walk_blanks {blanks : List String} (hblanks : ∀ name ∈ blanks, name = "")
    (hdirectory : tree.get? location = some .directory) :
    tree.walk location blanks = .ok location := by
  induction blanks with
  | nil => rfl
  | cons name rest ih =>
      have hname := hblanks name List.mem_cons_self
      have hrest := ih fun other hother => hblanks other (List.mem_cons_of_mem name hother)
      exact walk_eq_ok_cons_iff.mpr ⟨hdirectory, location, by simp [advance, hname], hrest⟩

/-- Names whose last one that is not empty is known: those before it, and the empty ones
after it. -/
theorem exists_blanks {all before : List String}
    (hlast : all.reverse.dropWhile (· = "") = name :: before) :
    ∃ blanks, all = before.reverse ++ name :: blanks ∧ name ≠ "" ∧
      ∀ blank ∈ blanks, blank = "" := by
  have hsplit : all.reverse.takeWhile (· = "") ++ name :: before = all.reverse := by
    rw [← hlast]
    exact List.takeWhile_append_dropWhile
  have hhead := List.head?_dropWhile_not (· = "") all.reverse
  refine ⟨(all.reverse.takeWhile (· = "")).reverse, ?_, by simpa [hlast] using hhead, ?_⟩
  · have hnames := congrArg List.reverse hsplit
    rw [List.reverse_reverse, List.reverse_append, List.reverse_cons,
      List.append_assoc] at hnames
    exact hnames.symm
  · intro blank hblank
    have hall := List.all_takeWhile (p := (· = "")) (l := all.reverse)
    rw [List.all_eq_true] at hall
    simpa using hall blank (List.mem_reverse.mp hblank)

/-- The names of a path that has an entry: those that lead to its directory, its
own, and empty ones. -/
theorem names_of_entry? {entry : Entry}
    (hentry : tree.entry? workingDir path = .ok (some entry)) :
    ∃ first blanks, names path = first ++ entry.name :: blanks ∧ entry.name ≠ "" ∧
      (∀ name ∈ blanks, name = "") ∧
      tree.walk (origin workingDir path) first = .ok entry.parent ∧
      tree.get? entry.parent = some .directory := by
  unfold entry? at hentry
  cases hcheck : checkPath path with
  | error e => simp [hcheck] at hentry
  | ok checked =>
      simp only [hcheck] at hentry
      split at hentry
      · simp at hentry
      · rename_i name rest hnames
        cases hwalk : tree.walk (origin workingDir path) rest.reverse with
        | error e => simp [hwalk] at hentry
        | ok parent =>
            simp only [hwalk] at hentry
            cases henter : tree.enter parent with
            | error e => simp [henter] at hentry
            | ok entered =>
                simp only [henter, Except.ok.injEq, Option.some.injEq] at hentry
                subst hentry
                obtain ⟨blanks, hsplit, hname, hblanks⟩ := exists_blanks hnames
                exact ⟨rest.reverse, blanks, hsplit, hname, hblanks, hwalk,
                  enter_eq_ok_iff.mp henter⟩

/-- A directory that is created is a new entry. -/
theorem exists_entry_of_createDir (hcreate : before.createDir workingDir path = .ok after) :
    ∃ entry, before.entry? workingDir path = .ok (some entry) ∧ ¬isTooLong entry.name ∧
      ¬entry.isDots ∧ before.get? entry.location = none ∧
      after = before.set entry.location .directory := by
  rw [createDir] at hcreate
  cases hentry : before.entry? workingDir path with
  | error e => simp [hentry] at hcreate
  | ok entry? =>
      cases entry? with
      | none => simp [hentry] at hcreate
      | some entry =>
          simp only [hentry] at hcreate
          by_cases hlong : isTooLong entry.name
          · simp [hlong] at hcreate
          by_cases hpresent : entry.isDots || (before.get? entry.location).isSome
          · simp [hlong, hpresent] at hcreate
          rw [if_neg hlong, if_neg hpresent, Except.ok.injEq] at hcreate
          simp only [Bool.or_eq_true, not_or, Bool.not_eq_true, Option.isSome_eq_false_iff,
            Option.isNone_iff_eq_none] at hpresent
          exact ⟨entry, rfl, hlong, by simp [hpresent.1], hpresent.2, hcreate.symm⟩

/-- Creating one directory is a change of the place its path leads to. -/
theorem created_of_createDir (hcreate : before.createDir workingDir path = .ok after) :
    Created workingDir [path] before after := by
  obtain ⟨entry, hentry, hlong, hdots, hmissing, rfl⟩ := exists_entry_of_createDir hcreate
  simp only [Entry.isDots, Bool.or_eq_true, decide_eq_true_eq, not_or] at hdots
  obtain ⟨first, blanks, hnames, hname, hblanks, hwalk, hparent⟩ := names_of_entry? hentry
  have hroot : entry.location ≠ [] := List.cons_ne_nil entry.name entry.parent
  have hnew : (before.set entry.location .directory).get? entry.location =
      some .directory := get?_set_self hroot .directory
  have hkeep : KeepsDirectories before (before.set entry.location .directory) :=
    keepsDirectories_set fun _ => rfl
  have hadvance : advance entry.parent entry.name = .ok entry.location := by
    simp [advance, hname, hdots.1, hdots.2, hlong, Entry.location]
  have hleads : (before.set entry.location .directory).LeadsTo workingDir path
      entry.location := by
    rw [LeadsTo, hnames, walk_append, walk_of_keepsDirectories hkeep hwalk]
    exact walk_eq_ok_cons_iff.mpr ⟨hkeep entry.parent hparent, entry.location,
      hadvance, walk_blanks hblanks hnew⟩
  intro location
  by_cases hlocation : location = entry.location
  · subst hlocation
    exact .inr ⟨hmissing, hnew, path, List.mem_singleton_self path, hleads⟩
  · exact .inl (get?_set_of_ne hlocation .directory)

/-- Creating nested directories is a change of the places their paths lead to, even
if a later one cannot be created. -/
theorem created_createNested (paths : List Path) (tree : FileTree) :
    Created workingDir paths tree (createNested workingDir paths tree).2 := by
  induction paths generalizing tree with
  | nil => exact .refl workingDir [] tree
  | cons path around ih =>
      have hone : ∀ {before after : FileTree},
          before.createDir workingDir path = .ok after →
            Created workingDir (path :: around) before after := by
        intro before after hcreate
        exact (created_of_createDir hcreate).mono (by simp)
      have haround := (ih tree).mono fun other hother =>
        List.mem_cons_of_mem path hother
      rw [createNested]
      split
      · rename_i hcreate
        exact hone hcreate
      · split
        · rename_i hnested
          rw [hnested] at haround
          exact haround
        · rename_i hnested
          rw [hnested] at haround
          split
          · rename_i hcreate
            exact haround.trans (hone hcreate)
          · exact haround
      · exact .refl workingDir _ tree

/-- Creating a directory adds missing directories at prefixes of its path only. -/
theorem created_createDirs (tree : FileTree) (path : Path) :
    Created workingDir path.ancestors tree (tree.createDirs workingDir path).2 :=
  created_createNested path.ancestors tree

theorem created_of_createDirs {result : Except IoError Unit}
    (hmade : before.createDirs workingDir directory = (result, after)) :
    Created workingDir directory.ancestors before after := by
  have hcreated : Created workingDir directory.ancestors before
      (before.createDirs workingDir directory).2 := created_createDirs before directory
  rwa [hmade] at hcreated

/-- A path that leads somewhere leads to the same once a directory was created. -/
theorem find_createDirs {result : Except IoError Unit}
    (hmade : before.createDirs workingDir directory = (result, after))
    (hexists : before.pathExists workingDir path = true) :
    after.find workingDir path = before.find workingDir path := by
  obtain ⟨node, hfind⟩ := pathExists_eq_true_iff.mp hexists
  rw [hfind]
  exact (created_of_createDirs hmade).find_of_ok hfind

theorem createDirs_eq_of_toOption
    (hmade : ((before.createDirs [] directory).1.toOption,
      (before.createDirs [] directory).2) = (some (), after)) :
    before.createDirs [] directory = (.ok (), after) := by
  rw [Prod.mk.injEq, toOption_eq_some_iff] at hmade
  exact Prod.ext hmade.1 hmade.2

end TypedContainers.FileTree
