import TypedContainers.Proofs.Files.Changes

/-!
# Directories that are there

Once a directory was created, its path leads to it, and creating it another time changes
nothing.  A file that is there can be written, and writing files another time with the
texts they hold changes nothing either.
-/

namespace TypedContainers.FileTree

variable {tree before middle after : FileTree} {location : Location}
variable {workingDir : Location} {directory path : Path} {name : String}

/-! ## Created directories -/

theorem checkPath_of_entry {found : Option Entry}
    (hentry : tree.entry? workingDir path = .ok found) : checkPath path = .ok () := by
  unfold entry? at hentry
  cases hcheck : checkPath path with
  | error e => simp [hcheck] at hentry
  | ok checked => rfl

/-- The path of a directory that was created leads to it. -/
theorem find_of_createDir (hcreate : before.createDir workingDir path = .ok after) :
    after.find workingDir path = .ok .directory := by
  have hcreated := created_of_createDir hcreate
  obtain ⟨entry, hentry, _, _, hmissing, rfl⟩ := exists_entry_of_createDir hcreate
  have hnew : (before.set entry.location .directory).get? entry.location =
      some .directory := get?_set_self (List.cons_ne_nil entry.name entry.parent) .directory
  rcases hcreated entry.location with hsame | ⟨_, _, other, hother, hleads⟩
  · simp [hnew, hmissing] at hsame
  · rw [List.mem_singleton.mp hother] at hleads
    exact find_eq_ok_iff.mpr ⟨checkPath_of_entry hentry, entry.location, hleads, hnew⟩

theorem find_of_orPresent {e : IoError}
    (hpresent : tree.orPresent workingDir path e = .ok ()) :
    tree.find workingDir path = .ok .directory := by
  rw [orPresent, isDirectory] at hpresent
  cases hfind : tree.find workingDir path with
  | error e => simp [hfind] at hpresent
  | ok node =>
      cases node with
      | directory => rfl
      | file content => simp [hfind] at hpresent

/-- When nested directories were created, the first path leads to a directory. -/
theorem find_of_createNested {around : List Path}
    (hcreate : createNested workingDir (path :: around) before = (.ok (), after)) :
    after.find workingDir path = .ok .directory := by
  rw [createNested] at hcreate
  split at hcreate
  · rename_i hone
    rw [Prod.mk.injEq] at hcreate
    exact find_of_createDir (hcreate.2 ▸ hone)
  · split at hcreate
    · simp at hcreate
    · split at hcreate
      · rename_i hone
        rw [Prod.mk.injEq] at hcreate
        exact find_of_createDir (hcreate.2 ▸ hone)
      · rw [Prod.mk.injEq] at hcreate
        obtain ⟨hpresent, rfl⟩ := hcreate
        exact find_of_orPresent hpresent
  · rw [Prod.mk.injEq] at hcreate
    obtain ⟨hpresent, rfl⟩ := hcreate
    exact find_of_orPresent hpresent

/-! ## Creating them another time -/

theorem eq_of_walk_blanks {blanks : List String} (hblanks : ∀ name ∈ blanks, name = "")
    {here : Location} (hwalk : tree.walk here blanks = .ok location) : location = here := by
  induction blanks with
  | nil => exact (Except.ok.inj hwalk).symm
  | cons name rest ih =>
      obtain ⟨_, next, hnext, hrest⟩ := walk_eq_ok_cons_iff.mp hwalk
      have hhere : here = next := by
        simpa [advance, hblanks name List.mem_cons_self] using hnext
      subst hhere
      exact ih (fun other hother => hblanks other (List.mem_cons_of_mem name hother)) hrest

/-- A path that leads to a directory has no entry that could be new. -/
theorem entry?_of_find {node : FileNode} (hfind : tree.find workingDir path = .ok node) :
    ∃ found, tree.entry? workingDir path = .ok found ∧
      ∀ entry, found = some entry → entry.isDots ∨ (tree.get? entry.location).isSome := by
  obtain ⟨hcheck, location, hwalk, hnode⟩ := find_eq_ok_iff.mp hfind
  unfold entry?
  simp only [hcheck]
  cases hlast : (names path).reverse.dropWhile (· = "") with
  | nil => exact ⟨none, rfl, by simp⟩
  | cons name rest =>
      obtain ⟨blanks, hnames, hname, hblanks⟩ := exists_blanks hlast
      rw [hnames, walk_append] at hwalk
      obtain ⟨parent, hparent, hwalk⟩ := bind_eq_ok_iff.mp hwalk
      obtain ⟨hdirectory, next, hnext, hrest⟩ := walk_eq_ok_cons_iff.mp hwalk
      simp only [hparent, enter_eq_ok_iff.mpr hdirectory]
      refine ⟨_, rfl, ?_⟩
      rintro entry hentry
      rw [← Option.some.inj hentry, Entry.isDots, Entry.location]
      by_cases hdots : name = "." ∨ name = ".."
      · exact .inl (by simpa using hdots)
      · rw [not_or] at hdots
        right
        by_cases hlong : isTooLong name
        · simp [advance, hname, hdots, hlong] at hnext
        · simp only [advance, hname, hdots, hlong, decide_false, Bool.or_self,
            Bool.false_eq_true, if_false, Except.ok.injEq] at hnext
          rw [hnext, ← eq_of_walk_blanks hblanks hrest, hnode]
          rfl

/-- A directory that is there is not created, and not for want of those around it. -/
theorem createDir_of_find {node : FileNode}
    (hfind : tree.find workingDir path = .ok node) :
    ∃ e, tree.createDir workingDir path = .error e ∧ e ≠ .notFound := by
  obtain ⟨found, hentry, hpresent⟩ := entry?_of_find hfind
  rw [createDir, hentry]
  cases found with
  | none => exact ⟨_, rfl, by simp⟩
  | some entry =>
      have hthere : (entry.isDots || (tree.get? entry.location).isSome) = true := by
        simpa using hpresent entry rfl
      by_cases hlong : isTooLong entry.name
      · exact ⟨_, by simp only [hlong, if_true]; rfl, by simp⟩
      · exact ⟨_, by simp only [hlong, hthere, if_true]; rfl, by simp⟩

theorem createNested_of_find {around : List Path}
    (hfind : tree.find workingDir path = .ok .directory) :
    createNested workingDir (path :: around) tree = (.ok (), tree) := by
  obtain ⟨e, hcreate, hne⟩ := createDir_of_find hfind
  have hpresent : tree.orPresent workingDir path e = .ok () := by
    simp [orPresent, isDirectory, hfind]
  rw [createNested, hcreate]
  cases e with
  | notFound => exact absurd rfl hne
  | _ => simp only [hpresent]

/-- The directories around a path that is not empty come after its own. -/
theorem ancestors_eq_nil_or (path : Path) :
    path.ancestors = [] ∨ ∃ around, path.ancestors = path :: around := by
  rw [Path.ancestors, Path.ancestorsWithin]
  split
  · exact .inl rfl
  · split
    · exact .inr ⟨_, rfl⟩
    · exact .inr ⟨_, rfl⟩

/-- Where a directory is, there is nothing to create. -/
theorem createDirs_of_find (hfind : tree.find workingDir path = .ok .directory) :
    tree.createDirs workingDir path = (.ok (), tree) := by
  rw [createDirs]
  rcases ancestors_eq_nil_or path with hnone | ⟨around, haround⟩
  · rw [hnone]
    rfl
  · rw [haround]
    exact createNested_of_find hfind

/-- Creating a directory another time changes nothing, as long as no directory was
removed. -/
theorem createDirs_again (hcreate : before.createDirs workingDir path = (.ok (), middle))
    (hkeep : KeepsDirectories middle after) :
    after.createDirs workingDir path = (.ok (), after) := by
  rcases ancestors_eq_nil_or path with hnone | ⟨around, haround⟩
  · rw [createDirs, hnone]
    rfl
  · rw [createDirs, haround] at hcreate
    exact createDirs_of_find
      (find_directory_of_keepsDirectories hkeep (find_of_createNested hcreate))

/-! ## Written files -/

/-- A file that is there can be written. -/
theorem exists_writeFile_of_find {known : Content} (hname : IsFileName name)
    (hfind : tree.find workingDir (directory.join name) = .ok (.file known))
    (content : Content) :
    ∃ changed, tree.writeFile workingDir (directory.join name) content = .ok changed := by
  obtain ⟨hcheck, location, hwalk, hfile⟩ := find_eq_ok_iff.mp hfind
  obtain ⟨hshort, parent, hresolve, rfl⟩ := (walk_join_eq_ok_iff hname).mp hwalk
  exact (writeFile_join_eq_ok_iff hname content).mpr
    ⟨hcheck, hshort, parent, hresolve, by simp [hfile]⟩

/-- Writing texts into files that hold them changes nothing. -/
theorem Wrote.get?_again {files others : List (String × String)}
    (hwrote : Wrote workingDir directory files before middle)
    (hagain : Wrote workingDir directory others middle after)
    (hothers : ∀ file ∈ others, file ∈ files) (location : Location) :
    after.get? location = middle.get? location := by
  rcases hagain.get?_eq_or location with hsame | ⟨file, hfile, hleads, htext⟩
  · exact hsame
  · obtain ⟨place, hplace, hheld⟩ := hwrote.exists_leadsTo (hothers file hfile)
    rw [htext, hleads.unique hplace, hheld]

end TypedContainers.FileTree
