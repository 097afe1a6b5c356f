import TypedContainers.Files.Tree
import TypedContainers.Proofs.Except
import TypedContainers.Proofs.Text.Pieces

/-!
# Walks in a file tree

A walk depends on the directories it passes only, so it leads to the same place in
every tree that keeps them.  A file of a directory is found behind the walk to that
directory, at a place of its own.
-/

namespace TypedContainers.FileTree

variable {tree before after : FileTree} {here location other : Location}

/-! ## Places -/

theorem lookup_put_self (node : FileNode) (nodes : List (Location × FileNode)) :
    (put location node nodes).lookup location = some node := by
  induction nodes with
  | nil => simp [put]
  | cons known rest ih =>
      obtain ⟨place, found⟩ := known
      by_cases hplace : place = location
      · simp [put, hplace]
      · have hbeq : (location == place) = false := by simpa using Ne.symm hplace
        simp [put, hplace, List.lookup_cons, hbeq, ih]

theorem lookup_put_of_ne (hne : other ≠ location) (node : FileNode)
    (nodes : List (Location × FileNode)) :
    (put location node nodes).lookup other = nodes.lookup other := by
  have hbeq : (other == location) = false := by simpa using hne
  induction nodes with
  | nil => simp [put, List.lookup_cons, hbeq]
  | cons known rest ih =>
      obtain ⟨place, found⟩ := known
      by_cases hplace : place = location
      · simp [put, hplace, List.lookup_cons, hbeq]
      · simp [put, hplace, List.lookup_cons, ih]

theorem get?_set_self (hroot : location ≠ []) (node : FileNode) :
    (tree.set location node).get? location = some node := by
  cases location with
  | nil => exact absurd rfl hroot
  | cons name parent => exact lookup_put_self node tree.nodes

theorem get?_set_of_ne (hne : other ≠ location) (node : FileNode) :
    (tree.set location node).get? other = tree.get? other := by
  cases other with
  | nil => rfl
  | cons name parent => exact lookup_put_of_ne hne node tree.nodes

theorem enter_eq_ok_iff : tree.enter location = .ok () ↔
    tree.get? location = some .directory := by
  rw [enter]
  cases tree.get? location with
  | none => simp
  | some node =>
      cases node with
      | directory => simp
      | file content => simp

/-! ## Walks -/

/-- Where one name leads from a directory. -/
def advance (here : Location) (name : String) : Except IoError Location :=
  if name = "" || name = "." then .ok here
  else if name = ".." then .ok here.tail
  else if isTooLong name then .error .invalidFilename
  else .ok (name :: here)

/-- A walk enters each place before it leaves it by a name. -/
theorem walk_cons (name : String) (rest : List String) :
    tree.walk here (name :: rest) =
      (tree.enter here).bind fun _ => (advance here name).bind (tree.walk · rest) := by
  rw [walk, advance]
  cases tree.enter here with
  | error e => rfl
  | ok entered =>
      by_cases htrivial : name = "" || name = "."
      · simp only [htrivial, if_true]
        rfl
      · by_cases hup : name = ".."
        · simp only [hup]
          rfl
        · by_cases hlong : isTooLong name
          · simp only [htrivial, hup, hlong]
            rfl
          · simp only [htrivial, hup, hlong]
            rfl

theorem walk_append (first last : List String) :
    tree.walk here (first ++ last) = (tree.walk here first).bind (tree.walk · last) := by
  induction first generalizing here with
  | nil => rfl
  | cons name rest ih =>
      rw [List.cons_append, walk_cons, walk_cons]
      cases tree.enter here with
      | error e => rfl
      | ok entered =>
          cases hnext : advance here name with
          | error e => rfl
          | ok next => exact ih

theorem walk_eq_ok_cons_iff {name : String} {rest : List String} :
    tree.walk here (name :: rest) = .ok location ↔
      tree.get? here = some .directory ∧
        ∃ next, advance here name = .ok next ∧ tree.walk next rest = .ok location := by
  rw [walk_cons, ← enter_eq_ok_iff, bind_eq_ok_iff]
  constructor
  · rintro ⟨entered, henter, hrest⟩
    exact ⟨henter, bind_eq_ok_iff.mp hrest⟩
  · rintro ⟨henter, hrest⟩
    exact ⟨(), henter, bind_eq_ok_iff.mpr hrest⟩

/-- Every directory of the first tree is one of the second. -/
def KeepsDirectories (before after : FileTree) : Prop :=
  ∀ location, before.get? location = some .directory →
    after.get? location = some .directory

theorem KeepsDirectories.refl (tree : FileTree) : KeepsDirectories tree tree :=
  fun _ hdirectory => hdirectory

theorem KeepsDirectories.trans {middle : FileTree} (hfirst : KeepsDirectories before middle)
    (hsecond : KeepsDirectories middle after) : KeepsDirectories before after :=
  fun location hdirectory => hsecond location (hfirst location hdirectory)

theorem keepsDirectories_set {node : FileNode}
    (hplace : tree.get? location = some .directory → node = .directory) :
    KeepsDirectories tree (tree.set location node) := by
  intro other hdirectory
  by_cases hother : other = location
  · subst hother
    cases other with
    | nil => rfl
    | cons name parent =>
        rw [get?_set_self (List.cons_ne_nil name parent), hplace hdirectory]
  · rwa [get?_set_of_ne hother]

/-- A walk leads to the same place in a tree that keeps the directories. -/
theorem walk_of_keepsDirectories (hkeep : KeepsDirectories before after)
    {names : List String} (hwalk : before.walk here names = .ok location) :
    after.walk here names = .ok location := by
  induction names generalizing here with
  | nil => exact hwalk
  | cons name rest ih =>
      rw [walk_eq_ok_cons_iff] at hwalk ⊢
      obtain ⟨hdirectory, next, hnext, hrest⟩ := hwalk
      exact ⟨hkeep here hdirectory, next, hnext, ih hrest⟩

theorem find_eq_ok_iff {workingDir : Location} {path : Path} {node : FileNode} :
    tree.find workingDir path = .ok node ↔ checkPath path = .ok () ∧
      ∃ location, tree.walk (origin workingDir path) (names path) = .ok location ∧
        tree.get? location = some node := by
  rw [find]
  cases checkPath path with
  | error e => simp
  | ok checked =>
      cases tree.walk (origin workingDir path) (names path) with
      | error e => simp
      | ok location =>
          cases hplace : tree.get? location with
          | none => simp [hplace]
          | some found => simp [hplace]

theorem pathExists_eq_true_iff {workingDir : Location} {path : Path} :
    tree.pathExists workingDir path = true ↔ ∃ node, tree.find workingDir path = .ok node := by
  rw [pathExists]
  cases tree.find workingDir path with
  | error e => simp [Except.isOk, Except.toBool]
  | ok node => simp [Except.isOk, Except.toBool]

theorem find_directory_of_keepsDirectories {workingDir : Location} {path : Path}
    (hkeep : KeepsDirectories before after)
    (hfind : before.find workingDir path = .ok .directory) :
    after.find workingDir path = .ok .directory := by
  rw [find_eq_ok_iff] at hfind ⊢
  obtain ⟨hcheck, location, hwalk, hdirectory⟩ := hfind
  exact ⟨hcheck, location, walk_of_keepsDirectories hkeep hwalk,
    hkeep location hdirectory⟩

/-! ## Files of a directory -/

theorem checkPath_eq (path : Path) : checkPath path =
    if '\x00' ∈ path.text.toList then .error .invalidInput
    else if path.text = "" then .error .notFound
    else if maxPath < path.text.utf8ByteSize then .error .invalidFilename
    else .ok () := by
  simp [checkPath, String.contains_char_eq]

theorem checkPath_eq_ok_iff {path : Path} : checkPath path = .ok () ↔
    '\x00' ∉ path.text.toList ∧ path.text ≠ "" ∧ path.text.utf8ByteSize ≤ maxPath := by
  rw [checkPath_eq]
  by_cases hnul : '\x00' ∈ path.text.toList
  · simp [hnul]
  by_cases hempty : path.text = ""
  · simp [hempty]
  by_cases hlong : maxPath < path.text.utf8ByteSize
  · simp [hnul, hempty, hlong]
  · simp [hnul, hempty, hlong, Nat.not_lt.mp hlong]

/-- A name that a file can have. -/
structure IsFileName (name : String) : Prop where
  slash : '/' ∉ name.toList
  nonempty : name ≠ ""
  dot : name ≠ "."
  dots : name ≠ ".."

/-- The names of a directory's path, as they stand before the name of a file in
it. -/
def leading (directory : Path) : List String :=
  if directory.text = "" then []
  else if directory.text.endsWith "/" then (names directory).dropLast
  else names directory

variable {name : String} {workingDir : Location} {directory : Path}

theorem join_eq (hname : IsFileName name) :
    directory.join name =
      if directory.text = "" ∨ directory.text.endsWith "/" then ⟨directory.text ++ name⟩
      else ⟨directory.text ++ "/" ++ name⟩ := by
  have hrelative : name.startsWith "/" = false := by
    rw [String.startsWith_string_eq_false_iff]
    rintro ⟨rest, hrest⟩
    exact hname.slash (hrest ▸ by simp)
  simp [Path.join, hrelative]

@[simp]
theorem join_empty (hname : IsFileName name) : Path.join ⟨""⟩ name = ⟨name⟩ := by
  simp [join_eq hname]

theorem exists_of_endsWith {text : String} (hslash : text.endsWith "/") :
    ∃ start, text.toList = start ++ ['/'] := by
  rw [String.endsWith_eq_endsWith_toSlice, String.Slice.endsWith_string_iff] at hslash
  obtain ⟨start, hstart⟩ := hslash
  exact ⟨start, by simpa using hstart.symm⟩

theorem endsWith_slash_eq_false {text : String} (hlast : text.toList.getLast? ≠ some '/') :
    text.endsWith "/" = false := by
  rw [Bool.eq_false_iff]
  intro hslash
  obtain ⟨start, hstart⟩ := exists_of_endsWith hslash
  exact hlast (by rw [hstart, List.getLast?_concat])

/-- A name is put after a slash unless the directory's path ends with one. -/
theorem join_eq_of_getLast? (hname : IsFileName name) (hnonempty : directory.text ≠ "")
    (hlast : directory.text.toList.getLast? ≠ some '/') :
    directory.join name = ⟨directory.text ++ "/" ++ name⟩ := by
  simp [join_eq hname, hnonempty, endsWith_slash_eq_false hlast]

theorem names_join (hname : IsFileName name) :
    names (directory.join name) = leading directory ++ [name] := by
  rw [join_eq hname, leading]
  by_cases hempty : directory.text = ""
  · simp [hempty, names, Text.split_of_not_mem hname.slash]
  · by_cases hslash : directory.text.endsWith "/"
    · obtain ⟨start, hstart⟩ := exists_of_endsWith hslash
      simp [hempty, hslash, names, hstart,
        Text.split_append_separator_last hname.slash,
        Text.split_append_separator_last (List.not_mem_nil)]
    · simp [hempty, hslash, names, Text.split_append_separator_last hname.slash]

/-- The names of a path without a slash at its end all stand before a file's. -/
theorem leading_eq_names (hnonempty : directory.text ≠ "")
    (hlast : directory.text.toList.getLast? ≠ some '/') :
    leading directory = names directory := by
  simp [leading, hnonempty, endsWith_slash_eq_false hlast]

/-- From the root, relative paths start where absolute ones do. -/
theorem origin_nil (path : Path) : origin [] path = [] :=
  ite_self []

theorem origin_join (hname : IsFileName name) :
    origin workingDir (directory.join name) = origin workingDir directory := by
  have hstart : (directory.join name).text.startsWith "/" =
      directory.text.startsWith "/" := by
    rw [Bool.eq_iff_iff, String.startsWith_string_iff, String.startsWith_string_iff,
      join_eq hname]
    by_cases hempty : directory.text = ""
    · have hnot : ¬['/'] <+: name.toList := by
        rintro ⟨rest, hrest⟩
        exact hname.slash (hrest ▸ List.mem_cons_self)
      simpa [hempty] using hnot
    · cases hchars : directory.text.toList with
      | nil => exact absurd (String.toList_eq_nil_iff.mp hchars) hempty
      | cons c rest =>
          split
          · simp [hchars]
          · simp [hchars]
  simp [origin, hstart]

/-- The path of a file is short enough if those of its directory and its name are. -/
theorem checkPath_join (hname : IsFileName name)
    (hnul : '\x00' ∉ directory.text.toList ++ name.toList)
    (hshort : directory.text.utf8ByteSize + 1 + name.utf8ByteSize ≤ maxPath) :
    checkPath (directory.join name) = .ok () := by
  rw [List.mem_append, not_or] at hnul
  apply checkPath_eq_ok_iff.mpr
  rw [join_eq hname]
  split
  · refine ⟨by simp [hnul], by simp [hname.nonempty], ?_⟩
    rw [String.utf8ByteSize_append]
    omega
  · refine ⟨by simp [hnul], by simp [hname.nonempty], ?_⟩
    rw [String.utf8ByteSize_append, String.utf8ByteSize_append]
    exact hshort

theorem join_injective {other : String} (hname : IsFileName name)
    (hother : IsFileName other) (heq : directory.join name = directory.join other) :
    name = other := by
  have hnames := congrArg names heq
  rw [names_join hname, names_join hother] at hnames
  exact List.singleton_inj.mp (List.append_cancel_left hnames)

/-- The directory that files of a path are in, if it is there. -/
def resolve (tree : FileTree) (workingDir : Location) (directory : Path) :
    Except IoError Location :=
  (tree.walk (origin workingDir directory) (leading directory)).bind fun location =>
    (tree.enter location).map fun _ => location

theorem resolve_eq_ok_iff : tree.resolve workingDir directory = .ok location ↔
    tree.walk (origin workingDir directory) (leading directory) = .ok location ∧
      tree.get? location = some .directory := by
  rw [resolve, bind_eq_ok_iff]
  constructor
  · rintro ⟨reached, hwalk, hreached⟩
    obtain ⟨entered, henter, rfl⟩ := map_eq_ok_iff.mp hreached
    exact ⟨hwalk, enter_eq_ok_iff.mp henter⟩
  · rintro ⟨hwalk, hdirectory⟩
    exact ⟨location, hwalk, map_eq_ok_iff.mpr ⟨(), enter_eq_ok_iff.mpr hdirectory, rfl⟩⟩

/-- From the root, a path without a slash at its end is resolved along its names. -/
theorem resolve_eq_ok_of_names (hnonempty : directory.text ≠ "")
    (hlast : directory.text.toList.getLast? ≠ some '/')
    (hwalk : tree.walk [] (names directory) = .ok location)
    (hdirectory : tree.get? location = some .directory) :
    tree.resolve [] directory = .ok location := by
  rw [resolve_eq_ok_iff, origin_nil, leading_eq_names hnonempty hlast]
  exact ⟨hwalk, hdirectory⟩

theorem resolve_of_keepsDirectories (hkeep : KeepsDirectories before after)
    (hresolve : before.resolve workingDir directory = .ok location) :
    after.resolve workingDir directory = .ok location := by
  rw [resolve_eq_ok_iff] at hresolve ⊢
  exact ⟨walk_of_keepsDirectories hkeep hresolve.1, hkeep location hresolve.2⟩

/-- A file of a directory is entered at its name in that directory. -/
theorem entry?_join (hname : IsFileName name) :
    tree.entry? workingDir (directory.join name) =
      (checkPath (directory.join name)).bind fun _ =>
        (tree.resolve workingDir directory).map fun parent =>
          some ⟨parent, name, false⟩ := by
  have hall : (names (directory.join name)).reverse.dropWhile (· = "") =
      name :: (leading directory).reverse := by
    rw [names_join hname, List.reverse_append]
    simp [hname.nonempty]
  have hlast : (names (directory.join name)).getLast? ≠ some "" := by
    rw [names_join hname]
    simpa using hname.nonempty
  unfold entry?
  rw [resolve, origin_join hname]
  cases checkPath (directory.join name) with
  | error e => rfl
  | ok checked =>
      simp only [hall, List.reverse_reverse, hlast, decide_false, Except.bind]
      cases tree.walk (origin workingDir directory) (leading directory) with
      | error e => rfl
      | ok parent =>
          cases henter : tree.enter parent with
          | error e => simp [Except.map, henter]
          | ok entered => simp [Except.map, henter]

/-- A file of a directory is found at its name in that directory. -/
theorem find_join (hname : IsFileName name) :
    tree.find workingDir (directory.join name) =
      (checkPath (directory.join name)).bind fun _ =>
        (tree.resolve workingDir directory).bind fun parent =>
          if isTooLong name then .error .invalidFilename
          else
            match tree.get? (name :: parent) with
            | some node => .ok node
            | none => .error .notFound := by
  have hadvance : ∀ parent, advance parent name =
      if isTooLong name then .error .invalidFilename else .ok (name :: parent) := by
    intro parent
    simp [advance, hname.nonempty, hname.dot, hname.dots]
  rw [find, resolve, origin_join hname, names_join hname, walk_append]
  cases checkPath (directory.join name) with
  | error e => rfl
  | ok checked =>
      simp only [Except.bind]
      cases tree.walk (origin workingDir directory) (leading directory) with
      | error e => rfl
      | ok parent =>
          simp only [walk_cons, hadvance]
          cases tree.enter parent with
          | error e => rfl
          | ok entered =>
              by_cases hlong : isTooLong name
              · simp only [Except.map, Except.bind, hlong, if_true]
              · simp only [Except.map, Except.bind, hlong, walk]
                rfl

/-- The path of a file of a directory leads to its name in that directory. -/
theorem walk_join_eq_ok_iff (hname : IsFileName name) :
    tree.walk (origin workingDir (directory.join name)) (names (directory.join name)) =
        .ok location ↔
      ¬isTooLong name ∧
        ∃ parent, tree.resolve workingDir directory = .ok parent ∧ location = name :: parent := by
  have hadvance : ∀ parent, advance parent name =
      if isTooLong name then .error .invalidFilename else .ok (name :: parent) := by
    intro parent
    simp [advance, hname.nonempty, hname.dot, hname.dots]
  rw [origin_join hname, names_join hname, walk_append, bind_eq_ok_iff]
  simp only [walk_eq_ok_cons_iff, resolve_eq_ok_iff, hadvance]
  constructor
  · rintro ⟨parent, hwalk, hdirectory, next, hnext, hlocation⟩
    by_cases hlong : isTooLong name
    · simp [hlong] at hnext
    · rw [if_neg hlong, Except.ok.injEq] at hnext
      subst hnext
      exact ⟨hlong, parent, ⟨hwalk, hdirectory⟩, (Except.ok.inj hlocation).symm⟩
  · rintro ⟨hlong, parent, ⟨hwalk, hdirectory⟩, rfl⟩
    exact ⟨parent, hwalk, hdirectory, name :: parent, if_neg hlong, rfl⟩

/-- Writing a file of a directory sets it at its name in that directory. -/
theorem writeFile_join (hname : IsFileName name) (content : Content) :
    tree.writeFile workingDir (directory.join name) content =
      (checkPath (directory.join name)).bind fun _ =>
        (tree.resolve workingDir directory).bind fun parent =>
          if isTooLong name then .error .invalidFilename
          else if tree.get? (name :: parent) = some .directory then .error .isADirectory
          else .ok (tree.set (name :: parent) (.file content)) := by
  rw [writeFile, entry?_join hname]
  cases checkPath (directory.join name) with
  | error e => rfl
  | ok checked =>
      simp only [Except.bind]
      cases tree.resolve workingDir directory with
      | error e => rfl
      | ok parent =>
          simp only [Except.map, Entry.isDots, Entry.location, hname.dot, hname.dots,
            decide_false, Bool.or_self, Bool.false_eq_true, if_false]
          rfl

theorem writeFile_join_eq_ok_iff (hname : IsFileName name) (content : Content) :
    (∃ changed, tree.writeFile workingDir (directory.join name) content = .ok changed) ↔
      checkPath (directory.join name) = .ok () ∧ ¬isTooLong name ∧
        ∃ parent, tree.resolve workingDir directory = .ok parent ∧
          tree.get? (name :: parent) ≠ some .directory := by
  rw [writeFile_join hname]
  constructor
  · rintro ⟨changed, hwrite⟩
    obtain ⟨checked, hcheck, hwrite⟩ := bind_eq_ok_iff.mp hwrite
    obtain ⟨parent, hresolve, hwrite⟩ := bind_eq_ok_iff.mp hwrite
    by_cases hlong : isTooLong name
    · simp [hlong] at hwrite
    by_cases hplace : tree.get? (name :: parent) = some .directory
    · simp [hlong, hplace] at hwrite
    exact ⟨hcheck, hlong, parent, hresolve, hplace⟩
  · rintro ⟨hcheck, hlong, parent, hresolve, hplace⟩
    refine ⟨tree.set (name :: parent) (.file content), ?_⟩
    rw [hcheck, hresolve]
    simp only [Except.bind, hlong, hplace, if_false, Bool.false_eq_true]

end TypedContainers.FileTree
