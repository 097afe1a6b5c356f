import TypedContainers.Proofs.Files.Changes

/-!
# Files that are written unless they are there

Files of a directory are written one after the other, and one that is there is kept unless
overwriting is asked for.  Different files do not disturb each other, so what is there
before the first one decides about all of them.
-/

namespace TypedContainers.FileTree

variable {before middle after : FileTree} {workingDir : Location} {directory : Path}
variable {force : Bool} {name text : String} {files first rest : List (String × String)}

/-- Whether a file is there and stays as it is. -/
def stays (tree : FileTree) (workingDir : Location) (file : Path) (force : Bool) : Bool :=
  tree.pathExists workingDir file && !force

/-- The files of a list that are to be written, told apart by what is there before the
first one. -/
def pending (tree : FileTree) (workingDir : Location) (directory : Path) (force : Bool)
    (files : List (String × String)) : List (String × String) :=
  files.filter fun file => !stays tree workingDir (directory.join file.1) force

theorem stays_of_resolve {tree : FileTree} {place : Location} (hname : IsFileName name)
    (hshort : ¬isTooLong name) (hcheck : checkPath (directory.join name) = .ok ())
    (hresolve : tree.resolve workingDir directory = .ok place) :
    stays tree workingDir (directory.join name) force =
      ((tree.get? (name :: place)).isSome && !force) := by
  rw [stays, pathExists, find_join hname, hcheck, hresolve]
  simp only [Except.bind, hshort]
  cases tree.get? (name :: place) with
  | none => rfl
  | some node => rfl

theorem mem_pending {tree : FileTree} {file : String × String} :
    file ∈ pending tree workingDir directory force files ↔
      file ∈ files ∧ stays tree workingDir (directory.join file.1) force = false := by
  simp [pending]

/-- With overwriting no file stays. -/
theorem pending_of_force (tree : FileTree) (workingDir : Location) (directory : Path)
    (files : List (String × String)) :
    pending tree workingDir directory true files = files :=
  List.filter_eq_self.mpr fun file _ => by simp [stays]

theorem pending_cons_of_stays {tree : FileTree}
    (hstays : stays tree workingDir (directory.join name) force = true) :
    pending tree workingDir directory force ((name, text) :: rest) =
      pending tree workingDir directory force rest := by
  simp [pending, hstays]

theorem pending_cons_of_not_stays {tree : FileTree}
    (hstays : stays tree workingDir (directory.join name) force = false) :
    pending tree workingDir directory force ((name, text) :: rest) =
      (name, text) :: pending tree workingDir directory force rest := by
  simp [pending, hstays]

/-- Files that a change leaves alone stay or not as before it. -/
theorem Wrote.stays_eq (hwrote : Wrote workingDir directory first before middle)
    (hname : IsFileName name) (hother : name ∉ first.map Prod.fst) :
    stays middle workingDir (directory.join name) force =
      stays before workingDir (directory.join name) force := by
  have hfind := hwrote.beside name hname hother
  simp only [stays, pathExists, hfind]

theorem Wrote.pending_eq (hwrote : Wrote workingDir directory first before middle)
    (hnames : ∀ file ∈ files, IsFileName file.1)
    (hother : ∀ file ∈ files, file.1 ∉ first.map Prod.fst) :
    pending middle workingDir directory force files =
      pending before workingDir directory force files := by
  rw [pending, pending]
  refine List.filter_congr fun file hfile => ?_
  rw [hwrote.stays_eq (hnames file hfile) (hother file hfile)]

/-- A file that is written before others is one more change, and the others are told apart
as they were before it. -/
theorem Wrote.cons_pending
    (hstays : stays before workingDir (directory.join name) force = false)
    (hnames : ∀ file ∈ (name, text) :: rest, IsFileName file.1)
    (hnew : name ∉ rest.map Prod.fst)
    (hfirst : Wrote workingDir directory [(name, text)] before middle)
    (hrest : Wrote workingDir directory (pending middle workingDir directory force rest)
      middle after) :
    Wrote workingDir directory
      (pending before workingDir directory force ((name, text) :: rest)) before after := by
  have hother : ∀ file ∈ rest, file.1 ∉ [(name, text)].map Prod.fst := by
    intro file hfile hmem
    obtain rfl := List.mem_singleton.mp hmem
    exact hnew (List.mem_map_of_mem hfile)
  have hpending : pending middle workingDir directory force rest =
      pending before workingDir directory force rest :=
    hfirst.pending_eq (fun file hfile => hnames file (List.mem_cons_of_mem _ hfile)) hother
  rw [pending_cons_of_not_stays hstays, ← hpending]
  apply hfirst.append hrest
  · intro file hfile
    obtain rfl := List.mem_singleton.mp hfile
    exact hnames _ List.mem_cons_self
  · intro file hfile hmem
    obtain rfl := List.mem_singleton.mp hfile
    obtain ⟨other, hpends, heq⟩ := List.mem_map.mp hmem
    exact hnew (List.mem_map.mpr ⟨other, (mem_pending.mp hpends).1, heq⟩)

/-- Once the pending files of a list are written, all of its files are there. -/
theorem Wrote.pathExists_of_pending {file : String × String}
    (hwrote : Wrote workingDir directory (pending before workingDir directory force files)
      before after)
    (hname : IsFileName file.1) (hfile : file ∈ files) :
    after.pathExists workingDir (directory.join file.1) = true := by
  cases hstays : stays before workingDir (directory.join file.1) force with
  | false =>
      have hfind := hwrote.written file (mem_pending.mpr ⟨hfile, hstays⟩)
      exact pathExists_eq_true_iff.mpr ⟨_, hfind⟩
  | true =>
      have hother : file.1 ∉
          (pending before workingDir directory force files).map Prod.fst := by
        intro hmem
        obtain ⟨other, hother, heq⟩ := List.mem_map.mp hmem
        have hpends := (mem_pending.mp hother).2
        rw [heq, hstays] at hpends
        contradiction
      have hsame : stays after workingDir (directory.join file.1) false =
          stays before workingDir (directory.join file.1) false :=
        hwrote.stays_eq hname hother
      rw [stays, Bool.and_eq_true] at hstays
      simpa [stays, hstays.1] using hsame

end TypedContainers.FileTree
