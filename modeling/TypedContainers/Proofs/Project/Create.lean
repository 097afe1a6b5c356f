import TypedContainers.Project.Create
import TypedContainers.Proofs.Files.Directories
import TypedContainers.Proofs.Files.Path
import TypedContainers.Proofs.Files.Pending
import TypedContainers.Proofs.Project.Action
import TypedContainers.Proofs.Project.Settings

/-!
# What a new project leaves

Setting up a project creates its directory and writes the starter files that are not
there.
-/

namespace TypedContainers.Project

open FileTree (IsFileName Wrote Created stays pending created_of_createDirs find_createDirs)

variable {directory : Path} {force : Bool} {files rest : List (String × String)}

/-! ## Writing starter files -/

/-- How starter files can be handled: all of them, or those before one that cannot be
written. -/
inductive Handles (workingDir : Location) (directory : Path) (force : Bool)
    (files : List (String × String)) (before : FileTree) :
    Except Failure (List Path) → FileTree → Prop
  | finished {after : FileTree}
      (hwrote : Wrote workingDir directory
        (pending before workingDir directory force files) before after) :
      Handles workingDir directory force files before
        (.ok ((pending before workingDir directory force files).map fun file =>
          directory.join file.1)) after
  | stopped {done rest : List (String × String)} {name text : String} {e : IoError}
      {after : FileTree} (hfiles : files = done ++ (name, text) :: rest)
      (hstays : stays before workingDir (directory.join name) force = false)
      (hwrote : Wrote workingDir directory
        (pending before workingDir directory force done) before after)
      (hfailed : after.writeFile workingDir (directory.join name) (.text text) = .error e) :
      Handles workingDir directory force files before
        (.error (.starterFile (directory.join name) e)) after

variable {workingDir : Location} {before middle after : FileTree} {name text : String}
variable {result : Except Failure (List Path)}

/-- A file that stays in front changes nothing. -/
theorem Handles.cons_stays
    (hstays : stays before workingDir (directory.join name) force = true)
    (hhandles : Handles workingDir directory force files before result after) :
    Handles workingDir directory force ((name, text) :: files) before result after := by
  cases hhandles with
  | finished hwrote =>
      have hfinished : Handles workingDir directory force ((name, text) :: files) before _
          after := .finished (by rwa [FileTree.pending_cons_of_stays hstays])
      rwa [FileTree.pending_cons_of_stays hstays] at hfinished
  | stopped hfiles hother hwrote hfailed =>
      rename_i done rest later laterText e
      have hcons : (name, text) :: files =
          ((name, text) :: done) ++ (later, laterText) :: rest :=
        congrArg ((name, text) :: ·) hfiles
      exact .stopped hcons hother (by rwa [FileTree.pending_cons_of_stays hstays]) hfailed

/-- A file that is written in front is one more change. -/
theorem Handles.cons_written
    (hstays : stays before workingDir (directory.join name) force = false)
    (hnames : ∀ file ∈ (name, text) :: files, IsFileName file.1)
    (hdistinct : (((name, text) :: files).map Prod.fst).Nodup)
    (hwrote : Wrote workingDir directory [(name, text)] before middle)
    (hhandles : Handles workingDir directory force files middle result after) :
    Handles workingDir directory force ((name, text) :: files) before
      (result.map (directory.join name :: ·)) after := by
  rw [List.map_cons, List.nodup_cons] at hdistinct
  have hother : ∀ file ∈ files, file.1 ∉ [(name, text)].map Prod.fst := by
    intro file hfile hmem
    obtain rfl := List.mem_singleton.mp hmem
    exact hdistinct.1 (List.mem_map.mpr ⟨file, hfile, rfl⟩)
  have hrest : ∀ file ∈ files, IsFileName file.1 :=
    fun file hfile => hnames file (List.mem_cons_of_mem _ hfile)
  cases hhandles with
  | finished hlast =>
      have hfinished := Handles.finished
        (hwrote.cons_pending hstays hnames hdistinct.1 hlast)
      rw [hwrote.pending_eq hrest hother]
      rwa [FileTree.pending_cons_of_not_stays hstays] at hfinished
  | stopped hfiles hlater hlast hfailed =>
      rename_i done rest later laterText e
      have hsub : ∀ file ∈ done, file ∈ files :=
        fun file hfile => hfiles ▸ List.mem_append_left _ hfile
      have hmem : (later, laterText) ∈ files := by simp [hfiles]
      rw [hwrote.stays_eq (hrest _ hmem) (hother _ hmem)] at hlater
      have hcons : (name, text) :: files =
          ((name, text) :: done) ++ (later, laterText) :: rest :=
        congrArg ((name, text) :: ·) hfiles
      refine .stopped hcons hlater (hwrote.cons_pending hstays ?_ ?_ hlast) hfailed
      · intro file hfile
        rcases List.mem_cons.mp hfile with rfl | hfile
        · exact hnames _ List.mem_cons_self
        · exact hrest file (hsub file hfile)
      · intro hname
        obtain ⟨file, hfile, heq⟩ := List.mem_map.mp hname
        exact hdistinct.1 (List.mem_map.mpr ⟨file, hsub file hfile, heq⟩)

/-- Different starter files are handled by what is there before the first one. -/
theorem runIn_writeStarters (directory : Path) (force : Bool)
    (hnames : ∀ file ∈ files, IsFileName file.1)
    (hdistinct : (files.map Prod.fst).Nodup) (world : World) :
    ∃ result tree events,
      Action.runIn (writeStarters directory force files) world =
        (result, { world with tree := tree, events := events }) ∧
      Handles world.workingDir directory force files world.tree result tree := by
  induction files generalizing world with
  | nil => exact ⟨_, world.tree, world.events, rfl, .finished (.nil world.tree)⟩
  | cons file rest ih =>
      obtain ⟨name, text⟩ := file
      have hrest := ih (fun other hmem => hnames other (List.mem_cons_of_mem _ hmem))
        (List.nodup_cons.mp hdistinct).2
      rw [writeStarters, Action.runIn_bind, Action.runIn_pathExists]
      cases hstays : stays world.tree world.workingDir (directory.join name) force with
      | true =>
          have hcondition : (world.pathExists (directory.join name) && !force) = true := hstays
          obtain ⟨result, tree, events, hrun, hhandles⟩ :=
            hrest (world.report (.keptStarter name))
          refine ⟨result, tree, events, ?_, hhandles.cons_stays hstays⟩
          simp only [hcondition, if_true, Action.runIn_bind, Action.runIn_report]
          exact hrun
      | false =>
          have hcondition : (world.pathExists (directory.join name) && !force) = false :=
            hstays
          have hrequest : (Machine.writeText (directory.join name) text :
              StateM World (Except IoError Unit)) world =
              World.writeText (directory.join name) text world := rfl
          simp only [hcondition, Bool.false_eq_true, if_false, Action.runIn_bind,
            Action.runIn_attempt, hrequest, World.writeText]
          cases hwrite : world.tree.writeFile world.workingDir (directory.join name)
            (.text text) with
          | error e =>
              have hfiles : (name, text) :: rest = [] ++ (name, text) :: rest := rfl
              exact ⟨_, world.tree, world.events, rfl,
                .stopped hfiles hstays (.nil world.tree) hwrite⟩
          | ok tree =>
              have hwrote := FileTree.wrote_of_writeFile
                (hnames (name, text) List.mem_cons_self) hwrite
              obtain ⟨result, tree, events, hrun, hhandles⟩ :=
                hrest ({ world with tree := tree }.report
                  (.wroteStarter (directory.join name)))
              refine ⟨_, _, events, ?_,
                Handles.cons_written hstays hnames hdistinct hwrote hhandles⟩
              simp only [mapError_ok, Action.runIn_report, hrun]
              cases result with
              | error failure => rfl
              | ok written => rfl

/-! ## Setting up a project -/

theorem isFileName_of_mem_starters : ∀ starter ∈ starters, IsFileName starter.1 := by
  have hnames : ∀ name ∈ starters.map Prod.fst, IsFileName name := by
    intro name hname
    simp only [starters, List.map_cons, List.map_nil, List.mem_cons, List.not_mem_nil,
      or_false] at hname
    rcases hname with rfl | rfl
    · exact ⟨by decide, by decide, by decide, by decide⟩
    · exact ⟨by decide, by decide, by decide, by decide⟩
  exact fun starter hstarter => hnames starter.1 (List.mem_map_of_mem hstarter)

theorem nodup_starters : (starters.map Prod.fst).Nodup := by decide

/-- How setting up a project can end: without its directory, or with what became of the
starter files. -/
inductive Creates (workingDir : Location) (directory : Path) (force : Bool)
    (before : FileTree) : Except Failure (List Path) → FileTree → Prop
  | noDirectory {made : FileTree} {e : IoError}
      (hmade : before.createDirs workingDir directory = (.error e, made)) :
      Creates workingDir directory force before (.error (.projectDirectory directory e)) made
  | handled {made after : FileTree} {result : Except Failure (List Path)}
      (hmade : before.createDirs workingDir directory = (.ok (), made))
      (hhandles : Handles workingDir directory force starters made result after) :
      Creates workingDir directory force before result after

theorem runIn_create (directory : Path) (force : Bool) (world : World) :
    ∃ result tree events,
      Action.runIn (create directory force) world =
        (result, { world with tree := tree, events := events }) ∧
      Creates world.workingDir directory force world.tree result tree := by
  have hrequest : ∀ world : World, (Machine.createDirs directory :
      StateM World (Except IoError Unit)) world = World.createDirs directory world :=
    fun _ => rfl
  rw [create, Action.runIn_bind, Action.runIn_report]
  simp only [Action.runIn_bind, Action.runIn_attempt, hrequest, World.createDirs]
  cases hmade : (world.report (.initializing directory)).tree.createDirs
      (world.report (.initializing directory)).workingDir directory with
  | mk created made =>
      cases created with
      | error e => exact ⟨_, made, _, rfl, .noDirectory hmade⟩
      | ok =>
          obtain ⟨result, tree, events, hrun, hhandles⟩ := runIn_writeStarters directory force
            isFileName_of_mem_starters nodup_starters
            { world.report (.initializing directory) with tree := made }
          simp only [mapError_ok, hrun]
          cases result with
          | error failure => exact ⟨_, tree, _, rfl, .handled hmade hhandles⟩
          | ok written => exact ⟨_, tree, _, rfl, .handled hmade hhandles⟩

/-! ## What is there afterwards -/

/-- Some starter files hold their texts, and every other place is as it was, except for
missing directories that prefixes of the project's directory lead to. -/
structure Holds (workingDir : Location) (directory : Path)
    (written : List (String × String)) (before after : FileTree) : Prop where
  texts : ∀ starter ∈ written,
    after.readText workingDir (directory.join starter.1) = .ok starter.2
  elsewhere : ∀ location,
    (∀ starter ∈ written, ¬after.LeadsTo workingDir (directory.join starter.1) location) →
    after.get? location = before.get? location ∨
      (before.get? location = none ∧ after.get? location = some .directory ∧
        ∃ ancestor ∈ directory.ancestors, after.LeadsTo workingDir ancestor location)

variable {made : FileTree} {world : World}

theorem holds_of_wrote {written : List (String × String)}
    (hcreated : Created workingDir directory.ancestors before made)
    (hwrote : Wrote workingDir directory written made after) :
    Holds workingDir directory written before after where
  texts := by
    intro starter hstarter
    rw [FileTree.readText, hwrote.written starter hstarter]
  elsewhere := by
    intro location hlocation
    exact hcreated.get?_of_eq hwrote.directories (hwrote.elsewhere location hlocation)

/-- A file that is not there once the directory of a project is was not there before. -/
theorem missing_of_pending {starter : String × String}
    (hmade : world.tree.createDirs world.workingDir directory = (.ok (), made))
    (hpending : starter ∈ pending made world.workingDir directory false files) :
    world.pathExists (directory.join starter.1) = false := by
  have hstays := (FileTree.mem_pending.mp hpending).2
  rw [Bool.eq_false_iff]
  intro hexists
  have hthere : made.pathExists world.workingDir (directory.join starter.1) = true := by
    rw [FileTree.pathExists, find_createDirs hmade hexists]
    exact hexists
  simp [stays, hthere] at hstays

/-- Where all starter files are there, setting up a project changes nothing. -/
theorem exists_create_again
    (hmade : world.tree.createDirs world.workingDir directory = (.ok (), world.tree))
    (hthere : ∀ starter ∈ starters,
      world.tree.pathExists world.workingDir (directory.join starter.1) = true) :
    ∃ final, Action.runIn (create directory false) world = (.ok [], final) ∧
      ∀ location, final.tree.get? location = world.tree.get? location := by
  have hstays : ∀ starter ∈ starters,
      stays world.tree world.workingDir (directory.join starter.1) false = true := by
    intro starter hstarter
    simp [stays, hthere starter hstarter]
  have hnone : pending world.tree world.workingDir directory false starters = [] :=
    List.filter_eq_nil_iff.mpr fun starter hstarter => by simp [hstays starter hstarter]
  obtain ⟨result, tree, events, hrun, hcreates⟩ := runIn_create directory false world
  cases hcreates with
  | noDirectory hfailed => simp [hmade] at hfailed
  | handled hdirectory hhandles =>
      rw [hmade, Prod.mk.injEq] at hdirectory
      obtain ⟨_, rfl⟩ := hdirectory
      cases hhandles with
      | finished hwrote =>
          rw [hnone] at hrun hwrote
          exact ⟨_, hrun, fun location => hwrote.elsewhere location (by simp)⟩
      | stopped hfiles hother =>
          have hmem := hfiles ▸ List.mem_append_right _ List.mem_cons_self
          simp [hstays _ hmem] at hother

theorem workingDir_of_create {result : Except Failure (List Path)} {after : World}
    (hrun : Action.runIn (create directory force) world = (result, after)) :
    after.workingDir = world.workingDir ∧
      Creates world.workingDir directory force world.tree result after.tree := by
  obtain ⟨_, tree, events, hcreate, hcreates⟩ := runIn_create directory force world
  rw [hcreate, Prod.mk.injEq] at hrun
  obtain ⟨rfl, rfl⟩ := hrun
  exact ⟨rfl, hcreates⟩

/-- What setting up a project does.  When it gives a list, these are the starter files, in
order, that were not there once the directory was, or all of them when overwriting is asked
for; none of them was there before unless it is.  They hold their texts, every other place
is as it was but for missing directories on the way, and setting up the project another
time gives no files and changes nothing.  When it fails, it could not create the directory
or write a starter file; those written before that hold their texts, and every other file
is as it was.  That the file which could not be written is among these rests on
`FileTree.writeFile` being all or nothing. -/
theorem starters_of_create (directory : Path) (force : Bool) (world : World) :
    starters.map Prod.fst = ["appsettings.json", "voldelig.toml"] ∧
    (∀ written after, Action.runIn (create directory force) world = (.ok written, after) →
      ∃ made, world.tree.createDirs world.workingDir directory = (.ok (), made) ∧
        written = (pending made world.workingDir directory force starters).map
          (fun starter => directory.join starter.1) ∧
        (force = true →
          written = [directory.join "appsettings.json", directory.join "voldelig.toml"]) ∧
        (∀ file ∈ written, force = false → world.pathExists file = false) ∧
        Holds world.workingDir directory
          (pending made world.workingDir directory force starters) world.tree after.tree ∧
        ∃ final, Action.runIn (create directory false) after = (.ok [], final) ∧
          ∀ location, final.tree.get? location = after.tree.get? location) ∧
    ∀ failure after, Action.runIn (create directory force) world = (.error failure, after) →
      ∃ created made done rest,
        world.tree.createDirs world.workingDir directory = (created, made) ∧
        starters = done ++ rest ∧
        Holds world.workingDir directory
          (pending made world.workingDir directory force done) world.tree after.tree ∧
        ((∃ e, created = .error e ∧ done = [] ∧
            failure = .projectDirectory directory e) ∨
          ∃ name text later e, created = .ok () ∧ rest = (name, text) :: later ∧
            failure = .starterFile (directory.join name) e) := by
  refine ⟨rfl, ?_, ?_⟩
  · intro written after hrun
    obtain ⟨hworkingDir, hcreates⟩ := workingDir_of_create hrun
    cases hcreates with
    | handled hmade hhandles =>
        rename_i made
        cases hhandles with
        | finished hwrote =>
            refine ⟨made, hmade, rfl, ?_, ?_,
              holds_of_wrote (created_of_createDirs hmade) hwrote, ?_⟩
            · rintro rfl
              rw [FileTree.pending_of_force]
              rfl
            · rintro file hfile rfl
              obtain ⟨starter, hstarter, rfl⟩ := List.mem_map.mp hfile
              exact missing_of_pending hmade hstarter
            · apply exists_create_again
              · rw [hworkingDir]
                exact FileTree.createDirs_again hmade hwrote.directories
              · intro starter hstarter
                rw [hworkingDir]
                exact hwrote.pathExists_of_pending
                  (isFileName_of_mem_starters starter hstarter) hstarter
  · intro failure after hrun
    obtain ⟨_, hcreates⟩ := workingDir_of_create hrun
    cases hcreates with
    | noDirectory hmade =>
        exact ⟨_, _, [], starters, hmade, rfl,
          holds_of_wrote (created_of_createDirs hmade) (.nil after.tree),
          .inl ⟨_, rfl, rfl, rfl⟩⟩
    | handled hmade hhandles =>
        cases hhandles with
        | stopped hfiles hstays hwrote hfailed =>
            exact ⟨_, _, _, _, hmade, hfiles,
              holds_of_wrote (created_of_createDirs hmade) hwrote,
              .inr ⟨_, _, _, _, rfl, rfl, rfl⟩⟩

/-! ## Starter files that are there -/

theorem isTooLong_of_mem_starters : ∀ starter ∈ starters, ¬FileTree.isTooLong starter.1 := by
  decide

section Resolved

variable {place : Location} (hresolve : made.resolve workingDir directory = .ok place)
  (hpaths : ∀ starter ∈ starters, FileTree.checkPath (directory.join starter.1) = .ok ())
include hresolve hpaths

theorem stays_starter : ∀ starter ∈ starters,
    stays made workingDir (directory.join starter.1) false =
      (made.get? (starter.1 :: place)).isSome := by
  intro starter hstarter
  rw [FileTree.stays_of_resolve (isFileName_of_mem_starters starter hstarter)
    (isTooLong_of_mem_starters starter hstarter) (hpaths starter hstarter) hresolve]
  simp

/-- Where the directory of a project is, the starter files to write are those in whose
places there is nothing. -/
theorem pending_starters : pending made workingDir directory false starters =
    starters.filter fun starter => !(made.get? (starter.1 :: place)).isSome :=
  List.filter_congr fun starter hstarter => by
    rw [stays_starter hresolve hpaths starter hstarter]

end Resolved

/-- Setting up a project without overwriting gives a list once its directory is there, if
the paths of the starter files are short enough. -/
theorem exists_create_of_resolve {place : Location}
    (hmade : world.tree.createDirs world.workingDir directory = (.ok (), made))
    (hresolve : made.resolve world.workingDir directory = .ok place)
    (hpaths : ∀ starter ∈ starters,
      FileTree.checkPath (directory.join starter.1) = .ok ()) :
    ∃ after, Action.runIn (create directory false) world =
        (.ok ((pending made world.workingDir directory false starters).map fun starter =>
            directory.join starter.1), after) ∧
      FileTree.KeepsDirectories made after.tree := by
  obtain ⟨result, tree, events, hrun, hcreates⟩ := runIn_create directory false world
  cases hcreates with
  | noDirectory hfailed => simp [hmade] at hfailed
  | handled hdirectory hhandles =>
      rw [hmade, Prod.mk.injEq] at hdirectory
      obtain ⟨_, rfl⟩ := hdirectory
      cases hhandles with
      | finished hwrote => exact ⟨_, hrun, hwrote.directories⟩
      | stopped hfiles hother hwrote hfailed =>
          rename_i done rest name text e
          have hmem : (name, text) ∈ starters := hfiles ▸ by simp
          have hdone : name ∉ (pending made world.workingDir directory false done).map
              Prod.fst := by
            intro hname
            obtain ⟨earlier, hearlier, heq⟩ := List.mem_map.mp hname
            have hdistinct := nodup_starters
            rw [hfiles, List.map_append, List.nodup_append] at hdistinct
            exact hdistinct.2.2 earlier.1
              (List.mem_map_of_mem (FileTree.mem_pending.mp hearlier).1) name (by simp) heq
          have hmissing : (made.get? (name :: place)).isSome = false :=
            (stays_starter hresolve hpaths _ hmem).symm.trans hother
          have hplace : made.get? (name :: place) ≠ some .directory := by
            intro hdirectory
            simp [hdirectory] at hmissing
          have hname := isFileName_of_mem_starters _ hmem
          have hwritable := (FileTree.writeFile_join_eq_ok_iff hname (.text text)).mpr
            ⟨hpaths _ hmem, isTooLong_of_mem_starters _ hmem, place, hresolve, hplace⟩
          obtain ⟨changed, hwrite⟩ := hwrote.exists_writeFile hname hdone hwritable
          rw [hfailed] at hwrite
          contradiction

/-- A working directory with the given nodes and nothing else. -/
def holding (nodes : List (Location × FileNode)) : World where
  tree := ⟨nodes⟩
  workingDir := []
  environment := []
  start := fun _ tree => .ok (true, tree)
  events := []
  invocations := []

theorem checkPath_starter {directory : Path} (hnul : '\x00' ∉ directory.text.toList)
    (hshort : directory.text.utf8ByteSize ≤ 4000) :
    ∀ starter ∈ starters, FileTree.checkPath (directory.join starter.1) = .ok () := by
  intro starter hstarter
  have hname : '\x00' ∉ starter.1.toList ∧ starter.1.utf8ByteSize ≤ 16 :=
    (by decide : ∀ starter ∈ starters, '\x00' ∉ starter.1.toList ∧
      starter.1.utf8ByteSize ≤ 16) starter hstarter
  apply FileTree.checkPath_join (isFileName_of_mem_starters starter hstarter)
  · simp [hnul, hname.1]
  · have := hname.2
    rw [FileTree.maxPath]
    omega

/-- Beside a configuration that is there only the settings are written, and then there is
nothing left to do; where a file stands in the place of the directory, it stays. -/
theorem starters_of_own_configuration :
    (∃ after,
      Action.runIn (create ⟨""⟩ false)
          (holding [(["appsettings.json"], .file (.text "mine"))]) =
        (.ok [⟨"voldelig.toml"⟩], after) ∧
      after.tree.get? ["appsettings.json"] = some (.file (.text "mine")) ∧
      after.tree.readText [] ⟨"voldelig.toml"⟩ = .ok (Starter.settings "Generated") ∧
      ∃ final, Action.runIn (create ⟨""⟩ false) after = (.ok [], final) ∧
        ∀ location, final.tree.get? location = after.tree.get? location) ∧
    ∃ e after,
      Action.runIn (create ⟨"a"⟩ false) (holding [(["a"], .file (.text "mine"))]) =
        (.error (.projectDirectory ⟨"a"⟩ e), after) ∧
      after.tree.get? ["a"] = some (.file (.text "mine")) := by
  constructor
  · let world := holding [(["appsettings.json"], .file (.text "mine"))]
    have hmade : world.tree.createDirs world.workingDir ⟨""⟩ = (.ok (), world.tree) := rfl
    have hresolve : world.tree.resolve world.workingDir ⟨""⟩ = .ok [] :=
      FileTree.resolve_eq_ok_iff.mpr ⟨rfl, rfl⟩
    have hpaths : ∀ starter ∈ starters,
        FileTree.checkPath (Path.join ⟨""⟩ starter.1) = .ok () :=
      checkPath_starter (by decide) (by decide)
    have hpending : pending world.tree world.workingDir ⟨""⟩ false starters =
        [("voldelig.toml", Starter.settings "Generated")] :=
      (pending_starters hresolve hpaths).trans rfl
    have hjoin : Path.join ⟨""⟩ "voldelig.toml" = ⟨"voldelig.toml"⟩ :=
      FileTree.join_empty Settings.isFileName_fileName
    obtain ⟨after, hrun, hkeep⟩ := exists_create_of_resolve hmade hresolve hpaths
    rw [hpending, List.map_singleton, hjoin] at hrun
    obtain ⟨made, hcreated, _, _, _, hholds, hagain⟩ :=
      (starters_of_create ⟨""⟩ false world).2.1 _ _ hrun
    rw [hmade, Prod.mk.injEq] at hcreated
    obtain ⟨_, rfl⟩ := hcreated
    rw [hpending] at hholds
    have hleads : after.tree.LeadsTo [] ⟨"voldelig.toml"⟩ ["voldelig.toml"] := by
      rw [← hjoin]
      exact FileTree.leadsTo_join Settings.isFileName_fileName (by decide)
        (FileTree.resolve_eq_ok_iff.mpr ⟨rfl, rfl⟩)
    have htext := hholds.texts ("voldelig.toml", Starter.settings "Generated")
      (List.mem_singleton.mpr rfl)
    rw [hjoin] at htext
    refine ⟨after, hrun, ?_, htext, hagain⟩
    rcases hholds.elsewhere ["appsettings.json"] (by
      intro starter hstarter hother
      obtain rfl := List.mem_singleton.mp hstarter
      rw [hjoin] at hother
      simpa using hleads.unique hother) with hsame | hmissing
    · exact hsame
    · exact absurd hmissing.1 (by decide)
  · let world := holding [(["a"], .file (.text "mine"))]
    have hancestors : (⟨"a"⟩ : Path).ancestors = [⟨"a"⟩] := by decide
    have hfailed : (world.tree.createDirs [] ⟨"a"⟩).1.toOption = none := by
      simp only [FileTree.createDirs, hancestors, FileTree.createNested, FileTree.createDir,
        FileTree.entry?, FileTree.orPresent, FileTree.isDirectory, FileTree.find,
        FileTree.checkPath_eq, FileTree.origin_nil]
      decide
    obtain ⟨result, tree, events, hrun, hcreates⟩ := runIn_create ⟨"a"⟩ false world
    cases hcreates with
    | handled hmade =>
        rw [show world.tree.createDirs [] ⟨"a"⟩ = _ from hmade] at hfailed
        contradiction
    | noDirectory hmade =>
        obtain ⟨_, _, done, rest, hcreated, _, hholds, hstopped⟩ :=
          (starters_of_create ⟨"a"⟩ false world).2.2 _ _ hrun
        rw [hmade, Prod.mk.injEq] at hcreated
        obtain ⟨rfl, rfl⟩ := hcreated
        rcases hstopped with ⟨_, _, rfl, _⟩ | ⟨_, _, _, _, hsuccess, _⟩
        · refine ⟨_, _, hrun, ?_⟩
          rcases hholds.elsewhere ["a"] (by simp [pending]) with hsame | hmissing
          · exact hsame
          · exact absurd hmissing.1 (by decide)
        · contradiction

/-- A starter file that was not there need not be written: setting up a project in
`appsettings.json/..` creates the directory `appsettings.json`. -/
theorem exists_starter_left_out : ∃ after,
    Action.runIn (create ⟨"appsettings.json/.."⟩ false) (holding []) =
      (.ok [⟨"appsettings.json/../voldelig.toml"⟩], after) ∧
    (holding []).pathExists ⟨"appsettings.json/../appsettings.json"⟩ = false ∧
    after.tree.readText [] ⟨"appsettings.json/../appsettings.json"⟩ = .error .isADirectory := by
  have hmade : (holding []).tree.createDirs [] ⟨"appsettings.json/.."⟩ =
      (.ok (), ⟨[(["appsettings.json"], .directory)]⟩) := by
    have hancestors : (⟨"appsettings.json/.."⟩ : Path).ancestors =
        [⟨"appsettings.json/.."⟩, ⟨"appsettings.json"⟩] := by decide
    apply FileTree.createDirs_eq_of_toOption
    simp only [FileTree.createDirs, hancestors, FileTree.createNested, FileTree.createDir,
      FileTree.entry?, FileTree.orPresent, FileTree.isDirectory, FileTree.find,
      FileTree.checkPath_eq, FileTree.origin_nil]
    decide
  have hresolve : (⟨[(["appsettings.json"], .directory)]⟩ : FileTree).resolve []
      ⟨"appsettings.json/.."⟩ = .ok [] :=
    FileTree.resolve_eq_ok_of_names (by decide) (by decide)
      (toOption_eq_some_iff.mp (by decide)) rfl
  have hpaths : ∀ starter ∈ starters,
      FileTree.checkPath (Path.join ⟨"appsettings.json/.."⟩ starter.1) = .ok () :=
    checkPath_starter (by decide) (by decide)
  have hpending : pending ⟨[(["appsettings.json"], .directory)]⟩ [] ⟨"appsettings.json/.."⟩
      false starters = [("voldelig.toml", Starter.settings "Generated")] :=
    (pending_starters hresolve hpaths).trans rfl
  have hjoin : Path.join ⟨"appsettings.json/.."⟩ "voldelig.toml" =
      ⟨"appsettings.json/.." ++ "/" ++ "voldelig.toml"⟩ :=
    FileTree.join_eq_of_getLast? Settings.isFileName_fileName (by decide) (by decide)
  obtain ⟨after, hrun, hkeep⟩ := exists_create_of_resolve hmade hresolve hpaths
  rw [holding, hpending, List.map_singleton, hjoin] at hrun
  have hcheck : FileTree.checkPath ⟨"appsettings.json/../appsettings.json"⟩ = .ok () :=
    FileTree.checkPath_eq_ok_iff.mpr (by decide)
  refine ⟨after, hrun, ?_, ?_⟩
  · rw [World.pathExists, FileTree.pathExists, FileTree.find, hcheck, holding,
      FileTree.origin_nil]
    decide
  · have hfind : (⟨[(["appsettings.json"], .directory)]⟩ : FileTree).find []
        ⟨"appsettings.json/../appsettings.json"⟩ = .ok .directory := by
      rw [FileTree.find_eq_ok_iff, FileTree.origin_nil]
      exact ⟨hcheck, ["appsettings.json"], rfl, rfl⟩
    rw [FileTree.readText, FileTree.find_directory_of_keepsDirectories hkeep hfind]

end TypedContainers.Project
