import TypedContainers.Project.Output
import TypedContainers.Proofs.Files.Pending
import TypedContainers.Proofs.Project.Action
import TypedContainers.Proofs.Record.Unit

/-!
# Written units

A unit whose file is there is kept unless overwriting is asked for, and any other
unit is written.  Units with different files do not disturb each other, so a list of
them is handled by what is there before the first one, and a failure leaves exactly
the units before it handled.
-/

namespace TypedContainers.Output

open FileTree (IsFileName Wrote stays pending)

/-- The name of a unit's file. -/
def fileName (unit : GeneratedUnit) : String :=
  unit.fileBaseName ++ ".rs"

/-- Whether the file of a unit is there and stays as it is. -/
def keeps (tree : FileTree) (workingDir : Location) (directory : Path) (force : Bool)
    (unit : GeneratedUnit) : Bool :=
  tree.pathExists workingDir (unitFile directory unit) && !force

/-- The names and texts of the units that are written. -/
def texts (tree : FileTree) (workingDir : Location) (directory : Path) (force : Bool)
    (units : List GeneratedUnit) : List (String × String) :=
  (units.filter fun unit => !keeps tree workingDir directory force unit).map fun unit =>
    (fileName unit, unit.text)

/-- The files of units, told apart by what is there before the first one. -/
def filesOf (tree : FileTree) (workingDir : Location) (directory : Path) (force : Bool)
    (units : List GeneratedUnit) : Files where
  written := (units.filter fun unit =>
    !keeps tree workingDir directory force unit).map (unitFile directory)
  kept := (units.filter (keeps tree workingDir directory force)).map (unitFile directory)

/-! ## Names of files -/

theorem join_fileName (directory : Path) (unit : GeneratedUnit) :
    directory.join (fileName unit) = unitFile directory unit := rfl

theorem join_moduleList (directory : Path) :
    directory.join "mod.rs" = moduleListFile directory := rfl

theorem isFileName_rs {base : String} (hbase : '/' ∉ base.toList) :
    IsFileName (base ++ ".rs") := by
  have hlast : (base ++ ".rs").toList.getLast? = some 's' := by
    simp [List.getLast?_append]
  have hne : ∀ other : String, other.toList.getLast? ≠ some 's' → base ++ ".rs" ≠ other := by
    intro other hother heq
    exact hother (heq ▸ hlast)
  refine ⟨?_, hne "" (by decide), hne "." (by decide), hne ".." (by decide)⟩
  rw [String.toList_append, List.mem_append, not_or]
  exact ⟨hbase, by decide⟩

theorem isFileName_moduleList : IsFileName "mod.rs" :=
  ⟨by decide, by decide, by decide, by decide⟩

theorem isFileName_fileName_ofSchema (registry : CategoricalRegistry)
    (schema : ContainerSchema) :
    IsFileName (fileName (.ofSchema registry schema)) := by
  apply isFileName_rs
  intro hslash
  exact absurd (Naming.isAlphanum_of_mem_pascal hslash) (by decide)

/-- No declared name starts like the module list's. -/
theorem fileName_ofSchema_ne (registry : CategoricalRegistry) (schema : ContainerSchema) :
    fileName (.ofSchema registry schema) ≠ "mod.rs" := by
  intro heq
  have hchars := congrArg String.toList heq
  rw [fileName, String.toList_append, GeneratedUnit.fileBaseName_ofSchema] at hchars
  cases hname : schema.typeName.toList with
  | nil =>
      rw [hname] at hchars
      exact absurd hchars (by decide)
  | cons c rest =>
      have hm : c = 'm' := by
        rw [hname] at hchars
        exact (List.cons.inj hchars).1
      have hhead : (Naming.pascal schema.name).toList.head? = some c :=
        congrArg List.head? hname
      have hlower := Naming.isLower_head?_pascal hhead
      rw [hm] at hlower
      exact absurd hlower (by decide)

theorem nodup_fileName {containers : List ContainerSchema}
    (hdistinct : (containers.map ContainerSchema.typeName).Nodup)
    (registry : CategoricalRegistry) :
    ((containers.map (GeneratedUnit.ofSchema registry)).map fileName).Nodup := by
  rw [List.map_map, List.nodup_iff_pairwise_ne, List.pairwise_map]
  rw [List.nodup_iff_pairwise_ne, List.pairwise_map] at hdistinct
  refine hdistinct.imp ?_
  intro first second hne heq
  exact hne (String.append_left_inj ".rs" |>.mp heq)

/-! ## One unit -/

variable {directory : Path} {force : Bool}

/-- A unit is kept, or written, or not written and then nothing changes. -/
theorem runIn_writeUnit (directory : Path) (unit : GeneratedUnit) (force : Bool)
    (world : World) :
    Action.runIn (writeUnit directory unit force) world =
      if keeps world.tree world.workingDir directory force unit then
        (.ok false, world.report (.keptFile (unitFile directory unit)))
      else
        match world.tree.writeFile world.workingDir (unitFile directory unit)
          (.text unit.text) with
        | .ok tree =>
          (.ok true, { world with tree := tree }.report
            (.wroteUnit (unitFile directory unit)))
        | .error e => (.error (.outputFile e), world) := by
  rw [writeUnit, Action.runIn_bind, Action.runIn_pathExists]
  cases hkeeps : keeps world.tree world.workingDir directory force unit with
  | true =>
      have hcondition : (world.pathExists (unitFile directory unit) && !force) = true := hkeeps
      simp only [hcondition, if_true, Action.runIn_bind, Action.runIn_report,
        Action.runIn_pure]
  | false =>
      have hcondition : (world.pathExists (unitFile directory unit) && !force) = false :=
        hkeeps
      have hwrite : (Machine.writeText (unitFile directory unit) unit.text :
          StateM World (Except IoError Unit)) world =
          World.writeText (unitFile directory unit) unit.text world := rfl
      simp only [hcondition, Bool.false_eq_true, if_false, Action.runIn_bind,
        Action.runIn_attempt, hwrite, World.writeText]
      cases world.tree.writeFile world.workingDir (unitFile directory unit)
        (.text unit.text) with
      | error e => rfl
      | ok tree => rfl

/-- The file of a unit, with its name and text. -/
def file (unit : GeneratedUnit) : String × String :=
  (fileName unit, unit.text)

theorem keeps_eq_stays (tree : FileTree) (workingDir : Location) (directory : Path)
    (force : Bool) (unit : GeneratedUnit) :
    keeps tree workingDir directory force unit =
      stays tree workingDir (directory.join (fileName unit)) force := rfl

/-- The units that are written are the files that are not there. -/
theorem texts_eq_pending (tree : FileTree) (workingDir : Location) (directory : Path)
    (force : Bool) (units : List GeneratedUnit) :
    texts tree workingDir directory force units =
      pending tree workingDir directory force (units.map file) := by
  rw [texts, pending, List.filter_map]
  rfl

/-- Units that a change leaves alone are kept or written as before it. -/
theorem keeps_of_wrote {workingDir : Location} {before after : FileTree}
    {files : List (String × String)} (hwrote : Wrote workingDir directory files before after)
    {units : List GeneratedUnit} (hnames : ∀ unit ∈ units, IsFileName (fileName unit))
    (hdistinct : ∀ unit ∈ units, fileName unit ∉ files.map Prod.fst) :
    ∀ unit ∈ units, keeps after workingDir directory force unit =
      keeps before workingDir directory force unit := by
  intro unit hunit
  rw [keeps_eq_stays, keeps_eq_stays]
  exact hwrote.stays_eq (hnames unit hunit) (hdistinct unit hunit)

theorem filesOf_congr {workingDir : Location} {before after : FileTree}
    {units : List GeneratedUnit}
    (hkeeps : ∀ unit ∈ units, keeps after workingDir directory force unit =
      keeps before workingDir directory force unit) :
    filesOf after workingDir directory force units =
      filesOf before workingDir directory force units := by
  have hwritten := List.filter_congr (p := fun unit =>
    !keeps after workingDir directory force unit) (l := units) fun unit hunit =>
      congrArg (!·) (hkeeps unit hunit)
  have hkept := List.filter_congr hkeeps
  rw [filesOf, filesOf, hwritten, hkept]

theorem mem_texts {tree : FileTree} {workingDir : Location} {units : List GeneratedUnit}
    {unit : GeneratedUnit} (hunit : unit ∈ units)
    (hkeeps : keeps tree workingDir directory force unit = false) :
    (fileName unit, unit.text) ∈ texts tree workingDir directory force units :=
  List.mem_map.mpr ⟨unit, List.mem_filter.mpr ⟨hunit, by simp [hkeeps]⟩, rfl⟩

theorem mem_map_fst_texts {tree : FileTree} {workingDir : Location} {name : String}
    {units : List GeneratedUnit}
    (hname : name ∈ (texts tree workingDir directory force units).map Prod.fst) :
    ∃ unit ∈ units, fileName unit = name := by
  simp only [texts, List.map_map, List.mem_map, List.mem_filter] at hname
  obtain ⟨unit, ⟨hunit, _⟩, rfl⟩ := hname
  exact ⟨unit, hunit, rfl⟩

/-! ## Lists of units -/

/-- How a list of units can be handled: all of them, or those before one that cannot
be written. -/
inductive Handles (workingDir : Location) (directory : Path) (force : Bool)
    (units : List GeneratedUnit) (before : FileTree) : Except Failure Files → FileTree → Prop
  | finished {after : FileTree}
      (hwrote : Wrote workingDir directory (texts before workingDir directory force units)
        before after) :
      Handles workingDir directory force units before
        (.ok (filesOf before workingDir directory force units)) after
  | stopped {done rest : List GeneratedUnit} {unit : GeneratedUnit} {e : IoError}
      {after : FileTree} (hunits : units = done ++ unit :: rest)
      (hkeeps : keeps before workingDir directory force unit = false)
      (hwrote : Wrote workingDir directory (texts before workingDir directory force done)
        before after)
      (hfailed : after.writeFile workingDir (unitFile directory unit) (.text unit.text) =
        .error e) :
      Handles workingDir directory force units before (.error (.outputFile e)) after

variable {workingDir : Location} {before middle after : FileTree} {unit : GeneratedUnit}
variable {units : List GeneratedUnit} {result : Except Failure Files}

/-- A kept unit in front changes no file. -/
theorem Handles.cons_kept
    (hkeeps : keeps before workingDir directory force unit = true)
    (hhandles : Handles workingDir directory force units before result after) :
    Handles workingDir directory force (unit :: units) before
      (result.map fun files => { files with kept := unitFile directory unit :: files.kept })
      after := by
  have htexts : ∀ others, texts before workingDir directory force (unit :: others) =
      texts before workingDir directory force others := by
    intro others
    simp [texts, hkeeps]
  cases hhandles with
  | finished hwrote =>
      have hfinished : Handles workingDir directory force (unit :: units) before _ after :=
        .finished (by rwa [htexts])
      simpa [filesOf, hkeeps, Except.map] using hfinished
  | stopped hunits hfirst hwrote hfailed =>
      exact .stopped (congrArg (unit :: ·) hunits) hfirst (by rwa [htexts]) hfailed

/-- A written unit in front is one more change, and the others are told apart as they
were before it. -/
theorem Handles.cons_written
    (hkeeps : keeps before workingDir directory force unit = false)
    (hnames : ∀ other ∈ unit :: units, IsFileName (fileName other))
    (hdistinct : ((unit :: units).map fileName).Nodup)
    (hwrote : Wrote workingDir directory [(fileName unit, unit.text)] before middle)
    (hhandles : Handles workingDir directory force units middle result after) :
    Handles workingDir directory force (unit :: units) before
      (result.map fun files =>
        { files with written := unitFile directory unit :: files.written })
      after := by
  rw [List.map_cons, List.nodup_cons] at hdistinct
  have hother : ∀ other ∈ units, fileName other ≠ fileName unit := by
    intro other hmem heq
    exact hdistinct.1 (List.mem_map.mpr ⟨other, hmem, heq⟩)
  have hsame : ∀ other ∈ units, keeps middle workingDir directory force other =
      keeps before workingDir directory force other :=
    keeps_of_wrote hwrote (fun other hmem => hnames other (List.mem_cons_of_mem unit hmem))
      (by simpa using hother)
  have hcons : ∀ others : List GeneratedUnit, (∀ other ∈ others, other ∈ units) →
      Wrote workingDir directory (texts middle workingDir directory force others)
        middle after →
      Wrote workingDir directory (texts before workingDir directory force (unit :: others))
        before after := by
    intro others hothers hrest
    rw [texts_eq_pending] at hrest ⊢
    have hfiles : ∀ other ∈ (unit :: others).map file, IsFileName other.1 := by
      intro other hmem
      obtain ⟨known, hknown, rfl⟩ := List.mem_map.mp hmem
      exact hnames known (List.cons_subset_cons unit hothers hknown)
    have hnew : fileName unit ∉ (others.map file).map Prod.fst := by
      intro hmem
      rw [List.map_map] at hmem
      obtain ⟨known, hknown, heq⟩ := List.mem_map.mp hmem
      exact hother known (hothers known hknown) heq
    exact hwrote.cons_pending hkeeps hfiles hnew hrest
  cases hhandles with
  | finished hrest =>
      have hfinished := Handles.finished (hcons units (fun _ hmem => hmem) hrest)
      rw [filesOf_congr hsame]
      simpa [filesOf, hkeeps, Except.map] using hfinished
  | stopped hunits hfirst hrest hfailed =>
      rw [hsame _ (by simp [hunits])] at hfirst
      refine .stopped (congrArg (unit :: ·) hunits) hfirst (hcons _ ?_ hrest) hfailed
      intro other hmem
      exact hunits ▸ List.mem_append_left _ hmem

/-- Units with different files are handled by what is there before the first one. -/
theorem runIn_writeUnits (directory : Path) (force : Bool)
    (hnames : ∀ unit ∈ units, IsFileName (fileName unit))
    (hdistinct : (units.map fileName).Nodup) (world : World) :
    ∃ result tree events,
      Action.runIn (writeUnits directory force units) world =
        (result, { world with tree := tree, events := events }) ∧
      Handles world.workingDir directory force units world.tree result tree := by
  induction units generalizing world with
  | nil =>
      exact ⟨_, world.tree, world.events, rfl, .finished (.nil world.tree)⟩
  | cons unit rest ih =>
      have hrest := ih (fun other hmem => hnames other (List.mem_cons_of_mem unit hmem))
        (List.nodup_cons.mp hdistinct).2
      rw [writeUnits, Action.runIn_bind, runIn_writeUnit]
      cases hkeeps : keeps world.tree world.workingDir directory force unit with
      | true =>
          obtain ⟨result, tree, events, hrun, hhandles⟩ :=
            hrest (world.report (.keptFile (unitFile directory unit)))
          refine ⟨_, tree, events, ?_, hhandles.cons_kept hkeeps⟩
          simp only [if_true, Action.runIn_bind, hrun]
          cases result with
          | error failure => rfl
          | ok files => rfl
      | false =>
          cases hwrite : world.tree.writeFile world.workingDir (unitFile directory unit)
            (.text unit.text) with
          | error e =>
              have hunits : unit :: rest = [] ++ unit :: rest := rfl
              exact ⟨_, world.tree, world.events, rfl,
                .stopped hunits hkeeps (.nil world.tree) hwrite⟩
          | ok tree =>
              have hwrote := FileTree.wrote_of_writeFile
                (hnames unit List.mem_cons_self) hwrite
              obtain ⟨result, tree, events, hrun, hhandles⟩ :=
                hrest ({ world with tree := tree }.report
                  (.wroteUnit (unitFile directory unit)))
              refine ⟨_, _, events, ?_,
                Handles.cons_written hkeeps hnames hdistinct hwrote hhandles⟩
              simp only [Bool.false_eq_true, if_false, Action.runIn_bind, hrun]
              cases result with
              | error failure => rfl
              | ok files => rfl

/-- A unit that can be written can still be written after the units before it. -/
theorem exists_writeFile_after {done rest : List GeneratedUnit}
    (hunits : units = done ++ unit :: rest)
    (hnames : ∀ other ∈ units, IsFileName (fileName other))
    (hdistinct : (units.map fileName).Nodup)
    (hwrote : Wrote workingDir directory (texts before workingDir directory force done)
      before after)
    (hwrite : ∃ changed, before.writeFile workingDir (unitFile directory unit)
      (.text unit.text) = .ok changed) :
    ∃ changed, after.writeFile workingDir (unitFile directory unit) (.text unit.text) =
      .ok changed := by
  have hother : fileName unit ∉
      (texts before workingDir directory force done).map Prod.fst := by
    intro hname
    obtain ⟨earlier, hearlier, heq⟩ := mem_map_fst_texts hname
    rw [hunits, List.map_append, List.nodup_append] at hdistinct
    exact hdistinct.2.2 (fileName earlier) (List.mem_map_of_mem hearlier) (fileName unit)
      (by simp) heq
  exact hwrote.exists_writeFile (hnames unit (by simp [hunits])) hother hwrite

/-- Units with different files that can all be written are all handled. -/
theorem not_handles_error {failure : Failure}
    (hnames : ∀ other ∈ units, IsFileName (fileName other))
    (hdistinct : (units.map fileName).Nodup)
    (hwritable : ∀ unit ∈ units, keeps before workingDir directory force unit = false →
      ∃ changed, before.writeFile workingDir (unitFile directory unit) (.text unit.text) =
        .ok changed) :
    ¬Handles workingDir directory force units before (.error failure) after := by
  intro hhandles
  cases hhandles with
  | stopped hunits hkeeps hwrote hfailed =>
      obtain ⟨changed, hwrite⟩ := exists_writeFile_after hunits hnames hdistinct hwrote
        (hwritable _ (by simp [hunits]) hkeeps)
      rw [hfailed] at hwrite
      contradiction

/-! ## What is there afterwards -/

/-- Units are handled by what is there before: the first ones are kept or hold their
text, and the files of the others are as they were. -/
structure Handled (workingDir : Location) (directory : Path) (force : Bool)
    (done rest : List GeneratedUnit) (before after : FileTree) : Prop where
  written : ∀ unit ∈ done, keeps before workingDir directory force unit = false →
    after.readText workingDir (unitFile directory unit) = .ok unit.text
  kept : ∀ unit ∈ done, keeps before workingDir directory force unit = true →
    after.find workingDir (unitFile directory unit) =
      before.find workingDir (unitFile directory unit)
  later : ∀ unit ∈ rest, after.find workingDir (unitFile directory unit) =
    before.find workingDir (unitFile directory unit)

/-- Different units stay different when they are told apart by a condition. -/
theorem nodup_partition {α : Type} {f : GeneratedUnit → α}
    (hdistinct : (units.map f).Nodup) (p : GeneratedUnit → Bool) :
    ((units.filter p).map f ++ (units.filter fun unit => !p unit).map f).Nodup := by
  rw [← List.map_append]
  exact ((List.filter_append_perm p units).map f).nodup_iff.mpr hdistinct

/-- Texts of units, with texts of other files, leave the units handled. -/
theorem handled_of_wrote {done rest : List GeneratedUnit} {more : List (String × String)}
    (hnames : ∀ unit ∈ done ++ rest, IsFileName (fileName unit))
    (hdistinct : ((done ++ rest).map fileName).Nodup)
    (hmore : ∀ unit ∈ done ++ rest, fileName unit ∉ more.map Prod.fst)
    (hwrote : Wrote workingDir directory
      (texts before workingDir directory force done ++ more) before after) :
    Handled workingDir directory force done rest before after := by
  rw [List.map_append, List.nodup_append] at hdistinct
  obtain ⟨hdone, _, hapart⟩ := hdistinct
  have hbeside : ∀ unit ∈ done ++ rest,
      fileName unit ∉ (texts before workingDir directory force done).map Prod.fst →
      after.find workingDir (unitFile directory unit) =
        before.find workingDir (unitFile directory unit) := by
    intro unit hunit hother
    apply hwrote.beside (fileName unit) (hnames unit hunit)
    rw [List.map_append, List.mem_append, not_or]
    exact ⟨hother, hmore unit hunit⟩
  refine ⟨?_, ?_, ?_⟩
  · intro unit hunit hkeeps
    have hfind := hwrote.written _ (List.mem_append_left more (mem_texts hunit hkeeps))
    change after.find workingDir (unitFile directory unit) = _ at hfind
    rw [FileTree.readText, hfind]
  · intro unit hunit hkeeps
    apply hbeside unit (List.mem_append_left rest hunit)
    intro hmem
    have hpartition := nodup_partition hdone (keeps before workingDir directory force)
    have hsame : (texts before workingDir directory force done).map Prod.fst =
        (done.filter fun unit => !keeps before workingDir directory force unit).map
          fileName := by
      simp [texts, Function.comp_def]
    rw [hsame] at hmem
    have hkept : fileName unit ∈
        (done.filter (keeps before workingDir directory force)).map fileName :=
      List.mem_map.mpr ⟨unit, List.mem_filter.mpr ⟨hunit, hkeeps⟩, rfl⟩
    exact (List.nodup_append.mp hpartition).2.2 _ hkept _ hmem rfl
  · intro unit hunit
    apply hbeside unit (List.mem_append_right done hunit)
    intro hmem
    obtain ⟨other, hother, heq⟩ := mem_map_fst_texts hmem
    exact hapart _ (List.mem_map.mpr ⟨other, hother, rfl⟩) _
      (List.mem_map.mpr ⟨unit, hunit, rfl⟩) heq

end TypedContainers.Output
