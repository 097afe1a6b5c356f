import TypedContainers.Proofs.Project.Failures
import TypedContainers.Proofs.Project.Places

/-!
# The history of a directory

Runs of the generator follow each other in any order, and in between anything may
change that is not in the directory.  In a directory that was empty at first every file
of a unit holds a text that some run emitted for its name, and the module list names
modules whose files are there: a run that stops early leaves the list as it was, and no
run removes a file.  Only an output path that goes through a file's name can put a
directory in its place.
-/

namespace TypedContainers.Generation

open FileTree (Wrote exists_resolve_of_leadsTo createDirs_eq_of_toOption)
open Output (unitFile fileName keeps texts)

/-- A run of the generator, with the world it starts from. -/
structure Call where
  before : World
  configuration : Path
  options : GenerateOptions

namespace Call

/-- The world that a call leaves, whether or not it gives a report. -/
def after (call : Call) : World :=
  (Action.runIn (run call.configuration call.options) call.before).2

/-- A call emits the containers that its configuration declares, up to the first
collision, unless it stops before. -/
def Emits (call : Call) (schema : ContainerSchema) : Prop :=
  call.options.registry.fault? = none ∧ ∃ schemas,
    Configuration.declared call.before call.configuration = .ok schemas ∧
    schema ∈ attempted schemas.containers

/-- The text that a call emits for a container. -/
def text (call : Call) (schema : ContainerSchema) : String :=
  (GeneratedUnit.ofSchema call.options.registry schema).text

/-- A call makes a directory at a place that its output path passes or leads to. -/
def Makes (call : Call) (location : Location) : Prop :=
  call.before.tree.get? location = none ∧
  call.after.tree.get? location = some .directory ∧
  ∃ path ∈ call.options.outputDir.ancestors,
    call.after.tree.LeadsTo call.before.workingDir path location

end Call

/-- The calls that led from one world to another, in order.  Between two calls
everything outside a directory may change. -/
inductive History (place : Location) (start : World) : List Call → World → Prop
  | start : History place start [] start
  | call {calls : List Call} (call : Call)
      (hhistory : History place start calls call.before) :
      History place start (calls ++ [call]) call.after
  | elsewhere {calls : List Call} {world other : World}
      (hhistory : History place start calls world)
      (hsame : ∀ name,
        other.tree.get? (name :: place) = world.tree.get? (name :: place)) :
      History place start calls other

/-- A file with a text that one of some calls emitted for a container of this type
name. -/
def Emitted (calls : List Call) (name : String) (node : FileNode) : Prop :=
  ∃ call ∈ calls, ∃ schema, call.Emits schema ∧ schema.typeName = name ∧
    node = .file (.text (call.text schema))

/-- A directory at a place where one of some calls made one. -/
def Made (calls : List Call) (location : Location) (node : FileNode) : Prop :=
  node = .directory ∧ ∃ call ∈ calls, call.Makes location

/-- A directory whose module list can be trusted: the files of modules hold emitted
texts, and the list names modules whose files are there.  A directory that a call made
may stand in a file's place. -/
structure Trusted (place : Location) (calls : List Call) (tree : FileTree) : Prop where
  files : ∀ name node, name ≠ "mod" → tree.get? ((name ++ ".rs") :: place) = some node →
    Emitted calls name node ∨ Made calls ((name ++ ".rs") :: place) node
  list : ∀ node, tree.get? ("mod.rs" :: place) = some node →
    Made calls ("mod.rs" :: place) node ∨
    ∃ modules, node = .file (.text (Source.moduleList modules)) ∧ modules.Nodup ∧
      ∀ name ∈ modules, name ≠ "mod" ∧ tree.get? ((name ++ ".rs") :: place) ≠ none

variable {place : Location} {start world : World} {calls : List Call} {call : Call}

theorem Emitted.append {name : String} {node : FileNode} (hemitted : Emitted calls name node)
    (more : List Call) : Emitted (calls ++ more) name node := by
  obtain ⟨call, hcall, hrest⟩ := hemitted
  exact ⟨call, List.mem_append_left more hcall, hrest⟩

theorem Made.append {location : Location} {node : FileNode}
    (hmade : Made calls location node) (more : List Call) :
    Made (calls ++ more) location node := by
  obtain ⟨hdirectory, call, hcall, hmakes⟩ := hmade
  exact ⟨hdirectory, call, List.mem_append_left more hcall, hmakes⟩

/-- A call that makes a directory is the last one to do so. -/
theorem made_of_call {location : Location} {node : FileNode} (hmakes : call.Makes location)
    (hnode : call.after.tree.get? location = some node) :
    Made (calls ++ [call]) location node :=
  ⟨Option.some.inj (hnode.symm.trans hmakes.2.1), call, by simp, hmakes⟩

/-- The units of a call are emitted by it. -/
theorem emitted_of_prepared {units : List GeneratedUnit} {skipped : List String}
    {unit : GeneratedUnit}
    (hprepared : prepared call.before call.configuration call.options = .ok (units, skipped))
    (hunit : unit ∈ units) :
    Emitted (calls ++ [call]) unit.fileBaseName (.file (.text unit.text)) := by
  obtain ⟨hfault, schemas, hdeclared, hdistinct, rfl, _⟩ := prepared_eq_ok_iff.mp hprepared
  obtain ⟨schema, hschema, rfl⟩ := List.mem_map.mp hunit
  have hattempted : schema ∈ attempted schemas.containers := by
    rwa [attempted, Collision.first?_eq_none_iff.mpr hdistinct]
  exact ⟨call, by simp, schema, ⟨hfault, schemas, hdeclared, hattempted⟩, rfl, rfl⟩

theorem nodup_fileBaseName {world : World} {configuration : Path} {options : GenerateOptions}
    {units : List GeneratedUnit} {skipped : List String}
    (hprepared : prepared world configuration options = .ok (units, skipped)) :
    (units.map (·.fileBaseName)).Nodup := by
  obtain ⟨_, schemas, _, hdistinct, rfl, _⟩ := prepared_eq_ok_iff.mp hprepared
  simpa [Function.comp_def] using hdistinct

theorem name_eq_of_append_rs {first second : String}
    (heq : first ++ ".rs" = second ++ ".rs") : first = second := by
  have hchars := congrArg String.toList heq
  rw [String.toList_append, String.toList_append] at hchars
  exact String.toList_inj.mp (List.append_cancel_right hchars)

/-- The module list is not the file of a module. -/
theorem ne_mod_of_prepared {world : World} {configuration : Path} {options : GenerateOptions}
    {units : List GeneratedUnit} {skipped : List String} {unit : GeneratedUnit}
    (hprepared : prepared world configuration options = .ok (units, skipped))
    (hunit : unit ∈ units) : unit.fileBaseName ≠ "mod" := by
  intro heq
  exact (files_of_prepared hprepared).2.2 unit hunit (by rw [fileName, heq]; rfl)

/-! ## One call -/

theorem Trusted.files_call (htrusted : Trusted place calls call.before.tree) {name : String}
    {node : FileNode} (hname : name ≠ "mod")
    (hnode : call.after.tree.get? ((name ++ ".rs") :: place) = some node) :
    Emitted (calls ++ [call]) name node ∨
      Made (calls ++ [call]) ((name ++ ".rs") :: place) node := by
  cases leaves_of_run call.before call.configuration call.options
    ((name ++ ".rs") :: place) with
  | same hsame =>
      rcases htrusted.files name node hname (hsame.symm.trans hnode) with hemitted | hmade
      · exact .inl (hemitted.append [call])
      · exact .inr (hmade.append [call])
  | directory hmissing hnew hpath => exact .inr (made_of_call ⟨hmissing, hnew, hpath⟩ hnode)
  | unit hprepared hunit hleads htext _ =>
      obtain ⟨_, _, hplace⟩ := exists_resolve_of_leadsTo
        ((files_of_prepared hprepared).1 _ hunit) hleads
      have hbase := name_eq_of_append_rs (List.cons_eq_cons.mp hplace).1
      have hsame := Option.some.inj (hnode.symm.trans htext)
      rw [hbase, hsame]
      exact .inl (emitted_of_prepared hprepared hunit)
  | list _ _ _ _ hleads _ _ =>
      obtain ⟨_, _, hplace⟩ := exists_resolve_of_leadsTo Output.isFileName_moduleList hleads
      exact absurd (name_eq_of_append_rs (List.cons_eq_cons.mp hplace).1) hname

/-- The files of a module list's modules stand beside it. -/
theorem get?_ne_none_of_pathExists {tree : FileTree} {workingDir : Location}
    {directory : Path} {unit : GeneratedUnit}
    (hname : FileTree.IsFileName (fileName unit))
    (hlist : tree.LeadsTo workingDir (Output.moduleListFile directory) ("mod.rs" :: place))
    (hexists : tree.pathExists workingDir (unitFile directory unit) = true) :
    tree.get? (fileName unit :: place) ≠ none := by
  obtain ⟨parent, hresolve, hparent⟩ :=
    exists_resolve_of_leadsTo Output.isFileName_moduleList hlist
  cases hfind : tree.find workingDir (unitFile directory unit) with
  | error e => simp [FileTree.pathExists, hfind, Except.isOk, Except.toBool] at hexists
  | ok node =>
      obtain ⟨_, location, hleads, hnode⟩ := FileTree.find_eq_ok_iff.mp hfind
      obtain ⟨other, hother, rfl⟩ := exists_resolve_of_leadsTo hname hleads
      rw [hresolve, Except.ok.injEq] at hother
      rw [(List.cons_eq_cons.mp hparent).2, hother, hnode]
      simp

theorem Trusted.list_call (htrusted : Trusted place calls call.before.tree)
    {node : FileNode} (hnode : call.after.tree.get? ("mod.rs" :: place) = some node) :
    Made (calls ++ [call]) ("mod.rs" :: place) node ∨
    ∃ modules, node = .file (.text (Source.moduleList modules)) ∧ modules.Nodup ∧
      ∀ name ∈ modules,
        name ≠ "mod" ∧ call.after.tree.get? ((name ++ ".rs") :: place) ≠ none := by
  cases leaves_of_run call.before call.configuration call.options ("mod.rs" :: place) with
  | same hsame =>
      rcases htrusted.list node (hsame.symm.trans hnode) with
        hmade | ⟨modules, htext, hdistinct, hfiles⟩
      · exact .inl (hmade.append [call])
      · refine .inr ⟨modules, htext, hdistinct, fun name hname => ?_⟩
        obtain ⟨hmod, hthere⟩ := hfiles name hname
        have hleaves := leaves_of_run call.before call.configuration call.options
          ((name ++ ".rs") :: place)
        exact ⟨hmod, hleaves.get?_ne_none hthere⟩
  | directory hmissing hnew hpath => exact .inl (made_of_call ⟨hmissing, hnew, hpath⟩ hnode)
  | unit hprepared hunit hleads _ _ =>
      obtain ⟨hnames, _, hlist⟩ := files_of_prepared hprepared
      obtain ⟨_, _, hplace⟩ := exists_resolve_of_leadsTo (hnames _ hunit) hleads
      exact absurd (List.cons_eq_cons.mp hplace).1.symm (hlist _ hunit)
  | list hprepared _ _ _ hleads htext hfiles =>
      refine .inr ⟨_, Option.some.inj (hnode.symm.trans htext),
        nodup_fileBaseName hprepared, ?_⟩
      intro name hname
      obtain ⟨unit, hunit, rfl⟩ := List.mem_map.mp hname
      exact ⟨ne_mod_of_prepared hprepared hunit, get?_ne_none_of_pathExists
        ((files_of_prepared hprepared).1 unit hunit) hleads (hfiles unit hunit)⟩

/-! ## All calls -/

/-- A directory that was empty at first can be trusted after any calls. -/
theorem trusted_of_history (hempty : ∀ name, start.tree.get? (name :: place) = none)
    (hhistory : History place start calls world) : Trusted place calls world.tree := by
  induction hhistory with
  | start => exact ⟨by simp [hempty], by simp [hempty]⟩
  | call _ _ htrusted =>
      exact ⟨fun name node hname hnode => htrusted.files_call hname hnode,
        fun node hnode => htrusted.list_call hnode⟩
  | elsewhere _ hsame htrusted =>
      refine ⟨?_, ?_⟩
      · intro name node hname hnode
        exact htrusted.files name node hname (hsame _ ▸ hnode)
      · intro node hnode
        simpa only [hsame] using htrusted.list node (hsame _ ▸ hnode)

/-- What a module list says about a directory that was empty before the first of some
calls.  Runs may fail, stop midway or be dry, and may overwrite files or keep them.  A
directory in the place of the list or of a module's file was made by one of the calls,
whose output path goes through it.

This rests on `FileTree.writeFile` being all or nothing: a system that empties a file
before it fails to write it could leave a module without its text, which a later run
keeps and lists. -/
theorem moduleList_of_history (hempty : ∀ name, start.tree.get? (name :: place) = none)
    (hhistory : History place start calls world) {node : FileNode}
    (hlist : world.tree.get? ("mod.rs" :: place) = some node) :
    Made calls ("mod.rs" :: place) node ∨
    ∃ modules, node = .file (.text (Source.moduleList modules)) ∧ modules.Nodup ∧
      ∀ name ∈ modules, ∃ file,
        world.tree.get? ((name ++ ".rs") :: place) = some file ∧
        (Emitted calls name file ∨ Made calls ((name ++ ".rs") :: place) file) := by
  have htrusted := trusted_of_history hempty hhistory
  rcases htrusted.list node hlist with hmade | ⟨modules, htext, hdistinct, hfiles⟩
  · exact .inl hmade
  · refine .inr ⟨modules, htext, hdistinct, fun name hname => ?_⟩
    obtain ⟨hmod, hthere⟩ := hfiles name hname
    obtain ⟨file, hfile⟩ := Option.ne_none_iff_exists'.mp hthere
    exact ⟨file, hfile, htrusted.files name file hmod hfile⟩

/-! ## Histories of the project -/

/-- A run on the project into a directory. -/
def callInto (directory : String) : Call :=
  ⟨project, ⟨"c.json"⟩, into directory⟩

theorem get?_out_project (name : String) : project.tree.get? [name, "out"] = none := by
  simp [project, FileTree.get?]

theorem createDirs_out :
    project.tree.createDirs [] ⟨"out"⟩ = (.ok (), project.tree.set ["out"] .directory) := by
  have hancestors : (⟨"out"⟩ : Path).ancestors = [⟨"out"⟩] := by decide
  apply createDirs_eq_of_toOption
  simp only [FileTree.createDirs, hancestors, FileTree.createNested, FileTree.createDir,
    FileTree.entry?, FileTree.orPresent, FileTree.isDirectory, FileTree.find,
    FileTree.checkPath_eq, FileTree.origin_nil]
  decide

theorem resolve_out :
    (project.tree.set ["out"] .directory).resolve [] ⟨"out"⟩ = .ok ["out"] :=
  FileTree.resolve_eq_ok_of_names (by decide) (by decide)
    (toOption_eq_some_iff.mp (by decide)) rfl

/-- A run after another, with a table that has a fault. -/
def again (call : Call) : Call :=
  ⟨call.after, call.configuration, { call.options with registry := ⟨[⟨"status", "", []⟩]⟩ }⟩

theorem tree_after_again (call : Call) : (again call).after.tree = call.after.tree := by
  have hfault : (⟨[⟨"status", "", []⟩]⟩ : CategoricalRegistry).fault? ≠ none := by
    decide
  obtain ⟨failure, after, hrun, htree⟩ : ∃ failure after,
      Action.runIn (run (again call).configuration (again call).options) call.after =
        (.error failure, after) ∧ after.tree = call.after.tree :=
    exists_failure_of_cause (.inl hfault)
  have hafter : (again call).after = after := congrArg Prod.snd hrun
  rw [hafter, htree]

theorem exists_wrote_out : ∃ tree, (callInto "out").after.tree = tree ∧
    Wrote [] ⟨"out"⟩ (texts (project.tree.set ["out"] .directory) [] ⟨"out"⟩ false
      [projectUnit] ++ listTexts [projectUnit])
      (project.tree.set ["out"] .directory) tree := by
  obtain ⟨report, tree, events, hrun, _, hwrote⟩ := exists_report_projectUnit
    (prepared_project "out") createDirs_out resolve_out (by decide) (by decide) (by decide)
  have hafter : (callInto "out").after.tree = tree :=
    congrArg (fun outcome => outcome.2.tree) hrun
  exact ⟨tree, hafter, hwrote⟩

/-- A run into the new directory `out`, and one that fails, leave a list of a module
whose file is there. -/
theorem moduleList_of_calls_project : ∃ modules,
    History ["out"] project [callInto "out", again (callInto "out")]
      (again (callInto "out")).after ∧
    (again (callInto "out")).after.tree.get? ["mod.rs", "out"] =
      some (.file (.text (Source.moduleList ["Foo"]))) ∧
    Source.moduleList ["Foo"] = Source.moduleList modules ∧ modules.Nodup ∧
    ∀ name ∈ modules,
      (again (callInto "out")).after.tree.get? [name ++ ".rs", "out"] ≠ none := by
  obtain ⟨tree, htree, hwrote⟩ := exists_wrote_out
  have hafter := (tree_after_again (callInto "out")).trans htree
  have hhistory : History ["out"] project [callInto "out", again (callInto "out")]
      (again (callInto "out")).after :=
    .call (again (callInto "out")) (.call (callInto "out") .start)
  have hmem : ("mod.rs", Source.moduleList ["Foo"]) ∈
      texts (project.tree.set ["out"] .directory) [] ⟨"out"⟩ false [projectUnit] ++
        listTexts [projectUnit] := by
    apply List.mem_append_right
    exact List.mem_singleton_self _
  obtain ⟨location, hleads, htext⟩ := hwrote.get?_of_mem hmem
  have hplace := FileTree.leadsTo_join Output.isFileName_moduleList (by decide)
    resolve_out
  rw [hleads.unique hplace, ← hafter] at htext
  rcases moduleList_of_history get?_out_project hhistory htext with
    ⟨hdirectory, _⟩ | ⟨modules, hlist, hdistinct, hfiles⟩
  · simp at hdirectory
  · refine ⟨modules, hhistory, htext, by simpa using hlist, hdistinct, fun name hname => ?_⟩
    obtain ⟨file, hfile, _⟩ := hfiles name hname
    simp [hfile]

/-- The project's tree once the path `out/Foo.rs/..` is there. -/
def outFoo : FileTree :=
  (project.tree.set ["out"] .directory).set ["Foo.rs", "out"] .directory

theorem createDirs_outFoo :
    project.tree.createDirs [] ⟨"out/Foo.rs/.."⟩ = (.ok (), outFoo) := by
  have hancestors : (⟨"out/Foo.rs/.."⟩ : Path).ancestors =
      [⟨"out/Foo.rs/.."⟩, ⟨"out/Foo.rs"⟩, ⟨"out"⟩] := by decide
  apply createDirs_eq_of_toOption
  simp only [FileTree.createDirs, hancestors, FileTree.createNested, FileTree.createDir,
    FileTree.entry?, FileTree.orPresent, FileTree.isDirectory, FileTree.find,
    FileTree.checkPath_eq, FileTree.origin_nil]
  decide

theorem resolve_outFoo : outFoo.resolve [] ⟨"out/Foo.rs/.."⟩ = .ok ["out"] :=
  FileTree.resolve_eq_ok_of_names (by decide) (by decide)
    (toOption_eq_some_iff.mp (by decide)) rfl

/-- A list of one name that can only be the module list's own is not the list of the
project's module. -/
theorem moduleList_ne_of_forall_eq {modules : List String} (hdistinct : modules.Nodup)
    (hmodules : ∀ name ∈ modules, name = "mod") :
    Source.moduleList ["Foo"] ≠ Source.moduleList modules := by
  cases modules with
  | nil => decide
  | cons first rest =>
      obtain rfl := hmodules first List.mem_cons_self
      cases rest with
      | nil => decide
      | cons second rest =>
          obtain rfl := hmodules second (by simp)
          simp at hdistinct

/-- The directory `Foo.rs` is taken for the unit's file. -/
theorem keeps_outFoo : keeps outFoo [] ⟨"out/Foo.rs/.."⟩ false projectUnit = true := by
  have hfind : outFoo.find [] (unitFile ⟨"out/Foo.rs/.."⟩ projectUnit) = .ok .directory := by
    apply FileTree.find_eq_ok_iff.mpr
    exact ⟨checkPath_projectUnit (by decide) (by decide), ["Foo.rs", "out"],
      FileTree.leadsTo_join isFileName_projectUnit (by decide) resolve_outFoo, rfl⟩
  rw [keeps, FileTree.pathExists, hfind]
  rfl

theorem exists_wrote_outFoo :
    Wrote [] ⟨"out/Foo.rs/.."⟩ [("mod.rs", Source.moduleList ["Foo"])] outFoo
      (callInto "out/Foo.rs/..").after.tree := by
  obtain ⟨report, tree, events, hrun, _, hwrote⟩ := exists_report_projectUnit
    (prepared_project "out/Foo.rs/..") createDirs_outFoo resolve_outFoo (by decide)
    (by decide) (by decide)
  have htexts : texts outFoo [] ⟨"out/Foo.rs/.."⟩ false [projectUnit] = [] := by
    simp [texts, keeps_outFoo]
  have hafter : (callInto "out/Foo.rs/..").after.tree = tree :=
    congrArg (fun outcome => outcome.2.tree) hrun
  rw [hafter]
  change Wrote [] ⟨"out/Foo.rs/.."⟩
    (texts outFoo [] ⟨"out/Foo.rs/.."⟩ false [projectUnit] ++ _) outFoo tree at hwrote
  rwa [htexts] at hwrote

/-- A run into `out/Foo.rs/..`, which leads to `out`, makes a directory where the file
of its module would be and lists the module all the same. -/
theorem exists_module_without_file :
    History ["out"] project [callInto "out/Foo.rs/.."] (callInto "out/Foo.rs/..").after ∧
    (∀ name, project.tree.get? (name :: ["out"]) = none) ∧
    (callInto "out/Foo.rs/..").after.tree.resolve [] ⟨"out/Foo.rs/.."⟩ = .ok ["out"] ∧
    ∃ node, (callInto "out/Foo.rs/..").after.tree.get? ["mod.rs", "out"] = some node ∧
      ¬∃ modules, node = .file (.text (Source.moduleList modules)) ∧ modules.Nodup ∧
        ∀ name ∈ modules, ∃ content,
          (callInto "out/Foo.rs/..").after.tree.get? [name ++ ".rs", "out"] =
            some (.file content) := by
  have hwrote := exists_wrote_outFoo
  have hlist : (callInto "out/Foo.rs/..").after.tree.get? ["mod.rs", "out"] =
      some (.file (.text (Source.moduleList ["Foo"]))) := by
    obtain ⟨location, hleads, htext⟩ := hwrote.get?_of_mem List.mem_cons_self
    have hplace := FileTree.leadsTo_join Output.isFileName_moduleList (by decide)
      resolve_outFoo
    rwa [hleads.unique hplace] at htext
  have hfiles : ∀ name content, (callInto "out/Foo.rs/..").after.tree.get? [name, "out"] =
      some (.file content) → name = "mod.rs" := by
    intro name content hfile
    rcases hwrote.get?_eq_or [name, "out"] with hsame | ⟨file, hmem, hleads, _⟩
    · rw [hsame, outFoo] at hfile
      by_cases hname : name = "Foo.rs"
      · subst hname
        simp [FileTree.get?_set_self] at hfile
      · rw [FileTree.get?_set_of_ne (by simpa using hname), FileTree.get?_set_of_ne (by simp),
          get?_out_project] at hfile
        simp at hfile
    · rw [List.mem_singleton] at hmem
      subst hmem
      obtain ⟨parent, _, hplace⟩ :=
        exists_resolve_of_leadsTo Output.isFileName_moduleList hleads
      exact (List.cons_eq_cons.mp hplace).1
  refine ⟨.call (callInto "out/Foo.rs/..") .start, get?_out_project,
    FileTree.resolve_of_keepsDirectories hwrote.directories resolve_outFoo, _, hlist, ?_⟩
  rintro ⟨modules, htext, hdistinct, hmodules⟩
  have hmod : ∀ name ∈ modules, name = "mod" := by
    intro name hname
    obtain ⟨content, hfile⟩ := hmodules name hname
    exact name_eq_of_append_rs (hfiles _ content hfile)
  exact moduleList_ne_of_forall_eq hdistinct hmod (by simpa using htext)

end TypedContainers.Generation
