import TypedContainers.Proofs.Files.Path
import TypedContainers.Proofs.Project.Output

/-!
# Files inside the output directory

Whatever a container is called, its unit is written to a file directly in the output
directory.  Normalizing leaves no character of a name that could lead elsewhere, and no
name that starts like the module list's; the search for collisions keeps the files of
different containers apart.
-/

namespace TypedContainers.Output

open FileTree (LiesIn liesIn_join name_eq_of_components)

variable {containers : List ContainerSchema} {registry : CategoricalRegistry}
variable {units : List GeneratedUnit}

/-- Units with different file names have paths with different components. -/
theorem nodup_components (hnames : ∀ unit ∈ units, FileTree.IsFileName (fileName unit))
    (hdistinct : (units.map fileName).Nodup) (directory : Path) :
    (units.map fun unit => (unitFile directory unit).components).Nodup := by
  rw [List.nodup_iff_pairwise_ne, List.pairwise_map] at hdistinct ⊢
  refine hdistinct.imp_of_mem ?_
  intro first second hfirst hsecond hne heq
  exact hne (name_eq_of_components (hnames first hfirst) (hnames second hsecond) heq)

/-- The files of units that are generated, for any output directory.  Each lies directly
in the directory under a name of ASCII letters and digits with the extension, which is
not the module list's, and no two units share a file. -/
theorem unitFiles_of_units (hunits : generateUnits containers registry = .ok units)
    (directory : Path) :
    (∀ unit ∈ units,
      (∀ c ∈ unit.fileBaseName.toList, c.isAlphanum) ∧
      LiesIn directory (unit.fileBaseName ++ ".rs") (unitFile directory unit) ∧
      unit.fileBaseName ++ ".rs" ≠ "mod.rs" ∧
      (unitFile directory unit).components ≠ (moduleListFile directory).components) ∧
    (units.map fun unit => (unitFile directory unit).components).Nodup := by
  obtain ⟨hdistinct, rfl⟩ := generateUnits_eq_ok_iff.mp hunits
  have hnames : ∀ unit ∈ containers.map (GeneratedUnit.ofSchema registry),
      FileTree.IsFileName (fileName unit) := by
    intro unit hunit
    obtain ⟨schema, _, rfl⟩ := List.mem_map.mp hunit
    exact isFileName_fileName_ofSchema registry schema
  refine ⟨?_, nodup_components hnames (nodup_fileName hdistinct registry) directory⟩
  intro unit hunit
  have hname := hnames unit hunit
  obtain ⟨schema, _, rfl⟩ := List.mem_map.mp hunit
  have hlist := fileName_ofSchema_ne registry schema
  refine ⟨fun c hc => Naming.isAlphanum_of_mem_pascal hc, liesIn_join hname directory,
    hlist, fun heq => ?_⟩
  exact hlist (name_eq_of_components hname isFileName_moduleList heq)

/-- Names that look like paths, hold a NUL, are empty or spell the module list's, and a
directory that is written with a step back. -/
theorem unitFiles_of_hostile_names :
    let containers : List ContainerSchema :=
      [⟨"../etc/passwd", "id", []⟩, ⟨"/root\x00", "id", []⟩, ⟨"", "id", []⟩,
        ⟨"mod", "id", []⟩]
    let units := containers.map (GeneratedUnit.ofSchema .builtin)
    generateUnits containers .builtin = .ok units ∧
      units.map fileName = ["EtcPasswd.rs", "Root.rs", ".rs", "Mod.rs"] ∧
      (∀ unit ∈ units, LiesIn ⟨"out/.."⟩ (fileName unit) (unitFile ⟨"out/.."⟩ unit)) ∧
      (units.map fun unit => (unitFile ⟨"out/.."⟩ unit).components).Nodup := by
  intro containers units
  have hunits : generateUnits containers .builtin = .ok units := by rfl
  obtain ⟨hfiles, hdistinct⟩ := unitFiles_of_units hunits ⟨"out/.."⟩
  exact ⟨hunits, by decide, fun unit hunit => (hfiles unit hunit).2.1, hdistinct⟩

end TypedContainers.Output
