import TypedContainers.Project.Configuration
import TypedContainers.Project.Output

/-!
# Generation

A run checks the table, reads the configuration and generates all units before it
touches a file.  Then it creates the output directory, writes the units in order
and, if there are any, the module list.
-/

namespace TypedContainers

/-- What a run is asked to do. -/
structure GenerateOptions where
  outputDir : Path
  force : Bool
  dryRun : Bool
  registry : CategoricalRegistry
deriving Repr, DecidableEq

/-- What a run did. -/
structure GenerationReport where
  outputDir : Path
  units : List GeneratedUnit
  written : List Path
  kept : List Path
  skipped : List String
deriving Repr, DecidableEq

namespace Generation

variable {m : Type → Type} [Monad m] [Machine m]

/-- The containers that are generated: all of them, or those up to the first one
that collides with an earlier one. -/
def attempted (containers : List ContainerSchema) : List ContainerSchema :=
  match Collision.first? containers with
  | some collision => containers.take (collision.later + 1)
  | none => containers

/-- Generate the units of some containers, reporting each. -/
def generateAll (containers : List ContainerSchema) (registry : CategoricalRegistry) :
    Action m (List GeneratedUnit) := do
  (attempted containers).forM fun schema =>
    Action.report (.emitting (.ofSchema schema registry))
  Action.require .collision (generateUnits containers registry)

/-- Everything that comes before the first change of a file. -/
def prepare (configuration : Path) (options : GenerateOptions) :
    Action m (List GeneratedUnit × List String) := do
  Action.report (.generating configuration)
  if let some fault := options.registry.fault? then throw (.registry fault)
  let schemas ← Configuration.load configuration
  let units ← generateAll schemas.containers options.registry
  return (units, schemas.skipped)

def preview (options : GenerateOptions) (units : List GeneratedUnit)
    (skipped : List String) : Action m GenerationReport := do
  units.forM fun unit => Action.report (.wouldWrite (Output.unitFile options.outputDir unit))
  return ⟨options.outputDir, units, [], [], skipped⟩

def write (options : GenerateOptions) (units : List GeneratedUnit)
    (skipped : List String) : Action m GenerationReport := do
  let directory := options.outputDir
  Action.attempt (.outputDirectory directory) (Machine.createDirs directory)
  let files ← Output.writeUnits directory options.force units
  let lists ←
    if units.isEmpty then pure []
    else do
      let file ← Output.writeModuleList directory (units.map (·.fileBaseName))
      pure [file]
  Action.report (.generated units.length directory)
  return ⟨directory, units, files.written ++ lists, files.kept, skipped⟩

def run (configuration : Path) (options : GenerateOptions) : Action m GenerationReport := do
  let (units, skipped) ← prepare configuration options
  if options.dryRun then preview options units skipped
  else write options units skipped

end Generation

end TypedContainers
