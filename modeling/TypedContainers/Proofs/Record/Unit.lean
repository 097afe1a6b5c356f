import TypedContainers.Proofs.FirstFault
import TypedContainers.Record.Unit

/-!
# Units without a collision

The search for a collision passes exactly over containers that are all declared
under different names, and only those become units.
-/

namespace TypedContainers

/-- The name a container is declared under. -/
def ContainerSchema.typeName (schema : ContainerSchema) : String :=
  Naming.pascal schema.name

@[simp]
theorem GeneratedUnit.fileBaseName_ofSchema (registry : CategoricalRegistry)
    (schema : ContainerSchema) :
    (GeneratedUnit.ofSchema registry schema).fileBaseName = schema.typeName := rfl

namespace Collision

/-- The collision of a container with those before it. -/
def ofSeen? (seen : List ContainerSchema) (schema : ContainerSchema) : Option Collision :=
  (seen.findIdx? fun earlier => earlier.typeName = schema.typeName).map fun i =>
    ⟨i, seen.length, (seen[i]?.getD schema).name, schema.name, schema.typeName⟩

theorem after?_eq_firstFault? (seen rest : List ContainerSchema) :
    after? seen rest = firstFault? ofSeen? seen rest := by
  induction rest generalizing seen with
  | nil => rfl
  | cons schema rest ih =>
      have hname : (seen.findIdx? fun earlier =>
          Naming.pascal earlier.name = Naming.pascal schema.name) =
            seen.findIdx? fun earlier => earlier.typeName = schema.typeName := rfl
      rw [after?, firstFault?, ofSeen?, ← ih]
      simp only [hname]
      cases seen.findIdx? fun earlier => decide (earlier.typeName = schema.typeName) with
      | some i => rfl
      | none => rfl

theorem ofSeen?_eq_none_iff (seen : List ContainerSchema) (schema : ContainerSchema) :
    ofSeen? seen schema = none ↔
      True ∧ schema.typeName ∉ seen.map ContainerSchema.typeName := by
  rw [ofSeen?, Option.map_eq_none_iff, Naming.findIdx?_eq_none_iff, true_and]

theorem after?_eq_none_iff {seen rest : List ContainerSchema} :
    after? seen rest = none ↔ Naming.New ContainerSchema.typeName seen rest := by
  rw [after?_eq_firstFault?, firstFault?_eq_none_iff ofSeen?_eq_none_iff]
  simp

/-- There is no collision exactly if all containers are declared under different
names. -/
theorem first?_eq_none_iff {containers : List ContainerSchema} :
    first? containers = none ↔ (containers.map ContainerSchema.typeName).Nodup := by
  rw [first?, after?_eq_none_iff, Naming.new_nil_left]

end Collision

/-- Units that were generated are those of the containers, in order, which are all
declared under different names. -/
theorem generateUnits_eq_ok_iff {containers : List ContainerSchema}
    {registry : CategoricalRegistry} {units : List GeneratedUnit} :
    generateUnits containers registry = .ok units ↔
      (containers.map ContainerSchema.typeName).Nodup ∧
        units = containers.map (GeneratedUnit.ofSchema registry) := by
  rw [generateUnits, ← Collision.first?_eq_none_iff]
  cases Collision.first? containers with
  | some collision => simp
  | none => simp [eq_comm]

end TypedContainers
