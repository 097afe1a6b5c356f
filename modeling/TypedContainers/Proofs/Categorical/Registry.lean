import TypedContainers.Categorical.Registry
import TypedContainers.Proofs.Categorical.Validation

/-!
# What validation of a table means

A table without a fault has only entries that declare well-formed enumerations, and
declares all of them under different names.  The entries that a container uses are some
of the table's, in its order, so this holds of them, too.
-/

namespace TypedContainers

/-- The name an entry's enumeration is declared under. -/
def CategoricalField.enumName (entry : CategoricalField) : String :=
  Naming.pascal entry.typeName

@[simp]
theorem CategoricalField.name_enumDefinition (entry : CategoricalField) :
    entry.enumDefinition.name = entry.enumName := rfl

namespace CategoricalRegistry

/-- The fault of an entry after the entries before it. -/
def entryFaultAfter? (seen : List CategoricalField) (entry : CategoricalField) :
    Option RegistryFault :=
  match entry.fault? with
  | some fault => some (.entry fault)
  | none => (seen.find? fun earlier => earlier.enumName = entry.enumName).map fun earlier =>
      .sharedName earlier.field entry.field entry.enumName

theorem faultAfter?_eq_firstFault? (seen rest : List CategoricalField) :
    faultAfter? seen rest = firstFault? entryFaultAfter? seen rest := by
  induction rest generalizing seen with
  | nil => rfl
  | cons entry rest ih =>
      have hname : (seen.find? fun earlier =>
          Naming.pascal earlier.typeName = Naming.pascal entry.typeName) =
            seen.find? fun earlier => earlier.enumName = entry.enumName := rfl
      rw [faultAfter?, firstFault?, entryFaultAfter?, ← ih]
      cases entry.fault? with
      | some fault => rfl
      | none =>
          simp only [hname]
          cases seen.find? fun earlier => decide (earlier.enumName = entry.enumName) with
          | some earlier => rfl
          | none => rfl

theorem entryFaultAfter?_eq_none_iff (seen : List CategoricalField)
    (entry : CategoricalField) :
    entryFaultAfter? seen entry = none ↔
      entry.enumDefinition.WellFormed ∧
        entry.enumName ∉ seen.map CategoricalField.enumName := by
  rw [entryFaultAfter?, ← CategoricalField.fault?_eq_none_iff, ← Naming.find?_eq_none_iff]
  cases entry.fault? with
  | some fault => simp
  | none => simp only [Option.map_eq_none_iff, true_and]

/-- The search for a fault passes exactly over entries whose enumerations are well
formed and have new names. -/
theorem faultAfter?_eq_none_iff {seen rest : List CategoricalField} :
    faultAfter? seen rest = none ↔
      (∀ entry ∈ rest, entry.enumDefinition.WellFormed) ∧
        Naming.New CategoricalField.enumName seen rest := by
  rw [faultAfter?_eq_firstFault?]
  exact firstFault?_eq_none_iff entryFaultAfter?_eq_none_iff

/-- Validation accepts exactly the tables whose enumerations are well formed and all
have different names. -/
theorem fault?_eq_none_iff {registry : CategoricalRegistry} :
    registry.fault? = none ↔
      (∀ entry ∈ registry.entries, entry.enumDefinition.WellFormed) ∧
        (registry.entries.map CategoricalField.enumName).Nodup := by
  rw [fault?, faultAfter?_eq_none_iff, Naming.new_nil_left]

/-- The table every run starts from is valid. -/
theorem fault?_builtin : builtin.fault? = none := by decide

theorem mem_presentIn {registry : CategoricalRegistry} {schema : ContainerSchema}
    {entry : CategoricalField} :
    entry ∈ registry.presentIn schema ↔
      entry ∈ registry.entries ∧ entry.field ∈ schema.fields := by
  simp [presentIn, ContainerSchema.hasField]

/-- The enumerations that a container uses have different names. -/
theorem nodup_enumName_presentIn {registry : CategoricalRegistry}
    (hvalid : registry.fault? = none) (schema : ContainerSchema) :
    ((registry.presentIn schema).map CategoricalField.enumName).Nodup := by
  have hnames := (fault?_eq_none_iff.mp hvalid).2
  exact hnames.sublist (List.filter_sublist.map CategoricalField.enumName)

end CategoricalRegistry

end TypedContainers
