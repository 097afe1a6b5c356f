import TypedContainers.Proofs.Record.Types
import TypedContainers.Record.Unit

/-!
# What a record takes from the table

The members look their fields up in the whole table, and the enumerations are selected
from it.  Both come to the entries for the container's own fields: all other entries
could be left out, and of the field list the enumerations know only which fields are in
it.
-/

namespace TypedContainers

namespace CategoricalRegistry

variable {registry : CategoricalRegistry} {schema : ContainerSchema}

/-- The table with nothing but the entries that a container uses. -/
def restrict (registry : CategoricalRegistry) (schema : ContainerSchema) :
    CategoricalRegistry :=
  ⟨registry.presentIn schema⟩

theorem presentIn_restrict : (registry.restrict schema).presentIn schema =
    registry.presentIn schema := by
  rw [restrict, presentIn, presentIn, List.filter_filter]
  simp only [Bool.and_self]

/-- A listed field is found in the whole table as among the entries for listed fields. -/
theorem lookup_restrict {field : String} (hlisted : field ∈ schema.fields) :
    (registry.restrict schema).lookup field = registry.lookup field := by
  rw [restrict, lookup, lookup, presentIn, List.find?_filter]
  congr 1
  funext entry
  by_cases hfield : entry.field = field
  · simp [hfield, ContainerSchema.hasField, hlisted]
  · simp [hfield]

/-- The entry of a field that is not listed is not used, be it new or a replacement. -/
theorem presentIn_put {entry : CategoricalField} (hunlisted : entry.field ∉ schema.fields)
    (entries : List CategoricalField) :
    presentIn ⟨put entry entries⟩ schema = presentIn ⟨entries⟩ schema := by
  have hunused : ∀ used : CategoricalField, used.field = entry.field →
      ¬schema.hasField used.field := by
    intro used hfield
    simpa [ContainerSchema.hasField, hfield] using hunlisted
  simp only [presentIn]
  induction entries with
  | nil => exact List.filter_cons_of_neg (hunused entry rfl)
  | cons known rest ih =>
      by_cases hknown : known.field = entry.field
      · rw [put, if_pos hknown, List.filter_cons, List.filter_cons,
          if_neg (hunused entry rfl), if_neg (hunused known hknown)]
      · rw [put, if_neg hknown, List.filter_cons, List.filter_cons, ih]

theorem presentIn_withExtra (registry : CategoricalRegistry) {extra : List CategoricalField}
    (hunlisted : ∀ entry ∈ extra, entry.field ∉ schema.fields) :
    (registry.withExtra extra).presentIn schema = registry.presentIn schema := by
  induction extra generalizing registry with
  | nil => rfl
  | cons entry rest ih =>
      obtain ⟨hentry, hrest⟩ := List.forall_mem_cons.mp hunlisted
      calc
        (registry.withExtra (entry :: rest)).presentIn schema
          = (withExtra ⟨put entry registry.entries⟩ rest).presentIn schema := rfl
        _ = presentIn ⟨put entry registry.entries⟩ schema := ih _ hrest
        _ = registry.presentIn schema := presentIn_put hentry registry.entries

/-- Containers that list the same fields use the same entries. -/
theorem presentIn_congr (registry : CategoricalRegistry) {other : ContainerSchema}
    (hfields : ∀ field, field ∈ other.fields ↔ field ∈ schema.fields) :
    registry.presentIn other = registry.presentIn schema := by
  refine List.filter_congr fun entry _ => ?_
  simp only [ContainerSchema.hasField, List.contains_eq_mem, hfields]

end CategoricalRegistry

namespace RecordModel

variable {schema : ContainerSchema} {registry other : CategoricalRegistry}

theorem fieldMember_restrict {field : String} (hlisted : field ∈ schema.fields) :
    fieldMember schema (registry.restrict schema) field =
      fieldMember schema registry field := by
  rw [fieldMember, fieldMember, FieldClass.ofField, FieldClass.ofField,
    CategoricalRegistry.lookup_restrict hlisted]

/-- A record is the same over the entries that its container uses. -/
theorem ofSchema_restrict (schema : ContainerSchema) (registry : CategoricalRegistry) :
    ofSchema schema (registry.restrict schema) = ofSchema schema registry := by
  have hmembers : schema.nonKeyFields.map (fieldMember schema (registry.restrict schema)) =
      schema.nonKeyFields.map (fieldMember schema registry) :=
    List.map_congr_left fun _ hfield => fieldMember_restrict (mem_nonKeyFields.mp hfield).1
  rw [ofSchema, ofSchema, hmembers, CategoricalRegistry.presentIn_restrict]

theorem ofSchema_eq_of_presentIn_eq
    (hpresent : registry.presentIn schema = other.presentIn schema) :
    ofSchema schema registry = ofSchema schema other :=
  calc
    ofSchema schema registry
      = ofSchema schema (registry.restrict schema) := (ofSchema_restrict schema registry).symm
    _ = ofSchema schema (other.restrict schema) := by
      rw [CategoricalRegistry.restrict, hpresent, CategoricalRegistry.restrict]
    _ = ofSchema schema other := ofSchema_restrict schema other

end RecordModel

theorem GeneratedUnit.ofSchema_eq_of_model_eq {schema : ContainerSchema}
    {registry other : CategoricalRegistry}
    (hmodel : RecordModel.ofSchema schema registry = RecordModel.ofSchema schema other) :
    ofSchema registry schema = ofSchema other schema := by
  rw [ofSchema, hmodel, ofSchema]

/-- Tables that have the same entries for the fields of a container give it the same
record and the same text.  So it does not matter which entries other fields have, among
them the key if it is not listed.  And the order in which fields are listed does not
matter for the enumerations. -/
theorem output_of_present_entries (schema : ContainerSchema)
    (registry : CategoricalRegistry) :
    (∀ other : CategoricalRegistry,
      registry.presentIn schema = other.presentIn schema →
        RecordModel.ofSchema schema registry = RecordModel.ofSchema schema other ∧
          GeneratedUnit.ofSchema registry schema = GeneratedUnit.ofSchema other schema) ∧
    (∀ extra : List CategoricalField, (∀ entry ∈ extra, entry.field ∉ schema.fields) →
      RecordModel.ofSchema schema (registry.withExtra extra) =
          RecordModel.ofSchema schema registry ∧
        GeneratedUnit.ofSchema (registry.withExtra extra) schema =
          GeneratedUnit.ofSchema registry schema) ∧
    ∀ other : ContainerSchema, other.fields.Perm schema.fields →
      (RecordModel.ofSchema other registry).enums =
        (RecordModel.ofSchema schema registry).enums := by
  refine ⟨?_, ?_, ?_⟩
  · intro other hpresent
    have hmodel := RecordModel.ofSchema_eq_of_presentIn_eq hpresent
    exact ⟨hmodel, GeneratedUnit.ofSchema_eq_of_model_eq hmodel⟩
  · intro extra hunlisted
    have hmodel := RecordModel.ofSchema_eq_of_presentIn_eq
      (CategoricalRegistry.presentIn_withExtra registry hunlisted)
    exact ⟨hmodel, GeneratedUnit.ofSchema_eq_of_model_eq hmodel⟩
  · intro other hperm
    have hpresent := CategoricalRegistry.presentIn_congr registry fun _ => hperm.mem_iff
    exact congrArg (List.map CategoricalField.enumDefinition) hpresent

/-- The key is not listed: its entry is left out, or replaced while another one is added.
The enumerations keep their order when fields change places. -/
theorem output_of_present_entries_person :
    let schema : ContainerSchema := ⟨"person", "country", ["status", "gender", "name"]⟩
    let moved : ContainerSchema := ⟨"person", "country", ["gender", "name", "status"]⟩
    let registry := CategoricalRegistry.builtin.withExtra
      [⟨"status", "JobStatus", ["none", "open"]⟩]
    let other : CategoricalRegistry := ⟨registry.entries.drop 1⟩
    let extra : List CategoricalField :=
      [⟨"country", "Land", ["none", "dk"]⟩, ⟨"rank", "Rank", ["none", "high"]⟩]
    registry.presentIn schema = other.presentIn schema ∧
      GeneratedUnit.ofSchema registry schema = GeneratedUnit.ofSchema other schema ∧
      (∀ entry ∈ extra, entry.field ∉ schema.fields) ∧
      GeneratedUnit.ofSchema (registry.withExtra extra) schema =
        GeneratedUnit.ofSchema registry schema ∧
      moved.fields.Perm schema.fields ∧
      (RecordModel.ofSchema moved registry).enums =
        (RecordModel.ofSchema schema registry).enums ∧
      (RecordModel.ofSchema schema registry).enumTypeNames = ["GenderType", "JobStatus"] := by
  intro schema moved registry other extra
  have hpresent : registry.presentIn schema = other.presentIn schema := by decide
  have hunlisted : ∀ entry ∈ extra, entry.field ∉ schema.fields := by decide
  have hperm : moved.fields.Perm schema.fields := by decide
  obtain ⟨htables, hextra, hfields⟩ := output_of_present_entries schema registry
  exact ⟨hpresent, (htables other hpresent).2, hunlisted, (hextra extra hunlisted).2, hperm,
    hfields moved hperm, by decide⟩

-- A key that is listed has its enumeration declared.
example : (RecordModel.ofSchema ⟨"land", "country", ["country"]⟩ .builtin).enumTypeNames =
      ["CountryType"] ∧
    (RecordModel.ofSchema ⟨"land", "country", ["country"]⟩ .empty).enumTypeNames = [] := by
  decide

end TypedContainers
