import TypedContainers.Proofs.Categorical.Entries
import TypedContainers.Proofs.Record.DeclaredNames

/-!
# The types of members

The enumerations of a record are selected from the table by the field list, and the type
of a member is looked up in it by the member's own field.  Over a table that is built by
adding entries and passes validation the two agree: a member is typed as text or as one
enumeration of the record, and each enumeration is there for a field.
-/

namespace TypedContainers.RecordModel

/-- The members for a container's own fields: all but the timestamp, which is the
last. -/
def fieldMembers (model : RecordModel) : List Member :=
  model.members.dropLast

/-- Each member of a record is typed as text or as the one enumeration of its field, and
each enumeration is the type of a member unless it is there for the key. -/
structure TypesResolve (schema : ContainerSchema) (registry : CategoricalRegistry)
    (model : RecordModel) : Prop where
  /-- The enumerations come in table order. -/
  order : model.enums.Sublist (registry.entries.map CategoricalField.enumDefinition)
  distinct : model.enumTypeNames.Nodup
  fields : model.fieldMembers.map Member.wire = schema.keyField :: schema.nonKeyFields
  key : ∀ member ∈ model.fieldMembers, member.wire = schema.keyField →
    member.type = textType
  registered : ∀ member ∈ model.fieldMembers, member.wire ≠ schema.keyField →
    ∀ entry ∈ registry.entries, entry.field = member.wire →
      model.enums.filter (fun definition => definition.name = member.type) =
        [entry.enumDefinition]
  plain : ∀ member ∈ model.fieldMembers, member.wire ∉ registry.fields →
    member.type = textType
  used : ∀ definition ∈ model.enums, ∃ entry ∈ registry.entries,
    entry.enumDefinition = definition ∧ entry.field ∈ schema.fields ∧
      (entry.field ≠ schema.keyField → ∃ member ∈ model.fieldMembers,
        member.wire = entry.field ∧ member.type = definition.name)

variable {schema : ContainerSchema} {registry : CategoricalRegistry}

theorem fieldMembers_ofSchema (schema : ContainerSchema) (registry : CategoricalRegistry) :
    (ofSchema schema registry).fieldMembers =
      keyMember schema :: schema.nonKeyFields.map (fieldMember schema registry) := by
  rw [fieldMembers, ofSchema, ← List.cons_append, List.dropLast_concat]

theorem mem_nonKeyFields {field : String} :
    field ∈ schema.nonKeyFields ↔ field ∈ schema.fields ∧ field ≠ schema.keyField := by
  simp [ContainerSchema.nonKeyFields]

/-- A member is the one of the key, or that of another field. -/
theorem mem_fieldMembers_ofSchema {member : Member} :
    member ∈ (ofSchema schema registry).fieldMembers ↔
      member = keyMember schema ∨
        ∃ field ∈ schema.fields, field ≠ schema.keyField ∧
          member = fieldMember schema registry field := by
  simp only [fieldMembers_ofSchema, List.mem_cons, List.mem_map, mem_nonKeyFields,
    and_assoc, eq_comm]

/-- A field with an entry is typed as the entry's enumeration. -/
theorem type_fieldMember_of_mem (hfields : registry.fields.Nodup)
    {entry : CategoricalField} (hentry : entry ∈ registry.entries)
    (hother : entry.field ≠ schema.keyField) :
    (fieldMember schema registry entry.field).type = entry.enumName := by
  have hlookup := CategoricalRegistry.lookup_field hfields hentry
  simp only [fieldMember, FieldClass.ofField, if_neg hother, hlookup]
  rfl

/-- A field without an entry is typed as text. -/
theorem type_fieldMember_of_not_mem {field : String} (hnew : field ∉ registry.fields) :
    (fieldMember schema registry field).type = textType := by
  have hlookup := CategoricalRegistry.lookup_eq_none_iff.mpr hnew
  by_cases hkey : field = schema.keyField
  · simp [fieldMember, FieldClass.ofField, FieldClass.declaredType, hkey]
  · simp [fieldMember, FieldClass.ofField, FieldClass.declaredType, hkey, hlookup]

/-- The enumerations of a record over a validated table have different names. -/
theorem nodup_enumTypeNames (hvalid : registry.fault? = none) (schema : ContainerSchema) :
    (ofSchema schema registry).enumTypeNames.Nodup := by
  rw [enumTypeNames_ofSchema]
  exact CategoricalRegistry.nodup_enumName_presentIn hvalid schema

/-- A record declares the enumeration of a listed field's entry once. -/
theorem filter_enums_ofSchema (hvalid : registry.fault? = none) {entry : CategoricalField}
    (hentry : entry ∈ registry.entries) (hlisted : entry.field ∈ schema.fields) :
    (ofSchema schema registry).enums.filter
      (fun definition => definition.name = entry.enumName) = [entry.enumDefinition] := by
  have hdistinct := nodup_enumTypeNames hvalid schema
  have hpresent := CategoricalRegistry.mem_presentIn.mpr ⟨hentry, hlisted⟩
  exact Naming.filter_eq_singleton_of_nodup hdistinct (List.mem_map_of_mem hpresent)

/-- The types of a record over a table that is built by adding entries and passes
validation all resolve, whether fields are listed twice, the key has an entry or is
listed, or entries of the built-in table were replaced. -/
theorem typesResolve_of_built (hbuilt : registry.Built) (hvalid : registry.fault? = none)
    (schema : ContainerSchema) :
    TypesResolve schema registry (ofSchema schema registry) where
  order := List.filter_sublist.map CategoricalField.enumDefinition
  distinct := nodup_enumTypeNames hvalid schema
  fields := by
    simp [fieldMembers_ofSchema, keyMember, fieldMember, Function.comp_def]
  key := by
    intro member hmember hwire
    rcases mem_fieldMembers_ofSchema.mp hmember with rfl | ⟨field, _, hother, rfl⟩
    · rfl
    · exact absurd hwire hother
  registered := by
    intro member hmember hwire entry hentry hfield
    rcases mem_fieldMembers_ofSchema.mp hmember with rfl | ⟨field, hlisted, hother, rfl⟩
    · exact absurd rfl hwire
    · obtain rfl : entry.field = field := hfield
      rw [type_fieldMember_of_mem hbuilt.nodup_fields hentry hother]
      exact filter_enums_ofSchema hvalid hentry hlisted
  plain := by
    intro member hmember hnew
    rcases mem_fieldMembers_ofSchema.mp hmember with rfl | ⟨field, _, _, rfl⟩
    · rfl
    · exact type_fieldMember_of_not_mem hnew
  used := by
    intro definition hdefinition
    obtain ⟨entry, hpresent, rfl⟩ := List.mem_map.mp hdefinition
    obtain ⟨hentry, hlisted⟩ := CategoricalRegistry.mem_presentIn.mp hpresent
    refine ⟨entry, hentry, rfl, hlisted, fun hother => ?_⟩
    exact ⟨fieldMember schema registry entry.field,
      mem_fieldMembers_ofSchema.mpr (.inr ⟨entry.field, hlisted, hother, rfl⟩), rfl,
      type_fieldMember_of_mem hbuilt.nodup_fields hentry hother⟩

/-- The key has an entry, a built-in entry was replaced, a field is listed twice, and type
names are normalized. -/
theorem typesResolve_of_person :
    let registry := CategoricalRegistry.builtin.withExtra
      [⟨"gender", "sex", ["unknown", "other"]⟩, ⟨"status", "job-status", ["none", "open"]⟩]
    let model := ofSchema ⟨"person", "country", ["status", "gender", "name", "status"]⟩
      registry
    registry.Built ∧ registry.fault? = none ∧
      TypesResolve ⟨"person", "country", ["status", "gender", "name", "status"]⟩ registry
        model ∧
      model.enumTypeNames = ["Sex", "JobStatus"] ∧
      model.fieldMembers.map Member.type =
        ["String", "JobStatus", "Sex", "String", "JobStatus"] := by
  intro registry model
  have hbuilt : registry.Built := .withExtra _ .builtin
  have hvalid : registry.fault? = none := by decide
  exact ⟨hbuilt, hvalid, typesResolve_of_built hbuilt hvalid _, by decide, by decide⟩

end TypedContainers.RecordModel
