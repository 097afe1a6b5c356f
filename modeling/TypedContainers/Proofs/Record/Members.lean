import Mathlib.Data.List.Nodup
import TypedContainers.Proofs.Naming.Spelling
import TypedContainers.Proofs.Record.Unit
import TypedContainers.Proofs.Record.WireNames
import TypedContainers.Proofs.Request

/-!
# The members of a record

A member carries two names: the one its field has on the wire, and the one it is declared
under.  The first are the field list of the requests.  The second come from the fields by
normalizing, so different fields may be declared alike.
-/

namespace TypedContainers

/-- The names that the members of a record are declared under. -/
def RecordModel.memberNames (model : RecordModel) : List String :=
  model.members.map Member.name

/-- The names that the members of a record have on the wire. -/
def RecordModel.wireNames (model : RecordModel) : List String :=
  model.members.map Member.wire

namespace RecordModel

/-! ## Declared names -/

theorem memberNames_ofSchema (schema : ContainerSchema) (registry : CategoricalRegistry) :
    (ofSchema schema registry).memberNames =
      (schema.keyField :: schema.nonKeyFields).map Naming.pascal ++
        [createdDateMember.name] := by
  simp [memberNames, ofSchema, keyMember, fieldMember, Function.comp_def]

theorem mem_keyField_cons_nonKeyFields {schema : ContainerSchema} {field : String} :
    field ∈ schema.keyField :: schema.nonKeyFields ↔ field ∈ schema.fieldNames := by
  by_cases hkey : field = schema.keyField
  · simp [ContainerSchema.fieldNames, hkey]
  · simp [ContainerSchema.fieldNames, ContainerSchema.nonKeyFields, hkey]

end RecordModel

/-- No two fields of a container are declared under one name, and none is declared under
that of the timestamp. -/
structure ContainerSchema.DeclaredApart (schema : ContainerSchema) : Prop where
  fields : ∀ first ∈ schema.fieldNames, ∀ second ∈ schema.fieldNames,
    Naming.pascal first = Naming.pascal second → first = second
  timestamp : ∀ field ∈ schema.fieldNames,
    Naming.pascal field ≠ RecordModel.createdDateMember.name

namespace RecordModel

/-- A record declares no member twice exactly if its fields are declared apart. -/
theorem nodup_memberNames_iff {schema : ContainerSchema} (registry : CategoricalRegistry)
    (hfields : schema.nonKeyFields.Nodup) :
    (ofSchema schema registry).memberNames.Nodup ↔ schema.DeclaredApart := by
  have hkey : schema.keyField ∉ schema.nonKeyFields := by
    simp [ContainerSchema.nonKeyFields]
  have hdistinct : (schema.keyField :: schema.nonKeyFields).Nodup :=
    List.nodup_cons.mpr ⟨hkey, hfields⟩
  rw [memberNames_ofSchema, List.nodup_append_comm, List.singleton_append,
    List.nodup_cons, List.nodup_map_iff_inj_on hdistinct]
  simp only [mem_keyField_cons_nonKeyFields, List.mem_map, not_exists, not_and]
  constructor
  · rintro ⟨htimestamp, hinjective⟩
    exact ⟨hinjective, htimestamp⟩
  · rintro ⟨hinjective, htimestamp⟩
    exact ⟨htimestamp, hinjective⟩

/-- Fields in snake case are declared apart, unless one of them spells the timestamp. -/
theorem declaredApart_iff_of_snakeCase {schema : ContainerSchema}
    (hsnake : ∀ field ∈ schema.fieldNames, Naming.SnakeCase field) :
    schema.DeclaredApart ↔ "created_date" ∉ schema.fieldNames := by
  have hname : Naming.pascal "created_date" = createdDateMember.name := by decide
  constructor
  · intro hapart hmem
    exact hapart.timestamp "created_date" hmem hname
  · intro hnew
    refine ⟨fun first hfirst second hsecond heq => ?_, fun field hfield heq => ?_⟩
    · exact Naming.pascal_injective_of_snakeCase (hsnake first hfirst)
        (hsnake second hsecond) heq
    · have hspelled := Naming.pascal_injective_of_snakeCase (hsnake field hfield)
        (by decide) (heq.trans hname.symm)
      exact hnew (hspelled ▸ hfield)

/-- Each unit declares the members of its container's record.  Where no field other than
the key is listed twice, no member is declared twice exactly if the fields are declared
apart; fields in snake case always are, unless one is called `created_date`. -/
theorem memberNames_of_units {containers : List ContainerSchema}
    {registry : CategoricalRegistry} {units : List GeneratedUnit}
    (hunits : generateUnits containers registry = .ok units) :
    units = containers.map (GeneratedUnit.ofSchema registry) ∧
      ∀ schema ∈ containers, schema.nonKeyFields.Nodup →
        ((ofSchema schema registry).memberNames.Nodup ↔ schema.DeclaredApart) ∧
        ((∀ field ∈ schema.fieldNames, Naming.SnakeCase field) →
          ((ofSchema schema registry).memberNames.Nodup ↔
            "created_date" ∉ schema.fieldNames)) := by
  refine ⟨(generateUnits_eq_ok_iff.mp hunits).2, ?_⟩
  intro schema _ hfields
  have happart := nodup_memberNames_iff registry hfields
  exact ⟨happart, fun hsnake => happart.trans (declaredApart_iff_of_snakeCase hsnake)⟩

/-- The key is listed again, and digits end a word in one field only. -/
theorem memberNames_of_hours :
    let schema : ContainerSchema := ⟨"time sheet", "line_no", ["hours", "line_no", "hours2"]⟩
    generateUnits [schema] .builtin = .ok [GeneratedUnit.ofSchema .builtin schema] ∧
      schema.nonKeyFields.Nodup ∧ (ofSchema schema .builtin).memberNames.Nodup := by
  intro schema
  have hunits : generateUnits [schema] .builtin =
      .ok [GeneratedUnit.ofSchema .builtin schema] := rfl
  have hfields : schema.nonKeyFields.Nodup := by decide
  have hsnake : ∀ field ∈ schema.fieldNames, Naming.SnakeCase field := by decide
  obtain ⟨_, hnames⟩ := memberNames_of_units hunits
  have hiff := (hnames schema List.mem_cons_self hfields).2 hsnake
  exact ⟨hunits, hfields, hiff.mpr (by decide)⟩

/-- An underscore and a hyphen end a word alike: both fields are declared as `AB`. -/
theorem exists_member_declared_twice :
    ∃ (containers : List ContainerSchema) (registry : CategoricalRegistry)
      (units : List GeneratedUnit), generateUnits containers registry = .ok units ∧
        ∃ schema ∈ containers, schema.nonKeyFields.Nodup ∧
          ¬ (ofSchema schema registry).memberNames.Nodup :=
  ⟨[⟨"job", "id", ["a_b", "a-b"]⟩], .empty, _, rfl, _, List.mem_cons_self, by decide,
    by decide⟩

/-! ## Wire names -/

/-- The names on the wire are the field list of the requests.  Where no field is listed
twice, each field has one member, and the timestamp has one more; so the names are in the
order of requests exactly if the timestamp is neither the key nor listed. -/
theorem wireNames_inOrder_iff {schema : ContainerSchema} (registry : CategoricalRegistry)
    (hfields : schema.fields.Nodup) :
    (ofSchema schema registry).wireNames = Request.fieldList schema ∧
      (∀ name, (ofSchema schema registry).wireNames.count name =
        (if name ∈ schema.fieldNames then 1 else 0) +
          if name = Request.createdDateField then 1 else 0) ∧
      (Request.InOrder schema (ofSchema schema registry).wireNames ↔
        Request.createdDateField ∉ schema.fieldNames) := by
  have hwires : (ofSchema schema registry).wireNames = Request.fieldList schema :=
    Reading.map_wire_members schema registry
  rw [hwires]
  exact ⟨rfl, Request.count_fieldList_of_nodup hfields,
    Request.inOrder_fieldList_iff hfields⟩

/-- The key stands among the fields, and a field differs from the timestamp by a
capital. -/
theorem wireNames_inOrder_of_job :
    let schema : ContainerSchema := ⟨"job", "no", ["createdDate", "no", "amount"]⟩
    schema.fields.Nodup ∧
      Request.InOrder schema (ofSchema schema .builtin).wireNames ∧
      (ofSchema schema .builtin).wireNames =
        ["no", "createdDate", "amount", "createddate"] := by
  intro schema
  have hfields : schema.fields.Nodup := by decide
  obtain ⟨hwires, _, hiff⟩ := wireNames_inOrder_iff .builtin hfields
  exact ⟨hfields, hiff.mpr (by decide), hwires⟩

/-- A timestamp that is the key, or is listed, has two members. -/
theorem exists_wire_name_twice :
    ∃ (keyed listed : ContainerSchema) (registry : CategoricalRegistry),
      keyed.fields.Nodup ∧ listed.fields.Nodup ∧
        (ofSchema keyed registry).wireNames.count keyed.keyField = 2 ∧
        ¬ (ofSchema keyed registry).wireNames.Nodup ∧
        (ofSchema listed registry).wireNames.count Request.createdDateField = 2 ∧
        ¬ (ofSchema listed registry).wireNames.Nodup :=
  ⟨⟨"job", "createddate", []⟩, ⟨"job", "no", ["createddate"]⟩, .empty, by decide, by decide,
    by decide, by decide, by decide, by decide⟩

end RecordModel

end TypedContainers
