import TypedContainers.Proofs.Categorical.Registry
import TypedContainers.Proofs.Record.Members

/-!
# Declared names

The text of a record declares its type, the type's members and the enumerations that they
need.  The names of enumerations and variants were validated with the table.  Those of
the type and of its members come from the configuration as it is, so whether they are
identifiers, and whether an enumeration takes the name of another type, depends on how
the configured names are spelled.
-/

namespace TypedContainers

/-! ## Identifiers -/

/-- A text that is declared under an identifier: its first letter or digit is a letter,
and it is not just the word `self`. -/
def Naming.SpellsIdentifier (text : String) : Prop :=
  (text.toList.find? Char.isAlphanum).any Char.isAlpha ∧ ¬Naming.SpellsWord "self" text

instance (text : String) : Decidable (Naming.SpellsIdentifier text) :=
  inferInstanceAs (Decidable (_ ∧ _))

namespace IdentifierFault

/-- A name starts with a character that is no digit exactly if the first letter or digit
of the text is a letter. -/
theorem exists_toList_pascal_iff {text : String} :
    (∃ first rest, (Naming.pascal text).toList = first :: rest ∧ first.isDigit = false) ↔
      (text.toList.find? Char.isAlphanum).any Char.isAlpha := by
  have hhead := Naming.head?_pascal text
  cases hfind : text.toList.find? Char.isAlphanum with
  | none =>
      rw [hfind, Option.map_none, List.head?_eq_none_iff] at hhead
      simp [hhead]
  | some c =>
      have hc : c.isAlphanum := List.find?_some hfind
      rw [hfind, Option.map_some, List.head?_eq_some_iff] at hhead
      obtain ⟨rest, hchars⟩ := hhead
      rw [hchars, Option.any_some, Naming.isAlpha_iff hc, ← Naming.isDigit_toUpper hc]
      constructor
      · rintro ⟨first, others, heq, hdigit⟩
        rwa [(List.cons.inj heq).1]
      · intro hdigit
        exact ⟨c.toUpper, rest, rfl, hdigit⟩

theorem pascal_eq_reserved_iff {text : String} :
    Naming.pascal text = "Self" ↔ Naming.SpellsWord "self" text := by
  have hcapital : String.ofList (Naming.capitalize "self".toList) = "Self" := by decide
  rw [← hcapital]
  exact Naming.pascal_eq_iff_spellsWord (by decide) (by decide)

/-- The name of a text has no fault exactly if the text spells an identifier. -/
theorem of?_pascal_eq_none_iff {text : String} :
    of? (Naming.pascal text) = none ↔ Naming.SpellsIdentifier text := by
  rw [of?_eq_none_iff, exists_toList_pascal_iff, Ne, pascal_eq_reserved_iff,
    Naming.SpellsIdentifier]

end IdentifierFault

namespace RecordModel

/-- The names of a record's enumerations and their variants. -/
def enumNames (model : RecordModel) : List String :=
  model.enums.flatMap fun definition =>
    definition.name :: definition.variants.map EnumVariant.ident

/-- A validated table declares identifiers only. -/
theorem of?_of_mem_enumNames {registry : CategoricalRegistry}
    (hvalid : registry.fault? = none) (schema : ContainerSchema) {name : String}
    (hname : name ∈ (ofSchema schema registry).enumNames) :
    IdentifierFault.of? name = none := by
  simp only [enumNames, ofSchema, List.mem_flatMap, List.mem_map, List.mem_cons] at hname
  obtain ⟨_, ⟨entry, hentry, rfl⟩, hname⟩ := hname
  have hmem := (CategoricalRegistry.mem_presentIn.mp hentry).1
  have hwell := (CategoricalRegistry.fault?_eq_none_iff.mp hvalid).1 entry hmem
  rcases hname with rfl | ⟨v, hv, rfl⟩
  · exact hwell.name
  · exact hwell.idents v hv

/-- The members of a record are declared under identifiers exactly if all its fields spell
one. -/
theorem of?_memberNames_iff (schema : ContainerSchema) (registry : CategoricalRegistry) :
    (∀ name ∈ (ofSchema schema registry).memberNames, IdentifierFault.of? name = none) ↔
      ∀ field ∈ schema.fieldNames, Naming.SpellsIdentifier field := by
  have htimestamp : IdentifierFault.of? createdDateMember.name = none := by decide
  simp only [memberNames_ofSchema, List.forall_mem_append, List.forall_mem_map,
    List.forall_mem_singleton, htimestamp, and_true, mem_keyField_cons_nonKeyFields,
    IdentifierFault.of?_pascal_eq_none_iff]

/-- What the units for a validated table declare: their enumerations always have
identifiers as names, and so have their types, the modules and the members of the types
exactly if every container and every field is spelled so. -/
theorem identifiers_of_units {containers : List ContainerSchema}
    {registry : CategoricalRegistry} {units : List GeneratedUnit}
    (hvalid : registry.fault? = none)
    (hunits : generateUnits containers registry = .ok units) :
    (∀ schema ∈ containers, ∀ name ∈ (ofSchema schema registry).enumNames,
      IdentifierFault.of? name = none) ∧
    ((∀ unit ∈ units,
        unit.fileBaseName = unit.typeName ∧ IdentifierFault.of? unit.typeName = none) ∧
      (∀ schema ∈ containers, ∀ name ∈ (ofSchema schema registry).memberNames,
        IdentifierFault.of? name = none) ↔
      ∀ schema ∈ containers, ∀ text ∈ schema.name :: schema.fieldNames,
        Naming.SpellsIdentifier text) := by
  refine ⟨fun schema _ name hname => of?_of_mem_enumNames hvalid schema hname, ?_⟩
  have htypes : (∀ unit ∈ units,
      unit.fileBaseName = unit.typeName ∧ IdentifierFault.of? unit.typeName = none) ↔
      ∀ schema ∈ containers, Naming.SpellsIdentifier schema.name := by
    rw [(generateUnits_eq_ok_iff.mp hunits).2, List.forall_mem_map]
    simp only [GeneratedUnit.ofSchema, ofSchema, true_and,
      IdentifierFault.of?_pascal_eq_none_iff]
  rw [htypes]
  simp only [of?_memberNames_iff, List.forall_mem_cons]
  constructor
  · rintro ⟨hnames, hfields⟩ schema hschema
    exact ⟨hnames schema hschema, hfields schema hschema⟩
  · intro hall
    exact ⟨fun schema hschema => (hall schema hschema).1,
      fun schema hschema => (hall schema hschema).2⟩

/-- `Self` with more around it is an identifier, and so is a word before a digit. -/
theorem identifiers_of_employee_card :
    let schema : ContainerSchema := ⟨"employee_card", "no. 2", ["self-service", "gender"]⟩
    let units := [GeneratedUnit.ofSchema .builtin schema]
    CategoricalRegistry.builtin.fault? = none ∧
      generateUnits [schema] .builtin = .ok units ∧
      (∀ unit ∈ units, IdentifierFault.of? unit.typeName = none) ∧
      (ofSchema schema .builtin).memberNames =
        ["No2", "SelfService", "Gender", "CreatedDate"] ∧
      ∀ name ∈ (ofSchema schema .builtin).memberNames, IdentifierFault.of? name = none := by
  intro schema units
  have hvalid := CategoricalRegistry.fault?_builtin
  have hunits : generateUnits [schema] .builtin = .ok units := rfl
  have hspelled : ∀ other ∈ [schema], ∀ text ∈ other.name :: other.fieldNames,
      Naming.SpellsIdentifier text := by decide
  obtain ⟨_, hiff⟩ := identifiers_of_units hvalid hunits
  obtain ⟨htypes, hmembers⟩ := hiff.mpr hspelled
  exact ⟨hvalid, hunits, fun unit hunit => (htypes unit hunit).2, by decide,
    hmembers schema List.mem_cons_self⟩

/-- A container without a letter or digit, a key that starts with a digit and a field that
is the reserved word are generated all the same. -/
theorem exists_units_without_identifiers :
    ∃ (schema : ContainerSchema) (registry : CategoricalRegistry)
      (units : List GeneratedUnit), registry.fault? = none ∧
        generateUnits [schema] registry = .ok units ∧
        units.map (fun unit => IdentifierFault.of? unit.typeName) = [some .empty] ∧
        (ofSchema schema registry).memberNames.map IdentifierFault.of? =
          [some .leadingDigit, some .reserved, none] :=
  ⟨⟨"---", "2nd", ["self"]⟩, .empty, _, rfl, rfl, by decide, by decide⟩

/-! ## Type names -/

/-- The names of a record's enumerations. -/
def enumTypeNames (model : RecordModel) : List String :=
  model.enums.map EnumDefinition.name

theorem enumTypeNames_ofSchema (schema : ContainerSchema) (registry : CategoricalRegistry) :
    (ofSchema schema registry).enumTypeNames =
      (registry.presentIn schema).map CategoricalField.enumName := by
  simp [enumTypeNames, ofSchema, Function.comp_def]

/-- The enumerations of a record do not have a certain name exactly if no entry for one of
the fields has it. -/
theorem not_mem_enumTypeNames_iff {schema : ContainerSchema}
    {registry : CategoricalRegistry} {name : String} :
    name ∉ (ofSchema schema registry).enumTypeNames ↔
      ∀ entry ∈ registry.entries, entry.field ∈ schema.fields → entry.enumName ≠ name := by
  simp only [enumTypeNames_ofSchema, List.mem_map, CategoricalRegistry.mem_presentIn,
    not_exists, not_and, and_imp]

theorem enumName_eq_textType_iff {entry : CategoricalField} :
    entry.enumName = textType ↔ Naming.SpellsWord "string" entry.typeName := by
  have hcapital : String.ofList (Naming.capitalize "string".toList) = textType := by decide
  rw [← hcapital]
  exact Naming.pascal_eq_iff_spellsWord (by decide) (by decide)

/-- The type names of a record over a validated table.  Its enumerations never share a
name.  None of them takes the name of the record or of the text type exactly if no entry
for a field of the container is named like the container, or spells the word
`string`. -/
theorem nodup_typeNames_iff {registry : CategoricalRegistry}
    (hvalid : registry.fault? = none) (schema : ContainerSchema) :
    let model := ofSchema schema registry
    model.enumTypeNames.Nodup ∧
      ((model.typeName :: model.enumTypeNames).Nodup ∧ textType ∉ model.enumTypeNames ↔
        ∀ entry ∈ registry.entries, entry.field ∈ schema.fields →
          entry.enumName ≠ schema.typeName ∧
            ¬ Naming.SpellsWord "string" entry.typeName) := by
  intro model
  have hdistinct : model.enumTypeNames.Nodup := by
    rw [enumTypeNames_ofSchema]
    exact CategoricalRegistry.nodup_enumName_presentIn hvalid schema
  have htypeName : model.typeName = schema.typeName := rfl
  refine ⟨hdistinct, ?_⟩
  rw [List.nodup_cons, htypeName, not_mem_enumTypeNames_iff, not_mem_enumTypeNames_iff]
  constructor
  · rintro ⟨⟨hrecord, _⟩, hstring⟩ entry hentry hfield
    exact ⟨hrecord entry hentry hfield,
      fun hspelled => hstring entry hentry hfield (enumName_eq_textType_iff.mpr hspelled)⟩
  · intro hall
    refine ⟨⟨fun entry hentry hfield => (hall entry hentry hfield).1, hdistinct⟩, ?_⟩
    intro entry hentry hfield heq
    exact (hall entry hentry hfield).2 (enumName_eq_textType_iff.mp heq)

/-- An entry of the container's own name does not matter where its field is not listed,
and `strings` is not `string`. -/
theorem nodup_typeNames_of_status :
    let registry := CategoricalRegistry.builtin.withExtra
      [⟨"status", "strings", ["none", "open"]⟩, ⟨"kind", "job", ["none", "fixed"]⟩]
    let model := ofSchema ⟨"job", "no", ["status", "gender"]⟩ registry
    registry.fault? = none ∧ model.enumTypeNames = ["GenderType", "Strings"] ∧
      (model.typeName :: model.enumTypeNames).Nodup ∧ textType ∉ model.enumTypeNames := by
  intro registry model
  have hvalid : registry.fault? = none := by decide
  obtain ⟨_, hiff⟩ := nodup_typeNames_iff hvalid ⟨"job", "no", ["status", "gender"]⟩
  exact ⟨hvalid, by decide, hiff.mpr (by decide)⟩

/-- A container may be declared under the name of an enumeration it uses, and an
enumeration under that of the text type. -/
theorem exists_type_name_twice :
    ∃ (schema other : ContainerSchema) (registry : CategoricalRegistry),
      registry.fault? = none ∧
        ¬ ((ofSchema schema registry).typeName ::
          (ofSchema schema registry).enumTypeNames).Nodup ∧
        textType ∈ (ofSchema other registry).enumTypeNames :=
  ⟨⟨"gender_type", "id", ["gender"]⟩, ⟨"job", "id", ["status"]⟩,
    CategoricalRegistry.builtin.withExtra [⟨"status", "string", ["none", "open"]⟩],
    by decide, by decide, by decide⟩

end RecordModel

end TypedContainers
