import TypedContainers.Proofs.Naming
import TypedContainers.Proofs.Text.Literal
import TypedContainers.Record.Unit

/-!
# The lines of a record's text

Declared names hold no line feed and literals stay on one line, so the text of a
record has exactly the lines it was written with, unless the container's own name
brings a line feed into the header.
-/

namespace TypedContainers.Source

open Text (OneLine oneLine_ofList)

theorem oneLine_pascal (text : String) : OneLine (Naming.pascal text) := by
  intro hmem
  exact absurd (Naming.isAlphanum_of_mem_pascal hmem) (by decide)

/-- A model whose texts stand on one line each. -/
structure OnOneLine (model : RecordModel) : Prop where
  containerName : OneLine model.containerName
  typeName : OneLine model.typeName
  members : ∀ member ∈ model.members, OneLine member.name ∧ OneLine member.type
  enums : ∀ definition ∈ model.enums,
    OneLine definition.name ∧ ∀ v ∈ definition.variants, OneLine v.ident

theorem oneLine_declaredType (fieldClass : FieldClass) :
    OneLine fieldClass.declaredType := by
  cases fieldClass with
  | key => exact oneLine_ofList (by decide)
  | categorical typeName => exact oneLine_pascal typeName
  | plain => exact oneLine_ofList (by decide)

theorem oneLine_enumDefinition (entry : CategoricalField) :
    OneLine entry.enumDefinition.name ∧
      ∀ v ∈ entry.enumDefinition.variants, OneLine v.ident := by
  refine ⟨oneLine_pascal _, ?_⟩
  intro v hv
  simp only [CategoricalField.enumDefinition, List.mem_map] at hv
  obtain ⟨wire, _, rfl⟩ := hv
  exact oneLine_pascal _

/-- Only the container's own name can bring a line feed into a record's text. -/
theorem onOneLine_ofSchema {schema : ContainerSchema} (registry : CategoricalRegistry)
    (hname : OneLine schema.name) : OnOneLine (RecordModel.ofSchema schema registry) where
  containerName := hname
  typeName := oneLine_pascal schema.name
  members := by
    intro member hmember
    simp only [RecordModel.ofSchema, List.mem_cons, List.mem_append, List.mem_map,
      List.not_mem_nil, or_false] at hmember
    rcases hmember with rfl | ⟨field, _, rfl⟩ | rfl
    · exact ⟨oneLine_pascal _, oneLine_declaredType _⟩
    · exact ⟨oneLine_pascal _, oneLine_declaredType _⟩
    · exact ⟨oneLine_ofList (by decide), oneLine_ofList (by decide)⟩
  enums := by
    intro definition hdefinition
    simp only [RecordModel.ofSchema, List.mem_map] at hdefinition
    obtain ⟨entry, _, rfl⟩ := hdefinition
    exact oneLine_enumDefinition entry

theorem oneLine_itemLines {indent : String} {items : List String}
    (hindent : OneLine indent) (hitems : ∀ item ∈ items, OneLine item) :
    ∀ line ∈ itemLines indent items, OneLine line := by
  induction items with
  | nil => simp [itemLines]
  | cons item rest ih =>
      have hitem := hitems item List.mem_cons_self
      have hrest := ih fun other hother => hitems other (List.mem_cons_of_mem item hother)
      cases rest with
      | nil => simpa [itemLines] using hindent.append hitem
      | cons next others =>
          intro line hline
          rw [itemLines] at hline
          · rcases List.mem_cons.mp hline with rfl | hline
            · exact (hindent.append hitem).append (oneLine_ofList (by decide))
            · exact hrest line hline
          · simp

theorem oneLine_memberLines {member : Member} (hname : OneLine member.name)
    (htype : OneLine member.type) :
    ∀ line ∈ memberLines member, OneLine line := by
  have hkey : OneLine "    /// Key field." := oneLine_ofList (by decide)
  have hstart : OneLine "    #[serde(rename = " := oneLine_ofList (by decide)
  have hend : OneLine ")]" := oneLine_ofList (by decide)
  have hpub : OneLine "    pub " := oneLine_ofList (by decide)
  have hcolon : OneLine ": " := oneLine_ofList (by decide)
  have hcomma : OneLine "," := oneLine_ofList (by decide)
  intro line hline
  simp only [memberLines, List.mem_append, List.mem_cons, List.not_mem_nil,
    or_false] at hline
  rcases hline with hline | rfl | rfl
  · split at hline
    · exact List.mem_singleton.mp hline ▸ hkey
    · exact absurd hline List.not_mem_nil
  · exact (hstart.append (Literal.oneLine_quote _)).append hend
  · exact (((hpub.append hname).append hcolon).append htype).append hcomma

theorem oneLine_structLines {model : RecordModel} (hmodel : OnOneLine model) :
    ∀ line ∈ structLines model, OneLine line := by
  have hstruct : OneLine "pub struct " := oneLine_ofList (by decide)
  have hbrace : OneLine " \x7b" := oneLine_ofList (by decide)
  intro line hline
  simp only [structLines, List.mem_append, List.mem_cons, List.mem_flatMap,
    List.not_mem_nil, or_false] at hline
  rcases hline with ((rfl | rfl | rfl) | ⟨member, hmember, hline⟩) | rfl
  · exact oneLine_ofList (by decide)
  · exact oneLine_ofList (by decide)
  · exact (hstruct.append hmodel.typeName).append hbrace
  · obtain ⟨hname, htype⟩ := hmodel.members member hmember
    exact oneLine_memberLines hname htype line hline
  · exact oneLine_ofList (by decide)

theorem oneLine_keyLines {model : RecordModel} (hmodel : OnOneLine model) :
    ∀ line ∈ keyLines model, OneLine line := by
  have himpl : OneLine "impl " := oneLine_ofList (by decide)
  have hbrace : OneLine " \x7b" := oneLine_ofList (by decide)
  have hconst : OneLine "    pub const KEY_FIELD: &'static str = " :=
    oneLine_ofList (by decide)
  have hsemicolon : OneLine ";" := oneLine_ofList (by decide)
  intro line hline
  simp only [keyLines, List.mem_cons, List.not_mem_nil, or_false] at hline
  rcases hline with rfl | rfl | rfl | rfl
  · exact (himpl.append hmodel.typeName).append hbrace
  · exact oneLine_ofList (by decide)
  · exact (hconst.append (Literal.oneLine_quote _)).append hsemicolon
  · exact oneLine_ofList (by decide)

theorem oneLine_instancesLines {fields : List String}
    (hfields : ∀ field ∈ fields, OneLine field) :
    ∀ line ∈ instancesLines fields, OneLine line := by
  have hindent : OneLine "                        " := oneLine_ofList (by decide)
  simp only [instancesLines, List.forall_mem_append, List.forall_mem_cons,
    List.not_mem_nil, false_imp_iff, implies_true, and_true]
  refine ⟨⟨?_, oneLine_itemLines hindent hfields⟩, ?_⟩
  all_goals and_intros
  all_goals exact oneLine_ofList (by decide)

theorem oneLine_filterLines {fields : List String}
    (hfields : ∀ field ∈ fields, OneLine field) :
    ∀ line ∈ filterLines fields, OneLine line := by
  have hindent : OneLine "                " := oneLine_ofList (by decide)
  simp only [filterLines, List.forall_mem_append, List.forall_mem_cons,
    List.not_mem_nil, false_imp_iff, implies_true, and_true]
  refine ⟨⟨?_, oneLine_itemLines hindent hfields⟩, ?_⟩
  all_goals and_intros
  all_goals exact oneLine_ofList (by decide)

theorem oneLine_implLines {model : RecordModel} (hmodel : OnOneLine model) :
    ∀ line ∈ implLines model, OneLine line := by
  have hfields : ∀ field ∈ model.documentFields.map Literal.quote, OneLine field := by
    simp [Literal.oneLine_quote]
  intro line hline
  simp only [implLines, List.mem_append, List.mem_singleton] at hline
  rcases hline with (((hline | hline) | rfl) | hline) | rfl
  · exact oneLine_keyLines hmodel line hline
  · exact oneLine_instancesLines hfields line hline
  · exact oneLine_ofList (by decide)
  · exact oneLine_filterLines hfields line hline
  · exact oneLine_ofList (by decide)

theorem oneLine_variantLines {v : EnumVariant} (hv : OneLine v.ident)
    (screamingSnake isFirst : Bool) :
    ∀ line ∈ variantLines screamingSnake isFirst v, OneLine line := by
  have hstart : OneLine "    #[serde(rename = " := oneLine_ofList (by decide)
  have hend : OneLine ")]" := oneLine_ofList (by decide)
  have hindent : OneLine "    " := oneLine_ofList (by decide)
  have hcomma : OneLine "," := oneLine_ofList (by decide)
  intro line hline
  simp only [variantLines, List.mem_append, List.mem_singleton] at hline
  rcases hline with (hline | hline) | rfl
  · split at hline
    · exact List.mem_singleton.mp hline ▸ oneLine_ofList (by decide)
    · exact absurd hline List.not_mem_nil
  · split at hline
    · exact absurd hline List.not_mem_nil
    · rw [List.mem_singleton] at hline
      exact hline ▸ (hstart.append (Literal.oneLine_quote _)).append hend
  · exact (hindent.append hv).append hcomma

theorem oneLine_variantsLines {variants : List EnumVariant}
    (hvariants : ∀ v ∈ variants, OneLine v.ident) (screamingSnake : Bool) :
    ∀ line ∈ variantsLines screamingSnake variants, OneLine line := by
  cases variants with
  | nil => simp [variantsLines]
  | cons first rest =>
      intro line hline
      rw [variantsLines, List.mem_append, List.mem_flatMap] at hline
      rcases hline with hline | ⟨v, hv, hline⟩
      · exact oneLine_variantLines (hvariants first List.mem_cons_self) _ _ line hline
      · exact oneLine_variantLines (hvariants v (List.mem_cons_of_mem first hv)) _ _
          line hline

theorem oneLine_declarationLines {definition : EnumDefinition}
    (hname : OneLine definition.name)
    (hvariants : ∀ v ∈ definition.variants, OneLine v.ident) :
    ∀ line ∈ declarationLines definition, OneLine line := by
  have henum : OneLine "pub enum " := oneLine_ofList (by decide)
  have hbrace : OneLine " \x7b" := oneLine_ofList (by decide)
  intro line hline
  simp only [declarationLines, List.mem_append, List.mem_singleton] at hline
  rcases hline with (((rfl | hline) | rfl) | hline) | rfl
  · exact oneLine_ofList (by decide)
  · split at hline
    · exact List.mem_singleton.mp hline ▸ oneLine_ofList (by decide)
    · exact absurd hline List.not_mem_nil
  · exact (henum.append hname).append hbrace
  · exact oneLine_variantsLines hvariants _ line hline
  · exact oneLine_ofList (by decide)

theorem oneLine_armLine {name : String} {v : EnumVariant} (hname : OneLine name)
    (hv : OneLine v.ident) : OneLine (armLine name v) := by
  have hsome : OneLine "            Some(" := oneLine_ofList (by decide)
  have harrow : OneLine ") => " := oneLine_ofList (by decide)
  have hcolons : OneLine "::" := oneLine_ofList (by decide)
  have hcomma : OneLine "," := oneLine_ofList (by decide)
  have hread := (hsome.append (Literal.oneLine_quote v.wire)).append harrow
  exact (((hread.append hname).append hcolons).append hv).append hcomma

theorem oneLine_readerLines {definition : EnumDefinition}
    (hname : OneLine definition.name)
    (hvariants : ∀ v ∈ definition.variants, OneLine v.ident) :
    ∀ line ∈ readerLines definition, OneLine line := by
  have himpl : OneLine "impl<'de> Deserialize<'de> for " := oneLine_ofList (by decide)
  have hbrace : OneLine " \x7b" := oneLine_ofList (by decide)
  have hindent : OneLine "            _ => " := oneLine_ofList (by decide)
  have hdefault : OneLine "::default()," := oneLine_ofList (by decide)
  simp only [readerLines, List.forall_mem_append, List.forall_mem_cons, List.not_mem_nil,
    false_imp_iff, implies_true, and_true]
  refine ⟨⟨⟨?_, (himpl.append hname).append hbrace, ?_⟩, ?_⟩,
    (hindent.append hname).append hdefault, ?_⟩
  · exact oneLine_ofList (by decide)
  · and_intros
    all_goals exact oneLine_ofList (by decide)
  · intro line hline
    obtain ⟨v, hv, rfl⟩ := List.mem_map.mp hline
    exact oneLine_armLine hname (hvariants v hv)
  · and_intros
    all_goals exact oneLine_ofList (by decide)

theorem oneLine_enumLines {definition : EnumDefinition} (hname : OneLine definition.name)
    (hvariants : ∀ v ∈ definition.variants, OneLine v.ident) :
    ∀ line ∈ enumLines definition, OneLine line := by
  intro line hline
  simp only [enumLines, List.mem_append, List.mem_singleton] at hline
  rcases hline with ((rfl | hline) | rfl) | hline
  · exact oneLine_ofList (by decide)
  · exact oneLine_declarationLines hname hvariants line hline
  · exact oneLine_ofList (by decide)
  · exact oneLine_readerLines hname hvariants line hline

theorem oneLine_headerLine {model : RecordModel} (hmodel : OnOneLine model) :
    OneLine (headerLine model) := by
  have hopen : OneLine "// @generated by voldelig from container `" :=
    oneLine_ofList (by decide)
  have hclose : OneLine "`. Do not edit." := oneLine_ofList (by decide)
  exact (hopen.append hmodel.containerName).append hclose

theorem oneLine_preambleLines {model : RecordModel} (hmodel : OnOneLine model) :
    ∀ line ∈ preambleLines model, OneLine line := by
  intro line hline
  simp only [preambleLines, List.mem_cons, List.not_mem_nil, or_false] at hline
  rcases hline with rfl | rfl | rfl | rfl
  · exact oneLine_headerLine hmodel
  · exact oneLine_ofList (by decide)
  · exact oneLine_ofList (by decide)
  · exact oneLine_ofList (by decide)

theorem oneLine_recordLines {model : RecordModel} (hmodel : OnOneLine model) :
    ∀ line ∈ recordLines model, OneLine line := by
  intro line hline
  simp only [recordLines, List.mem_append, List.mem_singleton, List.mem_flatMap] at hline
  rcases hline with (((hline | hline) | rfl) | hline) | ⟨definition, hdefinition, hline⟩
  · exact oneLine_preambleLines hmodel line hline
  · exact oneLine_structLines hmodel line hline
  · exact oneLine_ofList (by decide)
  · exact oneLine_implLines hmodel line hline
  · obtain ⟨hname, hvariants⟩ := hmodel.enums definition hdefinition
    exact oneLine_enumLines hname hvariants line hline

/-- The text of a record is read as the lines it was written with. -/
theorem lines_ofSchema {schema : ContainerSchema} (registry : CategoricalRegistry)
    (hname : OneLine schema.name) :
    Text.lines (GeneratedUnit.ofSchema registry schema).text =
      (recordLines (RecordModel.ofSchema schema registry)).map String.toList ++ [[]] := by
  have hlines := oneLine_recordLines (onOneLine_ofSchema registry hname)
  have htext := Text.lines_unlines hlines
  simpa only [GeneratedUnit.ofSchema] using htext

end TypedContainers.Source
