import TypedContainers.Proofs.Record.FieldLists

/-!
# Wire names in the text of a record

A record's text repeats the names of its fields in both request builders, in the
members of its type and, for the key, in a constant.  A reader of the text finds
the same names in all of these places, whatever characters they hold.
-/

namespace TypedContainers.Reading

open Source

/-! ## Members -/

theorem opensStruct_eq_false {line : Line} (hline : line.head? ≠ some 'p') :
    opensStruct line = false := by
  rw [opensStruct]
  cases hafter : after? "pub struct ".toList line with
  | none => rfl
  | some rest =>
      rw [after?_eq_some_iff] at hafter
      exact absurd (hafter ▸ rfl) hline

theorem opensStruct_structName (name : String) :
    opensStruct ("pub struct " ++ name ++ " \x7b").toList = true := by
  have hafter : after? "pub struct ".toList ("pub struct " ++ name ++ " \x7b").toList =
      some (name ++ " \x7b").toList := by
    rw [after?_eq_some_iff, String.append_assoc, String.toList_append]
  rw [opensStruct, hafter]
  rfl

theorem opensStruct_preambleLines (model : RecordModel) :
    ∀ line ∈ preambleLines model, opensStruct line.toList = false := by
  intro line hline
  simp only [preambleLines, List.mem_cons, List.not_mem_nil, or_false] at hline
  rcases hline with rfl | rfl | rfl | rfl
  · unfold headerLine
    rw [String.append_assoc]
    exact opensStruct_eq_false (head?_ofList_append_ne _ (by decide) (by decide))
  · exact opensStruct_eq_false (head?_ofList_ne (by decide))
  · exact opensStruct_eq_false (head?_ofList_ne (by decide))
  · exact opensStruct_eq_false (head?_ofList_ne (by decide))

theorem closesType_memberLines (member : Member) :
    ∀ line ∈ memberLines member, closesType line.toList = false := by
  intro line hline
  simp only [memberLines, List.mem_append, List.mem_cons, List.not_mem_nil,
    or_false, String.append_assoc] at hline
  apply closesType_eq_false
  rcases hline with hline | rfl | rfl
  · split at hline
    · rw [List.mem_singleton] at hline
      exact hline ▸ head?_ofList_ne (by decide)
    · exact absurd hline List.not_mem_nil
  · exact head?_ofList_append_ne _ (by decide) (by decide)
  · exact head?_ofList_append_ne _ (by decide) (by decide)

/-- A member is renamed once, to its wire name. -/
theorem filterMap_renamed?_memberLines (member : Member) :
    ((memberLines member).map String.toList).filterMap renamed? =
      [(Literal.quote member.wire).toList] := by
  have hkey : renamed? "    /// Key field.".toList = none := by
    apply renamed?_eq_none
    rw [String.toList_ofList]
    decide
  have hpub : renamed?
      ("    pub " ++ member.name ++ ": " ++ member.type ++ ",").toList = none := by
    apply renamed?_eq_none
    rw [getLast?_append_ofList _ (by decide)]
    decide
  have hattribute := renamed?_attribute member.wire
  rw [memberLines, List.map_append, List.filterMap_append, List.map_cons, List.map_cons,
    List.map_nil, List.filterMap_cons_some hattribute, List.filterMap_cons_none hpub]
  cases member.isKey with
  | true =>
      rw [if_pos rfl, List.map_singleton, List.filterMap_cons_none hkey]
      rfl
  | false => rfl

/-- The members of the record type are renamed to their wire names, in order. -/
theorem memberRenames_recordLines (model : RecordModel) (last : List Line) :
    memberRenames ((recordLines model).map String.toList ++ last) =
      model.members.map fun member => (Literal.quote member.wire).toList := by
  have hbefore : ∀ line ∈ (preambleLines model ++ ["#[allow(non_snake_case)]",
      "#[derive(Debug, Clone, PartialEq, Serialize, Deserialize)]"]).map String.toList,
      opensStruct line = false := by
    simp only [List.map_append, List.forall_mem_append]
    refine ⟨?_, ?_⟩
    · intro line hline
      obtain ⟨text, htext, rfl⟩ := List.mem_map.mp hline
      exact opensStruct_preambleLines model text htext
    · simp only [List.map_cons, List.map_nil, List.forall_mem_cons, List.not_mem_nil,
        false_imp_iff, implies_true, and_true]
      constructor
      all_goals exact opensStruct_eq_false (head?_ofList_ne (by decide))
  have hbody : ∀ line ∈ (model.members.flatMap memberLines).map String.toList,
      closesType line = false := by
    intro line hline
    obtain ⟨text, htext, rfl⟩ := List.mem_map.mp hline
    obtain ⟨member, _, hmember⟩ := List.mem_flatMap.mp htext
    exact closesType_memberLines member text hmember
  have hblock := block_append
    (([""] ++ implLines model ++ model.enums.flatMap enumLines).map String.toList ++ last)
    hbefore (opensStruct_structName model.typeName) hbody
    (by decide : closesType "\x7d".toList = true)
  have hlines : (recordLines model).map String.toList ++ last =
      (preambleLines model ++ ["#[allow(non_snake_case)]",
        "#[derive(Debug, Clone, PartialEq, Serialize, Deserialize)]"]).map String.toList ++
      ("pub struct " ++ model.typeName ++ " \x7b").toList ::
        ((model.members.flatMap memberLines).map String.toList ++ "\x7d".toList ::
          (([""] ++ implLines model ++ model.enums.flatMap enumLines).map String.toList ++
            last)) := by
    simp only [recordLines, structLines, List.map_append, List.map_cons, List.map_nil,
      List.append_assoc, List.cons_append, List.nil_append]
  rw [memberRenames, hlines, hblock, List.map_flatMap, List.filterMap_flatMap]
  simp only [filterMap_renamed?_memberLines]
  rw [List.map_eq_flatMap]

/-! ## The key -/

theorem keyConstant?_eq_none {line : Line} (hline : line.getLast? ≠ some ';') :
    keyConstant? line = none := by
  apply between?_eq_none_of_getLast?
  · simp
  · intro hlast
    exact hline (getLast?_of_unindent hlast)

theorem keyConstant?_preambleLines (model : RecordModel) :
    ∀ line ∈ preambleLines model, keyConstant? line.toList = none := by
  intro line hline
  simp only [preambleLines, List.mem_cons, List.not_mem_nil, or_false] at hline
  rcases hline with rfl | rfl | rfl | rfl
  · exact keyConstant?_eq_none (getLast?_append_ofList_ne _ (by decide) (by decide))
  · exact keyConstant?_eq_none (getLast?_ofList_ne (by decide))
  · rw [keyConstant?, between?, String.toList_ofList, String.toList_ofList]
    decide
  · exact keyConstant?_eq_none (getLast?_ofList_ne (by decide))

theorem keyConstant?_memberLines (member : Member) :
    ∀ line ∈ memberLines member, keyConstant? line.toList = none := by
  intro line hline
  simp only [memberLines, List.mem_append, List.mem_cons, List.not_mem_nil,
    or_false] at hline
  rcases hline with hline | rfl | rfl
  · split at hline
    · rw [List.mem_singleton] at hline
      exact hline ▸ keyConstant?_eq_none (getLast?_ofList_ne (by decide))
    · exact absurd hline List.not_mem_nil
  · exact keyConstant?_eq_none (getLast?_append_ofList_ne _ (by decide) (by decide))
  · exact keyConstant?_eq_none (getLast?_append_ofList_ne _ (by decide) (by decide))

theorem keyConstant?_structLines (model : RecordModel) :
    ∀ line ∈ structLines model, keyConstant? line.toList = none := by
  intro line hline
  simp only [structLines, List.mem_append, List.mem_cons, List.mem_flatMap,
    List.not_mem_nil, or_false] at hline
  rcases hline with ((rfl | rfl | rfl) | ⟨member, _, hline⟩) | rfl
  · exact keyConstant?_eq_none (getLast?_ofList_ne (by decide))
  · exact keyConstant?_eq_none (getLast?_ofList_ne (by decide))
  · exact keyConstant?_eq_none (getLast?_append_ofList_ne _ (by decide) (by decide))
  · exact keyConstant?_memberLines member line hline
  · exact keyConstant?_eq_none (getLast?_ofList_ne (by decide))

/-- The line of the constant sets it to the quoted key. -/
theorem keyConstant?_quote (key : String) :
    keyConstant? ("    pub const KEY_FIELD: &'static str = " ++ Literal.quote key ++
      ";").toList = some (Literal.quote key).toList := by
  have hindent : unindent ("    pub const KEY_FIELD: &'static str = " ++
      Literal.quote key ++ ";").toList =
      "pub const KEY_FIELD: &'static str = ".toList ++
        ((Literal.quote key).toList ++ ";".toList) := by
    rw [String.append_assoc, String.toList_append, String.toList_append,
      String.toList_ofList, String.toList_ofList]
    rfl
  rw [keyConstant?, hindent, between?_eq_some_iff]

/-- The constant for the key field is set to the quoted key. -/
theorem keyField?_recordLines (model : RecordModel) (last : List Line) :
    keyField? ((recordLines model).map String.toList ++ last) =
      some (Literal.quote model.keyField).toList := by
  have hbefore : ∀ line ∈ (preambleLines model ++ structLines model ++ ["",
      "impl " ++ model.typeName ++ " \x7b",
      "    /// Raw name of the key field."]).map String.toList,
      keyConstant? line = none := by
    intro line hline
    obtain ⟨text, htext, rfl⟩ := List.mem_map.mp hline
    simp only [List.mem_append, List.mem_cons, List.not_mem_nil, or_false] at htext
    rcases htext with (htext | htext) | rfl | rfl | rfl
    · exact keyConstant?_preambleLines model text htext
    · exact keyConstant?_structLines model text htext
    · exact keyConstant?_eq_none (getLast?_ofList_ne (by decide))
    · exact keyConstant?_eq_none (getLast?_append_ofList_ne _ (by decide) (by decide))
    · exact keyConstant?_eq_none (getLast?_ofList_ne (by decide))
  have hlines : (recordLines model).map String.toList ++ last =
      (preambleLines model ++ structLines model ++ ["",
        "impl " ++ model.typeName ++ " \x7b",
        "    /// Raw name of the key field."]).map String.toList ++
      ("    pub const KEY_FIELD: &'static str = " ++ Literal.quote model.keyField ++
        ";").toList ::
      (([""] ++ instancesLines (model.documentFields.map Literal.quote) ++ [""] ++
        filterLines (model.documentFields.map Literal.quote) ++ ["\x7d"] ++
        model.enums.flatMap enumLines).map String.toList ++ last) := by
    simp only [recordLines, implLines, keyLines, List.map_append, List.map_cons,
      List.map_nil, List.append_assoc, List.cons_append, List.nil_append]
  rw [keyField?, hlines, List.findSome?_append, List.findSome?_eq_none_iff.mpr hbefore,
    Option.none_or, List.findSome?_cons, keyConstant?_quote]

/-! ## All four places -/

theorem mapM_decode?_quote (texts : List String) :
    (texts.map fun text => (Literal.quote text).toList).mapM Literal.decode? =
      some texts := by
  induction texts with
  | nil => rfl
  | cons text rest ih =>
      rw [List.map_cons, List.mapM_cons, Literal.decode?_quote, ih]
      rfl

/-- The names that the members of a record have on the wire are the fields of its
requests. -/
theorem map_wire_members (schema : ContainerSchema) (registry : CategoricalRegistry) :
    (RecordModel.ofSchema schema registry).members.map Member.wire =
      Request.fieldList schema := by
  simp [RecordModel.ofSchema, RecordModel.keyMember, RecordModel.fieldMember,
    RecordModel.createdDateMember, Request.fieldList, Function.comp_def]

theorem items?_fieldBlock {indent : String} (hindent : ∀ c ∈ indent.toList, c = ' ')
    (texts : List String) :
    items? ((itemLines indent (texts.map Literal.quote)).map String.toList) =
      some (texts.map fun text => (Literal.quote text).toList) := by
  rw [items?_itemLines hindent]
  · simp [Function.comp_def]
  · intro item hitem
    obtain ⟨text, _, rfl⟩ := List.mem_map.mp hitem
    exact ⟨'"', text.toList.flatMap Literal.escape ++ ['"'], Literal.toList_quote text,
      by decide⟩

/-- A reader of the text of a record finds the fields of its requests in all the
places that repeat them.  The lists of both builders hold the same items, each of
them exactly one literal; these decode to the fields in order, and so do the names
that the members are renamed to; the constant for the key is the first of them. -/
theorem wire_names_of_text (schema : ContainerSchema) (registry : CategoricalRegistry)
    (hname : '\n' ∉ schema.name.toList) :
    let lines := Text.lines (GeneratedUnit.ofSchema registry schema).text
    ∃ literals : List Line,
      items? (fieldBlock instancesSignature lines) = some literals ∧
      items? (fieldBlock filterSignature lines) = some literals ∧
      literals.mapM Literal.decode? = some (Request.fieldList schema) ∧
      (memberRenames lines).mapM Literal.decode? = some (Request.fieldList schema) ∧
      (keyField? lines).bind Literal.decode? = (Request.fieldList schema).head? := by
  intro lines
  have hlines : lines = (recordLines (RecordModel.ofSchema schema registry)).map
      String.toList ++ [[]] := Source.lines_ofSchema registry hname
  refine ⟨(Request.fieldList schema).map fun text => (Literal.quote text).toList,
    ?_, ?_, mapM_decode?_quote _, ?_, ?_⟩
  · rw [hlines, fieldBlock_instancesSignature]
    exact items?_fieldBlock (by simp) (Request.fieldList schema)
  · rw [hlines, fieldBlock_filterSignature]
    exact items?_fieldBlock (by simp) (Request.fieldList schema)
  · have hwires := congrArg (List.map fun wire => (Literal.quote wire).toList)
      (map_wire_members schema registry)
    rw [List.map_map] at hwires
    rw [hlines, memberRenames_recordLines, ← mapM_decode?_quote, ← hwires]
    rfl
  · rw [hlines, keyField?_recordLines, Option.bind_some, Literal.decode?_quote]
    rfl

/-- A key with a colon, and a field with a quote, a backslash and a line feed. -/
theorem wire_names_of_unruly_fields :
    let schema : ContainerSchema := ⟨"job/\"line\"", "no: 1", ["\"a\\\n\"", "no: 1", "ß"]⟩
    let lines := Text.lines (GeneratedUnit.ofSchema .builtin schema).text
    '\n' ∉ schema.name.toList ∧
      (memberRenames lines).mapM Literal.decode? =
        some ["no: 1", "\"a\\\n\"", "ß", "createddate"] ∧
      (keyField? lines).bind Literal.decode? = some "no: 1" := by
  intro schema lines
  have hname : '\n' ∉ schema.name.toList := by decide
  have hfields : Request.fieldList schema =
      ["no: 1", "\"a\\\n\"", "ß", "createddate"] := by decide
  obtain ⟨_, _, _, _, hmembers, hkey⟩ := wire_names_of_text schema .builtin hname
  rw [hfields] at hmembers hkey
  exact ⟨hname, hmembers, hkey⟩

end TypedContainers.Reading
