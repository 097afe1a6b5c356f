import TypedContainers.Proofs.Record.Lines
import TypedContainers.Proofs.Record.Unit

/-!
# The header and the lines below it

A container's own name reaches the text of its record twice: as the name the record
is declared under, and as it was configured, in the comment of the first line.  It is
not escaped there, so a line feed in it ends the comment.
-/

namespace TypedContainers.Source

open Text (OneLine oneLine_ofList)

/-- The header before the configured name. -/
def headerStart : String :=
  "// @generated by voldelig from container `"

/-- The header after the configured name. -/
def headerEnd : String :=
  "`. Do not edit."

theorem oneLine_headerStart : OneLine headerStart :=
  oneLine_ofList (by decide)

theorem oneLine_headerEnd : OneLine headerEnd :=
  oneLine_ofList (by decide)

theorem recordLines_eq_cons (model : RecordModel) :
    recordLines model = headerLine model :: (recordLines model).tail := rfl

/-- The configured name stands in the first line only. -/
theorem tail_recordLines_rename (model : RecordModel) (name : String) :
    (recordLines { model with containerName := name }).tail = (recordLines model).tail := rfl

/-- Two containers with one key, the same fields and one declared name have the same
record, apart from the name they were configured with. -/
theorem ofSchema_eq_rename {first second : ContainerSchema}
    (registry : CategoricalRegistry) (hkey : first.keyField = second.keyField)
    (hfields : first.fields = second.fields) (htype : first.typeName = second.typeName) :
    RecordModel.ofSchema first registry =
      { RecordModel.ofSchema second registry with containerName := first.name } := by
  obtain ⟨firstName, key, fields⟩ := first
  obtain ⟨secondName, key', fields'⟩ := second
  obtain rfl : key = key' := hkey
  obtain rfl : fields = fields' := hfields
  have hpascal : Naming.pascal firstName = Naming.pascal secondName := htype
  simp only [RecordModel.ofSchema, hpascal]
  rfl

theorem tail_recordLines_ofSchema {first second : ContainerSchema}
    (registry : CategoricalRegistry) (hkey : first.keyField = second.keyField)
    (hfields : first.fields = second.fields) (htype : first.typeName = second.typeName) :
    (recordLines (.ofSchema first registry)).tail =
      (recordLines (.ofSchema second registry)).tail := by
  rw [ofSchema_eq_rename registry hkey hfields htype, tail_recordLines_rename]

/-- The text of a record is its header, a line feed and what is written below. -/
theorem toList_text_ofSchema (registry : CategoricalRegistry) (schema : ContainerSchema) :
    (GeneratedUnit.ofSchema registry schema).text.toList =
      (headerLine (.ofSchema schema registry)).toList ++
        '\n' :: (Text.unlines (recordLines (.ofSchema schema registry)).tail).toList := by
  simp only [GeneratedUnit.ofSchema]
  rw [recordLines_eq_cons, Text.unlines_cons, List.tail_cons]

theorem toList_headerLine (model : RecordModel) :
    (headerLine model).toList =
      headerStart.toList ++ (model.containerName.toList ++ headerEnd.toList) := by
  have hheader : headerLine model = headerStart ++ model.containerName ++ headerEnd := rfl
  rw [hheader, String.toList_append, String.toList_append, List.append_assoc]

/-- Below the first line of a text stand the later lines of the header, which are
those the configured name brings along, and then the record. -/
theorem tail_lines_ofSchema (registry : CategoricalRegistry) (schema : ContainerSchema) :
    (Text.lines (GeneratedUnit.ofSchema registry schema).text).tail =
      (Text.split '\n' (schema.name.toList ++ headerEnd.toList)).tail ++
        Text.lines (Text.unlines (recordLines (.ofSchema schema registry)).tail) := by
  rw [Text.lines, toList_text_ofSchema, Text.tail_split_append_cons, toList_headerLine,
    Text.tail_split_append oneLine_headerStart]
  rfl

/-- The texts of two containers that are declared alike, with the same key and the
same fields, agree below their first lines exactly if their names do.  Names on one
line always do; a line feed in a name puts what follows it outside the comment. -/
theorem tail_lines_eq_iff {first second : ContainerSchema}
    (registry : CategoricalRegistry) (hkey : first.keyField = second.keyField)
    (hfields : first.fields = second.fields) (htype : first.typeName = second.typeName) :
    (Text.lines (GeneratedUnit.ofSchema registry first).text).tail =
        (Text.lines (GeneratedUnit.ofSchema registry second).text).tail ↔
      (Text.lines first.name).tail = (Text.lines second.name).tail := by
  rw [tail_lines_ofSchema, tail_lines_ofSchema,
    tail_recordLines_ofSchema registry hkey hfields htype, List.append_cancel_right_eq]
  exact Text.tail_split_append_right_inj oneLine_headerEnd first.name.toList second.name.toList

/-- A space and a hyphen end a word alike, and neither ends the comment. -/
theorem tail_lines_eq_of_job_cost :
    let spaced : ContainerSchema := ⟨"job cost", "no", ["amount"]⟩
    let hyphenated : ContainerSchema := ⟨"job-cost", "no", ["amount"]⟩
    spaced.typeName = hyphenated.typeName ∧
      (Text.lines (GeneratedUnit.ofSchema .builtin spaced).text).tail =
        (Text.lines (GeneratedUnit.ofSchema .builtin hyphenated).text).tail := by
  intro spaced hyphenated
  have hkey : spaced.keyField = hyphenated.keyField := rfl
  have hfields : spaced.fields = hyphenated.fields := rfl
  have htype : spaced.typeName = hyphenated.typeName := by decide
  have hnames : (Text.lines spaced.name).tail = (Text.lines hyphenated.name).tail := by
    decide
  exact ⟨htype, (tail_lines_eq_iff .builtin hkey hfields htype).mpr hnames⟩

/-- A line feed ends a word as a space does, but it also ends the comment: the rest of
the header then stands among the lines below. -/
theorem exists_text_outside_header :
    ∃ (first second : ContainerSchema) (registry : CategoricalRegistry),
      first.keyField = second.keyField ∧ first.fields = second.fields ∧
        first.typeName = second.typeName ∧
        (Text.lines (GeneratedUnit.ofSchema registry first).text).tail ≠
          (Text.lines (GeneratedUnit.ofSchema registry second).text).tail := by
  let broken : ContainerSchema := ⟨"a\nb", "k", []⟩
  let spaced : ContainerSchema := ⟨"a b", "k", []⟩
  have hkey : broken.keyField = spaced.keyField := rfl
  have hfields : broken.fields = spaced.fields := rfl
  have htype : broken.typeName = spaced.typeName := by decide
  refine ⟨broken, spaced, ⟨[]⟩, hkey, hfields, htype, ?_⟩
  rw [tail_lines_ofSchema, tail_lines_ofSchema,
    tail_recordLines_ofSchema ⟨[]⟩ hkey hfields htype]
  intro heq
  exact absurd (List.append_cancel_right heq) (by decide)

end TypedContainers.Source
