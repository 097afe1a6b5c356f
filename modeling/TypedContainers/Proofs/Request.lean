import TypedContainers.Request

/-!
# The field list of the requests

A request lists the key, the other fields and the timestamp.  A key that is listed among
the fields is not repeated; a timestamp that is listed, or is the key, is.
-/

namespace TypedContainers

/-- The names of a container's fields, with the key first. -/
def ContainerSchema.fieldNames (schema : ContainerSchema) : List String :=
  schema.keyField :: schema.fields

namespace Request

/-- The key counts once however often it is listed, every other field as often as it is
listed, and the timestamp once more. -/
theorem count_fieldList (schema : ContainerSchema) (name : String) :
    (fieldList schema).count name =
      (if name = schema.keyField then 1 else schema.fields.count name) +
        if name = createdDateField then 1 else 0 := by
  have hothers : schema.nonKeyFields.count name =
      if name = schema.keyField then 0 else schema.fields.count name := by
    by_cases hkey : name = schema.keyField
    · rw [if_pos hkey, List.count_eq_zero]
      simp [ContainerSchema.nonKeyFields, hkey]
    · rw [if_neg hkey]
      exact List.count_filter (by simpa using hkey)
  have htimestamp : List.count name [createdDateField] =
      if name = createdDateField then 1 else 0 := by
    by_cases hname : name = createdDateField
    · rw [if_pos hname, hname, List.count_singleton_self]
    · rw [if_neg hname, List.count_singleton, if_neg (by simpa using Ne.symm hname)]
  rw [fieldList, List.count_cons, List.count_append, hothers, htimestamp]
  by_cases hkey : name = schema.keyField
  · rw [if_pos hkey, if_pos hkey, if_pos (beq_iff_eq.mpr hkey.symm), Nat.zero_add,
      Nat.add_comm]
  · rw [if_neg hkey, if_neg hkey, if_neg fun heq => hkey (beq_iff_eq.mp heq).symm,
      Nat.add_zero]

/-- Where no field is listed twice, every field counts once. -/
theorem count_fieldList_of_nodup {schema : ContainerSchema} (hfields : schema.fields.Nodup)
    (name : String) :
    (fieldList schema).count name =
      (if name ∈ schema.fieldNames then 1 else 0) +
        if name = createdDateField then 1 else 0 := by
  rw [count_fieldList, ContainerSchema.fieldNames, hfields.count]
  by_cases hkey : name = schema.keyField
  · simp [hkey]
  · simp [hkey]

/-- Whether a field is neither the key nor the timestamp. -/
def isOther (schema : ContainerSchema) (name : String) : Bool :=
  name ≠ schema.keyField && name ≠ createdDateField

/-- Names that are in the order of requests: the key first, the timestamp last, between
them the other fields as the container lists them, and none of them twice. -/
structure InOrder (schema : ContainerSchema) (names : List String) : Prop where
  first : names.head? = some schema.keyField
  last : names.getLast? = some createdDateField
  others : names.filter (isOther schema) = schema.fields.filter (isOther schema)
  once : names.Nodup

/-- The other fields stay in the order they are listed in. -/
theorem filter_isOther_fieldList (schema : ContainerSchema) :
    (fieldList schema).filter (isOther schema) = schema.fields.filter (isOther schema) := by
  have hkey : isOther schema schema.keyField = false := by simp [isOther]
  have htimestamp : isOther schema createdDateField = false := by simp [isOther]
  have hothers : schema.nonKeyFields.filter (isOther schema) =
      schema.fields.filter (isOther schema) := by
    rw [ContainerSchema.nonKeyFields, List.filter_filter]
    apply List.filter_congr
    intro name _
    by_cases hname : name = schema.keyField
    · simp [isOther, hname]
    · simp [isOther, hname]
  rw [fieldList, List.filter_cons_of_neg (by simp [hkey]), List.filter_append, hothers,
    List.filter_cons_of_neg (by simp [htimestamp]), List.filter_nil, List.append_nil]

theorem nodup_fieldList_iff {schema : ContainerSchema} (hfields : schema.fields.Nodup) :
    (fieldList schema).Nodup ↔ createdDateField ∉ schema.fieldNames := by
  rw [List.nodup_iff_count]
  constructor
  · intro honce hmem
    have htwice := honce createdDateField
    rw [count_fieldList_of_nodup hfields, if_pos hmem, if_pos rfl] at htwice
    omega
  · intro hnew name
    rw [count_fieldList_of_nodup hfields]
    by_cases hname : name = createdDateField
    · exact Nat.le_of_eq (by rw [if_pos hname, hname, if_neg hnew, Nat.zero_add])
    · rw [if_neg hname]
      split <;> omega

/-- A field list without a repeat is in the order of requests unless the timestamp is
among the container's own fields. -/
theorem inOrder_fieldList_iff {schema : ContainerSchema} (hfields : schema.fields.Nodup) :
    InOrder schema (fieldList schema) ↔ createdDateField ∉ schema.fieldNames := by
  rw [← nodup_fieldList_iff hfields]
  constructor
  · exact InOrder.once
  · intro honce
    refine ⟨rfl, ?_, filter_isOther_fieldList schema, honce⟩
    rw [fieldList, ← List.cons_append, List.getLast?_concat]

end Request

end TypedContainers
