import TypedContainers.Proofs.Categorical.Registry

/-!
# The entries of a table

A table is built from the empty or the built-in one by adding entries.  An entry for a
known field takes the place of the one before, so no field ever has two entries, and an
entry is found under its field.
-/

namespace TypedContainers.CategoricalRegistry

/-- The fields that have an entry, in table order. -/
def fields (registry : CategoricalRegistry) : List String :=
  registry.entries.map CategoricalField.field

/-- A table that is built by adding entries. -/
inductive Built : CategoricalRegistry → Prop
  | empty : Built .empty
  | builtin : Built .builtin
  | withExtra {registry : CategoricalRegistry} (extra : List CategoricalField)
      (hbuilt : Built registry) : Built (registry.withExtra extra)

/-- Putting an entry adds its field at the end, unless the field is known. -/
theorem map_field_put (entry : CategoricalField) (entries : List CategoricalField) :
    (put entry entries).map CategoricalField.field =
      if entry.field ∈ entries.map CategoricalField.field
      then entries.map CategoricalField.field
      else entries.map CategoricalField.field ++ [entry.field] := by
  induction entries with
  | nil => rfl
  | cons known rest ih =>
      by_cases hknown : known.field = entry.field
      · simp [put, hknown]
      · have hother : entry.field ≠ known.field := Ne.symm hknown
        rw [put, if_neg hknown, List.map_cons, List.map_cons, ih]
        split
        · rename_i hmem
          rw [if_pos (List.mem_cons_of_mem known.field hmem)]
        · rename_i hnew
          rw [if_neg (by simpa [hother] using hnew), List.cons_append]

theorem nodup_map_field_put {entries : List CategoricalField}
    (hdistinct : (entries.map CategoricalField.field).Nodup) (entry : CategoricalField) :
    ((put entry entries).map CategoricalField.field).Nodup := by
  rw [map_field_put]
  split
  · exact hdistinct
  · rename_i hnew
    exact List.nodup_append.mpr ⟨hdistinct, by simp, by simpa using hnew⟩

/-- Adding entries gives no field a second one. -/
theorem nodup_fields_withExtra {registry : CategoricalRegistry}
    (hdistinct : registry.fields.Nodup) (extra : List CategoricalField) :
    (registry.withExtra extra).fields.Nodup := by
  rw [fields, withExtra]
  rw [fields] at hdistinct
  generalize registry.entries = entries at hdistinct
  induction extra generalizing entries with
  | nil => exact hdistinct
  | cons entry rest ih => exact ih _ (nodup_map_field_put hdistinct entry)

/-- No field of a table that is built has two entries. -/
theorem Built.nodup_fields {registry : CategoricalRegistry} (hbuilt : registry.Built) :
    registry.fields.Nodup := by
  induction hbuilt with
  | empty => exact List.nodup_nil
  | builtin => decide
  | withExtra extra _ ih => exact nodup_fields_withExtra ih extra

/-- An entry is found under its field. -/
theorem lookup_field {registry : CategoricalRegistry} (hdistinct : registry.fields.Nodup)
    {entry : CategoricalField} (hentry : entry ∈ registry.entries) :
    registry.lookup entry.field = some entry :=
  Naming.find?_eq_some_of_nodup hdistinct hentry

/-- Nothing is found under a field without an entry. -/
theorem lookup_eq_none_iff {registry : CategoricalRegistry} {field : String} :
    registry.lookup field = none ↔ field ∉ registry.fields := by
  simp [lookup, fields]

end TypedContainers.CategoricalRegistry
