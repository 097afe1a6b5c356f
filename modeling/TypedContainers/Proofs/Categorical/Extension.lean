import Mathlib.Data.List.Basic
import Mathlib.Data.List.Induction
import TypedContainers.Proofs.Categorical.Entries

/-!
# Adding entries to a table

An added entry takes the place of the one for its field, or comes last.  So the last
entry for a field counts, known fields keep their places, and new ones follow in the
order in which they are first added.  A table without a second entry for a field is given
by its fields in order and what is found under them, which tells when two ways of adding
entries come to the same table.
-/

namespace TypedContainers.CategoricalRegistry

variable {registry other : CategoricalRegistry}

/-! ## What is found -/

/-- The last of some entries for a field. -/
def lastFor? (entries : List CategoricalField) (field : String) : Option CategoricalField :=
  entries.reverse.find? (·.field = field)

theorem lastFor?_concat (entries : List CategoricalField) (entry : CategoricalField)
    (field : String) :
    lastFor? (entries ++ [entry]) field =
      if entry.field = field then some entry else lastFor? entries field :=
  Naming.find?_reverse_concat entries entry field

theorem withExtra_append (registry : CategoricalRegistry)
    (extra more : List CategoricalField) :
    registry.withExtra (extra ++ more) = (registry.withExtra extra).withExtra more := by
  rw [withExtra, withExtra, withExtra, List.foldl_append]

theorem withExtra_singleton (registry : CategoricalRegistry) (entry : CategoricalField) :
    registry.withExtra [entry] = ⟨put entry registry.entries⟩ := rfl

/-- An entry that was put is found under its field, and under the other fields what was
found before. -/
theorem lookup_put (entry : CategoricalField) (registry : CategoricalRegistry)
    (field : String) :
    lookup ⟨put entry registry.entries⟩ field =
      if entry.field = field then some entry else registry.lookup field := by
  obtain ⟨entries⟩ := registry
  simp only [lookup]
  induction entries with
  | nil => simp [put]
  | cons known rest ih =>
      by_cases hknown : known.field = entry.field
      · by_cases hfield : entry.field = field
        · simp [put, hknown, hfield]
        · simp [put, hknown, hfield]
      · rw [put, if_neg hknown, List.find?_cons, List.find?_cons, ih]
        by_cases hfield : known.field = field
        · have hother : entry.field ≠ field := fun heq => hknown (hfield.trans heq.symm)
          simp [hfield, hother]
        · simp [hfield]

/-- The last of the added entries for a field is found, or else what was found before. -/
theorem lookup_withExtra (registry : CategoricalRegistry) (extra : List CategoricalField)
    (field : String) :
    (registry.withExtra extra).lookup field =
      (lastFor? extra field).or (registry.lookup field) := by
  induction extra using List.reverseRecOn with
  | nil => rfl
  | append_singleton extra entry ih =>
      rw [withExtra_append, withExtra_singleton, lookup_put, lastFor?_concat, ih]
      split
      · rfl
      · rfl

/-! ## Where it stands -/

/-- The names of a list that are not known before, each once, in the order of their first
places. -/
structure NewNames (known names added : List String) : Prop where
  mem_iff : ∀ name, name ∈ added ↔ name ∈ names ∧ name ∉ known
  order : added.Pairwise fun first second => names.idxOf first < names.idxOf second

variable {known names added : List String}

/-- One more place in a list comes after all first places before. -/
theorem NewNames.order_concat (hnew : NewNames known names added) (name : String) :
    added.Pairwise fun first second =>
      (names ++ [name]).idxOf first < (names ++ [name]).idxOf second := by
  refine hnew.order.imp_of_mem ?_
  intro first second hfirst hsecond hlt
  rw [List.idxOf_append_of_mem ((hnew.mem_iff first).mp hfirst).1,
    List.idxOf_append_of_mem ((hnew.mem_iff second).mp hsecond).1]
  exact hlt

/-- A name that is known or was added already adds nothing. -/
theorem NewNames.concat_of_mem (hnew : NewNames known names added) {name : String}
    (hmem : name ∈ known ++ added) :
    NewNames known (names ++ [name]) added where
  mem_iff := by
    intro searched
    rw [hnew.mem_iff, List.mem_append, List.mem_singleton]
    constructor
    · rintro ⟨hoccurs, hunknown⟩
      exact ⟨.inl hoccurs, hunknown⟩
    · rintro ⟨hoccurs | rfl, hunknown⟩
      · exact ⟨hoccurs, hunknown⟩
      · rcases List.mem_append.mp hmem with hknown | hadded
        · exact absurd hknown hunknown
        · exact (hnew.mem_iff searched).mp hadded
  order := hnew.order_concat name

/-- Any other name is added at the end. -/
theorem NewNames.concat_of_not_mem (hnew : NewNames known names added) {name : String}
    (hmem : name ∉ known ++ added) :
    NewNames known (names ++ [name]) (added ++ [name]) := by
  obtain ⟨hunknown, hadded⟩ := not_or.mp (fun hor => hmem (List.mem_append.mpr hor))
  have hoccurs : name ∉ names := fun hname => hadded ((hnew.mem_iff name).mpr ⟨hname, hunknown⟩)
  constructor
  · intro searched
    rw [List.mem_append, List.mem_append, List.mem_singleton, hnew.mem_iff]
    constructor
    · rintro (⟨hname, hother⟩ | rfl)
      · exact ⟨.inl hname, hother⟩
      · exact ⟨.inr rfl, hunknown⟩
    · rintro ⟨hname | rfl, hother⟩
      · exact .inl ⟨hname, hother⟩
      · exact .inr rfl
  · refine List.pairwise_append.mpr ⟨hnew.order_concat name, List.pairwise_singleton _ _, ?_⟩
    intro first hfirst second hsecond
    obtain rfl := List.mem_singleton.mp hsecond
    have hplace := ((hnew.mem_iff first).mp hfirst).1
    rw [List.idxOf_append_of_mem hplace, List.idxOf_append_of_notMem hoccurs]
    exact Nat.lt_of_lt_of_le (List.idxOf_lt_length_of_mem hplace) (Nat.le_add_right _ _)

theorem fields_put (entry : CategoricalField) (registry : CategoricalRegistry) :
    fields ⟨put entry registry.entries⟩ =
      if entry.field ∈ registry.fields then registry.fields
      else registry.fields ++ [entry.field] :=
  map_field_put entry registry.entries

/-- The fields of a table stay where they are when entries are added, and the new ones
follow. -/
theorem exists_fields_withExtra (registry : CategoricalRegistry)
    (extra : List CategoricalField) :
    ∃ added, (registry.withExtra extra).fields = registry.fields ++ added ∧
      NewNames registry.fields (extra.map CategoricalField.field) added := by
  induction extra using List.reverseRecOn with
  | nil => exact ⟨[], (List.append_nil _).symm, ⟨by simp, .nil⟩⟩
  | append_singleton extra entry ih =>
      obtain ⟨added, hfields, hnew⟩ := ih
      rw [withExtra_append, withExtra_singleton, fields_put, hfields, List.map_append,
        List.map_singleton]
      by_cases hmem : entry.field ∈ registry.fields ++ added
      · exact ⟨added, if_pos hmem, hnew.concat_of_mem hmem⟩
      · refine ⟨added ++ [entry.field], ?_, hnew.concat_of_not_mem hmem⟩
        rw [if_neg hmem, List.append_assoc]

/-! ## When two tables are the same -/

/-- Under the fields of a table its entries are found, in order. -/
theorem filterMap_lookup_fields (hdistinct : registry.fields.Nodup) :
    registry.fields.filterMap registry.lookup = registry.entries := by
  rw [fields, List.filterMap_map]
  calc
    registry.entries.filterMap (registry.lookup ∘ CategoricalField.field)
      = registry.entries.filterMap some :=
        List.filterMap_congr fun _ hentry => lookup_field hdistinct hentry
    _ = registry.entries := List.filterMap_some

/-- Tables with the same fields in order, under which the same is found, are the same. -/
theorem eq_of_fields_of_lookup (hdistinct : registry.fields.Nodup)
    (hfields : other.fields = registry.fields)
    (hlookup : ∀ field, other.lookup field = registry.lookup field) : other = registry := by
  have hother : other.fields.Nodup := hfields ▸ hdistinct
  have hentries : other.entries = registry.entries := by
    rw [← filterMap_lookup_fields hother, ← filterMap_lookup_fields hdistinct, hfields,
      funext hlookup]
  exact congrArg CategoricalRegistry.mk hentries

/-- Adding the same entries again changes nothing. -/
theorem withExtra_again (hdistinct : registry.fields.Nodup) (extra : List CategoricalField) :
    (registry.withExtra extra).withExtra extra = registry.withExtra extra := by
  refine eq_of_fields_of_lookup (nodup_fields_withExtra hdistinct extra) ?_ fun field => ?_
  · obtain ⟨added, hfields, hnew⟩ := exists_fields_withExtra registry extra
    obtain ⟨again, hagain, hnone⟩ := exists_fields_withExtra (registry.withExtra extra) extra
    -- Every added field is known by now.
    have hnil : again = [] := by
      refine List.eq_nil_iff_forall_not_mem.mpr fun name hname => ?_
      obtain ⟨hoccurs, hunknown⟩ := (hnone.mem_iff name).mp hname
      rw [hfields, List.mem_append, not_or] at hunknown
      exact hunknown.2 ((hnew.mem_iff name).mpr ⟨hoccurs, hunknown.1⟩)
    rw [hagain, hnil, List.append_nil]
  · rw [lookup_withExtra, lookup_withExtra, ← Option.or_assoc, Option.or_self]

/-- In a table that is built by adding entries, whatever is added to it: no field has two
entries, the last entry that was added for a field is the one that is found, known fields
keep their places before the new ones, entries may be added all at once or in two parts,
and adding the same ones again changes nothing. -/
theorem extension_of_built (hbuilt : registry.Built) (extra more : List CategoricalField) :
    (registry.withExtra extra).fields.Nodup ∧
    (∀ field, (registry.withExtra extra).lookup field =
      (lastFor? extra field).or (registry.lookup field)) ∧
    (∃ added, (registry.withExtra extra).fields = registry.fields ++ added ∧
      NewNames registry.fields (extra.map CategoricalField.field) added) ∧
    registry.withExtra (extra ++ more) = (registry.withExtra extra).withExtra more ∧
    (registry.withExtra extra).withExtra extra = registry.withExtra extra :=
  ⟨(hbuilt.withExtra extra).nodup_fields, lookup_withExtra registry extra,
    exists_fields_withExtra registry extra, withExtra_append registry extra more,
    withExtra_again hbuilt.nodup_fields extra⟩

/-- A built-in entry is replaced, and an entry is replaced by a later one of the same
list, after entries were added before. -/
theorem extension_of_ranks :
    let registry := builtin.withExtra [⟨"status", "JobStatus", ["none", "open"]⟩]
    let extra : List CategoricalField := [⟨"rank", "Rank", ["none", "first"]⟩,
      ⟨"gender", "Sex", ["unknown", "other"]⟩, ⟨"unit", "Unit", ["none", "hour"]⟩,
      ⟨"rank", "Grade", ["none", "high"]⟩]
    registry.Built ∧
      (registry.withExtra extra).fields = ["country", "gender", "status", "rank", "unit"] ∧
      (registry.withExtra extra).fields.Nodup ∧
      (registry.withExtra extra).lookup "rank" =
        some ⟨"rank", "Grade", ["none", "high"]⟩ ∧
      (registry.withExtra extra).lookup "status" = registry.lookup "status" ∧
      NewNames registry.fields (extra.map CategoricalField.field) ["rank", "unit"] ∧
      (registry.withExtra extra).withExtra extra = registry.withExtra extra := by
  intro registry extra
  have hbuilt : registry.Built := .withExtra _ .builtin
  obtain ⟨hdistinct, hlookup, ⟨added, hfields, hnew⟩, _, hagain⟩ :=
    extension_of_built hbuilt extra []
  have hall : (registry.withExtra extra).fields = registry.fields ++ ["rank", "unit"] := by
    decide
  have hadded : added = ["rank", "unit"] := List.append_cancel_left (hfields.symm.trans hall)
  exact ⟨hbuilt, hall, hdistinct, hlookup "rank", hlookup "status", hadded ▸ hnew, hagain⟩

end TypedContainers.CategoricalRegistry
