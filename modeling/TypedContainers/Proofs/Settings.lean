import Mathlib.Data.List.Nodup
import TypedContainers.Command.Run
import TypedContainers.Proofs.Categorical.Entries
import TypedContainers.Proofs.Categorical.Faults
import TypedContainers.Proofs.Toml.Table

/-!
# Settings that are accepted

Every entry of a settings text is checked by itself before the settings are used, and the
table that they extend is checked as a whole before a run.  The first check leaves only one
thing for the second to find: that two entries declare one name.
-/

namespace TypedContainers

namespace CategoricalRegistry

variable {registry : CategoricalRegistry} {entry known : CategoricalField}

theorem eq_or_mem_of_mem_put {entries : List CategoricalField}
    (hmem : known ∈ put entry entries) : known = entry ∨ known ∈ entries := by
  induction entries with
  | nil => exact .inl (List.mem_singleton.mp hmem)
  | cons first rest ih =>
      rw [put] at hmem
      split at hmem
      · exact (List.mem_cons.mp hmem).imp_right (List.mem_cons_of_mem first)
      · rcases List.mem_cons.mp hmem with rfl | hrest
        · exact .inr List.mem_cons_self
        · exact (ih hrest).imp_right (List.mem_cons_of_mem first)

/-- Every entry of an extended table was there before or was added. -/
theorem mem_or_mem_of_mem_withExtra {extra : List CategoricalField}
    (hmem : known ∈ (registry.withExtra extra).entries) :
    known ∈ registry.entries ∨ known ∈ extra := by
  rw [withExtra] at hmem
  generalize registry.entries = entries at hmem ⊢
  induction extra generalizing entries with
  | nil => exact .inl hmem
  | cons entry rest ih =>
      rcases ih _ hmem with hput | hrest
      · rcases eq_or_mem_of_mem_put hput with rfl | hentries
        · exact .inr List.mem_cons_self
        · exact .inl hentries
      · exact .inr (List.mem_cons_of_mem entry hrest)

/-- A table in which nothing is wrong but, perhaps, that two entries for different fields
declare one name. -/
def OnlyNamesClash (registry : CategoricalRegistry) : Prop :=
  registry.fault? = none ∨ ∃ earlier ∈ registry.entries, ∃ later ∈ registry.entries,
    earlier.field ≠ later.field ∧ earlier.enumName = later.enumName ∧
      registry.fault? = some (.sharedName earlier.field later.field later.enumName)

/-- Entries for different fields that are in order by themselves can only clash. -/
theorem onlyNamesClash_of_entries (hdistinct : registry.fields.Nodup)
    (hentries : ∀ entry ∈ registry.entries, entry.fault? = none) :
    registry.OnlyNamesClash := by
  rw [OnlyNamesClash]
  cases hfault : registry.fault? with
  | none => exact .inl rfl
  | some fault =>
      obtain ⟨before, later, after, hsplit, _, hlater⟩ := fault?_eq_some_iff.mp hfault
      have hmem : later ∈ registry.entries := by simp [hsplit]
      cases hlater with
      | own hown =>
          have hnone := hentries later hmem
          rw [CategoricalField.fault?_eq_some_iff.mpr hown] at hnone
          contradiction
      | sharedName hdeclarable hearlier hsame =>
          rename_i earlier
          refine .inr ⟨earlier, by simp [hsplit, hearlier], later, hmem, ?_, hsame, rfl⟩
          rw [fields, hsplit, List.map_append, List.nodup_append] at hdistinct
          exact hdistinct.2.2 earlier.field (List.mem_map_of_mem hearlier) later.field
            (List.mem_map_of_mem List.mem_cons_self)

end CategoricalRegistry

namespace Settings

variable {settings after : Settings} {text name : String} {value : Toml.Value}
variable {table : List (String × Toml.Value)} {entry : CategoricalField}

/-! ## The entries of a text -/

/-- The entries of a text are the items of its array `categorical` that can be read as
entries. -/
def IsEntryOf (text : String) (entry : CategoricalField) : Prop :=
  ∃ table items item, Toml.read text = .ok table ∧ ("categorical", .array items) ∈ table ∧
    item ∈ items ∧ entry? item = some entry

theorem mapM_eq_some_iff {α β : Type} {f : α → Option β} {items : List α}
    {results : List β} : items.mapM f = some results ↔ items.map f = results.map some := by
  induction items generalizing results with
  | nil => cases results <;> simp
  | cons item rest ih =>
      cases results with
      | nil => simp [List.mapM_cons, Option.bind_eq_some_iff]
      | cons result results => simp [List.mapM_cons, Option.bind_eq_some_iff, ih]

theorem entries?_eq_some_iff {entries : List CategoricalField} :
    entries? value = some entries ↔
      ∃ items, value = .array items ∧ items.map entry? = entries.map some := by
  cases value <;> simp [entries?, mapM_eq_some_iff]

theorem mem_of_entries? {items : List Toml.Value} {entries : List CategoricalField}
    (hentries : entries? (.array items) = some entries) :
    entry ∈ entries ↔ ∃ item ∈ items, entry? item = some entry := by
  obtain ⟨_, heq, hmap⟩ := entries?_eq_some_iff.mp hentries
  obtain rfl := Toml.Value.array.inj heq
  rw [← List.mem_map, hmap]
  simp

theorem entries?_of_apply (happly : settings.apply "categorical" value = .ok after) :
    entries? value = some after.categorical := by
  unfold apply at happly
  rw [if_neg (by decide), if_neg (by decide), if_pos rfl] at happly
  cases hentries : entries? value with
  | none => simp [hentries] at happly
  | some entries =>
      rw [hentries] at happly
      exact congrArg some (congrArg categorical (Except.ok.inj happly))

theorem categorical_of_apply (hname : name ≠ "categorical")
    (happly : settings.apply name value = .ok after) :
    after.categorical = settings.categorical := by
  unfold apply at happly
  split at happly
  · cases htext : string? value with
    | none => simp [htext] at happly
    | some text =>
        rw [htext] at happly
        rw [← Except.ok.inj happly]
  · split at happly
    · split at happly
      · rw [← Except.ok.inj happly]
      · contradiction
    · simp at happly

/-- With distinct names, the entries of the settings are those of the value under
`categorical`, or those before if nothing is. -/
theorem categorical_of_foldlM (hdistinct : (table.map Prod.fst).Nodup)
    (hfold : table.foldlM (fun settings (name, value) => settings.apply name value) settings =
      .ok after) :
    (∀ value, ("categorical", value) ∈ table → entries? value = some after.categorical) ∧
      ("categorical" ∉ table.map Prod.fst → after.categorical = settings.categorical) := by
  induction table generalizing settings with
  | nil =>
      obtain rfl := Except.ok.inj hfold
      simp
  | cons member rest ih =>
      obtain ⟨name, value⟩ := member
      rw [List.foldlM_cons] at hfold
      obtain ⟨middle, happly, hrest⟩ := bind_eq_ok_iff.mp hfold
      rw [List.map_cons, List.nodup_cons] at hdistinct
      obtain ⟨hlater, hsame⟩ := ih hdistinct.2 hrest
      by_cases hname : name = "categorical"
      · subst hname
        -- No later member has this name, so the entries that are set here stay.
        have hentries := entries?_of_apply happly
        rw [← hsame hdistinct.1] at hentries
        refine ⟨?_, by simp⟩
        intro other hmem
        rcases List.mem_cons.mp hmem with heq | hrest
        · rw [(Prod.mk.inj heq).2, hentries]
        · exact absurd (List.mem_map_of_mem hrest) hdistinct.1
      · constructor
        · intro other hmem
          rcases List.mem_cons.mp hmem with heq | hrest
          · exact absurd (Prod.mk.inj heq).1.symm hname
          · exact hlater other hrest
        · intro hnot
          have hothers := hsame fun hmem => hnot (List.mem_cons_of_mem name hmem)
          exact hothers.trans (categorical_of_apply hname happly)

/-! ## Accepted texts -/

theorem checked_eq_ok_iff : settings.checked = .ok after ↔
    (∀ entry ∈ settings.categorical, entry.fault? = none) ∧ settings = after := by
  rw [checked, ← List.findSome?_eq_none_iff]
  cases settings.categorical.findSome? CategoricalField.fault? with
  | some fault => simp
  | none => simp

theorem parse_eq_ok_iff : parse text = .ok settings ↔
    ∃ table, Toml.read text = .ok table ∧ ofTable table = .ok settings ∧
      ∀ entry ∈ settings.categorical, entry.fault? = none := by
  rw [parse]
  cases Toml.read text with
  | error e => simp
  | ok table =>
      simp only [Except.ok.injEq, exists_eq_left']
      constructor
      · intro hparse
        obtain ⟨found, htable, hchecked⟩ := bind_eq_ok_iff.mp hparse
        obtain ⟨hentries, rfl⟩ := checked_eq_ok_iff.mp hchecked
        exact ⟨htable, hentries⟩
      · rintro ⟨htable, hentries⟩
        exact bind_eq_ok_iff.mpr ⟨settings, htable, checked_eq_ok_iff.mpr ⟨hentries, rfl⟩⟩

/-- The entries of accepted settings are all entries of their text. -/
theorem mem_categorical_iff (hparse : parse text = .ok settings) :
    entry ∈ settings.categorical ↔ IsEntryOf text entry := by
  obtain ⟨table, hread, htable, _⟩ := parse_eq_ok_iff.mp hparse
  obtain ⟨hvalue, hnone⟩ := categorical_of_foldlM (Toml.nodup_names_of_read hread) htable
  constructor
  · intro hentry
    by_cases hname : "categorical" ∈ table.map Prod.fst
    · obtain ⟨⟨_, value⟩, hmem, rfl⟩ := List.mem_map.mp hname
      have hentries := hvalue value hmem
      obtain ⟨items, rfl, _⟩ := entries?_eq_some_iff.mp hentries
      obtain ⟨item, hitem, hread?⟩ := (mem_of_entries? hentries).mp hentry
      exact ⟨table, items, item, hread, hmem, hitem, hread?⟩
    · rw [hnone hname] at hentry
      exact absurd hentry List.not_mem_nil
  · rintro ⟨other, items, item, hother, hmem, hitem, hread?⟩
    obtain rfl := Except.ok.inj (hread.symm.trans hother)
    exact (mem_of_entries? (hvalue _ hmem)).mpr ⟨item, hitem, hread?⟩

/-- The two checks agree.  Settings are accepted only with entries that are in order, and
these are all entries of their text; the table that a command generates with, the built-in
one with these entries, is then in order, too, unless two of its entries for different
fields declare one name, and that is what is reported.  A text with an entry that is not in
order is refused. -/
theorem registry_of_parse (text : String) :
    (∀ settings, parse text = .ok settings →
      (∀ entry, entry ∈ settings.categorical ↔ IsEntryOf text entry) ∧
      ∀ command, (Command.options command settings).registry =
          CategoricalRegistry.builtin.withExtra settings.categorical ∧
        (CategoricalRegistry.builtin.withExtra settings.categorical).OnlyNamesClash) ∧
    ∀ entry, IsEntryOf text entry → entry.fault? ≠ none →
      ∃ fault, parse text = .error fault := by
  constructor
  · intro settings hparse
    refine ⟨fun entry => mem_categorical_iff hparse, fun command => ⟨rfl, ?_⟩⟩
    apply CategoricalRegistry.onlyNamesClash_of_entries
    · exact (CategoricalRegistry.Built.builtin.withExtra settings.categorical).nodup_fields
    · intro entry hentry
      rcases CategoricalRegistry.mem_or_mem_of_mem_withExtra hentry with hbuiltin | hextra
      · have hvalid := CategoricalRegistry.fault?_eq_none_iff.mp
          CategoricalRegistry.fault?_builtin
        exact CategoricalField.fault?_eq_none_iff.mpr (hvalid.1 entry hbuiltin)
      · obtain ⟨_, _, _, hentries⟩ := parse_eq_ok_iff.mp hparse
        exact hentries entry hextra
  · intro entry hentry hfault
    cases hparse : parse text with
    | error fault => exact ⟨fault, rfl⟩
    | ok settings =>
        obtain ⟨_, _, _, hentries⟩ := parse_eq_ok_iff.mp hparse
        exact absurd (hentries entry ((mem_categorical_iff hparse).mpr hentry)) hfault

/-! ## Texts of entries -/

theorem read_clashing : Toml.read "categorical=[['a','CountryType',['b']]]" =
    .ok [("categorical",
      .array [.array [.string "a", .string "CountryType", .array [.string "b"]]])] := by
  have hchars : "categorical=[['a','CountryType',['b']]]".toList =
      ['c', 'a', 't', 'e', 'g', 'o', 'r', 'i', 'c', 'a', 'l', '=', '[', '[', '\'', 'a',
        '\'', ',', '\'', 'C', 'o', 'u', 'n', 't', 'r', 'y', 'T', 'y', 'p', 'e', '\'', ',',
        '[', '\'', 'b', '\'', ']', ']', ']'] := by decide
  rw [Toml.read, hchars]
  rfl

theorem read_empty : Toml.read "categorical=[['a','B',[]]]" =
    .ok [("categorical", .array [.array [.string "a", .string "B", .array []]])] := by
  have hchars : "categorical=[['a','B',[]]]".toList =
      ['c', 'a', 't', 'e', 'g', 'o', 'r', 'i', 'c', 'a', 'l', '=', '[', '[', '\'', 'a',
        '\'', ',', '\'', 'B', '\'', ',', '[', ']', ']', ']'] := by decide
  rw [Toml.read, hchars]
  rfl

/-- An entry with the name of a built-in one is accepted and clashes, and an entry without
variants is refused. -/
theorem registry_of_entry_texts :
    (∃ settings, parse "categorical=[['a','CountryType',['b']]]" = .ok settings ∧
      (CategoricalRegistry.builtin.withExtra settings.categorical).fault? ≠ none ∧
      (CategoricalRegistry.builtin.withExtra settings.categorical).OnlyNamesClash) ∧
    ∃ fault, parse "categorical=[['a','B',[]]]" = .error fault := by
  constructor
  · have hparse : parse "categorical=[['a','CountryType',['b']]]" =
        .ok ⟨none, false, [⟨"a", "CountryType", ["b"]⟩]⟩ := by
      rw [parse, read_clashing]
      rfl
    obtain ⟨_, hclash⟩ := (registry_of_parse _).1 _ hparse
    exact ⟨_, hparse, by decide, (hclash ⟨⟨""⟩, none, none, false, false, false⟩).2⟩
  · have hentry : IsEntryOf "categorical=[['a','B',[]]]" ⟨"a", "B", []⟩ :=
      ⟨_, _, _, read_empty, List.mem_singleton.mpr rfl, List.mem_singleton.mpr rfl, rfl⟩
    exact (registry_of_parse _).2 _ hentry (by decide)

end Settings

end TypedContainers
