import TypedContainers.Proofs.Configuration.Document

/-!
# Complete declarations

A declared value can be read in two layers.  First each member of the entry and of its
card is read by itself, by name or by place: it may be missing or null, but nothing else
than it should be.  Then what is missing leaves the declaration incomplete.  A schema comes
of it exactly if the card gives both the key field and the list of fields, and other
members do not count.
-/

namespace TypedContainers.Declaration

/-! ## Reading member by member -/

/-- What a value gives for the members of some names: an object by name, and an array by
place as long as it has no more items than there are names. -/
def given? (names : List String) : Json → Option (String → Option Json)
  | .object members => some fun name => Json.lastOf name members
  | .array items =>
    if items.length ≤ names.length then some fun name => items[names.idxOf name]? else none
  | _ => none

/-- A member that may be missing or null, and has to be readable if it is neither. -/
def optional? {α : Type} (read? : Json → Option α) : Option Json → Option (Option α)
  | none => some none
  | some .null => some none
  | some value => (read? value).map some

/-- A card as it is read, whose members may be missing. -/
structure PartialCard where
  key : Option String
  fields : Option (List String)
deriving Repr, DecidableEq

/-- The card that a value is read as. -/
def PartialCard.read? (value : Json) : Option PartialCard := do
  let given ← given? ["keyfield", "fields"] value
  let key ← optional? string? (given "keyfield")
  let fields ← optional? strings? (given "fields")
  return ⟨key, fields⟩

/-- An entry as it is read, whose card may be missing. -/
structure PartialEntry where
  card : Option PartialCard
deriving Repr, DecidableEq

/-- The entry that a declared value is read as. -/
def PartialEntry.read? (value : Json) : Option PartialEntry := do
  let given ← given? ["card"] value
  let card ← optional? PartialCard.read? (given "card")
  return ⟨card⟩

/-- The schema of an entry from which nothing is missing. -/
def PartialEntry.schema? (name : String) (entry : PartialEntry) : Option ContainerSchema := do
  let card ← entry.card
  let key ← card.key
  let fields ← card.fields
  return ⟨name, key, fields⟩

/-- A member is there and readable exactly if it is read as something. -/
theorem optional?_eq_some_some_iff {α : Type} (read? : Json → Option α)
    (hnull : read? .null = none) {member : Option Json} {result : α} :
    optional? read? member = some (some result) ↔ member.bind read? = some result := by
  cases member with
  | none => simp [optional?]
  | some value =>
      cases value with
      | null => simp [optional?, hnull]
      | bool | number | string | array | object => simp [optional?]

/-- A value gives a card as a member, or as the one item of an array. -/
theorem given?_card_iff {value card : Json} :
    (∃ given, given? ["card"] value = some given ∧ given "card" = some card) ↔
      card? value = some card := by
  cases value with
  | object members => simp [given?, card?]
  | array items =>
      rcases items with _ | ⟨item, _ | ⟨surplus, rest⟩⟩
      · simp [given?, card?]
      · simp [given?, card?]
      · simp [given?, card?]
  | null | bool | number | string => simp [given?, card?]

/-- A card gives the key field and the list of fields as members, or as the two items of
an array. -/
theorem given?_keyAndFields_iff {card : Json} {key : String} {fields : List String} :
    (∃ given, given? ["keyfield", "fields"] card = some given ∧
      (given "keyfield").bind string? = some key ∧
      (given "fields").bind strings? = some fields) ↔
      keyAndFields? card = some (key, fields) := by
  cases card with
  | object members => simp [given?, keyAndFields?, Option.bind_eq_some_iff]
  | array items =>
      rcases items with _ | ⟨first, _ | ⟨second, _ | ⟨surplus, rest⟩⟩⟩
      · simp [given?, keyAndFields?]
      · simp [given?, keyAndFields?]
      · simp [given?, keyAndFields?, Option.bind_eq_some_iff]
      · simp [given?, keyAndFields?]
  | null | bool | number | string => simp [given?, keyAndFields?]

/-- A card is read without anything missing exactly if it gives both members. -/
theorem PartialCard.read?_eq_some_iff {card : Json} {key : String} {fields : List String} :
    read? card = some ⟨some key, some fields⟩ ↔ keyAndFields? card = some (key, fields) := by
  rw [← given?_keyAndFields_iff]
  simp [read?, optional?_eq_some_some_iff string? rfl, optional?_eq_some_some_iff strings? rfl,
    Option.bind_eq_some_iff]

/-- An entry is read without anything missing exactly if it has such a card. -/
theorem PartialEntry.read?_eq_some_iff {value : Json} {key : String} {fields : List String} :
    read? value = some ⟨some ⟨some key, some fields⟩⟩ ↔
      ∃ card, card? value = some card ∧ keyAndFields? card = some (key, fields) := by
  simp only [read?, Option.bind_eq_bind, Option.bind_eq_some_iff, Option.pure_def,
    Option.some.injEq, PartialEntry.mk.injEq, exists_eq_right,
    optional?_eq_some_some_iff PartialCard.read? rfl]
  constructor
  · rintro ⟨given, hgiven, card, hcard, hread⟩
    exact ⟨card, given?_card_iff.mp ⟨given, hgiven, hcard⟩,
      PartialCard.read?_eq_some_iff.mp hread⟩
  · rintro ⟨card, hcard, hfields⟩
    obtain ⟨given, hgiven, hcard⟩ := given?_card_iff.mpr hcard
    exact ⟨given, hgiven, card, hcard, PartialCard.read?_eq_some_iff.mpr hfields⟩

theorem PartialEntry.schema?_eq_some_iff {name : String} {entry : PartialEntry}
    {schema : ContainerSchema} :
    entry.schema? name = some schema ↔
      schema.name = name ∧ entry = ⟨some ⟨some schema.keyField, some schema.fields⟩⟩ := by
  obtain ⟨own, key, fields⟩ := schema
  obtain ⟨_ | ⟨_ | key', _ | fields'⟩⟩ := entry
  all_goals simp [schema?, eq_comm]

/-- The schema of a declared value is that of the entry it is read as. -/
theorem schemaOf?_eq_bind_read? (name : String) (value : Json) :
    schemaOf? name value = (PartialEntry.read? value).bind (PartialEntry.schema? name) := by
  refine Option.ext fun schema => ?_
  obtain ⟨own, key, fields⟩ := schema
  simp only [schemaOf?, Option.bind_eq_bind, Option.bind_eq_some_iff, Option.pure_def,
    Option.some.injEq, PartialEntry.schema?_eq_some_iff, Prod.exists, ContainerSchema.mk.injEq]
  constructor
  · rintro ⟨key', fields', hread, rfl, rfl, rfl⟩
    exact ⟨_, PartialEntry.read?_eq_some_iff.mpr hread, rfl, rfl⟩
  · rintro ⟨_, hread, rfl, rfl⟩
    exact ⟨key, fields, PartialEntry.read?_eq_some_iff.mp hread, rfl, rfl, rfl⟩

/-! ## Members that do not count -/

/-- Cards with the same members of the names that count. -/
inductive SameCard : Json → Json → Prop
  | same (card : Json) : SameCard card card
  | members {members others : List (String × Json)}
      (hkey : Json.lastOf "keyfield" members = Json.lastOf "keyfield" others)
      (hfields : Json.lastOf "fields" members = Json.lastOf "fields" others) :
      SameCard (.object members) (.object others)

/-- Declared values with such cards, or without any. -/
inductive SameDeclared : Json → Json → Prop
  | same (value : Json) : SameDeclared value value
  | noCard {members others : List (String × Json)}
      (hmembers : Json.lastOf "card" members = none)
      (hothers : Json.lastOf "card" others = none) :
      SameDeclared (.object members) (.object others)
  | member {members others : List (String × Json)} {card other : Json}
      (hmembers : Json.lastOf "card" members = some card)
      (hothers : Json.lastOf "card" others = some other) (hcards : SameCard card other) :
      SameDeclared (.object members) (.object others)
  | item {card other : Json} (hcards : SameCard card other) :
      SameDeclared (.array [card]) (.array [other])

theorem keyAndFields?_congr {card other : Json} (hcards : SameCard card other) :
    keyAndFields? card = keyAndFields? other := by
  cases hcards with
  | same => rfl
  | members hkey hfields => rw [keyAndFields?, keyAndFields?, hkey, hfields]

theorem schemaOf?_congr {value other : Json} (hvalues : SameDeclared value other)
    (name : String) : schemaOf? name value = schemaOf? name other := by
  have hread : (card? value >>= keyAndFields?) = (card? other >>= keyAndFields?) := by
    simp only [Option.bind_eq_bind]
    cases hvalues with
    | same => rfl
    | noCard hmembers hothers => rw [card?, card?, hmembers, hothers]
    | member hmembers hothers hcards =>
        rw [card?, card?, hmembers, hothers, Option.bind_some, Option.bind_some,
          keyAndFields?_congr hcards]
    | item hcards =>
        rw [card?, card?, Option.bind_some, Option.bind_some, keyAndFields?_congr hcards]
  rw [schemaOf?, schemaOf?, hread]

/-- A declared value is read member by member, and has a schema exactly if it is an object
or an array with a card that gives the key field and the list of fields, as members or as
two items.  The schema has the name that is declared, this key and these fields, and all
other members of the value and of its card make no difference. -/
theorem schemaOf?_exactly_complete (name : String) (value : Json) :
    schemaOf? name value = (PartialEntry.read? value).bind (PartialEntry.schema? name) ∧
    (∀ schema, schemaOf? name value = some schema ↔
      schema.name = name ∧ Complete value schema.keyField schema.fields) ∧
    ∀ other, SameDeclared value other → schemaOf? name value = schemaOf? name other :=
  ⟨schemaOf?_eq_bind_read? name value, fun _ => schemaOf?_eq_some_iff,
    fun _ hvalues => schemaOf?_congr hvalues name⟩

/-- The same declaration with and without members that do not count. -/
theorem schemaOf?_exactly_complete_job :
    let fields : Json := .array [.string "no", .string "name"]
    let value : Json := .object [("filter", .null), ("card", .object
      [("note", .bool true), ("keyfield", .string "no"), ("fields", fields)])]
    let other : Json := .object [("card", .object
      [("fields", fields), ("keyfield", .string "no")])]
    SameDeclared value other ∧
      Complete value "no" ["no", "name"] ∧
      schemaOf? "job" value = some ⟨"job", "no", ["no", "name"]⟩ ∧
      schemaOf? "job" value = schemaOf? "job" other := by
  intro fields value other
  have hvalues : SameDeclared value other := .member rfl rfl (.members rfl rfl)
  have hcomplete : Complete value "no" ["no", "name"] :=
    ⟨_, .inl ⟨_, rfl, rfl, rfl⟩, .inl ⟨_, rfl, rfl⟩⟩
  obtain ⟨_, hschema, hsame⟩ := schemaOf?_exactly_complete "job" value
  exact ⟨hvalues, hcomplete, (hschema ⟨"job", "no", ["no", "name"]⟩).mpr ⟨rfl, hcomplete⟩,
    hsame other hvalues⟩

-- The array forms, and what makes them incomplete: a field that is no string, an item too
-- many, a card that is null.
example : schemaOf? "job" (.array [.array [.string "no", .array []]]) =
      some ⟨"job", "no", []⟩ ∧
    schemaOf? "job" (.array [.array [.string "no", .array [.string "a", .null]]]) = none ∧
    schemaOf? "job" (.array [.array [.string "no", .array [], .null]]) = none ∧
    schemaOf? "job" (.object [("card", .null)]) = none := by
  decide

end TypedContainers.Declaration
