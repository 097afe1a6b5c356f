import Mathlib.Data.List.Induction
import Mathlib.Data.List.Nodup
import TypedContainers.Proofs.Configuration.Declaration
import TypedContainers.Proofs.Naming

/-!
# What a document declares

A document declares the members of the object at its place.  Each of them is judged
by its own value: the complete ones become containers and the others are skipped, so
that none is lost and none is made up.  Neither the order of the members nor the rest
of the document counts.
-/

namespace TypedContainers

namespace Json

/-- Two lists of members that give every name the same value. -/
def SameMembers (members others : List (String × Json)) : Prop :=
  ∀ name, lastOf name members = lastOf name others

theorem lastOf_concat (name : String) (members : List (String × Json))
    (member : String × Json) :
    lastOf name (members ++ [member]) =
      if member.1 = name then some member.2 else lastOf name members := by
  rw [lastOf, Naming.find?_reverse_concat members member name, lastOf]
  exact apply_ite (Option.map Prod.snd) ..

/-- A name has a value exactly if it is the name of a member. -/
theorem exists_lastOf_iff {name : String} {members : List (String × Json)} :
    (∃ value, lastOf name members = some value) ↔ name ∈ members.map Prod.fst := by
  rw [← Option.isSome_iff_exists, lastOf, Option.isSome_map, List.find?_isSome]
  simp

/-- Where no name is given twice, the value of a name is that of its one member. -/
theorem lastOf_eq_some_iff_of_nodup {name : String} {value : Json}
    {members : List (String × Json)} (hdistinct : (members.map Prod.fst).Nodup) :
    lastOf name members = some value ↔ (name, value) ∈ members := by
  have hreverse : (members.reverse.map Prod.fst).Nodup := by
    rwa [List.map_reverse, List.nodup_reverse]
  constructor
  · intro hvalue
    obtain ⟨⟨other, known⟩, hfind, rfl⟩ := Option.map_eq_some_iff.mp hvalue
    obtain rfl : other = name := by simpa using List.find?_some hfind
    exact List.mem_reverse.mp (List.mem_of_find?_eq_some hfind)
  · intro hmem
    have hfind := Naming.find?_eq_some_of_nodup hreverse (List.mem_reverse.mpr hmem)
    exact Option.map_eq_some_iff.mpr ⟨(name, value), hfind, rfl⟩

/-- The order of members with different names does not count. -/
theorem sameMembers_of_perm {members others : List (String × Json)}
    (hdistinct : (members.map Prod.fst).Nodup) (hperm : members.Perm others) :
    SameMembers members others := by
  intro name
  have hothers : (others.map Prod.fst).Nodup := (hperm.map Prod.fst).nodup_iff.mp hdistinct
  refine Option.ext fun value => ?_
  rw [lastOf_eq_some_iff_of_nodup hdistinct, lastOf_eq_some_iff_of_nodup hothers,
    hperm.mem_iff]

end Json

namespace Declaration

/-! ### Complete declarations -/

/-- A card that gives the key field and the list of fields, as members or as the two
items of an array. -/
def Card (card : Json) (key : String) (fields : List String) : Prop :=
  (∃ members, card = .object members ∧
    Json.lastOf "keyfield" members = some (.string key) ∧
    Json.lastOf "fields" members = some (.array (fields.map Json.string))) ∨
  card = .array [.string key, .array (fields.map Json.string)]

/-- A declared value that has a card with the key field and the list of fields, as a
member or as the one item of an array. -/
def Complete (value : Json) (key : String) (fields : List String) : Prop :=
  ∃ card, Card card key fields ∧
    ((∃ members, value = .object members ∧ Json.lastOf "card" members = some card) ∨
      value = .array [card])

theorem string?_eq_some_iff {value : Json} {text : String} :
    string? value = some text ↔ value = .string text := by
  cases value <;> simp [string?]

theorem mapM_string?_eq_some_iff {items : List Json} {texts : List String} :
    items.mapM string? = some texts ↔ items = texts.map Json.string := by
  induction items generalizing texts with
  | nil => cases texts <;> simp
  | cons item rest ih =>
      cases texts with
      | nil => simp [List.mapM_cons, Option.bind_eq_some_iff]
      | cons text texts =>
          simp [List.mapM_cons, Option.bind_eq_some_iff, string?_eq_some_iff, ih]

theorem strings?_eq_some_iff {value : Json} {texts : List String} :
    strings? value = some texts ↔ value = .array (texts.map Json.string) := by
  cases value <;> simp [strings?, mapM_string?_eq_some_iff]

theorem card?_eq_some_iff {value card : Json} :
    card? value = some card ↔
      (∃ members, value = .object members ∧ Json.lastOf "card" members = some card) ∨
        value = .array [card] := by
  cases value with
  | object members => simp [card?]
  | array items =>
      match items with
      | [] => simp [card?]
      | [item] => simp [card?]
      | _ :: _ :: _ => simp [card?]
  | null | bool | number | string => simp [card?]

theorem keyAndFields?_eq_some_iff {card : Json} {key : String} {fields : List String} :
    keyAndFields? card = some (key, fields) ↔ Card card key fields := by
  cases card with
  | object members =>
      simp [keyAndFields?, Card, Option.bind_eq_some_iff, string?_eq_some_iff,
        strings?_eq_some_iff]
  | array items =>
      match items with
      | [] => simp [keyAndFields?, Card]
      | [_] => simp [keyAndFields?, Card]
      | [_, _] =>
          simp [keyAndFields?, Card, Option.bind_eq_some_iff, string?_eq_some_iff,
            strings?_eq_some_iff]
      | _ :: _ :: _ :: _ => simp [keyAndFields?, Card]
  | null | bool | number | string => simp [keyAndFields?, Card]

/-- A value has a schema exactly if it is complete, with the name it is declared
under. -/
theorem schemaOf?_eq_some_iff {name : String} {value : Json} {schema : ContainerSchema} :
    schemaOf? name value = some schema ↔
      schema.name = name ∧ Complete value schema.keyField schema.fields := by
  obtain ⟨own, key, fields⟩ := schema
  simp only [schemaOf?, Option.bind_eq_bind, Option.bind_eq_some_iff, card?_eq_some_iff,
    Option.pure_def, Option.some.injEq, ContainerSchema.mk.injEq, Prod.exists, Complete]
  constructor
  · rintro ⟨key', fields', ⟨card, hcard, hkey⟩, rfl, rfl, rfl⟩
    exact ⟨rfl, card, keyAndFields?_eq_some_iff.mp hkey, hcard⟩
  · rintro ⟨rfl, card, hkey, hcard⟩
    exact ⟨key, fields, ⟨card, hcard, keyAndFields?_eq_some_iff.mpr hkey⟩, rfl, rfl, rfl⟩

/-- A value has no schema exactly if it is not complete. -/
theorem schemaOf?_eq_none_iff {name : String} {value : Json} :
    schemaOf? name value = none ↔ ¬∃ key fields, Complete value key fields := by
  rw [Option.eq_none_iff_forall_ne_some]
  constructor
  · rintro hnone ⟨key, fields, hcomplete⟩
    exact hnone ⟨name, key, fields⟩ (schemaOf?_eq_some_iff.mpr ⟨rfl, hcomplete⟩)
  · intro hincomplete schema hschema
    exact hincomplete ⟨_, _, (schemaOf?_eq_some_iff.mp hschema).2⟩

/-! ### Members in name order -/

/-- Putting a member into an ordered list replaces the one of its name and keeps the
others. -/
theorem mem_insert_iff {members : List (String × Json)}
    (hsorted : members.Pairwise fun first second => first.1 < second.1) {name : String}
    {value : Json} {member : String × Json} :
    member ∈ insert name value members ↔
      member = (name, value) ∨ member ∈ members ∧ member.1 ≠ name := by
  induction members with
  | nil => simp [insert]
  | cons first rest ih =>
      obtain ⟨other, known⟩ := first
      obtain ⟨hfirst, hrest⟩ := List.pairwise_cons.mp hsorted
      have hafter : ∀ {bound : String}, bound < other ∨ bound = other →
          member ∈ rest → member.1 ≠ bound := by
        rintro bound hbound hmem rfl
        rcases hbound with hlt | heq
        · exact String.lt_asymm hlt (hfirst member hmem)
        · exact String.lt_irrefl _ (heq ▸ hfirst member hmem)
      rw [insert]
      split
      · rename_i hlt
        have hothers : member ∈ (other, known) :: rest → member.1 ≠ name := by
          rintro (_ | ⟨_, hmem⟩)
          · exact fun heq => String.lt_irrefl _ (heq ▸ hlt)
          · exact hafter (.inl hlt) hmem
        rw [List.mem_cons, and_iff_left_of_imp hothers]
      · split
        · rename_i heq
          have hown : ¬(member = (other, known) ∧ member.1 ≠ name) := by
            rintro ⟨rfl, hne⟩
            exact hne heq.symm
          rw [List.mem_cons, List.mem_cons, or_and_right, iff_false_intro hown, false_or,
            and_iff_left_of_imp (hafter (.inr heq))]
        · rename_i hne
          have hown : member = (other, known) → member.1 ≠ name := by
            rintro rfl
            exact Ne.symm hne
          rw [List.mem_cons, ih hrest, List.mem_cons, or_and_right,
            and_iff_left_of_imp hown, or_left_comm]

/-- The ordered members are the names with the values that count. -/
theorem mem_sortMembers_iff {name : String} {value : Json}
    {members : List (String × Json)} :
    (name, value) ∈ sortMembers members ↔ Json.lastOf name members = some value := by
  induction members using List.reverseRecOn with
  | nil => simp [sortMembers, Json.lastOf]
  | append_singleton members member ih =>
      have hstep : sortMembers (members ++ [member]) =
          insert member.1 member.2 (sortMembers members) := by
        rw [sortMembers, List.foldl_append]
        rfl
      rw [hstep, mem_insert_iff (pairwise_sortMembers members), ih, Json.lastOf_concat]
      by_cases heq : member.1 = name
      · simp [heq, Prod.ext_iff, eq_comm]
      · simp [heq, Prod.ext_iff, Ne.symm heq]

theorem nodup_map_sortMembers (members : List (String × Json)) :
    ((sortMembers members).map Prod.fst).Nodup := by
  rw [List.Nodup, List.pairwise_map]
  exact (pairwise_sortMembers members).imp String.ne_of_lt

theorem mem_map_sortMembers_iff {name : String} {members : List (String × Json)} :
    name ∈ (sortMembers members).map Prod.fst ↔ name ∈ members.map Prod.fst :=
  calc
    name ∈ (sortMembers members).map Prod.fst
      ↔ ∃ value, (name, value) ∈ sortMembers members := by simp
    _ ↔ ∃ value, Json.lastOf name members = some value := by simp only [mem_sortMembers_iff]
    _ ↔ name ∈ members.map Prod.fst := Json.exists_lastOf_iff

/-- Members that give every name the same value have one order. -/
theorem sortMembers_eq_of_sameMembers {members others : List (String × Json)}
    (hsame : Json.SameMembers members others) : sortMembers members = sortMembers others := by
  have hperm : (sortMembers members).Perm (sortMembers others) := by
    refine (List.perm_ext_iff_of_nodup (nodup_map_sortMembers members).of_map
      (nodup_map_sortMembers others).of_map).mpr ?_
    rintro ⟨name, value⟩
    rw [mem_sortMembers_iff, mem_sortMembers_iff, hsame name]
  exact hperm.eq_of_pairwise
    (fun first second _ _ hlt hgt => absurd hgt (String.lt_asymm hlt))
    (pairwise_sortMembers members) (pairwise_sortMembers others)

/-! ### Documents -/

/-- The members that a document declares: those of the object at its place. -/
def Declares (document : Json) (members : List (String × Json)) : Prop :=
  ∃ product, document.member? "Maconomy" = some product ∧
    product.member? "containers" = some (.object members)

/-- The declaration that a member makes. -/
def ofMember (member : String × Json) : Declaration :=
  ⟨member.1, schemaOf? member.1 member.2⟩

theorem name_of_mem_map_ofMember {members : List (String × Json)} :
    ∀ declaration ∈ members.map ofMember, ∀ schema,
      declaration.schema? = some schema → schema.name = declaration.name := by
  intro declaration hmem schema hschema
  obtain ⟨member, _, rfl⟩ := List.mem_map.mp hmem
  exact name_of_schemaOf? hschema

theorem members?_eq_some_iff {value : Json} {members : List (String × Json)} :
    value.members? = some members ↔ value = .object members := by
  cases value <;> simp [Json.members?]

theorem ofDocument_of_declares {document : Json} {members : List (String × Json)}
    (hdeclares : Declares document members) :
    ofDocument document = .ok ((sortMembers members).map ofMember) := by
  obtain ⟨product, hproduct, hcontainers⟩ := hdeclares
  simp only [ofDocument, hproduct, hcontainers, Option.bind_eq_bind, Option.bind_some,
    Json.members?]
  rfl

theorem ofDocument_of_not_declares {document : Json}
    (hnone : ¬∃ members, Declares document members) :
    ofDocument document = .error .noContainers := by
  rw [ofDocument]
  split
  · rfl
  · rename_i members hmembers
    simp only [Option.bind_eq_bind, Option.bind_eq_some_iff, members?_eq_some_iff,
      exists_eq_right] at hmembers
    exact absurd ⟨members, hmembers⟩ hnone

end Declaration

namespace SchemaSet

/-- Every name of a set: those of its containers and those it skipped. -/
def names (set : SchemaSet) : List String :=
  set.containers.map ContainerSchema.name ++ set.skipped

/-- A set that sorts out members: each name is there once, among the containers if its
own value is complete and among the skipped ones if it is not. -/
structure SortsOut (set : SchemaSet) (members : List (String × Json)) : Prop where
  containers_increasing :
    set.containers.Pairwise fun first second => first.name < second.name
  skipped_increasing : set.skipped.Pairwise (· < ·)
  count_names : ∀ name,
    set.names.count name = if name ∈ members.map Prod.fst then 1 else 0
  mem_containers : ∀ schema, schema ∈ set.containers ↔
    ∃ value, Json.lastOf schema.name members = some value ∧
      Declaration.Complete value schema.keyField schema.fields
  mem_skipped : ∀ name, name ∈ set.skipped ↔
    ∃ value, Json.lastOf name members = some value ∧
      ¬∃ key fields, Declaration.Complete value key fields

/-- No declaration is lost: its name is that of its schema, or it is skipped. -/
theorem perm_names_ofDeclarations {declarations : List Declaration}
    (hnames : ∀ declaration ∈ declarations, ∀ schema,
      declaration.schema? = some schema → schema.name = declaration.name) :
    (ofDeclarations declarations).names.Perm (declarations.map Declaration.name) := by
  induction declarations with
  | nil => exact .nil
  | cons declaration rest ih =>
      obtain ⟨hown, hrest⟩ := List.forall_mem_cons.mp hnames
      have ih := ih hrest
      cases hschema : declaration.schema? with
      | some schema =>
          simp only [names, ofDeclarations, List.filterMap_cons, List.filter_cons, hschema,
            Option.isNone_some, Bool.false_eq_true, if_false, List.map_cons,
            List.cons_append, hown schema hschema] at ih ⊢
          exact ih.cons _
      | none =>
          simp only [names, ofDeclarations, List.filterMap_cons, List.filter_cons, hschema,
            Option.isNone_none, if_true, List.map_cons] at ih ⊢
          exact List.perm_middle.trans (ih.cons _)

open Declaration in
/-- The set of a document's members sorts them out. -/
theorem sortsOut_sortMembers (members : List (String × Json)) :
    (ofDeclarations ((sortMembers members).map ofMember)).SortsOut members where
  containers_increasing :=
    pairwise_containers (List.pairwise_map.mpr (pairwise_sortMembers members))
      name_of_mem_map_ofMember
  skipped_increasing := by
    rw [ofDeclarations, List.pairwise_map]
    refine List.Pairwise.filter _ ?_
    rw [List.pairwise_map]
    exact pairwise_sortMembers members
  count_names := by
    intro name
    have hmap : ((sortMembers members).map ofMember).map Declaration.name =
        (sortMembers members).map Prod.fst := by
      rw [List.map_map]
      rfl
    rw [(perm_names_ofDeclarations name_of_mem_map_ofMember).count_eq, hmap,
      (nodup_map_sortMembers members).count]
    simp only [mem_map_sortMembers_iff]
  mem_containers := by
    intro schema
    simp only [ofDeclarations, List.mem_filterMap, List.mem_map, Prod.exists]
    constructor
    · rintro ⟨_, ⟨name, value, hmem, rfl⟩, hschema⟩
      obtain ⟨rfl, hcomplete⟩ := schemaOf?_eq_some_iff.mp hschema
      exact ⟨value, mem_sortMembers_iff.mp hmem, hcomplete⟩
    · rintro ⟨value, hvalue, hcomplete⟩
      exact ⟨_, ⟨schema.name, value, mem_sortMembers_iff.mpr hvalue, rfl⟩,
        schemaOf?_eq_some_iff.mpr ⟨rfl, hcomplete⟩⟩
  mem_skipped := by
    intro name
    simp only [ofDeclarations, List.mem_map, List.mem_filter, Prod.exists]
    constructor
    · rintro ⟨_, ⟨⟨own, value, hmem, rfl⟩, hskipped⟩, rfl⟩
      exact ⟨value, mem_sortMembers_iff.mp hmem,
        schemaOf?_eq_none_iff.mp (Option.isNone_iff_eq_none.mp hskipped)⟩
    · rintro ⟨value, hvalue, hincomplete⟩
      exact ⟨_, ⟨⟨name, value, mem_sortMembers_iff.mpr hvalue, rfl⟩,
        Option.isNone_iff_eq_none.mpr (schemaOf?_eq_none_iff.mpr hincomplete)⟩, rfl⟩

end SchemaSet

end TypedContainers
