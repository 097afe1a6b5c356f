import TypedContainers.Configuration.Declaration

/-!
# The order of declarations

Whatever the order of a document, its declarations come in strict name order, and
so do the containers of the complete ones.
-/

namespace TypedContainers

namespace Declaration

theorem eq_or_mem_of_mem_insert {name : String} {value : Json}
    {members : List (String × Json)} {member : String × Json}
    (hmember : member ∈ insert name value members) :
    member = (name, value) ∨ member ∈ members := by
  induction members with
  | nil => simpa [insert] using hmember
  | cons first rest ih =>
      obtain ⟨other, known⟩ := first
      rw [insert] at hmember
      split at hmember
      · exact List.mem_cons.mp hmember
      · split at hmember
        · rcases List.mem_cons.mp hmember with rfl | hrest
          · exact .inl rfl
          · exact .inr (List.mem_cons_of_mem _ hrest)
        · rcases List.mem_cons.mp hmember with rfl | hrest
          · exact .inr List.mem_cons_self
          · rcases ih hrest with heq | hmem
            · exact .inl heq
            · exact .inr (List.mem_cons_of_mem _ hmem)

theorem lt_of_not_lt_of_ne {first second : String} (hlt : ¬first < second)
    (hne : first ≠ second) : second < first := by
  by_cases hgt : second < first
  · exact hgt
  · exact absurd (String.le_antisymm (String.not_lt.mp hgt) (String.not_lt.mp hlt)) hne

/-- Putting a member where it belongs keeps the order. -/
theorem pairwise_insert {members : List (String × Json)}
    (hsorted : members.Pairwise fun first second => first.1 < second.1) (name : String)
    (value : Json) :
    (insert name value members).Pairwise fun first second => first.1 < second.1 := by
  induction members with
  | nil => exact List.pairwise_singleton _ _
  | cons first rest ih =>
      obtain ⟨other, known⟩ := first
      obtain ⟨hfirst, hrest⟩ := List.pairwise_cons.mp hsorted
      rw [insert]
      split
      · rename_i hlt
        refine List.pairwise_cons.mpr ⟨?_, hsorted⟩
        intro member hmember
        rcases List.mem_cons.mp hmember with rfl | hmem
        · exact hlt
        · exact String.lt_trans hlt (hfirst member hmem)
      · rename_i hlt
        split
        · rename_i heq
          exact List.pairwise_cons.mpr ⟨fun member hmem => heq ▸ hfirst member hmem, hrest⟩
        · rename_i hne
          refine List.pairwise_cons.mpr ⟨?_, ih hrest⟩
          intro member hmember
          rcases eq_or_mem_of_mem_insert hmember with rfl | hmem
          · exact lt_of_not_lt_of_ne hlt hne
          · exact hfirst member hmem

theorem pairwise_sortMembers (members : List (String × Json)) :
    (sortMembers members).Pairwise fun first second => first.1 < second.1 := by
  have hfold : ∀ sorted : List (String × Json),
      (sorted.Pairwise fun first second => first.1 < second.1) →
      (members.foldl (fun sorted member => insert member.1 member.2 sorted)
        sorted).Pairwise fun first second => first.1 < second.1 := by
    induction members with
    | nil => exact fun _ hsorted => hsorted
    | cons member rest ih =>
        intro sorted hsorted
        exact ih _ (pairwise_insert hsorted member.1 member.2)
  exact hfold [] .nil

/-- The declarations of a document come in name order. -/
theorem pairwise_ofDocument {document : Json} {declarations : List Declaration}
    (hdocument : ofDocument document = .ok declarations) :
    declarations.Pairwise fun first second => first.name < second.name := by
  rw [ofDocument] at hdocument
  split at hdocument
  · exact absurd hdocument (by simp)
  · rename_i members hmembers
    rw [Except.ok.injEq] at hdocument
    rw [← hdocument, List.pairwise_map]
    exact pairwise_sortMembers members

theorem name_of_schemaOf? {name : String} {value : Json} {schema : ContainerSchema}
    (hschema : schemaOf? name value = some schema) : schema.name = name := by
  simp only [schemaOf?, Option.bind_eq_bind, Option.bind_eq_some_iff] at hschema
  obtain ⟨⟨key, fields⟩, _, heq⟩ := hschema
  rw [← Option.some.inj heq]

/-- A complete declaration has a schema of its own name. -/
theorem name_of_mem_ofDocument {document : Json} {declarations : List Declaration}
    (hdocument : ofDocument document = .ok declarations) {declaration : Declaration}
    (hmem : declaration ∈ declarations) {schema : ContainerSchema}
    (hschema : declaration.schema? = some schema) : schema.name = declaration.name := by
  rw [ofDocument] at hdocument
  split at hdocument
  · exact absurd hdocument (by simp)
  · rw [Except.ok.injEq] at hdocument
    rw [← hdocument, List.mem_map] at hmem
    obtain ⟨member, _, rfl⟩ := hmem
    exact name_of_schemaOf? hschema

end Declaration

/-- Complete declarations with schemas of their own names give containers in the order of
the declarations. -/
theorem SchemaSet.pairwise_containers {declarations : List Declaration}
    (hsorted : declarations.Pairwise fun first second => first.name < second.name)
    (hnames : ∀ declaration ∈ declarations, ∀ schema,
      declaration.schema? = some schema → schema.name = declaration.name) :
    (ofDeclarations declarations).containers.Pairwise fun first second =>
      first.name < second.name := by
  rw [ofDeclarations, List.pairwise_filterMap]
  refine hsorted.imp_of_mem ?_
  intro first second hfirst hsecond hlt schema hschema other hother
  rw [hnames first hfirst schema hschema, hnames second hsecond other hother]
  exact hlt

/-- The containers of a document come in name order. -/
theorem SchemaSet.pairwise_ofDeclarations {document : Json} {declarations : List Declaration}
    (hdocument : Declaration.ofDocument document = .ok declarations) :
    (SchemaSet.ofDeclarations declarations).containers.Pairwise fun first second =>
      first.name < second.name :=
  pairwise_containers (Declaration.pairwise_ofDocument hdocument) fun _ hmem _ hschema =>
    Declaration.name_of_mem_ofDocument hdocument hmem hschema

end TypedContainers
