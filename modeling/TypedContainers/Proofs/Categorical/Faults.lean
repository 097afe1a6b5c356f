import TypedContainers.Proofs.Categorical.Registry
import TypedContainers.Proofs.Naming.Identifier

/-!
# The first fault of a table

A table is accepted exactly if every entry can be declared, under a name of its own.  The
names are meant as identifiers in full here, not only as far as the check looks at them.
Any other table is refused for its first offending entry: the entries before it could be
declared by themselves, and in it, what comes before the fault is in order, too.
-/

namespace TypedContainers

namespace CategoricalField

/-- An entry whose enumeration can be declared. -/
structure Declarable (entry : CategoricalField) : Prop where
  name : Naming.IsIdentifier entry.enumName
  nonempty : entry.variants ≠ []
  idents : ∀ v ∈ entry.enumDefinition.variants, Naming.IsIdentifier v.ident
  distinct : (entry.enumDefinition.variants.map EnumVariant.ident).Nodup

/-- The fault of a variant beside the variants before it: that of its name, or that the name
is an identifier which one of them has, too. -/
inductive IsVariantFault (field : String) (before : List EnumVariant) (v : EnumVariant) :
    CategoricalFault → Prop
  | name {fault : IdentifierFault} (hfault : fault.IsOf v.ident) :
      IsVariantFault field before v (.variant field v.wire fault)
  | repeated {earlier : EnumVariant} (hident : Naming.IsIdentifier v.ident)
      (hearlier : earlier ∈ before) (hsame : earlier.ident = v.ident) :
      IsVariantFault field before v (.repeatedVariant field earlier.wire v.wire v.ident)

/-- The fault of an entry that cannot be declared.  A fault of the entry's name counts
first, then the lack of variants, then the first variant at fault. -/
inductive HasFault (entry : CategoricalField) : CategoricalFault → Prop
  | typeName {fault : IdentifierFault} (hname : fault.IsOf entry.enumName) :
      HasFault entry (.typeName entry.field entry.typeName fault)
  | noVariants (hname : Naming.IsIdentifier entry.enumName) (hempty : entry.variants = []) :
      HasFault entry (.noVariants entry.field)
  | variant {before after : List EnumVariant} {v : EnumVariant} {fault : CategoricalFault}
      (hname : Naming.IsIdentifier entry.enumName)
      (hsplit : entry.enumDefinition.variants = before ++ v :: after)
      (hidents : ∀ earlier ∈ before, Naming.IsIdentifier earlier.ident)
      (hdistinct : (before.map EnumVariant.ident).Nodup)
      (hfault : IsVariantFault entry.field before v fault) :
      HasFault entry fault

theorem isIdentifier_enumName_iff {entry : CategoricalField} :
    Naming.IsIdentifier entry.enumName ↔ IdentifierFault.of? entry.enumName = none :=
  Naming.isIdentifier_pascal_iff

theorem isIdentifier_ident_iff {entry : CategoricalField} {v : EnumVariant}
    (hv : v ∈ entry.enumDefinition.variants) :
    Naming.IsIdentifier v.ident ↔ IdentifierFault.of? v.ident = none := by
  obtain ⟨wire, _, rfl⟩ := List.mem_map.mp hv
  exact Naming.isIdentifier_pascal_iff

theorem forall_isIdentifier_ident_iff {entry : CategoricalField}
    {variants : List EnumVariant} (hsub : variants ⊆ entry.enumDefinition.variants) :
    (∀ v ∈ variants, Naming.IsIdentifier v.ident) ↔
      ∀ v ∈ variants, IdentifierFault.of? v.ident = none :=
  forall₂_congr fun _ hv => isIdentifier_ident_iff (hsub hv)

theorem variants_enumDefinition_eq_nil_iff {entry : CategoricalField} :
    entry.enumDefinition.variants = [] ↔ entry.variants = [] :=
  List.map_eq_nil_iff

theorem declarable_iff {entry : CategoricalField} :
    entry.Declarable ↔ entry.enumDefinition.WellFormed := by
  have hidents := forall_isIdentifier_ident_iff (List.Subset.refl entry.enumDefinition.variants)
  constructor
  · rintro ⟨hname, hnonempty, hall, hdistinct⟩
    exact ⟨isIdentifier_enumName_iff.mp hname,
      mt variants_enumDefinition_eq_nil_iff.mp hnonempty, hidents.mp hall, hdistinct⟩
  · rintro ⟨hname, hnonempty, hall, hdistinct⟩
    exact ⟨isIdentifier_enumName_iff.mpr hname,
      mt variants_enumDefinition_eq_nil_iff.mpr hnonempty, hidents.mpr hall, hdistinct⟩

theorem variantFaultAfter?_eq_some_iff {field : String} {before : List EnumVariant}
    {v : EnumVariant} {fault : CategoricalFault}
    (hdistinct : (before.map EnumVariant.ident).Nodup)
    (hident : Naming.IsIdentifier v.ident ↔ IdentifierFault.of? v.ident = none) :
    variantFaultAfter? field before v = some fault ↔ IsVariantFault field before v fault := by
  rw [variantFaultAfter?]
  constructor
  · intro hfault
    cases hown : IdentifierFault.of? v.ident with
    | some own =>
        rw [hown, Option.some.injEq] at hfault
        subst hfault
        exact .name (IdentifierFault.of?_eq_some_iff.mp hown)
    | none =>
        rw [hown, Option.map_eq_some_iff] at hfault
        obtain ⟨earlier, hfound, rfl⟩ := hfault
        obtain ⟨hearlier, hsame⟩ := (Naming.find?_eq_some_iff_of_nodup hdistinct).mp hfound
        exact .repeated (hident.mpr hown) hearlier hsame
  · intro hfault
    cases hfault with
    | name hown => rw [IdentifierFault.of?_eq_some_iff.mpr hown]
    | repeated hv hearlier hsame =>
        rw [hident.mp hv, (Naming.find?_eq_some_iff_of_nodup hdistinct).mpr ⟨hearlier, hsame⟩]
        rfl

/-- The first fault among the variants of an entry. -/
theorem variantFault?_eq_some_iff {entry : CategoricalField} {fault : CategoricalFault} :
    variantFault? entry.field [] entry.enumDefinition.variants = some fault ↔
      ∃ before v after, entry.enumDefinition.variants = before ++ v :: after ∧
        (∀ earlier ∈ before, Naming.IsIdentifier earlier.ident) ∧
        (before.map EnumVariant.ident).Nodup ∧
        IsVariantFault entry.field before v fault := by
  rw [variantFault?_eq_firstFault?, firstFault?_nil_eq_some_iff variantFaultAfter?_eq_none_iff]
  refine exists_congr fun before => exists_congr fun v => exists_congr fun after =>
    and_congr_right fun hsplit => ?_
  -- Of the names that an entry declares, those that pass the check are the identifiers.
  have hbefore : before ⊆ entry.enumDefinition.variants := by
    rw [hsplit]
    exact List.subset_append_left before (v :: after)
  have hv : v ∈ entry.enumDefinition.variants := by
    rw [hsplit]
    exact List.mem_append_right before List.mem_cons_self
  rw [forall_isIdentifier_ident_iff hbefore, and_assoc]
  refine and_congr_right fun _ => and_congr_right fun hdistinct => ?_
  exact variantFaultAfter?_eq_some_iff hdistinct (isIdentifier_ident_iff hv)

/-- What is reported of an entry is its fault. -/
theorem fault?_eq_some_iff {entry : CategoricalField} {fault : CategoricalFault} :
    entry.fault? = some fault ↔ entry.HasFault fault := by
  rw [fault?]
  constructor
  · intro hfault
    cases hown : IdentifierFault.of? entry.enumDefinition.name with
    | some own =>
        simp only [hown, Option.some.injEq] at hfault
        subst hfault
        exact .typeName (IdentifierFault.of?_eq_some_iff.mp hown)
    | none =>
        have hname := isIdentifier_enumName_iff.mpr hown
        simp only [hown] at hfault
        split at hfault
        · rename_i hempty
          obtain rfl := Option.some.inj hfault
          exact .noVariants hname (variants_enumDefinition_eq_nil_iff.mp hempty)
        · obtain ⟨before, v, after, hsplit, hidents, hdistinct, hv⟩ :=
            variantFault?_eq_some_iff.mp hfault
          exact .variant hname hsplit hidents hdistinct hv
  · intro hfault
    cases hfault with
    | typeName hown =>
        simp only [name_enumDefinition, IdentifierFault.of?_eq_some_iff.mpr hown]
    | noVariants hname hempty =>
        simp only [name_enumDefinition, isIdentifier_enumName_iff.mp hname,
          variants_enumDefinition_eq_nil_iff.mpr hempty, if_true]
    | variant hname hsplit hidents hdistinct hv =>
        have hnonempty : entry.enumDefinition.variants ≠ [] := by
          rw [hsplit]
          exact List.append_ne_nil_of_right_ne_nil _ (List.cons_ne_nil _ _)
        simp only [name_enumDefinition, isIdentifier_enumName_iff.mp hname, hnonempty, if_false]
        exact variantFault?_eq_some_iff.mpr ⟨_, _, _, hsplit, hidents, hdistinct, hv⟩

end CategoricalField

namespace CategoricalRegistry

/-- A table whose entries can all be declared beside each other. -/
structure Declarable (registry : CategoricalRegistry) : Prop where
  entries : ∀ entry ∈ registry.entries, entry.Declarable
  distinct : (registry.entries.map CategoricalField.enumName).Nodup

/-- The fault of an entry beside the entries before it: its own, or that it can be declared
by itself but not under the name that one of them has. -/
inductive IsEntryFault (before : List CategoricalField) (entry : CategoricalField) :
    RegistryFault → Prop
  | own {fault : CategoricalFault} (hfault : entry.HasFault fault) :
      IsEntryFault before entry (.entry fault)
  | sharedName {earlier : CategoricalField} (hentry : entry.Declarable)
      (hearlier : earlier ∈ before) (hsame : earlier.enumName = entry.enumName) :
      IsEntryFault before entry (.sharedName earlier.field entry.field entry.enumName)

/-- The fault of a table that is not in order: that of the first offending entry. -/
def HasFault (registry : CategoricalRegistry) (fault : RegistryFault) : Prop :=
  ∃ before entry after, registry.entries = before ++ entry :: after ∧
    Declarable ⟨before⟩ ∧ IsEntryFault before entry fault

theorem declarable_iff {registry : CategoricalRegistry} :
    registry.Declarable ↔ (∀ entry ∈ registry.entries, entry.enumDefinition.WellFormed) ∧
      (registry.entries.map CategoricalField.enumName).Nodup := by
  simp only [← CategoricalField.declarable_iff]
  exact ⟨fun hall => ⟨hall.entries, hall.distinct⟩, fun hall => ⟨hall.1, hall.2⟩⟩

theorem entryFaultAfter?_eq_some_iff {before : List CategoricalField}
    {entry : CategoricalField} {fault : RegistryFault}
    (hdistinct : (before.map CategoricalField.enumName).Nodup) :
    entryFaultAfter? before entry = some fault ↔ IsEntryFault before entry fault := by
  rw [entryFaultAfter?]
  constructor
  · intro hfault
    cases hown : entry.fault? with
    | some own =>
        rw [hown, Option.some.injEq] at hfault
        subst hfault
        exact .own (CategoricalField.fault?_eq_some_iff.mp hown)
    | none =>
        have hentry : entry.Declarable :=
          CategoricalField.declarable_iff.mpr (CategoricalField.fault?_eq_none_iff.mp hown)
        rw [hown, Option.map_eq_some_iff] at hfault
        obtain ⟨earlier, hfound, rfl⟩ := hfault
        obtain ⟨hearlier, hsame⟩ := (Naming.find?_eq_some_iff_of_nodup hdistinct).mp hfound
        exact .sharedName hentry hearlier hsame
  · intro hfault
    cases hfault with
    | own hown => rw [CategoricalField.fault?_eq_some_iff.mpr hown]
    | sharedName hentry hearlier hsame =>
        have hnone : entry.fault? = none :=
          CategoricalField.fault?_eq_none_iff.mpr (CategoricalField.declarable_iff.mp hentry)
        rw [hnone, (Naming.find?_eq_some_iff_of_nodup hdistinct).mpr ⟨hearlier, hsame⟩]
        rfl

theorem fault?_eq_some_iff {registry : CategoricalRegistry} {fault : RegistryFault} :
    registry.fault? = some fault ↔ registry.HasFault fault := by
  rw [fault?, faultAfter?_eq_firstFault?,
    firstFault?_nil_eq_some_iff entryFaultAfter?_eq_none_iff]
  refine exists_congr fun before => exists_congr fun entry => exists_congr fun after =>
    and_congr_right fun _ => ?_
  rw [declarable_iff]
  exact and_congr_right fun hbefore => entryFaultAfter?_eq_some_iff hbefore.2

/-- A table is accepted exactly if it can be declared: every name in it is an identifier,
every entry has a variant, and no two variants of an entry and no two entries share a name.
Any other table is refused, and for nothing but the fault of its first offending entry. -/
theorem accepted_or_first_fault (registry : CategoricalRegistry) :
    (registry.fault? = none ↔ registry.Declarable) ∧
    (∀ fault, registry.fault? = some fault ↔ registry.HasFault fault) ∧
    (¬registry.Declarable ↔ ∃ fault, registry.HasFault fault) := by
  have hnone : registry.fault? = none ↔ registry.Declarable := by
    rw [fault?_eq_none_iff, declarable_iff]
  refine ⟨hnone, fun fault => fault?_eq_some_iff, ?_⟩
  simp only [← hnone, ← fault?_eq_some_iff]
  exact Option.ne_none_iff_exists'

example : CategoricalRegistry.fault? ⟨[⟨"size", "Size", ["xl", "XL"]⟩]⟩ =
    some (.entry (.repeatedVariant "size" "xl" "XL" "Xl")) := by decide

end CategoricalRegistry

end TypedContainers
