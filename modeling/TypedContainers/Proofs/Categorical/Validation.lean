import TypedContainers.Categorical.Basic
import TypedContainers.Proofs.FirstFault

/-!
# What validation of an entry means

An entry without a fault declares a well-formed enumeration, and the other way
round: its name and its variants' names are identifiers, there is a variant, and
no two variants share a name.
-/

namespace TypedContainers

/-- An enumeration that can be declared. -/
structure EnumDefinition.WellFormed (definition : EnumDefinition) : Prop where
  name : IdentifierFault.of? definition.name = none
  nonempty : definition.variants ≠ []
  idents : ∀ v ∈ definition.variants, IdentifierFault.of? v.ident = none
  distinct : (definition.variants.map EnumVariant.ident).Nodup

/-- A name without a fault has a first character, which is no digit. -/
theorem IdentifierFault.of?_eq_none_iff {ident : String} :
    IdentifierFault.of? ident = none ↔
      (∃ first rest, ident.toList = first :: rest ∧ first.isDigit = false) ∧
        ident ≠ "Self" := by
  rw [IdentifierFault.of?]
  cases ident.toList with
  | nil => simp
  | cons first rest =>
      by_cases hdigit : first.isDigit
      · simp [hdigit]
      · simp [hdigit]

namespace CategoricalField

/-- The fault of a variant after the variants before it. -/
def variantFaultAfter? (field : String) (seen : List EnumVariant) (v : EnumVariant) :
    Option CategoricalFault :=
  match IdentifierFault.of? v.ident with
  | some fault => some (.variant field v.wire fault)
  | none => (seen.find? (·.ident = v.ident)).map fun earlier =>
      .repeatedVariant field earlier.wire v.wire v.ident

theorem variantFault?_eq_firstFault? (field : String) (seen rest : List EnumVariant) :
    variantFault? field seen rest = firstFault? (variantFaultAfter? field) seen rest := by
  induction rest generalizing seen with
  | nil => rfl
  | cons v rest ih =>
      rw [variantFault?, firstFault?, variantFaultAfter?, ih]
      cases IdentifierFault.of? v.ident with
      | some fault => rfl
      | none =>
          cases seen.find? (·.ident = v.ident) with
          | some earlier => rfl
          | none => rfl

theorem variantFaultAfter?_eq_none_iff {field : String} (seen : List EnumVariant)
    (v : EnumVariant) :
    variantFaultAfter? field seen v = none ↔
      IdentifierFault.of? v.ident = none ∧ v.ident ∉ seen.map EnumVariant.ident := by
  rw [variantFaultAfter?, ← Naming.find?_eq_none_iff]
  cases IdentifierFault.of? v.ident with
  | some fault => simp
  | none => simp only [Option.map_eq_none_iff, true_and]

/-- The search for a fault passes exactly over variants whose names are
identifiers and new. -/
theorem variantFault?_eq_none_iff {field : String} {seen rest : List EnumVariant} :
    variantFault? field seen rest = none ↔
      (∀ v ∈ rest, IdentifierFault.of? v.ident = none) ∧
        Naming.New EnumVariant.ident seen rest := by
  rw [variantFault?_eq_firstFault?]
  exact firstFault?_eq_none_iff variantFaultAfter?_eq_none_iff

/-- Validation accepts exactly the entries whose enumeration is well formed. -/
theorem fault?_eq_none_iff {entry : CategoricalField} :
    entry.fault? = none ↔ entry.enumDefinition.WellFormed := by
  rw [fault?]
  cases hname : IdentifierFault.of? entry.enumDefinition.name with
  | some fault =>
      simp only [reduceCtorEq, false_iff]
      intro hwell
      simp [hwell.name] at hname
  | none =>
      by_cases hvariants : entry.enumDefinition.variants = []
      · simp only [hvariants, if_true, reduceCtorEq, false_iff]
        exact fun hwell => hwell.nonempty hvariants
      · simp only [hvariants, if_false, variantFault?_eq_none_iff, Naming.new_nil_left]
        constructor
        · rintro ⟨hidents, hdistinct⟩
          exact ⟨hname, hvariants, hidents, hdistinct⟩
        · intro hwell
          exact ⟨hwell.idents, hwell.distinct⟩

end CategoricalField

end TypedContainers
