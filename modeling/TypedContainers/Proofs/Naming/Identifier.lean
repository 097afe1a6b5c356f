import TypedContainers.Proofs.Categorical.Validation

/-!
# Identifiers

What may be declared in generated code: ASCII letters and digits that start with a letter
and are no keyword.  The check of a declared name asks for much less, and that is enough,
because a declared name holds nothing but letters and digits, and no keyword other than
`Self` starts with a capital.
-/

namespace TypedContainers.Naming

/-- The words that generated code keeps for itself, those of any edition and those that
are only reserved included. -/
def keywords : List String :=
  ["Self", "abstract", "as", "async", "await", "become", "box", "break", "const",
    "continue", "crate", "do", "dyn", "else", "enum", "extern", "false", "final", "fn",
    "for", "gen", "if", "impl", "in", "let", "loop", "macro", "match", "mod", "move",
    "mut", "override", "priv", "pub", "ref", "return", "self", "static", "struct",
    "super", "trait", "true", "try", "type", "typeof", "unsafe", "unsized", "use",
    "virtual", "where", "while", "yield"]

/-- A name that can be declared. -/
structure IsIdentifier (name : String) : Prop where
  chars : ∀ c ∈ name.toList, c.isAlphanum
  first : ∃ c rest, name.toList = c :: rest ∧ c.isAlpha
  unreserved : name ∉ keywords

/-- Every keyword but one starts with a lower case letter. -/
theorem isLower_head?_of_mem_keywords {word : String} (hword : word ∈ keywords)
    (hne : word ≠ "Self") : word.toList.head?.any Char.isLower := by
  have hall : keywords.all fun word =>
      word = "Self" || word.toList.head?.any Char.isLower := by decide
  have hcases := List.all_eq_true.mp hall word hword
  rw [Bool.or_eq_true, decide_eq_true_eq] at hcases
  exact hcases.resolve_left hne

theorem pascal_not_mem_keywords {text : String} (hne : pascal text ≠ "Self") :
    pascal text ∉ keywords := by
  intro hmem
  have hlower := isLower_head?_of_mem_keywords hmem hne
  cases hhead : (pascal text).toList.head? with
  | none =>
      rw [hhead] at hlower
      exact absurd hlower Bool.false_ne_true
  | some c =>
      rw [hhead, Option.any_some, isLower_head?_pascal hhead] at hlower
      exact absurd hlower Bool.false_ne_true

/-- A declared name is an identifier exactly if the check finds no fault with it. -/
theorem isIdentifier_pascal_iff {text : String} :
    IsIdentifier (pascal text) ↔ IdentifierFault.of? (pascal text) = none := by
  have hchars : ∀ c ∈ (pascal text).toList, c.isAlphanum := fun c => isAlphanum_of_mem_pascal
  rw [IdentifierFault.of?_eq_none_iff]
  constructor
  · rintro ⟨_, ⟨c, rest, hfirst, hc⟩, hunreserved⟩
    have hmem : c ∈ (pascal text).toList := hfirst ▸ List.mem_cons_self
    refine ⟨⟨c, rest, hfirst, (isAlpha_iff (hchars c hmem)).mp hc⟩, ?_⟩
    intro heq
    exact hunreserved (heq ▸ List.mem_cons_self)
  · rintro ⟨⟨c, rest, hfirst, hc⟩, hne⟩
    have hmem : c ∈ (pascal text).toList := hfirst ▸ List.mem_cons_self
    exact ⟨hchars, ⟨c, rest, hfirst, (isAlpha_iff (hchars c hmem)).mpr hc⟩,
      pascal_not_mem_keywords hne⟩

end TypedContainers.Naming

namespace TypedContainers

/-- What is wrong with a name. -/
def IdentifierFault.IsOf (ident : String) : IdentifierFault → Prop
  | empty => ident = ""
  | leadingDigit => ∃ first rest, ident.toList = first :: rest ∧ first.isDigit
  | reserved => ident = "Self"

theorem IdentifierFault.of?_eq_some_iff {ident : String} {fault : IdentifierFault} :
    IdentifierFault.of? ident = some fault ↔ fault.IsOf ident := by
  rw [IdentifierFault.of?]
  cases hchars : ident.toList with
  | nil =>
      obtain rfl : ident = "" := String.toList_eq_nil_iff.mp hchars
      cases fault with
      | empty => simp [IsOf]
      | leadingDigit => simp [IsOf]
      | reserved => simp [IsOf]
  | cons first rest =>
      have hne : ident ≠ "" := by
        rintro rfl
        exact absurd hchars.symm (List.cons_ne_nil first rest)
      by_cases hdigit : first.isDigit
      · have hself : ident ≠ "Self" := by
          rintro rfl
          obtain ⟨rfl, _⟩ := List.cons.inj hchars
          exact absurd hdigit (by decide)
        cases fault with
        | empty => simp [IsOf, hdigit, hne]
        | leadingDigit => simp [IsOf, hdigit, hchars]
        | reserved => simp [IsOf, hdigit, hself]
      · cases fault with
        | empty => simp [IsOf, hdigit, hne]
        | leadingDigit => simp [IsOf, hdigit, hchars]
        | reserved => simp [IsOf, hdigit]

end TypedContainers
