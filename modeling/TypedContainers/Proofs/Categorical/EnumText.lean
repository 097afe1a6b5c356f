import TypedContainers.Proofs.Categorical.Validation
import TypedContainers.Proofs.Record.Lines
import TypedContainers.Proofs.Record.Reading

/-!
# Reading an enumeration from its text

The declaration says how each variant is written and which one is the default, and
the reader's cases say which variant a value is read as.  Nothing else of the text
decides what the enumeration means, and a text that is not of this form has no
reading.
-/

namespace TypedContainers

/-- A variant as its declaration gives it. -/
structure RenderedVariant where
  ident : String
  /-- The value it is written as, where the declaration renames it. -/
  rename? : Option String
  isDefault : Bool
deriving Repr, DecidableEq

/-- An enumeration as its text gives it. -/
structure RenderedEnum where
  name : String
  /-- Whether the naming rule for capitals applies to all variants. -/
  screamingSnake : Bool
  variants : List RenderedVariant
  /-- The reader's cases: a value, and the name of the variant it is read as. -/
  arms : List (String × String)
deriving Repr, DecidableEq

namespace Reading

/-! ## The reader -/

/-- A line that is an identifier, as a name. -/
def identifier? (line : Line) : Option String :=
  if line.all Char.isAlphanum ∧ line.head?.any (fun c => !c.isDigit) ∧
      line ≠ ['S', 'e', 'l', 'f'] then
    some (String.ofList line)
  else none

/-- The name that a line declares an enumeration under, if it does that. -/
def enumName? (line : Line) : Option String :=
  (between? "pub enum " " \x7b" line).bind identifier?

/-- The attribute that applies the naming rule for capitals. -/
def screamingSnakeAttribute : String :=
  "#[serde(rename_all = \"SCREAMING_SNAKE_CASE\")]"

/-- The variants in the lines of a declaration, the attributes of the first of them
given. -/
def variants? (isDefault : Bool) (rename? : Option String) :
    List Line → Option (List RenderedVariant)
  | [] => if isDefault ∨ rename?.isSome then none else some []
  | line :: rest =>
    if unindent line = "#[default]".toList then variants? true rename? rest
    else
      match renamed? line with
      | some literal => do
        let wire ← Literal.decode? literal
        variants? isDefault (some wire) rest
      | none => do
        let ident ← (before? [','] (unindent line)).bind identifier?
        let variants ← variants? false none rest
        return ⟨ident, rename?, isDefault⟩ :: variants

/-- The value and the variant of one case of the reader for an enumeration. -/
def arm? (name : String) (line : Line) : Option (String × String) := do
  let start ← after? "Some(".toList (unindent line)
  let (wire, rest) ← Literal.read? start
  let ident ← between? (") => " ++ name ++ "::") "," rest
  let ident ← identifier? ident
  return (String.ofList wire, ident)

/-- The cases of the reader for an enumeration.  The last line takes everything
else for the default. -/
def arms? (name : String) : List Line → Option (List (String × String))
  | [] => none
  | [line] =>
    if unindent line = ("_ => " ++ name ++ "::default(),").toList then some [] else none
  | line :: rest => do
    let arm ← arm? name line
    let arms ← arms? name rest
    return arm :: arms

/-- Whether a line begins the declaration of an enumeration. -/
def opensEnum (line : Line) : Bool :=
  (enumName? line).isSome

/-- Whether a line begins the cases of a reader. -/
def opensMatch (line : Line) : Bool :=
  unindent line = "Ok(match value.as_deref() \x7b".toList

/-- Whether a line ends the cases of a reader. -/
def closesMatch (line : Line) : Bool :=
  unindent line = ['}', ')']

/-- The enumeration that a text declares and reads. -/
def enum? (lines : List Line) : Option RenderedEnum := do
  let name ← lines.findSome? enumName?
  let variants ← variants? false none (block opensEnum closesType lines)
  let arms ← arms? name (block opensMatch closesMatch lines)
  let attributes := lines.takeWhile fun line => !opensEnum line
  return ⟨name, attributes.contains screamingSnakeAttribute.toList, variants, arms⟩

/-! ## What is read of a written enumeration -/

/-- A variant of a definition as it is declared. -/
def renderedVariant (screamingSnake isFirst : Bool) (v : EnumVariant) : RenderedVariant :=
  ⟨v.ident, if screamingSnake then none else some v.wire, isFirst⟩

/-- The variants of a definition as they are declared, the first one the default. -/
def renderedVariants (screamingSnake : Bool) : List EnumVariant → List RenderedVariant
  | [] => []
  | first :: rest =>
    renderedVariant screamingSnake true first ::
      rest.map (renderedVariant screamingSnake false)

/-- A definition as it is declared and read. -/
def rendered (definition : EnumDefinition) : RenderedEnum where
  name := definition.name
  screamingSnake := definition.screamingSnake
  variants := renderedVariants definition.screamingSnake definition.variants
  arms := definition.variants.map fun v => (v.wire, v.ident)

/-- A definition whose names are identifiers. -/
structure HasIdentifiers (definition : EnumDefinition) : Prop where
  name : identifier? definition.name.toList = some definition.name
  idents : ∀ v ∈ definition.variants, identifier? v.ident.toList = some v.ident

/-- A declared name without a fault is an identifier. -/
theorem identifier?_pascal {text : String}
    (hfault : IdentifierFault.of? (Naming.pascal text) = none) :
    identifier? (Naming.pascal text).toList = some (Naming.pascal text) := by
  obtain ⟨⟨first, rest, hchars, hdigit⟩, hself⟩ :=
    IdentifierFault.of?_eq_none_iff.mp hfault
  have hall : (Naming.pascal text).toList.all Char.isAlphanum := by
    rw [List.all_eq_true]
    exact fun c hc => Naming.isAlphanum_of_mem_pascal hc
  have hhead : (Naming.pascal text).toList.head?.any (fun c => !c.isDigit) := by
    simp [hchars, hdigit]
  have hword : (Naming.pascal text).toList ≠ ['S', 'e', 'l', 'f'] := by
    intro heq
    exact hself (String.toList_inj.mp heq)
  rw [identifier?, if_pos ⟨hall, hhead, hword⟩, String.ofList_toList]

theorem hasIdentifiers_enumDefinition {entry : CategoricalField}
    (hwell : entry.enumDefinition.WellFormed) : HasIdentifiers entry.enumDefinition where
  name := identifier?_pascal hwell.name
  idents := by
    intro v hv
    have hident := hwell.idents v hv
    simp only [CategoricalField.enumDefinition, List.mem_map] at hv
    obtain ⟨wire, _, rfl⟩ := hv
    exact identifier?_pascal hident

/-- An identifier starts with no space. -/
theorem head?_ne_of_identifier? {line : Line} {name : String}
    (hname : identifier? line = some name) : line.head? ≠ some ' ' := by
  intro hspace
  cases line with
  | nil => simp at hspace
  | cons c rest =>
      have hc : c = ' ' := by simpa using hspace
      subst hc
      rw [identifier?, if_neg] at hname
      · exact absurd hname (by simp)
      · rintro ⟨hall, _⟩
        have hblank : Char.isAlphanum ' ' = false := by decide
        rw [List.all_cons, hblank, Bool.false_and] at hall
        contradiction

/-! ## Variants -/

theorem variants?_default (rename? : Option String) (rest : List Line) :
    variants? false rename? ("    #[default]".toList :: rest) =
      variants? true rename? rest := by
  have hline : unindent "    #[default]".toList = "#[default]".toList := by
    rw [String.toList_ofList, String.toList_ofList]
    rfl
  rw [variants?, if_pos hline]

theorem variants?_rename (isDefault : Bool) (wire : String) (rest : List Line) :
    variants? isDefault none
        (("    #[serde(rename = " ++ Literal.quote wire ++ ")]").toList :: rest) =
      variants? isDefault (some wire) rest := by
  have hattribute := renamed?_attribute wire
  have hline : unindent ("    #[serde(rename = " ++ Literal.quote wire ++ ")]").toList ≠
      "#[default]".toList := by
    intro heq
    rw [renamed?, heq, between?, String.toList_ofList, String.toList_ofList] at hattribute
    exact absurd hattribute (by simp [after?])
  rw [variants?, if_neg hline, hattribute]
  simp [Literal.decode?_quote]

theorem variants?_ident {v : EnumVariant} (hv : identifier? v.ident.toList = some v.ident)
    (isDefault : Bool) (rename? : Option String) (rest : List Line) :
    variants? isDefault rename? (("    " ++ v.ident ++ ",").toList :: rest) =
      (variants? false none rest).map (⟨v.ident, rename?, isDefault⟩ :: ·) := by
  have hunindent : unindent ("    " ++ v.ident ++ ",").toList = v.ident.toList ++ [','] := by
    rw [String.append_assoc, String.toList_append, String.toList_append]
    rw [unindent_append (by simp)]
    · rfl
    · cases hchars : v.ident.toList with
      | nil => simp
      | cons c rest => simpa [hchars] using head?_ne_of_identifier? hv
  have hlast : ("    " ++ v.ident ++ ",").toList.getLast? = some ',' := by
    rw [getLast?_append_ofList _ (by decide)]
    rfl
  have hline : unindent ("    " ++ v.ident ++ ",").toList ≠ "#[default]".toList := by
    intro heq
    have hdefault : (unindent ("    " ++ v.ident ++ ",").toList).getLast? = some ']' := by
      rw [heq]
      decide
    rw [getLast?_of_unindent hdefault] at hlast
    exact absurd hlast (by decide)
  have hrenamed : renamed? ("    " ++ v.ident ++ ",").toList = none := by
    apply renamed?_eq_none
    rw [hlast]
    decide
  have hbefore : before? [','] (v.ident.toList ++ [',']) = some v.ident.toList :=
    before?_eq_some_iff.mpr rfl
  rw [variants?, if_neg hline, hrenamed, hunindent, hbefore]
  cases variants? false none rest with
  | none => simp [hv]
  | some variants => simp [hv]

/-- A written variant is read as itself. -/
theorem variants?_variantLines {v : EnumVariant}
    (hv : identifier? v.ident.toList = some v.ident) (screamingSnake isFirst : Bool)
    (rest : List Line) :
    variants? false none
        ((Source.variantLines screamingSnake isFirst v).map String.toList ++ rest) =
      (variants? false none rest).map (renderedVariant screamingSnake isFirst v :: ·) := by
  cases isFirst with
  | true =>
      cases screamingSnake with
      | true => exact (variants?_default none _).trans (variants?_ident hv true none rest)
      | false =>
          exact (variants?_default none _).trans
            ((variants?_rename true v.wire _).trans (variants?_ident hv true _ rest))
  | false =>
      cases screamingSnake with
      | true => exact variants?_ident hv false none rest
      | false => exact (variants?_rename false v.wire _).trans (variants?_ident hv false _ rest)

theorem variants?_flatMap_variantLines {variants : List EnumVariant}
    (hvariants : ∀ v ∈ variants, identifier? v.ident.toList = some v.ident)
    (screamingSnake : Bool) :
    variants? false none
        ((variants.flatMap (Source.variantLines screamingSnake false)).map String.toList) =
      some (variants.map (renderedVariant screamingSnake false)) := by
  induction variants with
  | nil => rfl
  | cons v rest ih =>
      have hv := hvariants v List.mem_cons_self
      have hrest := ih fun other hother => hvariants other (List.mem_cons_of_mem v hother)
      rw [List.flatMap_cons, List.map_append, variants?_variantLines hv, hrest]
      rfl

/-- The variants of a declaration are read as they were written. -/
theorem variants?_variantsLines {variants : List EnumVariant}
    (hvariants : ∀ v ∈ variants, identifier? v.ident.toList = some v.ident)
    (screamingSnake : Bool) :
    variants? false none
        ((Source.variantsLines screamingSnake variants).map String.toList) =
      some (renderedVariants screamingSnake variants) := by
  cases variants with
  | nil => rfl
  | cons first rest =>
      have hfirst := hvariants first List.mem_cons_self
      have hrest := variants?_flatMap_variantLines
        (fun other hother => hvariants other (List.mem_cons_of_mem first hother))
        screamingSnake
      rw [Source.variantsLines, List.map_append, variants?_variantLines hfirst, hrest]
      rfl

/-! ## Cases of the reader -/

theorem arm?_armLine {v : EnumVariant} (hv : identifier? v.ident.toList = some v.ident)
    (name : String) :
    arm? name (Source.armLine name v).toList = some (v.wire, v.ident) := by
  have hunindent : unindent (Source.armLine name v).toList =
      "Some(".toList ++ ((Literal.quote v.wire).toList ++
        ((") => " ++ name ++ "::").toList ++ (v.ident.toList ++ ",".toList))) := by
    unfold Source.armLine
    simp only [String.toList_append, List.append_assoc]
    rw [String.toList_ofList, String.toList_ofList]
    rfl
  have hstart := after?_eq_some_iff.mpr hunindent
  have hident : between? (") => " ++ name ++ "::") ","
      ((") => " ++ name ++ "::").toList ++ (v.ident.toList ++ ",".toList)) =
      some v.ident.toList := between?_eq_some_iff.mpr rfl
  rw [arm?, hstart, Option.bind_eq_bind, Option.bind_some, Literal.read?_quote]
  simp only [Option.bind_eq_bind, Option.bind_some, hident, hv, String.ofList_toList]
  rfl

/-- The cases of a reader are read as they were written. -/
theorem arms?_armLines {variants : List EnumVariant}
    (hvariants : ∀ v ∈ variants, identifier? v.ident.toList = some v.ident)
    (name : String) :
    arms? name ((variants.map (Source.armLine name) ++
        ["            _ => " ++ name ++ "::default(),"]).map String.toList) =
      some (variants.map fun v => (v.wire, v.ident)) := by
  induction variants with
  | nil =>
      have hfallback : unindent ("            _ => " ++ name ++ "::default(),").toList =
          ("_ => " ++ name ++ "::default(),").toList := by
        simp only [String.toList_append]
        rw [String.toList_ofList, String.toList_ofList]
        rfl
      rw [List.map_nil, List.nil_append, List.map_singleton, arms?, if_pos hfallback]
      rfl
  | cons v rest ih =>
      have hv := arm?_armLine (hvariants v List.mem_cons_self) name
      have hrest := ih fun other hother => hvariants other (List.mem_cons_of_mem v hother)
      rw [List.map_cons, List.cons_append, List.map_cons, arms?, hv, hrest]
      · rfl
      · simp

/-! ## The whole text -/

theorem enumName?_eq_none {line : Line} (hline : line.head? ≠ some 'p') :
    enumName? line = none := by
  cases hbetween : between? "pub enum " " \x7b" line with
  | none => rw [enumName?, hbetween, Option.bind_none]
  | some rest =>
      rw [between?_eq_some_iff] at hbetween
      exact absurd (hbetween ▸ rfl) hline

theorem enumName?_name {name : String} (hname : identifier? name.toList = some name) :
    enumName? ("pub enum " ++ name ++ " \x7b").toList = some name := by
  have hbetween : between? "pub enum " " \x7b" ("pub enum " ++ name ++ " \x7b").toList =
      some name.toList := by
    rw [between?_eq_some_iff, String.append_assoc, String.toList_append,
      String.toList_append]
  rw [enumName?, hbetween, Option.bind_some, hname]

/-- The lines before the name of an enumeration. -/
def attributeLines (definition : EnumDefinition) : List String :=
  ["", "#[derive(Debug, Clone, Copy, Default, PartialEq, Eq, Serialize)]"] ++
    if definition.screamingSnake then [screamingSnakeAttribute] else []

theorem enumName?_attributeLines (definition : EnumDefinition) :
    ∀ line ∈ (attributeLines definition).map String.toList, enumName? line = none := by
  intro line hline
  obtain ⟨text, htext, rfl⟩ := List.mem_map.mp hline
  simp only [attributeLines, List.mem_append, List.mem_cons, List.not_mem_nil,
    or_false] at htext
  rcases htext with (rfl | rfl) | htext
  · exact enumName?_eq_none (head?_ofList_ne (by decide))
  · exact enumName?_eq_none (head?_ofList_ne (by decide))
  · split at htext
    · exact List.mem_singleton.mp htext ▸ enumName?_eq_none (head?_ofList_ne (by decide))
    · exact absurd htext List.not_mem_nil

/-- The naming rule is among the attributes exactly if the definition follows it. -/
theorem contains_attributeLines (definition : EnumDefinition) :
    ((attributeLines definition).map String.toList).contains
      screamingSnakeAttribute.toList = definition.screamingSnake := by
  have hderive : "#[derive(Debug, Clone, Copy, Default, PartialEq, Eq, Serialize)]" ≠
      screamingSnakeAttribute := by
    simp [screamingSnakeAttribute]
  have hempty : "" ≠ screamingSnakeAttribute := by
    simp [screamingSnakeAttribute]
  cases hscreaming : definition.screamingSnake with
  | true => simp [attributeLines, hscreaming]
  | false =>
      simp only [attributeLines, hscreaming, Bool.false_eq_true, if_false,
        List.append_nil, List.contains_eq_mem, List.mem_map, List.mem_cons,
        List.not_mem_nil, or_false, String.toList_inj, decide_eq_false_iff_not]
      rintro ⟨text, rfl | rfl, heq⟩
      · exact hempty heq
      · exact hderive heq

theorem closesType_variantLines (screamingSnake isFirst : Bool) (v : EnumVariant) :
    ∀ line ∈ Source.variantLines screamingSnake isFirst v,
      closesType line.toList = false := by
  intro line hline
  simp only [Source.variantLines, List.mem_append, List.mem_singleton,
    String.append_assoc] at hline
  apply closesType_eq_false
  rcases hline with (hline | hline) | rfl
  · split at hline
    · rw [List.mem_singleton] at hline
      exact hline ▸ head?_ofList_ne (by decide)
    · exact absurd hline List.not_mem_nil
  · split at hline
    · exact absurd hline List.not_mem_nil
    · rw [List.mem_singleton] at hline
      exact hline ▸ head?_ofList_append_ne _ (by decide) (by decide)
  · exact head?_ofList_append_ne _ (by decide) (by decide)

theorem closesType_variantsLines (screamingSnake : Bool) (variants : List EnumVariant) :
    ∀ line ∈ (Source.variantsLines screamingSnake variants).map String.toList,
      closesType line = false := by
  intro line hline
  obtain ⟨text, htext, rfl⟩ := List.mem_map.mp hline
  cases variants with
  | nil => simp [Source.variantsLines] at htext
  | cons first rest =>
      rw [Source.variantsLines, List.mem_append, List.mem_flatMap] at htext
      rcases htext with htext | ⟨v, _, htext⟩
      · exact closesType_variantLines _ _ first text htext
      · exact closesType_variantLines _ _ v text htext

theorem opensMatch_of_getLast? {line : Line} (hlast : line.getLast? ≠ some '{') :
    opensMatch line = false := by
  rw [opensMatch, decide_eq_false_iff_not]
  intro heq
  apply hlast
  apply getLast?_of_unindent
  rw [heq, String.toList_ofList]
  decide

theorem opensMatch_of_head? {line : Line} (hhead : (unindent line).head? ≠ some 'O') :
    opensMatch line = false := by
  rw [opensMatch, decide_eq_false_iff_not]
  intro heq
  apply hhead
  rw [heq, String.toList_ofList]
  decide

theorem opensMatch_ofList {chars : List Char}
    (hhead : (unindent chars).head? ≠ some 'O') :
    opensMatch (String.ofList chars).toList = false := by
  apply opensMatch_of_head?
  rwa [String.toList_ofList]

theorem opensMatch_ofList_append {chars : List Char} (last : String)
    (hchars : chars ≠ []) (hspace : chars.head? ≠ some ' ')
    (hhead : chars.head? ≠ some 'O') :
    opensMatch (String.ofList chars ++ last).toList = false := by
  have hunindent : unindent ([] ++ (String.ofList chars ++ last).toList) =
      (String.ofList chars ++ last).toList :=
    unindent_append (by simp) (head?_ofList_append_ne last hchars hspace)
  apply opensMatch_of_head?
  rw [List.nil_append] at hunindent
  rw [hunindent]
  exact head?_ofList_append_ne last hchars hhead

theorem opensMatch_variantLines (screamingSnake isFirst : Bool) (v : EnumVariant) :
    ∀ line ∈ Source.variantLines screamingSnake isFirst v,
      opensMatch line.toList = false := by
  intro line hline
  simp only [Source.variantLines, List.mem_append, List.mem_singleton] at hline
  rcases hline with (hline | hline) | rfl
  · split at hline
    · exact List.mem_singleton.mp hline ▸ opensMatch_ofList (by decide)
    · exact absurd hline List.not_mem_nil
  · split at hline
    · exact absurd hline List.not_mem_nil
    · rw [List.mem_singleton] at hline
      exact hline ▸ opensMatch_of_getLast? (getLast?_append_ofList_ne _ (by decide) (by decide))
  · exact opensMatch_of_getLast? (getLast?_append_ofList_ne _ (by decide) (by decide))

/-- The lines between the declaration of an enumeration and the cases of its
reader. -/
def readerStart (name : String) : List String :=
  ["", "// Unknown values and null read as the default variant.",
    "impl<'de> Deserialize<'de> for " ++ name ++ " \x7b",
    "    fn deserialize<D>(deserializer: D) -> Result<Self, D::Error>",
    "    where",
    "        D: serde::Deserializer<'de>,",
    "    \x7b",
    "        let value = Option::<String>::deserialize(deserializer)?;"]

theorem opensMatch_readerStart (name : String) :
    ∀ line ∈ readerStart name, opensMatch line.toList = false := by
  simp only [readerStart, List.forall_mem_cons, List.not_mem_nil, false_imp_iff,
    implies_true, and_true]
  refine ⟨?_, ?_, ?_, ?_⟩
  · exact opensMatch_ofList (by decide)
  · exact opensMatch_ofList (by decide)
  · rw [String.append_assoc]
    exact opensMatch_ofList_append _ (by decide) (by decide) (by decide)
  · and_intros
    all_goals exact opensMatch_ofList (by decide)

/-- The lines before the cases of an enumeration's reader. -/
def beforeMatch (definition : EnumDefinition) : List String :=
  attributeLines definition ++ ["pub enum " ++ definition.name ++ " \x7b"] ++
    Source.variantsLines definition.screamingSnake definition.variants ++ ["\x7d"] ++
    readerStart definition.name

theorem opensMatch_attributeLines (definition : EnumDefinition) :
    ∀ line ∈ attributeLines definition, opensMatch line.toList = false := by
  intro line hline
  simp only [attributeLines, List.mem_append, List.mem_cons, List.not_mem_nil,
    or_false] at hline
  rcases hline with (rfl | rfl) | hline
  · exact opensMatch_ofList (by decide)
  · exact opensMatch_ofList (by decide)
  · split at hline
    · exact List.mem_singleton.mp hline ▸ opensMatch_ofList (by decide)
    · exact absurd hline List.not_mem_nil

theorem opensMatch_variantsLines (screamingSnake : Bool) (variants : List EnumVariant) :
    ∀ line ∈ Source.variantsLines screamingSnake variants,
      opensMatch line.toList = false := by
  intro line hline
  cases variants with
  | nil => simp [Source.variantsLines] at hline
  | cons first rest =>
      rw [Source.variantsLines, List.mem_append, List.mem_flatMap] at hline
      rcases hline with hline | ⟨v, _, hline⟩
      · exact opensMatch_variantLines _ _ first line hline
      · exact opensMatch_variantLines _ _ v line hline

theorem opensMatch_beforeMatch (definition : EnumDefinition) :
    ∀ line ∈ (beforeMatch definition).map String.toList, opensMatch line = false := by
  intro line hline
  obtain ⟨text, htext, rfl⟩ := List.mem_map.mp hline
  simp only [beforeMatch, List.mem_append, List.mem_singleton] at htext
  rcases htext with (((htext | rfl) | htext) | rfl) | htext
  · exact opensMatch_attributeLines definition text htext
  · rw [String.append_assoc]
    exact opensMatch_ofList_append _ (by decide) (by decide) (by decide)
  · exact opensMatch_variantsLines _ _ text htext
  · exact opensMatch_ofList (by decide)
  · exact opensMatch_readerStart definition.name text htext

theorem closesMatch_armLines (name : String) (variants : List EnumVariant) :
    ∀ line ∈ (variants.map (Source.armLine name) ++
      ["            _ => " ++ name ++ "::default(),"]).map String.toList,
      closesMatch line = false := by
  have hlast : ∀ line : Line, line.getLast? ≠ some ')' → closesMatch line = false := by
    intro line hline
    rw [closesMatch, decide_eq_false_iff_not]
    intro heq
    exact hline (getLast?_of_unindent (heq ▸ rfl))
  intro line hline
  obtain ⟨text, htext, rfl⟩ := List.mem_map.mp hline
  apply hlast
  rw [List.mem_append, List.mem_singleton] at htext
  rcases htext with htext | rfl
  · obtain ⟨v, _, rfl⟩ := List.mem_map.mp htext
    exact getLast?_append_ofList_ne _ (by decide) (by decide)
  · exact getLast?_append_ofList_ne _ (by decide) (by decide)

/-- The text of an enumeration as the reader splits it. -/
theorem enumLines_eq (definition : EnumDefinition) :
    Source.enumLines definition =
      beforeMatch definition ++ "        Ok(match value.as_deref() \x7b" ::
        ((definition.variants.map (Source.armLine definition.name) ++
          ["            _ => " ++ definition.name ++ "::default(),"]) ++
          "        \x7d)" :: ["    \x7d", "\x7d"]) := by
  simp only [Source.enumLines, Source.declarationLines, Source.readerLines, beforeMatch,
    attributeLines, readerStart, screamingSnakeAttribute, List.append_assoc,
    List.cons_append, List.nil_append]

theorem block_opensMatch (definition : EnumDefinition) (last : List Line) :
    block opensMatch closesMatch
        ((Source.enumLines definition).map String.toList ++ last) =
      (definition.variants.map (Source.armLine definition.name) ++
        ["            _ => " ++ definition.name ++ "::default(),"]).map String.toList := by
  have hopening : opensMatch "        Ok(match value.as_deref() \x7b".toList = true := by
    rw [opensMatch, String.toList_ofList, String.toList_ofList]
    decide
  have hclosing : closesMatch "        \x7d)".toList = true := by
    rw [closesMatch, String.toList_ofList]
    decide
  have hblock := block_append (["    \x7d", "\x7d"].map String.toList ++ last)
    (opensMatch_beforeMatch definition) hopening
    (closesMatch_armLines definition.name definition.variants) hclosing
  rw [enumLines_eq, List.map_append, List.map_cons, List.append_assoc, List.cons_append,
    ← hblock, List.map_append, List.map_cons, List.append_assoc, List.cons_append]

/-- The lines of an enumeration, and what follows them, as the reader of the
declaration splits them. -/
theorem map_enumLines_append (definition : EnumDefinition) (last : List Line) :
    (Source.enumLines definition).map String.toList ++ last =
      (attributeLines definition).map String.toList ++
        ("pub enum " ++ definition.name ++ " \x7b").toList ::
        ((Source.variantsLines definition.screamingSnake definition.variants).map
          String.toList ++ "\x7d".toList ::
          (([""] ++ Source.readerLines definition).map String.toList ++ last)) := by
  simp only [Source.enumLines, Source.declarationLines, attributeLines,
    screamingSnakeAttribute, List.map_append, List.map_cons, List.append_assoc,
    List.cons_append, List.nil_append]

/-- A written enumeration is read as itself. -/
theorem enum?_enumLines {definition : EnumDefinition}
    (hidentifiers : HasIdentifiers definition) (last : List Line) :
    enum? ((Source.enumLines definition).map String.toList ++ last) =
      some (rendered definition) := by
  have hname := enumName?_name hidentifiers.name
  have hopening : opensEnum ("pub enum " ++ definition.name ++ " \x7b").toList = true := by
    rw [opensEnum, hname]
    rfl
  have hbefore : ∀ line ∈ (attributeLines definition).map String.toList,
      opensEnum line = false := by
    intro line hline
    rw [opensEnum, enumName?_attributeLines definition line hline]
    rfl
  have hblock := block_append
    (([""] ++ Source.readerLines definition).map String.toList ++ last) hbefore hopening
    (closesType_variantsLines definition.screamingSnake definition.variants)
    (by decide : closesType "\x7d".toList = true)
  have hvariants := variants?_variantsLines hidentifiers.idents definition.screamingSnake
  have harms := arms?_armLines hidentifiers.idents definition.name
  have hfound : ((Source.enumLines definition).map String.toList ++ last).findSome?
      enumName? = some definition.name := by
    rw [map_enumLines_append, List.findSome?_append,
      List.findSome?_eq_none_iff.mpr (enumName?_attributeLines definition),
      Option.none_or, List.findSome?_cons, hname]
  have hattributes : ((Source.enumLines definition).map String.toList ++ last).takeWhile
      (fun line => !opensEnum line) = (attributeLines definition).map String.toList := by
    rw [map_enumLines_append, List.takeWhile_append_of_pos (by simpa using hbefore),
      List.takeWhile_cons_of_neg (by simpa using hopening), List.append_nil]
  rw [← map_enumLines_append] at hblock
  rw [enum?, hfound, hblock, block_opensMatch, hvariants, hattributes]
  simp only [Option.bind_eq_bind, Option.bind_some, harms, contains_attributeLines]
  rfl

end Reading

end TypedContainers
