import TypedContainers.Proofs.Categorical.EnumText

/-!
# Enumerations as codecs

The text of an enumeration says how a variant is written and which variant a value
is read as.  For an entry that passes validation the two agree: each variant is
written as its declared wire value and read back from it, and everything else is
read as the first variant.
-/

namespace TypedContainers

namespace RenderedEnum

/-- The naming rule for capitals: an underscore before every capital but the first
character of the name, and every letter raised. -/
def capitals (isFirst : Bool) : List Char → List Char
  | [] => []
  | c :: rest =>
    (if c.isUpper ∧ ¬isFirst then ['_', c.toUpper] else [c.toUpper]) ++ capitals false rest

/-- The value a variant is written as.  A renamed variant ignores the naming
rule. -/
def serialize (rendered : RenderedEnum) (v : RenderedVariant) : String :=
  match v.rename? with
  | some wire => wire
  | none =>
    if rendered.screamingSnake then String.ofList (capitals true v.ident.toList) else v.ident

/-- The variant of a name. -/
def variant? (rendered : RenderedEnum) (ident : String) : Option RenderedVariant :=
  rendered.variants.find? (·.ident = ident)

/-- The variant that is marked as the default. -/
def default? (rendered : RenderedEnum) : Option RenderedVariant :=
  rendered.variants.find? (·.isDefault)

/-- The variant a value is read as: that of the first case for it, and the default
for null and for values without a case. -/
def deserialize (rendered : RenderedEnum) : Option String → Option RenderedVariant
  | none => rendered.default?
  | some text =>
    match rendered.arms.find? (·.1 = text) with
    | some (_, ident) => rendered.variant? ident
    | none => rendered.default?

end RenderedEnum

namespace Reading

open RenderedEnum

/-! ## Writing -/

theorem capitals_eq_screamingSnakeChars (ident : List Char) :
    capitals true ident = Naming.screamingSnakeChars ident := by
  have hrest : ∀ rest : List Char, capitals false rest =
      rest.flatMap fun d => if d.isUpper then ['_', d.toUpper] else [d.toUpper] := by
    intro rest
    induction rest with
    | nil => rfl
    | cons d rest ih => simp [capitals, ih]
  cases ident with
  | nil => rfl
  | cons c rest => simp [capitals, Naming.screamingSnakeChars, hrest]

/-- A definition follows the naming rule only if that gives every wire value. -/
def FollowsRule (definition : EnumDefinition) : Prop :=
  definition.screamingSnake = true →
    ∀ v ∈ definition.variants, Naming.screamingSnake v.ident = v.wire

theorem followsRule_enumDefinition (entry : CategoricalField) :
    FollowsRule entry.enumDefinition := by
  intro hscreaming v hv
  simp only [CategoricalField.enumDefinition, List.all_eq_true] at hscreaming
  simpa using hscreaming v hv

/-- A variant is written as its wire value, by either attribute. -/
theorem serialize_renderedVariant {definition : EnumDefinition}
    (hrule : FollowsRule definition) {v : EnumVariant} (hv : v ∈ definition.variants)
    (isFirst : Bool) :
    (rendered definition).serialize
      (renderedVariant definition.screamingSnake isFirst v) = v.wire := by
  cases hscreaming : definition.screamingSnake with
  | true =>
      have hwire := hrule hscreaming v hv
      rw [Naming.screamingSnake, ← capitals_eq_screamingSnakeChars] at hwire
      simpa [serialize, renderedVariant, rendered, hscreaming] using hwire
  | false => simp [serialize, renderedVariant]

theorem mem_renderedVariants {screamingSnake : Bool} {variants : List EnumVariant}
    {v : RenderedVariant} (hv : v ∈ renderedVariants screamingSnake variants) :
    ∃ w ∈ variants, ∃ isFirst, v = renderedVariant screamingSnake isFirst w := by
  cases variants with
  | nil => simp [renderedVariants] at hv
  | cons first rest =>
      rw [renderedVariants, List.mem_cons, List.mem_map] at hv
      rcases hv with rfl | ⟨w, hw, rfl⟩
      · exact ⟨first, List.mem_cons_self, true, rfl⟩
      · exact ⟨w, List.mem_cons_of_mem first hw, false, rfl⟩

theorem exists_mem_renderedVariants {variants : List EnumVariant} {w : EnumVariant}
    (hw : w ∈ variants) (screamingSnake : Bool) :
    ∃ isFirst, renderedVariant screamingSnake isFirst w ∈
      renderedVariants screamingSnake variants := by
  cases variants with
  | nil => exact absurd hw List.not_mem_nil
  | cons first rest =>
      rw [renderedVariants]
      rcases List.mem_cons.mp hw with rfl | hrest
      · exact ⟨true, List.mem_cons_self⟩
      · exact ⟨false, List.mem_cons_of_mem _ (List.mem_map.mpr ⟨w, hrest, rfl⟩)⟩

theorem map_ident_renderedVariants (screamingSnake : Bool) (variants : List EnumVariant) :
    (renderedVariants screamingSnake variants).map RenderedVariant.ident =
      variants.map EnumVariant.ident := by
  cases variants with
  | nil => rfl
  | cons first rest => simp [renderedVariants, renderedVariant, Function.comp_def]

theorem map_serialize_renderedVariants {definition : EnumDefinition}
    (hrule : FollowsRule definition) :
    (rendered definition).variants.map (rendered definition).serialize =
      definition.variants.map EnumVariant.wire := by
  have hwire : ∀ isFirst, ∀ v ∈ definition.variants, (rendered definition).serialize
      (renderedVariant definition.screamingSnake isFirst v) = v.wire :=
    fun isFirst v hv => serialize_renderedVariant hrule hv isFirst
  change (renderedVariants definition.screamingSnake definition.variants).map _ = _
  cases hvariants : definition.variants with
  | nil => rfl
  | cons first rest =>
      rw [hvariants] at hwire
      rw [renderedVariants, List.map_cons, List.map_map, List.map_cons,
        hwire true first List.mem_cons_self]
      congr 1
      apply List.map_congr_left
      intro v hv
      exact hwire false v (List.mem_cons_of_mem first hv)

/-! ## Reading -/

theorem find?_arms (entry : CategoricalField) (text : String) :
    (rendered entry.enumDefinition).arms.find? (·.1 = text) =
      if text ∈ entry.variants then some (text, (CategoricalField.variantOf text).ident)
      else none := by
  rw [rendered, CategoricalField.enumDefinition]
  induction entry.variants with
  | nil => rfl
  | cons wire rest ih =>
      by_cases hwire : wire = text
      · simp [hwire, CategoricalField.variantOf]
      · simpa [hwire, Ne.symm hwire, CategoricalField.variantOf] using ih

/-- Reading a wire value gives the variant that is declared for it. -/
theorem deserialize_wire {entry : CategoricalField}
    (hwell : entry.enumDefinition.WellFormed) {wire : String} (hwire : wire ∈ entry.variants)
    {v : RenderedVariant} (hv : v ∈ (rendered entry.enumDefinition).variants)
    (hident : v.ident = (CategoricalField.variantOf wire).ident) :
    (rendered entry.enumDefinition).deserialize (some wire) = some v := by
  have hdistinct : ((rendered entry.enumDefinition).variants.map
      RenderedVariant.ident).Nodup := by
    have hidents := map_ident_renderedVariants entry.enumDefinition.screamingSnake
      entry.enumDefinition.variants
    exact hidents.symm ▸ hwell.distinct
  have hvariant := Naming.find?_eq_some_of_nodup hdistinct hv
  rw [hident] at hvariant
  simp only [deserialize, find?_arms, hwire, if_true]
  exact hvariant

theorem exists_first_renderedVariants {entry : CategoricalField}
    (hwell : entry.enumDefinition.WellFormed) :
    ∃ first, (rendered entry.enumDefinition).variants.head? = some first ∧
      (rendered entry.enumDefinition).default? = some first := by
  have hnonempty := hwell.nonempty
  cases hvariants : entry.enumDefinition.variants with
  | nil => exact absurd hvariants hnonempty
  | cons first rest =>
      refine ⟨renderedVariant entry.enumDefinition.screamingSnake true first, ?_, ?_⟩
      · simp [rendered, hvariants, renderedVariants]
      · simp [default?, rendered, hvariants, renderedVariants, renderedVariant]

/-- The text of an entry that passes validation is a codec for its wire values.
The variants are written as the wire values in order, what a variant is written as
is read as that variant, and each wire value is read as a variant that is written
as it.  Null and everything that is no wire value are read as the first
variant. -/
theorem codec_of_fault?_eq_none {entry : CategoricalField} (hvalid : entry.fault? = none) :
    ∃ codec : RenderedEnum,
      enum? (Text.lines (Text.unlines (Source.enumLines entry.enumDefinition))) =
        some codec ∧
      codec.variants.map codec.serialize = entry.variants ∧
      (codec.variants.map RenderedVariant.ident).Nodup ∧
      (∀ v ∈ codec.variants, codec.deserialize (some (codec.serialize v)) = some v) ∧
      (∀ wire ∈ entry.variants, ∃ v ∈ codec.variants,
        codec.deserialize (some wire) = some v ∧ codec.serialize v = wire) ∧
      ∃ first, codec.variants.head? = some first ∧ codec.deserialize none = some first ∧
        ∀ text ∉ entry.variants, codec.deserialize (some text) = some first := by
  have hwell := CategoricalField.fault?_eq_none_iff.mp hvalid
  have hrule := followsRule_enumDefinition entry
  obtain ⟨hname, hidents⟩ := Source.oneLine_enumDefinition entry
  have hlines := Text.lines_unlines (Source.oneLine_enumLines hname hidents)
  obtain ⟨first, hfirst, hdefault⟩ := exists_first_renderedVariants hwell
  refine ⟨rendered entry.enumDefinition, ?_, ?_, ?_, ?_, ?_, first, hfirst, hdefault, ?_⟩
  · rw [hlines, enum?_enumLines (hasIdentifiers_enumDefinition hwell)]
  · rw [map_serialize_renderedVariants hrule]
    simp [CategoricalField.enumDefinition, CategoricalField.variantOf, Function.comp_def]
  · exact (map_ident_renderedVariants _ _).symm ▸ hwell.distinct
  · intro v hv
    obtain ⟨w, hw, isFirst, rfl⟩ := mem_renderedVariants hv
    rw [serialize_renderedVariant hrule hw]
    simp only [CategoricalField.enumDefinition, List.mem_map] at hw
    obtain ⟨wire, hwire, rfl⟩ := hw
    exact deserialize_wire hwell hwire hv rfl
  · intro wire hwire
    have hw : CategoricalField.variantOf wire ∈ entry.enumDefinition.variants :=
      List.mem_map.mpr ⟨wire, hwire, rfl⟩
    obtain ⟨isFirst, hv⟩ :=
      exists_mem_renderedVariants hw entry.enumDefinition.screamingSnake
    exact ⟨_, hv, deserialize_wire hwell hwire hv rfl,
      serialize_renderedVariant hrule hw isFirst⟩
  · intro text htext
    simpa [deserialize, find?_arms, htext] using hdefault

/-- Two values that the naming rule does not give, one of them with a quote and a
line feed. -/
theorem codec_of_unruly_values :
    (CategoricalField.fault? ⟨"unit", "unit type", ["not \"set\"", "per\nhour"]⟩ = none) ∧
    ∃ codec : RenderedEnum,
      enum? (Text.lines (Text.unlines (Source.enumLines
        (CategoricalField.enumDefinition
          ⟨"unit", "unit type", ["not \"set\"", "per\nhour"]⟩)))) = some codec ∧
      codec.variants.map codec.serialize = ["not \"set\"", "per\nhour"] := by
  have hvalid : CategoricalField.fault?
      ⟨"unit", "unit type", ["not \"set\"", "per\nhour"]⟩ = none := by decide
  obtain ⟨codec, htext, hwires, _⟩ := codec_of_fault?_eq_none hvalid
  exact ⟨hvalid, codec, htext, hwires⟩

end Reading

end TypedContainers
