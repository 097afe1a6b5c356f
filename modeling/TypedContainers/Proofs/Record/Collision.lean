import Mathlib.Data.List.Nodup
import TypedContainers.Proofs.Record.Unit

/-!
# The first collision

A list of containers becomes units, one for each container by itself, exactly if all are
declared under different names.  Otherwise the collision that is reported is the first
one: no shorter part of the list has one, and only one container before shares the name.
-/

namespace TypedContainers

namespace Collision

/-- A collision at the first place of a list whose name occurs before, with the only
container before that has this name. -/
structure IsFirst (containers : List ContainerSchema) (collision : Collision) : Prop where
  earlier_lt : collision.earlier < collision.later
  earlierName : containers[collision.earlier]?.map ContainerSchema.name =
    some collision.earlierName
  laterName : containers[collision.later]?.map ContainerSchema.name =
    some collision.laterName
  earlierType : containers[collision.earlier]?.map ContainerSchema.typeName =
    some collision.typeName
  laterType : containers[collision.later]?.map ContainerSchema.typeName =
    some collision.typeName
  /-- At no place before is a name that occurs before it. -/
  first : ∀ j < collision.later, ∀ i < j,
    containers[i]?.map ContainerSchema.typeName ≠
      containers[j]?.map ContainerSchema.typeName
  unique : ∀ i < collision.later,
    containers[i]?.map ContainerSchema.typeName = some collision.typeName →
      i = collision.earlier

theorem nodup_iff_forall_ne {containers : List ContainerSchema} :
    (containers.map ContainerSchema.typeName).Nodup ↔
      ∀ j < containers.length, ∀ i < j,
        containers[i]?.map ContainerSchema.typeName ≠
          containers[j]?.map ContainerSchema.typeName := by
  rw [List.nodup_iff_getElem?_ne_getElem?]
  simp only [List.length_map, List.getElem?_map]
  constructor
  · intro hne j hj i hij
    exact hne i j hij hj
  · intro hne i j hij hj
    exact hne j hj i hij

theorem isFirst_of_split {before after : List ContainerSchema} {schema : ContainerSchema}
    {collision : Collision} (hbefore : (before.map ContainerSchema.typeName).Nodup)
    (hclash : ofSeen? before schema = some collision) :
    collision.IsFirst (before ++ schema :: after) := by
  rw [ofSeen?, Option.map_eq_some_iff] at hclash
  obtain ⟨i, hfound, rfl⟩ := hclash
  obtain ⟨hi, hname, _⟩ := List.findIdx?_eq_some_iff_getElem.mp hfound
  have hsame : before[i].typeName = schema.typeName := of_decide_eq_true hname
  have hplace : ∀ k < before.length, (before ++ schema :: after)[k]? = before[k]? :=
    fun k hk => List.getElem?_append_left hk
  have hlater : (before ++ schema :: after)[before.length]? = some schema := by
    rw [List.getElem?_append_right (Nat.le_refl _), Nat.sub_self, List.getElem?_cons_zero]
  have hearlier : (before ++ schema :: after)[i]? = some before[i] := by
    rw [hplace i hi, List.getElem?_eq_getElem hi]
  have hdistinct := nodup_iff_forall_ne.mp hbefore
  refine ⟨hi, ?_, ?_, ?_, ?_, ?_, ?_⟩
  · rw [hearlier, List.getElem?_eq_getElem hi]
    rfl
  · rw [hlater]
    rfl
  · rw [hearlier, Option.map_some, hsame]
  · rw [hlater]
    rfl
  · intro k hk j hjk
    rw [hplace j (Nat.lt_trans hjk hk), hplace k hk]
    exact hdistinct k hk j hjk
  · intro k hk hother
    rw [hplace k hk, ← hsame] at hother
    have hsecond : before[i]?.map ContainerSchema.typeName = some before[i].typeName := by
      rw [List.getElem?_eq_getElem hi, Option.map_some]
    rcases Nat.lt_trichotomy k i with hlt | rfl | hgt
    · exact absurd (hother.trans hsecond.symm) (hdistinct i hi k hlt)
    · rfl
    · exact absurd (hsecond.trans hother.symm) (hdistinct k hk i hgt)

/-- A list has no more than one first collision. -/
theorem IsFirst.eq {containers : List ContainerSchema} {collision other : Collision}
    (hfirst : collision.IsFirst containers) (hother : other.IsFirst containers) :
    collision = other := by
  -- The earlier one of two different places would be a repeated name before the other.
  have hlater : collision.later = other.later := by
    rcases Nat.lt_trichotomy collision.later other.later with hlt | heq | hgt
    · exact absurd (hfirst.earlierType.trans hfirst.laterType.symm)
        (hother.first _ hlt _ hfirst.earlier_lt)
    · exact heq
    · exact absurd (hother.earlierType.trans hother.laterType.symm)
        (hfirst.first _ hgt _ hother.earlier_lt)
  have htype : collision.typeName = other.typeName := by
    have hfound := hfirst.laterType
    rw [hlater, hother.laterType] at hfound
    exact (Option.some.inj hfound).symm
  have hearlier : collision.earlier = other.earlier := by
    apply hother.unique
    · rw [← hlater]
      exact hfirst.earlier_lt
    · rw [← htype]
      exact hfirst.earlierType
  have hearlierName := hfirst.earlierName
  have hlaterName := hfirst.laterName
  rw [hearlier, hother.earlierName] at hearlierName
  rw [hlater, hother.laterName] at hlaterName
  obtain ⟨i, j, earlierName, laterName, typeName⟩ := collision
  obtain ⟨i', j', earlierName', laterName', typeName'⟩ := other
  rw [Collision.mk.injEq]
  exact ⟨hearlier, hlater, (Option.some.inj hearlierName).symm,
    (Option.some.inj hlaterName).symm, htype⟩

theorem isFirst_of_first? {containers : List ContainerSchema} {collision : Collision}
    (hfound : first? containers = some collision) : collision.IsFirst containers := by
  rw [first?, after?_eq_firstFault?, firstFault?_nil_eq_some_iff ofSeen?_eq_none_iff] at hfound
  obtain ⟨before, schema, after, rfl, ⟨_, hdistinct⟩, hclash⟩ := hfound
  exact isFirst_of_split hdistinct hclash

theorem IsFirst.not_nodup {containers : List ContainerSchema} {collision : Collision}
    (hfirst : collision.IsFirst containers) :
    ¬(containers.map ContainerSchema.typeName).Nodup := by
  intro hdistinct
  obtain ⟨schema, hschema, _⟩ := Option.map_eq_some_iff.mp hfirst.laterType
  obtain ⟨hlength, _⟩ := List.getElem?_eq_some_iff.mp hschema
  exact nodup_iff_forall_ne.mp hdistinct _ hlength _ hfirst.earlier_lt
    (hfirst.earlierType.trans hfirst.laterType.symm)

/-- The collision that is found is the first one. -/
theorem first?_eq_some_iff {containers : List ContainerSchema} {collision : Collision} :
    first? containers = some collision ↔ collision.IsFirst containers := by
  constructor
  · exact isFirst_of_first?
  · intro hfirst
    cases hfound : first? containers with
    | none => exact absurd (first?_eq_none_iff.mp hfound) hfirst.not_nodup
    | some other => rw [(isFirst_of_first? hfound).eq hfirst]

end Collision

theorem generateUnits_eq_error_iff {containers : List ContainerSchema}
    {registry : CategoricalRegistry} {collision : Collision} :
    generateUnits containers registry = .error collision ↔
      collision.IsFirst containers := by
  rw [generateUnits, ← Collision.first?_eq_some_iff]
  cases Collision.first? containers with
  | some other => simp
  | none => simp

/-- Containers become units exactly if all their type names are different, and then each
becomes the unit that it is by itself, in the same order.  Otherwise the error is the first
collision, and its message names both containers and the type name that they share. -/
theorem units_or_first_collision (containers : List ContainerSchema)
    (registry : CategoricalRegistry) :
    (∀ units, generateUnits containers registry = .ok units ↔
      (containers.map ContainerSchema.typeName).Nodup ∧
        units = containers.map (GeneratedUnit.ofSchema registry)) ∧
    (∀ collision, generateUnits containers registry = .error collision ↔
      collision.IsFirst containers) ∧
    (¬(containers.map ContainerSchema.typeName).Nodup ↔
      ∃ collision, generateUnits containers registry = .error collision ∧
        collision.message = "containers '" ++ collision.earlierName ++ "' and '" ++
          collision.laterName ++ "' both generate `" ++ collision.typeName ++ "`") := by
  refine ⟨fun units => generateUnits_eq_ok_iff, fun collision => generateUnits_eq_error_iff,
    ?_⟩
  constructor
  · intro hrepeated
    cases hresult : generateUnits containers registry with
    | error collision => exact ⟨collision, rfl, rfl⟩
    | ok units => exact absurd (generateUnits_eq_ok_iff.mp hresult).1 hrepeated
  · rintro ⟨collision, herror, _⟩
    exact (generateUnits_eq_error_iff.mp herror).not_nodup

end TypedContainers
