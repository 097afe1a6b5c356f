import TypedContainers.Proofs.Json.Scalar

/-!
# Documents that are written and read

Main statement: compact text is read back as the document it was written from, member by
member in the same order, if the document is nested no deeper than the reader goes and
its numbers are in range.
-/

namespace TypedContainers.Json

/-- A document that the reader takes: it is nested at most `depth` deep, and its numbers
are in range. -/
inductive Fits : Nat → Json → Prop
  | null {depth : Nat} : Fits depth .null
  | bool {depth : Nat} {value : Bool} : Fits depth (.bool value)
  | number {depth : Nat} {d : Decimal}
      (hrange : (Numeral.ofDecimal d).overflows = false) : Fits depth (.number d)
  | string {depth : Nat} {text : String} : Fits depth (.string text)
  | array {depth : Nat} {items : List Json} (hitems : ∀ item ∈ items, Fits depth item) :
      Fits (depth + 1) (.array items)
  | object {depth : Nat} {members : List (String × Json)}
      (hmembers : ∀ m ∈ members, Fits depth m.2) : Fits (depth + 1) (.object members)

/-! ## How a document begins -/

theorem skipBlanks_cons {c : Char} (hc : isBlank c = false) (rest : List Char) :
    skipBlanks (c :: rest) = c :: rest := by
  rw [skipBlanks, List.dropWhile_cons_of_neg]
  rw [hc]
  exact Bool.false_ne_true

theorem isBlank_of_isDigit {c : Char} (hc : c.isDigit) : isBlank c = false := by
  simp only [isBlank, Bool.or_eq_false_iff, decide_eq_false_iff_not]
  exact ⟨⟨⟨ne_of_isDigit hc rfl, ne_of_isDigit hc rfl⟩, ne_of_isDigit hc rfl⟩,
    ne_of_isDigit hc rfl⟩

/-- A written document begins neither with a blank nor with the end of an array. -/
theorem exists_compactChars_eq_cons (document : Json) :
    ∃ c tail, compactChars document = c :: tail ∧ isBlank c = false ∧ c ≠ ']' := by
  cases document with
  | null => exact ⟨'n', _, rfl, rfl, by decide⟩
  | bool value =>
      cases value with
      | true => exact ⟨'t', _, rfl, rfl, by decide⟩
      | false => exact ⟨'f', _, rfl, rfl, by decide⟩
  | number d =>
      obtain ⟨c, tail, hchars, rfl | hc⟩ := exists_numberChars_eq_cons d
      · exact ⟨'-', tail, hchars, rfl, by decide⟩
      · exact ⟨c, tail, hchars, isBlank_of_isDigit hc, ne_of_isDigit hc rfl⟩
  | string text => exact ⟨'"', _, rfl, rfl, by decide⟩
  | array items => exact ⟨'[', _, rfl, rfl, by decide⟩
  | object members => exact ⟨'{', _, rfl, rfl, by decide⟩

theorem compactItems_cons {others : List Json} (hothers : others ≠ []) (item : Json) :
    compactItems (item :: others) = compactChars item ++ ',' :: compactItems others := by
  rw [compactItems]
  exact hothers

theorem compactMembers_cons {others : List (String × Json)} (hothers : others ≠ [])
    (name : String) (value : Json) :
    compactMembers ((name, value) :: others) =
      stringChars name ++ ':' :: (compactChars value ++ ',' :: compactMembers others) := by
  rw [compactMembers]
  exact hothers

theorem exists_compactItems_eq_cons (item : Json) (others : List Json) :
    ∃ c tail, compactItems (item :: others) = c :: tail ∧ isBlank c = false ∧ c ≠ ']' := by
  obtain ⟨c, tail, hchars, hblank, hend⟩ := exists_compactChars_eq_cons item
  cases others with
  | nil =>
      rw [compactItems, hchars]
      exact ⟨c, _, rfl, hblank, hend⟩
  | cons next others =>
      rw [compactItems_cons (List.cons_ne_nil next others), hchars]
      exact ⟨c, _, rfl, hblank, hend⟩

theorem exists_compactMembers_eq_cons (first : String × Json)
    (others : List (String × Json)) :
    ∃ tail, compactMembers (first :: others) = '"' :: tail := by
  obtain ⟨name, value⟩ := first
  cases others with
  | nil => exact ⟨_, rfl⟩
  | cons next others =>
      rw [compactMembers_cons (List.cons_ne_nil next others)]
      exact ⟨_, rfl⟩

/-- A text is never empty, so the fuel that its length asks for is there. -/
theorem exists_fuel {document : Json} {fuel : Nat}
    (hfuel : (compactChars document).length ≤ fuel) : ∃ less, fuel = less + 1 := by
  obtain ⟨c, tail, hchars, _⟩ := exists_compactChars_eq_cons document
  rw [hchars, List.length_cons] at hfuel
  exact Nat.exists_eq_add_of_le' (Nat.le_of_add_left_le hfuel)

/-! ## Steps of the reader -/

section Steps

variable {fuel depth : Nat} {input rest : List Char}

theorem readValue_string (text : String) :
    readValue (fuel + 1) depth (stringChars text ++ rest) = .ok (.string text, rest) := by
  rw [stringChars, List.cons_append, List.append_assoc, List.singleton_append, readValue,
    skipBlanks_cons rfl]
  simp only [readString_flatMap_escape, if_true]
  rfl

theorem readValue_number {d : Decimal} (hrange : (Numeral.ofDecimal d).overflows = false)
    (hrest : EndsNumber rest) :
    readValue (fuel + 1) depth (numberChars d ++ rest) = .ok (.number d, rest) := by
  have hread := readNumber_numberChars hrange hrest
  obtain ⟨c, tail, hchars, hc⟩ := exists_numberChars_eq_cons d
  have hne : ∀ other : Char, other.isDigit = false → '-' ≠ other → c ≠ other := by
    intro other hother hminus
    rcases hc with rfl | hc
    · exact hminus
    · exact ne_of_isDigit hc hother
  have hblank : isBlank c = false := by
    rcases hc with rfl | hc
    · rfl
    · exact isBlank_of_isDigit hc
  rw [hchars, List.cons_append] at hread ⊢
  rw [readValue, skipBlanks_cons hblank]
  simp only [hne '"' rfl (by decide), hne '[' rfl (by decide), hne '{' rfl (by decide),
    hne 'n' rfl (by decide), hne 't' rfl (by decide), hne 'f' rfl (by decide), if_false,
    hread]
  rfl

/-- An array that does not end at once. -/
theorem readValue_array {items : List Json} {c : Char} {tail : List Char}
    (hinput : input = c :: tail) (hblank : isBlank c = false) (hend : c ≠ ']')
    (hitems : readItems fuel depth input = .ok (items, rest)) :
    readValue (fuel + 1) (depth + 1) ('[' :: input) = .ok (.array items, rest) := by
  subst hinput
  rw [readValue, skipBlanks_cons rfl]
  simp only [skipBlanks_cons hblank]
  simp [hend, hitems]
  rfl

/-- An object that does not end at once. -/
theorem readValue_object {members : List (String × Json)} {tail : List Char}
    (hinput : input = '"' :: tail)
    (hmembers : readMembers fuel depth input = .ok (members, rest)) :
    readValue (fuel + 1) (depth + 1) ('{' :: input) = .ok (.object members, rest) := by
  subst hinput
  rw [readValue, skipBlanks_cons rfl]
  simp only [skipBlanks_cons (rfl : isBlank '"' = false)]
  simp [hmembers]
  rfl

theorem readItems_last {item : Json}
    (hitem : readValue fuel depth input = .ok (item, ']' :: rest)) :
    readItems (fuel + 1) depth input = .ok ([item], rest) := by
  rw [readItems, hitem]
  rfl

theorem readItems_cons {item : Json} {items : List Json} {others : List Char}
    (hitem : readValue fuel depth input = .ok (item, ',' :: others))
    (hitems : readItems fuel depth others = .ok (items, rest)) :
    readItems (fuel + 1) depth input = .ok (item :: items, rest) := by
  rw [readItems, hitem]
  change (readItems fuel depth others).map _ = _
  rw [hitems]
  rfl

theorem readMembers_last {name : String} {value : Json}
    (hvalue : readValue fuel depth input = .ok (value, '}' :: rest)) :
    readMembers (fuel + 1) depth (stringChars name ++ ':' :: input) =
      .ok ([(name, value)], rest) := by
  rw [stringChars, List.cons_append, List.append_assoc, List.singleton_append, readMembers,
    skipBlanks_cons rfl]
  simp only [readString_flatMap_escape, skipBlanks_cons (rfl : isBlank ':' = false), hvalue,
    skipBlanks_cons (rfl : isBlank '}' = false)]

theorem readMembers_cons {name : String} {value : Json} {members : List (String × Json)}
    {others : List Char} (hvalue : readValue fuel depth input = .ok (value, ',' :: others))
    (hmembers : readMembers fuel depth others = .ok (members, rest)) :
    readMembers (fuel + 1) depth (stringChars name ++ ':' :: input) =
      .ok ((name, value) :: members, rest) := by
  rw [stringChars, List.cons_append, List.append_assoc, List.singleton_append, readMembers,
    skipBlanks_cons rfl]
  simp only [readString_flatMap_escape, skipBlanks_cons (rfl : isBlank ':' = false), hvalue,
    skipBlanks_cons (rfl : isBlank ',' = false), hmembers]
  rfl

end Steps

/-! ## Whole documents -/

/-- What is written of a document is read back, with fuel for each of its characters. -/
def ReadsBack (depth : Nat) (document : Json) : Prop :=
  ∀ fuel rest, (compactChars document).length ≤ fuel → EndsNumber rest →
    readValue fuel depth (compactChars document ++ rest) = .ok (document, rest)

theorem readItems_compactItems {depth : Nat} {items : List Json} (hne : items ≠ [])
    (hitems : ∀ item ∈ items, ReadsBack depth item) {fuel : Nat}
    (hfuel : (compactItems items).length ≤ fuel) (rest : List Char) :
    readItems fuel depth (compactItems items ++ rest) = .ok (items, rest) := by
  induction items generalizing fuel with
  | nil => exact absurd rfl hne
  | cons item others ih =>
      obtain ⟨hitem, hothers⟩ := List.forall_mem_cons.mp hitems
      cases others with
      | nil =>
          rw [compactItems, List.length_append, List.length_singleton] at hfuel
          obtain ⟨fuel, rfl⟩ := Nat.exists_eq_add_of_le' (by omega : 1 ≤ fuel)
          rw [compactItems, List.append_assoc, List.singleton_append]
          apply readItems_last
          exact hitem fuel _ (by omega) (endsNumber_cons rfl rest)
      | cons next others =>
          have hcons : next :: others ≠ [] := List.cons_ne_nil next others
          rw [compactItems_cons hcons] at hfuel ⊢
          rw [List.length_append, List.length_cons] at hfuel
          obtain ⟨fuel, rfl⟩ := Nat.exists_eq_add_of_le' (by omega : 1 ≤ fuel)
          rw [List.append_assoc, List.cons_append]
          apply readItems_cons
          · exact hitem fuel _ (by omega) (endsNumber_cons rfl _)
          · exact ih hcons hothers (by omega)

theorem readMembers_compactMembers {depth : Nat} {members : List (String × Json)}
    (hne : members ≠ []) (hmembers : ∀ m ∈ members, ReadsBack depth m.2) {fuel : Nat}
    (hfuel : (compactMembers members).length ≤ fuel) (rest : List Char) :
    readMembers fuel depth (compactMembers members ++ rest) = .ok (members, rest) := by
  induction members generalizing fuel with
  | nil => exact absurd rfl hne
  | cons first others ih =>
      obtain ⟨name, value⟩ := first
      obtain ⟨hvalue, hothers⟩ := List.forall_mem_cons.mp hmembers
      replace hvalue : ReadsBack depth value := hvalue
      cases others with
      | nil =>
          simp only [compactMembers, List.length_append, List.length_cons,
            List.length_nil] at hfuel
          obtain ⟨fuel, rfl⟩ := Nat.exists_eq_add_of_le' (by omega : 1 ≤ fuel)
          rw [compactMembers, List.append_assoc, List.cons_append, List.append_assoc,
            List.singleton_append]
          apply readMembers_last
          exact hvalue fuel _ (by omega) (endsNumber_cons rfl rest)
      | cons next others =>
          have hcons : next :: others ≠ [] := List.cons_ne_nil next others
          rw [compactMembers_cons hcons] at hfuel ⊢
          simp only [List.length_append, List.length_cons] at hfuel
          obtain ⟨fuel, rfl⟩ := Nat.exists_eq_add_of_le' (by omega : 1 ≤ fuel)
          rw [List.append_assoc, List.cons_append, List.append_assoc, List.cons_append]
          apply readMembers_cons
          · exact hvalue fuel _ (by omega) (endsNumber_cons rfl _)
          · exact ih hcons hothers (by omega)

theorem readsBack_of_fits {depth : Nat} {document : Json} (hfits : Fits depth document) :
    ReadsBack depth document := by
  induction hfits with
  | null =>
      intro fuel rest hfuel _
      obtain ⟨fuel, rfl⟩ := exists_fuel hfuel
      rfl
  | @bool depth value =>
      intro fuel rest hfuel _
      obtain ⟨fuel, rfl⟩ := exists_fuel hfuel
      cases value with
      | true => rfl
      | false => rfl
  | number hrange =>
      intro fuel rest hfuel hrest
      obtain ⟨fuel, rfl⟩ := exists_fuel hfuel
      exact readValue_number hrange hrest
  | @string depth text =>
      intro fuel rest hfuel _
      obtain ⟨fuel, rfl⟩ := exists_fuel hfuel
      exact readValue_string text
  | @array depth items _ ih =>
      intro fuel rest hfuel _
      obtain ⟨fuel, rfl⟩ := exists_fuel hfuel
      rw [compactChars, List.length_cons, Nat.add_le_add_iff_right] at hfuel
      rw [compactChars, List.cons_append]
      cases items with
      | nil => rfl
      | cons item others =>
          obtain ⟨c, tail, hchars, hblank, hend⟩ := exists_compactItems_eq_cons item others
          have hinput : compactItems (item :: others) ++ rest = c :: (tail ++ rest) := by
            rw [hchars, List.cons_append]
          exact readValue_array hinput hblank hend
            (readItems_compactItems (List.cons_ne_nil item others) ih hfuel rest)
  | @object depth members _ ih =>
      intro fuel rest hfuel _
      obtain ⟨fuel, rfl⟩ := exists_fuel hfuel
      rw [compactChars, List.length_cons, Nat.add_le_add_iff_right] at hfuel
      rw [compactChars, List.cons_append]
      cases members with
      | nil => rfl
      | cons first others =>
          obtain ⟨tail, hchars⟩ := exists_compactMembers_eq_cons first others
          have hinput : compactMembers (first :: others) ++ rest = '"' :: (tail ++ rest) := by
            rw [hchars, List.cons_append]
          exact readValue_object hinput
            (readMembers_compactMembers (List.cons_ne_nil first others) ih hfuel rest)

/-- Compact text is read back as the document it was written from. -/
theorem read_compact {document : Json} (hfits : Fits maxDepth document) :
    read (compact document) = .ok document := by
  have hends : EndsNumber [] := by
    intro c hc
    simp at hc
  have hread := readsBack_of_fits hfits ((compactChars document).length + 1) []
    (Nat.le_succ _) hends
  rw [List.append_nil] at hread
  simp only [read, compact, String.toList_ofList, hread]
  rfl

end TypedContainers.Json
