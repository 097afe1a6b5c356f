import TypedContainers.Naming

/-!
# The shape of declared names

A declared name is what one pass over the text keeps: its ASCII letters and digits
in order, with a character raised where none of them stands before it.
-/

namespace TypedContainers.Naming

/-- One pass over a text.  `inWord` says whether the character before is kept. -/
def scan (inWord : Bool) : List Char → List Char
  | [] => []
  | c :: rest =>
    if c.isAlphanum then (if inWord then c else c.toUpper) :: scan true rest
    else scan false rest

theorem words_cons_cons {c next : Char} {rest word : List Char} {others : List (List Char)}
    (hc : c.isAlphanum) (hnext : next.isAlphanum)
    (hwords : words (next :: rest) = word :: others) :
    words (c :: next :: rest) = (c :: word) :: others := by
  rw [words.eq_def]
  simp [hc, hnext, hwords]

theorem words_cons_of_not_isAlphanum {c next : Char} {rest : List Char}
    (hc : c.isAlphanum) (hnext : ¬next.isAlphanum) :
    words (c :: next :: rest) = [c] :: words rest := by
  have hwords : words (next :: rest) = words rest := by
    rw [words.eq_def]
    simp [hnext]
  rw [words.eq_def]
  simp only [hc, hwords, if_true]
  cases words rest with
  | nil => rfl
  | cons word others => simp [hnext]

/-- A pass that begins outside a word reads the words of the rest, and one that
begins inside a word reads the end of it first. -/
theorem scan_eq_words (text : List Char) :
    scan false text = pascalChars text ∧
      ∀ c : Char, c.isAlphanum → ∃ word others,
        words (c :: text) = (c :: word) :: others ∧
          scan true text = word ++ others.flatMap capitalize := by
  induction text with
  | nil => exact ⟨rfl, fun c hc => ⟨[], [], by simp [words, hc], rfl⟩⟩
  | cons next rest ih =>
      obtain ⟨houtside, hinside⟩ := ih
      by_cases hnext : next.isAlphanum
      · obtain ⟨word, others, hwords, hscan⟩ := hinside next hnext
        constructor
        · simp [scan, pascalChars, hwords, capitalize, hnext, hscan]
        · intro c hc
          refine ⟨next :: word, others, words_cons_cons hc hnext hwords, ?_⟩
          simp [scan, hnext, hscan]
      · constructor
        · simpa [scan, pascalChars, words, hnext] using houtside
        · intro c hc
          refine ⟨[], words rest, words_cons_of_not_isAlphanum hc hnext, ?_⟩
          simpa [scan, pascalChars, hnext] using houtside

/-- The declared name of a text is read off in one pass. -/
theorem pascalChars_eq_scan (text : List Char) : pascalChars text = scan false text :=
  (scan_eq_words text).1.symm

/-! ## Characters of a name -/

theorem isAlphanum_eq (c : Char) :
    c.isAlphanum = (decide (c.val ≥ 'A'.val ∧ c.val ≤ 'Z'.val) ||
      (c.val ≥ 'a'.val && c.val ≤ 'z'.val) || (c.val ≥ '0'.val && c.val ≤ '9'.val)) := rfl

theorem toNat_lt_of_isAlphanum {c : Char} (hc : c.isAlphanum) : c.toNat < 128 := by
  simp [isAlphanum_eq, UInt32.le_iff_toNat_le] at hc
  omega

/-- What holds of the ASCII letters and digits one by one holds of all of them. -/
theorem forall_isAlphanum {p : Char → Prop}
    (hall : ∀ n < 128, (Char.ofNat n).isAlphanum → p (Char.ofNat n)) {c : Char}
    (hc : c.isAlphanum) : p c := by
  have hascii := hall c.toNat (toNat_lt_of_isAlphanum hc)
  rw [Char.ofNat_toNat] at hascii
  exact hascii hc

theorem isAlphanum_toUpper {c : Char} (hc : c.isAlphanum) : c.toUpper.isAlphanum :=
  forall_isAlphanum (p := fun c => c.toUpper.isAlphanum) (by decide) hc

theorem isLower_toUpper {c : Char} (hc : c.isAlphanum) : c.toUpper.isLower = false :=
  forall_isAlphanum (p := fun c => c.toUpper.isLower = false) (by decide) hc

theorem isAlpha_iff {c : Char} (hc : c.isAlphanum) : c.isAlpha ↔ c.isDigit = false :=
  forall_isAlphanum (p := fun c => c.isAlpha ↔ c.isDigit = false) (by decide) hc

theorem isAlphanum_of_mem_scan {inWord : Bool} {text : List Char} {c : Char}
    (hc : c ∈ scan inWord text) : c.isAlphanum := by
  induction text generalizing inWord with
  | nil => simp [scan] at hc
  | cons next rest ih =>
      rw [scan] at hc
      split at hc
      · rename_i hnext
        rcases List.mem_cons.mp hc with rfl | hrest
        · cases inWord with
          | false => exact isAlphanum_toUpper hnext
          | true => exact hnext
        · exact ih hrest
      · exact ih hc

/-- A declared name consists of ASCII letters and digits. -/
theorem isAlphanum_of_mem_pascal {text : String} {c : Char}
    (hc : c ∈ (pascal text).toList) : c.isAlphanum := by
  rw [pascal, String.toList_ofList, pascalChars_eq_scan] at hc
  exact isAlphanum_of_mem_scan hc

/-- A declared name starts with no lower case letter. -/
theorem isLower_head?_pascal {text : String} {c : Char}
    (hc : (pascal text).toList.head? = some c) : c.isLower = false := by
  rw [pascal, String.toList_ofList, pascalChars_eq_scan] at hc
  generalize text.toList = chars at hc
  induction chars with
  | nil => simp [scan] at hc
  | cons next rest ih =>
      rw [scan] at hc
      split at hc
      · rename_i hnext
        simp only [Bool.false_eq_true, if_false, List.head?_cons, Option.some.injEq] at hc
        exact hc ▸ isLower_toUpper hnext
      · exact ih hc

/-! ## New names -/

/-- No two items share a name, and none has the name of one of `seen`, the items
before them. -/
def New {α : Type} (name : α → String) (seen rest : List α) : Prop :=
  (rest.map name).Nodup ∧ ∀ item ∈ rest, name item ∉ seen.map name

theorem new_nil_left {α : Type} {name : α → String} {rest : List α} :
    New name [] rest ↔ (rest.map name).Nodup := by
  simp [New]

/-- A search among the items before finds no item of the same name exactly if the name
is not among theirs. -/
theorem find?_eq_none_iff {α : Type} {name : α → String} {seen : List α} {item : α} :
    seen.find? (fun earlier => name earlier = name item) = none ↔
      name item ∉ seen.map name := by
  simp only [List.find?_eq_none, decide_eq_true_eq, List.mem_map, not_exists, not_and]

theorem findIdx?_eq_none_iff {α : Type} {name : α → String} {seen : List α} {item : α} :
    seen.findIdx? (fun earlier => name earlier = name item) = none ↔
      name item ∉ seen.map name := by
  simp only [List.findIdx?_eq_none_iff, decide_eq_false_iff_not, List.mem_map, not_exists,
    not_and]

/-- Among items of different names, those of an item's name are the item alone. -/
theorem filter_eq_singleton_of_nodup {α : Type} {name : α → String} {items : List α}
    (hdistinct : (items.map name).Nodup) {item : α} (hitem : item ∈ items) :
    items.filter (fun other => name other = name item) = [item] := by
  induction items with
  | nil => exact absurd hitem List.not_mem_nil
  | cons first rest ih =>
      rw [List.map_cons, List.nodup_cons] at hdistinct
      obtain ⟨hfirst, hrest⟩ := hdistinct
      rcases List.mem_cons.mp hitem with rfl | hmem
      · have hothers : rest.filter (fun other => name other = name item) = [] := by
          rw [List.filter_eq_nil_iff]
          intro other hother heq
          exact hfirst (of_decide_eq_true heq ▸ List.mem_map_of_mem hother)
        rw [List.filter_cons_of_pos (by simp), hothers]
      · have hne : name first ≠ name item := by
          intro heq
          exact hfirst (heq ▸ List.mem_map_of_mem hmem)
        rw [List.filter_cons_of_neg (by simpa using hne)]
        exact ih hrest hmem

/-- Among items of different names, a search for an item's name finds the item. -/
theorem find?_eq_some_of_nodup {α : Type} {name : α → String} {items : List α}
    (hdistinct : (items.map name).Nodup) {item : α} (hitem : item ∈ items) :
    items.find? (fun other => name other = name item) = some item := by
  rw [← List.head?_filter, filter_eq_singleton_of_nodup hdistinct hitem, List.head?_cons]

/-- Among items of different names, a search for a name finds exactly the item that has
it. -/
theorem find?_eq_some_iff_of_nodup {α : Type} {name : α → String} {items : List α}
    (hdistinct : (items.map name).Nodup) {item : α} {searched : String} :
    items.find? (fun other => name other = searched) = some item ↔
      item ∈ items ∧ name item = searched := by
  constructor
  · intro hfound
    exact ⟨List.mem_of_find?_eq_some hfound, by simpa using List.find?_some hfound⟩
  · rintro ⟨hitem, rfl⟩
    exact find?_eq_some_of_nodup hdistinct hitem

/-- The last item of a list is the first to be found from the end. -/
theorem find?_reverse_concat {α : Type} {name : α → String} (items : List α) (item : α)
    (searched : String) :
    (items ++ [item]).reverse.find? (fun other => name other = searched) =
      if name item = searched then some item
      else items.reverse.find? (fun other => name other = searched) := by
  rw [List.reverse_append, List.reverse_singleton, List.singleton_append, List.find?_cons]
  by_cases heq : name item = searched
  · simp [heq]
  · simp [heq]

/-- Names are new one after the other. -/
theorem new_cons_iff {α : Type} {name : α → String} {seen rest : List α} {item : α} :
    New name seen (item :: rest) ↔
      name item ∉ seen.map name ∧ New name (seen ++ [item]) rest := by
  simp only [New, List.map_cons, List.nodup_cons, List.forall_mem_cons, List.map_append,
    List.map_nil, List.mem_append, List.mem_singleton, not_or]
  constructor
  · rintro ⟨⟨hhead, hdistinct⟩, hitem, hrest⟩
    refine ⟨hitem, hdistinct, fun other hother => ⟨hrest other hother, ?_⟩⟩
    intro heq
    exact hhead (List.mem_map.mpr ⟨other, hother, heq⟩)
  · rintro ⟨hitem, hdistinct, hrest⟩
    refine ⟨⟨?_, hdistinct⟩, hitem, fun other hother => (hrest other hother).1⟩
    intro hmem
    obtain ⟨other, hother, heq⟩ := List.mem_map.mp hmem
    exact (hrest other hother).2 heq

end TypedContainers.Naming
