import TypedContainers.Proofs.Naming.Spelling

/-!
# A declared name from its text

A declared name is made of the pieces of a text between characters that are no ASCII
letter or digit, and it comes to the same as judging each character by the one before it.
So a name is declared as itself, and a separator splits a name in two.
-/

namespace TypedContainers.Naming

/-- The words of a text are its pieces between separators, less the empty ones. -/
theorem words_eq_splitOnP (text : List Char) :
    words text = (text.splitOnP fun c => !c.isAlphanum).filter (· ≠ []) := by
  by_cases hseparator : ∃ c ∈ text, ¬c.isAlphanum
  · obtain ⟨c, hmem, hc⟩ := hseparator
    obtain ⟨first, last, htext⟩ := List.append_of_mem hmem
    rw [htext, words_append_separator hc, words_eq_splitOnP first, words_eq_splitOnP last,
      List.splitOnP_append_cons _ _ (by simpa using hc), List.filter_append]
  · have hword : ∀ c ∈ text, c.isAlphanum := by simpa using hseparator
    rw [List.splitOnP_eq_singleton (by simpa using hword)]
    cases text with
    | nil => rfl
    | cons c rest =>
        rw [words_of_isWord ⟨List.cons_ne_nil c rest, hword⟩]
        simp
termination_by text.length
decreasing_by
  all_goals
    rw [htext, List.length_append, List.length_cons]
    omega

/-! ## Character by character -/

/-- What is kept of a character, given the one before it: a letter or digit, raised
unless another one stands before it. -/
def kept : Option Char × Char → Option Char
  | (before, c) =>
    if c.isAlphanum then some (if before.any Char.isAlphanum then c else c.toUpper) else none

/-- The characters of a text, each with the one before it. -/
def withBefore (text : List Char) : List (Option Char × Char) :=
  (none :: text.map some).zip text

/-- A pass knows of the text before only whether the last character was kept. -/
theorem scan_eq_filterMap_kept (before : Option Char) (text : List Char) :
    scan (before.any Char.isAlphanum) text =
      ((before :: text.map some).zip text).filterMap kept := by
  induction text generalizing before with
  | nil => rfl
  | cons c rest ih =>
      have hrest := ih (some c)
      rw [Option.any_some] at hrest
      rw [List.map_cons, List.zip_cons_cons, List.filterMap_cons, scan, kept]
      by_cases hc : c.isAlphanum
      · rw [hc] at hrest
        simp only [hc, if_true, hrest]
      · rw [Bool.not_eq_true] at hc
        rw [hc] at hrest
        simp only [hc, Bool.false_eq_true, if_false, hrest]

theorem pascalChars_eq_filterMap_kept (text : List Char) :
    pascalChars text = (withBefore text).filterMap kept :=
  (pascalChars_eq_scan text).trans (scan_eq_filterMap_kept none text)

/-! ## Names of names and of parts -/

theorem pascalChars_append_separator {c : Char} (hc : ¬c.isAlphanum)
    (first last : List Char) :
    pascalChars (first ++ c :: last) = pascalChars first ++ pascalChars last := by
  rw [pascalChars, words_append_separator hc, List.flatMap_append]
  rfl

/-- Raising the first character of a name again changes nothing. -/
theorem capitalize_pascalChars (text : List Char) :
    capitalize (pascalChars text) = pascalChars text := by
  rw [pascalChars]
  cases hwords : words text with
  | nil => rfl
  | cons word others =>
      obtain ⟨c, rest, rfl, hc⟩ :=
        (isWord_of_mem_words (hwords ▸ List.mem_cons_self)).exists_cons
      rw [List.flatMap_cons, capitalize, List.cons_append, capitalize, toUpper_toUpper hc]

/-- A name is one word, which is raised already. -/
theorem pascalChars_pascalChars (text : List Char) :
    pascalChars (pascalChars text) = pascalChars text := by
  by_cases hnil : pascalChars text = []
  · rw [hnil]
    rfl
  · have hword : IsWord (pascalChars text) := by
      refine ⟨hnil, fun c hc => ?_⟩
      rw [pascalChars_eq_scan] at hc
      exact isAlphanum_of_mem_scan hc
    calc
      pascalChars (pascalChars text)
        = [pascalChars text].flatMap capitalize := by
          rw [pascalChars, words_of_isWord hword]
      _ = capitalize (pascalChars text) := List.flatMap_singleton ..
      _ = pascalChars text := capitalize_pascalChars text

/-- The declared name of a text is the text's pieces between separators, each capitalized,
and its ASCII letters and digits in order, each raised unless another one stands right
before it.  It is its own declared name, and the name of two texts around a separator is
that of the first and then that of the second. -/
theorem pascal_character_by_character (text : String) :
    (pascal text).toList =
      ((text.toList.splitOnP fun c => !c.isAlphanum).filter (· ≠ [])).flatMap capitalize ∧
    (pascal text).toList = (withBefore text.toList).filterMap kept ∧
    pascal (pascal text) = pascal text ∧
    ∀ (c : Char) (last : String), ¬c.isAlphanum →
      pascal (text ++ String.singleton c ++ last) = pascal text ++ pascal last := by
  have hchars : (pascal text).toList = pascalChars text.toList := String.toList_ofList
  refine ⟨?_, ?_, ?_, ?_⟩
  · rw [hchars, pascalChars, words_eq_splitOnP]
  · rw [hchars, pascalChars_eq_filterMap_kept]
  · rw [pascal, hchars, pascalChars_pascalChars, pascal]
  · intro c last hc
    rw [pascal, String.toList_append, String.toList_append, String.toList_singleton,
      List.append_assoc, List.singleton_append, pascalChars_append_separator hc,
      String.ofList_append]
    rfl

/-- A letter that is not ASCII separates as the underscore and the hyphen do. -/
theorem pascal_of_costLine :
    ¬ 'é'.isAlphanum ∧
      pascal ("_job" ++ String.singleton 'é' ++ "costLine-2") =
        pascal "_job" ++ pascal "costLine-2" ∧
      pascal "_job" ++ pascal "costLine-2" = "JobCostLine2" := by
  have hseparator : ¬ 'é'.isAlphanum := by decide
  obtain ⟨_, _, _, hparts⟩ := pascal_character_by_character "_job"
  exact ⟨hseparator, hparts 'é' "costLine-2" hseparator, by decide⟩

end TypedContainers.Naming
