import TypedContainers.Proofs.Naming
import TypedContainers.Proofs.Text.Pieces

/-!
# Which texts spell a name

Declared names forget the separators of a text and the case of each word's first
character.  What is left tells exactly when a name is an identifier, which texts are
declared as one given word, and that different texts in snake case get different names.
-/

namespace TypedContainers.Naming

/-! ## Words of a text in parts -/

theorem words_cons_separator {c : Char} (hc : ¬c.isAlphanum) (rest : List Char) :
    words (c :: rest) = words rest := by
  rw [words.eq_def]
  simp [hc]

/-- A letter or digit stands alone or joins the word that follows it. -/
theorem words_cons_cases {c : Char} (hc : c.isAlphanum) (rest : List Char) :
    words (c :: rest) = [c] :: words rest ∨
      ∃ word others, words rest = word :: others ∧
        words (c :: rest) = (c :: word) :: others := by
  cases rest with
  | nil => exact Or.inl (by simp [words, hc])
  | cons next rest =>
      by_cases hnext : next.isAlphanum
      · obtain ⟨word, others, hwords, _⟩ := (scan_eq_words rest).2 next hnext
        exact Or.inr ⟨next :: word, others, hwords, words_cons_cons hc hnext hwords⟩
      · left
        rw [words_cons_of_not_isAlphanum hc hnext, words_cons_separator hnext]

/-- A word: letters and digits, at least one. -/
def IsWord (word : List Char) : Prop :=
  word ≠ [] ∧ ∀ c ∈ word, c.isAlphanum

theorem IsWord.exists_cons {word : List Char} (hword : IsWord word) :
    ∃ c rest, word = c :: rest ∧ c.isAlphanum := by
  obtain ⟨hne, hchars⟩ := hword
  cases word with
  | nil => exact absurd rfl hne
  | cons c rest => exact ⟨c, rest, rfl, hchars c List.mem_cons_self⟩

theorem isWord_of_mem_words {text word : List Char} (hword : word ∈ words text) :
    IsWord word := by
  induction text generalizing word with
  | nil => simp [words] at hword
  | cons c rest ih =>
      by_cases hc : c.isAlphanum
      · rcases words_cons_cases hc rest with hcons | ⟨next, others, hrest, hcons⟩
        · rw [hcons, List.mem_cons] at hword
          rcases hword with rfl | hword
          · exact ⟨List.cons_ne_nil c [], by simpa using hc⟩
          · exact ih hword
        · rw [hcons, List.mem_cons] at hword
          rcases hword with rfl | hword
          · have hnext := ih (hrest ▸ List.mem_cons_self)
            exact ⟨List.cons_ne_nil c next, by simpa [hc] using hnext.2⟩
          · exact ih (hrest ▸ List.mem_cons_of_mem next hword)
      · rw [words_cons_separator hc] at hword
        exact ih hword

theorem words_of_isWord {word : List Char} (hword : IsWord word) : words word = [word] := by
  obtain ⟨hne, hchars⟩ := hword
  induction word with
  | nil => exact absurd rfl hne
  | cons c rest ih =>
      obtain ⟨hc, hrest⟩ := List.forall_mem_cons.mp hchars
      cases rest with
      | nil => simp [words, hc]
      | cons next rest =>
          exact words_cons_cons hc (hrest next List.mem_cons_self)
            (ih (List.cons_ne_nil next rest) hrest)

/-- A separator ends the words before it. -/
theorem words_append_separator {c : Char} (hc : ¬c.isAlphanum) (first last : List Char) :
    words (first ++ c :: last) = words first ++ words last := by
  induction first with
  | nil => exact words_cons_separator hc last
  | cons d first ih =>
      by_cases hd : d.isAlphanum
      · cases first with
        | nil =>
            rw [List.singleton_append, words_cons_of_not_isAlphanum hd hc]
            simp [words, hd]
        | cons next first =>
            by_cases hnext : next.isAlphanum
            · obtain ⟨word, others, hwords, _⟩ := (scan_eq_words first).2 next hnext
              rw [words_cons_cons hd hnext hwords]
              rw [hwords] at ih
              exact words_cons_cons hd hnext ih
            · rw [List.cons_append, words_cons_separator hnext,
                words_cons_separator hnext] at ih
              rw [words_cons_of_not_isAlphanum hd hnext, List.cons_append,
                List.cons_append, words_cons_of_not_isAlphanum hd hnext, ih]
              rfl
      · rw [List.cons_append, words_cons_separator hd, words_cons_separator hd, ih]

/-- Joining words with a separator that is no letter or digit keeps them apart. -/
theorem words_join {separator : Char} (hseparator : ¬separator.isAlphanum)
    {pieces : List (List Char)} (hpieces : ∀ piece ∈ pieces, IsWord piece) :
    words (Text.join separator pieces) = pieces := by
  induction pieces with
  | nil => rfl
  | cons piece rest ih =>
      obtain ⟨hpiece, hrest⟩ := List.forall_mem_cons.mp hpieces
      cases rest with
      | nil => exact words_of_isWord hpiece
      | cons next others =>
          rw [Text.join, words_append_separator hseparator, ih hrest,
            words_of_isWord hpiece]
          · rfl
          · exact List.cons_ne_nil next others

/-! ## The first character of a name -/

/-- The first character of a name is the first letter or digit of the text, raised. -/
theorem head?_pascal (text : String) :
    (pascal text).toList.head? = (text.toList.find? Char.isAlphanum).map Char.toUpper := by
  rw [pascal, String.toList_ofList, pascalChars_eq_scan]
  induction text.toList with
  | nil => rfl
  | cons c rest ih =>
      by_cases hc : c.isAlphanum
      · simp [scan, hc]
      · simpa [scan, hc] using ih

theorem isDigit_toUpper {c : Char} (hc : c.isAlphanum) : c.toUpper.isDigit = c.isDigit :=
  forall_isAlphanum (p := fun c => c.toUpper.isDigit = c.isDigit) (by decide) hc

theorem isAlphanum_eq_or (c : Char) :
    c.isAlphanum = (c.isUpper || c.isLower || c.isDigit) := rfl

theorem isAlphanum_of_isLower {c : Char} (hc : c.isLower) : c.isAlphanum := by
  rw [isAlphanum_eq_or, hc, Bool.or_true, Bool.true_or]

/-- A character that is raised to the same as a lower case letter is that letter or its
capital. -/
theorem eq_or_eq_toUpper {c d : Char} (hc : c.isAlphanum) (hd : d.isLower)
    (heq : c.toUpper = d.toUpper) : c = d ∨ c = d.toUpper := by
  have hlowered : d.toUpper.toLower = d :=
    forall_isAlphanum (p := fun d => d.isLower → d.toUpper.toLower = d) (by decide)
      (isAlphanum_of_isLower hd) hd
  have hraised : c.toUpper = c ∨ c.toUpper.toLower = c :=
    forall_isAlphanum (p := fun c => c.toUpper = c ∨ c.toUpper.toLower = c) (by decide) hc
  rcases hraised with hkept | hlower
  · exact Or.inr (hkept.symm.trans heq)
  · rw [heq, hlowered] at hlower
    exact Or.inl hlower.symm

theorem toUpper_toUpper {c : Char} (hc : c.isAlphanum) : c.toUpper.toUpper = c.toUpper :=
  forall_isAlphanum (p := fun c => c.toUpper.toUpper = c.toUpper) (by decide) hc

/-! ## Names of one word -/

/-- A name that goes on in lower case is that of a single word: a second one would bring
a second character that is no lower case letter. -/
theorem words_eq_singleton {text tail : List Char} {first : Char}
    (heq : pascalChars text = first :: tail) (htail : ∀ c ∈ tail, c.isLower) :
    ∃ c, words text = [c :: tail] ∧ c.isAlphanum ∧ c.toUpper = first := by
  cases hwords : words text with
  | nil => simp [pascalChars, hwords] at heq
  | cons word others =>
      obtain ⟨c, rest, rfl, hc⟩ :=
        (isWord_of_mem_words (hwords ▸ List.mem_cons_self)).exists_cons
      cases others with
      | nil =>
          simp only [pascalChars, hwords, List.flatMap_singleton, capitalize,
            List.cons.injEq] at heq
          exact ⟨c, by rw [heq.2], hc, heq.1⟩
      | cons second more =>
          have hsecond : IsWord second :=
            isWord_of_mem_words (hwords ▸ List.mem_cons_of_mem _ List.mem_cons_self)
          obtain ⟨d, rest', rfl, hd⟩ := hsecond.exists_cons
          have hmem : d.toUpper ∈ tail := by
            simp only [pascalChars, hwords, List.flatMap_cons, capitalize,
              List.cons_append, List.cons.injEq] at heq
            rw [← heq.2]
            simp
          have hlower := htail _ hmem
          rw [isLower_toUpper hd] at hlower
          exact absurd hlower Bool.false_ne_true

/-- Only the word itself, in lower case or capitalized already, is declared as a
capitalized word in lower case. -/
theorem pascalChars_eq_capitalize_iff {text word : List Char} (hne : word ≠ [])
    (hword : ∀ c ∈ word, c.isLower) :
    pascalChars text = capitalize word ↔
      words text = [word] ∨ words text = [capitalize word] := by
  cases word with
  | nil => exact absurd rfl hne
  | cons d tail =>
      obtain ⟨hd, htail⟩ := List.forall_mem_cons.mp hword
      constructor
      · intro heq
        obtain ⟨c, hwords, hc, hhead⟩ := words_eq_singleton heq htail
        rcases eq_or_eq_toUpper hc hd hhead with rfl | rfl
        · exact Or.inl hwords
        · exact Or.inr hwords
      · rintro (hwords | hwords)
        · rw [pascalChars, hwords, List.flatMap_singleton]
        · rw [pascalChars, hwords, List.flatMap_singleton, capitalize, capitalize,
            toUpper_toUpper (isAlphanum_of_isLower hd)]

/-- A text that holds one word only: the given one, as it is or capitalized. -/
def SpellsWord (word text : String) : Prop :=
  words text.toList = [word.toList] ∨ words text.toList = [capitalize word.toList]

instance (word text : String) : Decidable (SpellsWord word text) :=
  inferInstanceAs (Decidable (_ ∨ _))

/-- Exactly the texts that spell a word in lower case are declared as this word. -/
theorem pascal_eq_iff_spellsWord {text word : String} (hne : word.toList ≠ [])
    (hword : word.toList.all Char.isLower) :
    pascal text = String.ofList (capitalize word.toList) ↔ SpellsWord word text := by
  rw [SpellsWord, ← pascalChars_eq_capitalize_iff hne (List.all_eq_true.mp hword), pascal]
  exact String.ofList_inj

/-! ## Texts in snake case -/

/-- Whether a character goes on a word that is kept in lower case. -/
def isLowerOrDigit (c : Char) : Bool :=
  c.isLower || c.isDigit

/-- Whether a word starts with a lower case letter and goes on with such letters and
digits. -/
def isLowerWord : List Char → Bool
  | [] => false
  | c :: rest => c.isLower && rest.all isLowerOrDigit

/-- A text of such words with one underscore between any two. -/
def SnakeCase (text : String) : Prop :=
  ∀ piece ∈ Text.split '_' text.toList, isLowerWord piece

instance (text : String) : Decidable (SnakeCase text) :=
  inferInstanceAs (Decidable (∀ piece ∈ Text.split '_' text.toList, isLowerWord piece))

theorem exists_of_isLowerWord {word : List Char} (hword : isLowerWord word) :
    ∃ c rest, word = c :: rest ∧ c.isLower ∧ ∀ d ∈ rest, isLowerOrDigit d := by
  cases word with
  | nil => simp [isLowerWord] at hword
  | cons c rest =>
      rw [isLowerWord, Bool.and_eq_true, List.all_eq_true] at hword
      exact ⟨c, rest, rfl, hword.1, hword.2⟩

theorem isWord_of_isLowerWord {word : List Char} (hword : isLowerWord word) :
    IsWord word := by
  obtain ⟨c, rest, rfl, hc, hrest⟩ := exists_of_isLowerWord hword
  refine ⟨List.cons_ne_nil c rest, ?_⟩
  intro d hd
  rcases List.mem_cons.mp hd with rfl | hd
  · exact isAlphanum_of_isLower hc
  · have hdigit := hrest d hd
    rw [isLowerOrDigit, Bool.or_eq_true] at hdigit
    rcases hdigit with hlower | hdigit
    · exact isAlphanum_of_isLower hlower
    · rw [isAlphanum_eq_or, hdigit, Bool.or_true]

/-- A text in snake case has its pieces as words. -/
theorem words_of_snakeCase {text : String} (htext : SnakeCase text) :
    words text.toList = Text.split '_' text.toList := by
  have hjoin := words_join (by decide : ¬ '_'.isAlphanum)
    fun piece hpiece => isWord_of_isLowerWord (htext piece hpiece)
  rwa [Text.join_split] at hjoin

/-- A capital ends what goes on a word. -/
theorem isLowerOrDigit_toUpper {c : Char} (hc : c.isLower) :
    isLowerOrDigit c.toUpper = false :=
  forall_isAlphanum (p := fun c => c.isLower → isLowerOrDigit c.toUpper = false) (by decide)
    (isAlphanum_of_isLower hc) hc

/-- What follows the first character of a capitalized word ends at the next capital. -/
theorem takeWhile_append_flatMap_capitalize {rest : List Char} {others : List (List Char)}
    (hrest : ∀ d ∈ rest, isLowerOrDigit d) (hothers : ∀ word ∈ others, isLowerWord word) :
    (rest ++ others.flatMap capitalize).takeWhile isLowerOrDigit = rest := by
  rw [List.takeWhile_append_of_pos hrest]
  cases others with
  | nil => rw [List.flatMap_nil, List.takeWhile_nil, List.append_nil]
  | cons word others =>
      obtain ⟨c, more, rfl, hc, _⟩ := exists_of_isLowerWord (hothers word List.mem_cons_self)
      have hcapital : ¬isLowerOrDigit c.toUpper = true := by
        rw [isLowerOrDigit_toUpper hc]
        exact Bool.false_ne_true
      rw [List.flatMap_cons, capitalize, List.cons_append,
        List.takeWhile_cons_of_neg hcapital, List.append_nil]

/-- Lower case words are read back from their capitalized forms, which each start at a
capital. -/
theorem flatMap_capitalize_injective {first second : List (List Char)}
    (hfirst : ∀ word ∈ first, isLowerWord word)
    (hsecond : ∀ word ∈ second, isLowerWord word)
    (heq : first.flatMap capitalize = second.flatMap capitalize) : first = second := by
  induction first generalizing second with
  | nil =>
      cases second with
      | nil => rfl
      | cons word others =>
          obtain ⟨c, rest, rfl, _⟩ :=
            exists_of_isLowerWord (hsecond word List.mem_cons_self)
          simp [capitalize] at heq
  | cons word others ih =>
      obtain ⟨c, rest, rfl, hc, hrest⟩ :=
        exists_of_isLowerWord (hfirst word List.mem_cons_self)
      cases second with
      | nil => simp [capitalize] at heq
      | cons word' others' =>
          obtain ⟨c', rest', rfl, hc', hrest'⟩ :=
            exists_of_isLowerWord (hsecond word' List.mem_cons_self)
          have hothers := fun w hw => hfirst w (List.mem_cons_of_mem _ hw)
          have hothers' := fun w hw => hsecond w (List.mem_cons_of_mem _ hw)
          simp only [List.flatMap_cons, capitalize, List.cons_append,
            List.cons.injEq] at heq
          obtain ⟨hhead, htail⟩ := heq
          have hsame : rest = rest' := by
            rw [← takeWhile_append_flatMap_capitalize hrest hothers, htail,
              takeWhile_append_flatMap_capitalize hrest' hothers']
          subst hsame
          have hc : c = c' := by
            rcases eq_or_eq_toUpper (isAlphanum_of_isLower hc) hc' hhead with heq | heq
            · exact heq
            · rw [heq, isLower_toUpper (isAlphanum_of_isLower hc')] at hc
              simp at hc
          rw [hc, ih hothers hothers' (List.append_cancel_left htail)]

/-- Different texts in snake case are declared under different names. -/
theorem pascal_injective_of_snakeCase {first second : String} (hfirst : SnakeCase first)
    (hsecond : SnakeCase second) (heq : pascal first = pascal second) : first = second := by
  have hchars : pascalChars first.toList = pascalChars second.toList :=
    String.ofList_inj.mp heq
  rw [pascalChars, pascalChars, words_of_snakeCase hfirst, words_of_snakeCase hsecond]
    at hchars
  exact String.toList_inj.mp
    (Text.split_injective (flatMap_capitalize_injective hfirst hsecond hchars))

-- A word must not start with a digit: nothing would be left of the underscore before it.
example : SnakeCase "line2" ∧ ¬ SnakeCase "line_2" ∧ pascal "line_2" = pascal "line2" := by
  decide

end TypedContainers.Naming
