import Mathlib.Data.List.Basic
import TypedContainers.Categorical.Basic
import TypedContainers.Proofs.Naming.Spelling

/-!
# Values in capitals

One naming rule gives the values of an enumeration back from the names of its variants if
all of them are written in capitals, and only then.  Written in capitals means that the
rule can put every underscore back where it was: between two words, the later of which
starts with a capital.
-/

namespace TypedContainers

namespace Naming

def isCapitalOrDigit (c : Char) : Bool :=
  c.isUpper || c.isDigit

/-- Whether a word starts with a capital and goes on with capitals and digits. -/
def isCapitalWord : List Char → Bool
  | [] => false
  | c :: rest => c.isUpper && rest.all isCapitalOrDigit

/-- A text in capitals: an empty one, or capitals and digits, after which every underscore
starts a word in capitals. -/
def InCapitals (text : String) : Prop :=
  text = "" ∨ ∃ (first : List Char) (groups : List (List Char)),
    first ≠ [] ∧ (∀ c ∈ first, isCapitalOrDigit c) ∧ (∀ group ∈ groups, isCapitalWord group) ∧
      text.toList = first ++ groups.flatMap ('_' :: ·)

theorem exists_of_isCapitalWord {word : List Char} (hword : isCapitalWord word) :
    ∃ c rest, word = c :: rest ∧ c.isUpper ∧ ∀ d ∈ rest, isCapitalOrDigit d := by
  cases word with
  | nil => exact absurd hword Bool.false_ne_true
  | cons c rest =>
      rw [isCapitalWord, Bool.and_eq_true, List.all_eq_true] at hword
      exact ⟨c, rest, rfl, hword.1, hword.2⟩

theorem ne_nil_of_isCapitalWord {word : List Char} (hword : isCapitalWord word) :
    word ≠ [] := by
  obtain ⟨c, rest, rfl, _⟩ := exists_of_isCapitalWord hword
  exact List.cons_ne_nil c rest

theorem isCapitalOrDigit_of_isUpper {c : Char} (hc : c.isUpper) : isCapitalOrDigit c := by
  rw [isCapitalOrDigit, hc, Bool.true_or]

theorem isCapitalOrDigit_of_isCapitalWord {word : List Char} (hword : isCapitalWord word) :
    ∀ c ∈ word, isCapitalOrDigit c := by
  obtain ⟨c, rest, rfl, hc, hrest⟩ := exists_of_isCapitalWord hword
  exact List.forall_mem_cons.mpr ⟨isCapitalOrDigit_of_isUpper hc, hrest⟩

theorem isAlphanum_of_isCapitalOrDigit {c : Char} (hc : isCapitalOrDigit c) :
    c.isAlphanum := by
  rw [isCapitalOrDigit, Bool.or_eq_true] at hc
  rcases hc with hupper | hdigit
  · rw [isAlphanum_eq_or, hupper, Bool.true_or, Bool.true_or]
  · rw [isAlphanum_eq_or, hdigit, Bool.or_true]

/-- What holds of the capitals and digits one by one holds of all of them. -/
theorem forall_isCapitalOrDigit {p : Char → Prop}
    (hall : ∀ n < 128, isCapitalOrDigit (Char.ofNat n) → p (Char.ofNat n)) {c : Char}
    (hc : isCapitalOrDigit c) : p c :=
  forall_isAlphanum (p := fun c => isCapitalOrDigit c → p c) (fun n hn _ => hall n hn)
    (isAlphanum_of_isCapitalOrDigit hc) hc

/-! ## What the rule writes -/

/-- What the rule makes of a character behind the first. -/
def screamingSnakeStep (c : Char) : List Char :=
  if c.isUpper then ['_', c.toUpper] else [c.toUpper]

theorem screamingSnakeChars_cons (c : Char) (rest : List Char) :
    screamingSnakeChars (c :: rest) = c.toUpper :: rest.flatMap screamingSnakeStep := rfl

theorem isCapitalOrDigit_toUpper {c : Char} (hc : c.isAlphanum) :
    isCapitalOrDigit c.toUpper :=
  forall_isAlphanum (p := fun c => isCapitalOrDigit c.toUpper) (by decide) hc

theorem toUpper_of_isCapitalOrDigit {c : Char} (hc : isCapitalOrDigit c) : c.toUpper = c :=
  forall_isCapitalOrDigit (p := fun c => c.toUpper = c) (by decide) hc

/-- Behind the first character, the rule ends the word that it is in and starts another one
at every capital. -/
theorem exists_groups {rest : List Char} (hrest : ∀ c ∈ rest, c.isAlphanum) :
    ∃ (last : List Char) (groups : List (List Char)),
      (∀ c ∈ last, isCapitalOrDigit c) ∧ (∀ group ∈ groups, isCapitalWord group) ∧
        rest.flatMap screamingSnakeStep = last ++ groups.flatMap ('_' :: ·) := by
  induction rest with
  | nil => exact ⟨[], [], List.forall_mem_nil _, List.forall_mem_nil _, rfl⟩
  | cons c rest ih =>
      obtain ⟨hc, hrest⟩ := List.forall_mem_cons.mp hrest
      obtain ⟨last, groups, hlast, hgroups, heq⟩ := ih hrest
      rw [List.flatMap_cons, heq, screamingSnakeStep]
      -- The word that the rest goes on with starts at `c` if `c` is a capital.
      by_cases hupper : c.isUpper
      · have hkept : c.toUpper = c :=
          toUpper_of_isCapitalOrDigit (isCapitalOrDigit_of_isUpper hupper)
        have hgroup : isCapitalWord (c :: last) := by
          rw [isCapitalWord, hupper, Bool.true_and]
          exact List.all_eq_true.mpr hlast
        rw [if_pos hupper, hkept]
        exact ⟨[], (c :: last) :: groups, List.forall_mem_nil _,
          List.forall_mem_cons.mpr ⟨hgroup, hgroups⟩, by simp⟩
      · rw [if_neg hupper]
        exact ⟨c.toUpper :: last, groups,
          List.forall_mem_cons.mpr ⟨isCapitalOrDigit_toUpper hc, hlast⟩, hgroups, rfl⟩

/-- What the rule makes of a name of letters and digits is in capitals. -/
theorem inCapitals_screamingSnake {name : String} (hname : ∀ c ∈ name.toList, c.isAlphanum) :
    InCapitals (screamingSnake name) := by
  rw [InCapitals, screamingSnake, String.toList_ofList]
  cases hchars : name.toList with
  | nil => exact Or.inl rfl
  | cons c rest =>
      rw [hchars, List.forall_mem_cons] at hname
      obtain ⟨last, groups, hlast, hgroups, heq⟩ := exists_groups hname.2
      refine Or.inr ⟨c.toUpper :: last, groups, List.cons_ne_nil _ last, ?_, hgroups, ?_⟩
      · exact List.forall_mem_cons.mpr ⟨isCapitalOrDigit_toUpper hname.1, hlast⟩
      · rw [screamingSnakeChars_cons, heq, List.cons_append]

/-! ## Words in lower case -/

theorem flatMap_lowerChar {word : List Char} (hword : ∀ c ∈ word, isCapitalOrDigit c) :
    word.flatMap lowerChar = word.map Char.toLower := by
  rw [List.map_eq_flatMap]
  refine List.flatMap_congr fun c hc => ?_
  exact forall_isCapitalOrDigit (p := fun c => lowerChar c = [c.toLower]) (by decide)
    (hword c hc)

theorem isWord_map_toLower {word : List Char} (hne : word ≠ [])
    (hword : ∀ c ∈ word, isCapitalOrDigit c) : IsWord (word.map Char.toLower) := by
  refine ⟨mt List.map_eq_nil_iff.mp hne, List.forall_mem_map.mpr fun c hc => ?_⟩
  exact forall_isCapitalOrDigit (p := fun c => c.toLower.isAlphanum) (by decide) (hword c hc)

/-- In lower case, a text in capitals has the same words in lower case. -/
theorem words_lower {first : List Char} {groups : List (List Char)} (hne : first ≠ [])
    (hfirst : ∀ c ∈ first, isCapitalOrDigit c)
    (hgroups : ∀ group ∈ groups, isCapitalWord group) :
    words ((first ++ groups.flatMap ('_' :: ·)).flatMap lowerChar) =
      (first :: groups).map (List.map Char.toLower) := by
  have hchars : ∀ group ∈ groups, ∀ c ∈ group, isCapitalOrDigit c :=
    fun group hgroup => isCapitalOrDigit_of_isCapitalWord (hgroups group hgroup)
  have hlower : (groups.flatMap ('_' :: ·)).flatMap lowerChar =
      (groups.map (List.map Char.toLower)).flatMap ('_' :: ·) := by
    rw [List.flatMap_assoc, List.flatMap_map]
    refine List.flatMap_congr fun group hgroup => ?_
    rw [List.flatMap_cons, flatMap_lowerChar (hchars group hgroup)]
    rfl
  rw [List.flatMap_append, flatMap_lowerChar hfirst, hlower, ← Text.join_cons, List.map_cons]
  apply words_join (by decide)
  rw [List.forall_mem_cons, List.forall_mem_map]
  refine ⟨isWord_map_toLower hne hfirst, fun group hgroup => ?_⟩
  exact isWord_map_toLower (ne_nil_of_isCapitalWord (hgroups group hgroup))
    (hchars group hgroup)

/-! ## What the rule gives back -/

theorem toUpper_toLower {c : Char} (hc : isCapitalOrDigit c) : c.toLower.toUpper = c :=
  forall_isCapitalOrDigit (p := fun c => c.toLower.toUpper = c) (by decide) hc

/-- A word goes on in capitals as it was. -/
theorem flatMap_screamingSnakeStep_map_toLower {rest : List Char}
    (hrest : ∀ c ∈ rest, isCapitalOrDigit c) :
    (rest.map Char.toLower).flatMap screamingSnakeStep = rest := by
  have hstep : ∀ c ∈ rest, screamingSnakeStep c.toLower = [c] := fun c hc =>
    forall_isCapitalOrDigit (p := fun c => screamingSnakeStep c.toLower = [c]) (by decide)
      (hrest c hc)
  rw [List.flatMap_map, List.flatMap_congr hstep, List.flatMap_singleton']

/-- A word that starts with a capital gets its underscore back. -/
theorem flatMap_screamingSnakeStep_capitalize {word : List Char} (hword : isCapitalWord word) :
    (capitalize (word.map Char.toLower)).flatMap screamingSnakeStep = '_' :: word := by
  obtain ⟨c, rest, rfl, hc, hrest⟩ := exists_of_isCapitalWord hword
  have hcapital := isCapitalOrDigit_of_isUpper hc
  rw [List.map_cons, capitalize, List.flatMap_cons, flatMap_screamingSnakeStep_map_toLower hrest,
    toUpper_toLower hcapital, screamingSnakeStep, if_pos hc, toUpper_of_isCapitalOrDigit hcapital]
  rfl

/-- The rule gives back what is in capitals. -/
theorem screamingSnake_pascal_lower {text : String} (htext : InCapitals text) :
    screamingSnake (pascal (lower text)) = text := by
  rcases htext with rfl | ⟨first, groups, hne, hfirst, hgroups, hchars⟩
  · rfl
  rw [← String.toList_inj, screamingSnake, pascal, lower, String.toList_ofList,
    String.toList_ofList, String.toList_ofList, hchars, pascalChars,
    words_lower hne hfirst hgroups]
  cases first with
  | nil => exact absurd rfl hne
  | cons c rest =>
      obtain ⟨hc, hrest⟩ := List.forall_mem_cons.mp hfirst
      have hothers : ((groups.map (List.map Char.toLower)).flatMap capitalize).flatMap
          screamingSnakeStep = groups.flatMap ('_' :: ·) := by
        rw [List.flatMap_map, List.flatMap_assoc]
        exact List.flatMap_congr fun group hgroup =>
          flatMap_screamingSnakeStep_capitalize (hgroups group hgroup)
      rw [List.map_cons, List.flatMap_cons, List.map_cons, capitalize, List.cons_append,
        screamingSnakeChars_cons, List.flatMap_append, hothers,
        flatMap_screamingSnakeStep_map_toLower hrest, toUpper_toLower hc,
        toUpper_of_isCapitalOrDigit hc, List.cons_append]

/-- The rule gives back exactly the texts in capitals. -/
theorem inCapitals_iff {text : String} :
    InCapitals text ↔ screamingSnake (pascal (lower text)) = text := by
  constructor
  · exact screamingSnake_pascal_lower
  · intro heq
    rw [← heq]
    exact inCapitals_screamingSnake fun c => isAlphanum_of_mem_pascal

instance (text : String) : Decidable (InCapitals text) :=
  decidable_of_iff _ inCapitals_iff.symm

end Naming

/-- One naming rule is declared for an enumeration exactly if all its values are in
capitals. -/
theorem CategoricalField.screamingSnake_iff_inCapitals (entry : CategoricalField) :
    entry.enumDefinition.screamingSnake = true ↔
      ∀ wire ∈ entry.variants, Naming.InCapitals wire := by
  simp only [Naming.inCapitals_iff]
  change ((entry.variants.map variantOf).all _) = true ↔ _
  rw [List.all_eq_true, List.forall_mem_map]
  simp only [beq_iff_eq]
  rfl

-- A digit cannot start a word but the first: its underscore would not come back.
example : Naming.InCapitals "2ND_LINE4" ∧ ¬Naming.InCapitals "LINE_4" ∧
    ¬Naming.InCapitals "A__B" ∧ ¬Naming.InCapitals "\u212a" := by decide

end TypedContainers
