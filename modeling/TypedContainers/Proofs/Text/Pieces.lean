import TypedContainers.Text.Lines
import TypedContainers.Text.Split

/-!
# Pieces and lines

Splitting undoes joining as long as no piece holds the separator.  A text written
line by line is read back as the same lines, with an empty one after the last line
feed.
-/

namespace TypedContainers.Text

/-- The lines of a text.  What follows the last line feed is a line, too. -/
def lines (text : String) : List (List Char) :=
  split '\n' text.toList

@[simp]
theorem split_separator_cons (separator : Char) (rest : List Char) :
    split separator (separator :: rest) = [] :: split separator rest := by
  simp [split]

/-- A separator ends the pieces before it. -/
theorem split_append_cons (separator : Char) (text rest : List Char) :
    split separator (text ++ separator :: rest) =
      split separator text ++ split separator rest := by
  induction text with
  | nil => exact split_separator_cons separator rest
  | cons c text ih =>
      rw [List.cons_append, split, ih, split]
      split
      · rfl
      · cases hsplit : split separator text with
        | nil => exact absurd hsplit (split_ne_nil separator text)
        | cons first others => rfl

theorem split_of_not_mem {separator : Char} {piece : List Char}
    (hpiece : separator ∉ piece) : split separator piece = [piece] := by
  induction piece with
  | nil => rfl
  | cons c piece ih =>
      simp only [List.mem_cons, not_or] at hpiece
      have hc : c ≠ separator := Ne.symm hpiece.1
      simp [split, hc, ih hpiece.2]

theorem split_append_separator {separator : Char} {piece : List Char}
    (hpiece : separator ∉ piece) (rest : List Char) :
    split separator (piece ++ separator :: rest) = piece :: split separator rest := by
  rw [split_append_cons, split_of_not_mem hpiece, List.singleton_append]

/-- No piece holds the separator. -/
theorem not_mem_of_mem_split {separator : Char} {text piece : List Char}
    (hpiece : piece ∈ split separator text) : separator ∉ piece := by
  induction text generalizing piece with
  | nil => simp_all [split]
  | cons c text ih =>
      rw [split] at hpiece
      split at hpiece
      · rcases List.mem_cons.mp hpiece with rfl | hrest
        · exact List.not_mem_nil
        · exact ih hrest
      · rename_i hc
        cases hsplit : split separator text with
        | nil => exact absurd hsplit (split_ne_nil separator text)
        | cons first others =>
            rw [hsplit] at hpiece ih
            rcases List.mem_cons.mp hpiece with rfl | hrest
            · simpa [Ne.symm hc] using ih List.mem_cons_self
            · exact ih (List.mem_cons_of_mem first hrest)

/-- Joining undoes splitting. -/
theorem join_split (separator : Char) (text : List Char) :
    join separator (split separator text) = text := by
  induction text with
  | nil => rfl
  | cons c text ih =>
      rw [split]
      cases hsplit : split separator text with
      | nil => exact absurd hsplit (split_ne_nil separator text)
      | cons piece others =>
          rw [hsplit] at ih
          split
          · rename_i hc
            rw [hc, join, ih]
            · rfl
            · simp
          · cases others with
            | nil => exact congrArg (c :: ·) ih
            | cons next others => exact congrArg (c :: ·) ih

/-- Joined pieces are the first one and then each other one behind a separator. -/
theorem join_cons (separator : Char) (first : List Char) (groups : List (List Char)) :
    join separator (first :: groups) = first ++ groups.flatMap (separator :: ·) := by
  induction groups generalizing first with
  | nil => rw [join, List.flatMap_nil, List.append_nil]
  | cons group groups ih =>
      rw [join, ih, List.flatMap_cons, List.cons_append]
      exact List.cons_ne_nil group groups

theorem split_injective {separator : Char} {first second : List Char}
    (heq : split separator first = split separator second) : first = second := by
  rw [← join_split separator first, heq, join_split]

/-- Splitting undoes joining. -/
theorem split_join {separator : Char} {pieces : List (List Char)} (hne : pieces ≠ [])
    (hpieces : ∀ piece ∈ pieces, separator ∉ piece) :
    split separator (join separator pieces) = pieces := by
  induction pieces with
  | nil => exact absurd rfl hne
  | cons piece rest ih =>
      have hpiece := hpieces piece List.mem_cons_self
      cases rest with
      | nil => exact split_of_not_mem hpiece
      | cons next others =>
          rw [join, split_append_separator hpiece]
          · rw [ih (List.cons_ne_nil next others)
              fun other hother => hpieces other (List.mem_cons_of_mem piece hother)]
          · exact List.cons_ne_nil next others

/-- Putting a piece after a separator at the end adds it to the pieces. -/
theorem split_append_separator_last {separator : Char} {piece : List Char}
    (hpiece : separator ∉ piece) (text : List Char) :
    split separator (text ++ separator :: piece) = split separator text ++ [piece] := by
  rw [split_append_cons, split_of_not_mem hpiece]

/-- Joined lines are pieces between line feeds. -/
theorem toList_joinLines (lines : List String) :
    (joinLines lines).toList = join '\n' (lines.map String.toList) := by
  rw [joinLines, String.toList_intercalate]
  generalize lines.map String.toList = pieces
  induction pieces with
  | nil => rfl
  | cons piece rest ih =>
      cases rest with
      | nil => simp [join]
      | cons next others =>
          rw [List.intercalate_cons_cons, ih]
          simp [join]

/-! ## Pieces after the first -/

theorem tail_split_append_cons (separator : Char) (text rest : List Char) :
    (split separator (text ++ separator :: rest)).tail =
      (split separator text).tail ++ split separator rest := by
  rw [split_append_cons, List.tail_append_of_ne_nil (split_ne_nil separator text)]

theorem tail_split_of_not_mem {separator : Char} {piece : List Char}
    (hpiece : separator ∉ piece) : (split separator piece).tail = [] := by
  rw [split_of_not_mem hpiece, List.tail_cons]

/-- The later pieces are those of what follows the first separator. -/
theorem exists_tail_split {separator : Char} {text : List Char} (hmem : separator ∈ text) :
    ∃ rest, ∀ last,
      (split separator (text ++ last)).tail = split separator (rest ++ last) := by
  obtain ⟨first, rest, rfl, hfirst⟩ := List.eq_append_cons_of_mem hmem
  refine ⟨rest, fun last => ?_⟩
  rw [List.append_assoc, List.cons_append, tail_split_append_cons,
    tail_split_of_not_mem hfirst, List.nil_append]

/-- What stands before the first separator does not tell in later pieces. -/
theorem tail_split_append {separator : Char} {start : List Char}
    (hstart : separator ∉ start) (text : List Char) :
    (split separator (start ++ text)).tail = (split separator text).tail := by
  by_cases hmem : separator ∈ text
  · obtain ⟨first, rest, rfl, hfirst⟩ := List.eq_append_cons_of_mem hmem
    have hboth : separator ∉ start ++ first := by simp [hstart, hfirst]
    rw [← List.append_assoc, tail_split_append_cons, tail_split_append_cons,
      tail_split_of_not_mem hboth, tail_split_of_not_mem hfirst]
  · have hboth : separator ∉ start ++ text := by simp [hstart, hmem]
    rw [tail_split_of_not_mem hboth, tail_split_of_not_mem hmem]

/-- A common end without a separator leaves later pieces as different as they were. -/
theorem tail_split_append_right_inj {separator : Char} {last : List Char}
    (hlast : separator ∉ last) (first second : List Char) :
    (split separator (first ++ last)).tail = (split separator (second ++ last)).tail ↔
      (split separator first).tail = (split separator second).tail := by
  have hnone : ∀ text, separator ∉ text →
      (split separator text).tail = [] ∧ (split separator (text ++ last)).tail = [] := by
    intro text htext
    exact ⟨tail_split_of_not_mem htext, tail_split_of_not_mem (by simp [htext, hlast])⟩
  have hsome : ∀ text, separator ∈ text → ∃ rest,
      (split separator text).tail = split separator rest ∧
        (split separator (text ++ last)).tail = split separator (rest ++ last) := by
    intro text htext
    obtain ⟨rest, hrest⟩ := exists_tail_split htext
    exact ⟨rest, by simpa using hrest [], hrest last⟩
  by_cases hfirst : separator ∈ first
  · obtain ⟨rest, hshort, hlong⟩ := hsome first hfirst
    by_cases hsecond : separator ∈ second
    · obtain ⟨other, hotherShort, hotherLong⟩ := hsome second hsecond
      rw [hshort, hlong, hotherShort, hotherLong]
      constructor
      · intro heq
        rw [List.append_cancel_right (split_injective heq)]
      · intro heq
        rw [split_injective heq]
    · obtain ⟨hotherShort, hotherLong⟩ := hnone second hsecond
      rw [hshort, hlong, hotherShort, hotherLong]
      simp [split_ne_nil]
  · obtain ⟨hshort, hlong⟩ := hnone first hfirst
    by_cases hsecond : separator ∈ second
    · obtain ⟨other, hotherShort, hotherLong⟩ := hsome second hsecond
      rw [hshort, hlong, hotherShort, hotherLong]
      simp [(split_ne_nil _ _).symm]
    · obtain ⟨hotherShort, hotherLong⟩ := hnone second hsecond
      rw [hshort, hlong, hotherShort, hotherLong]

/-- A text without a line feed. -/
def OneLine (text : String) : Prop :=
  '\n' ∉ text.toList

theorem oneLine_ofList {chars : List Char} (hchars : '\n' ∉ chars) :
    OneLine (String.ofList chars) := by
  rwa [OneLine, String.toList_ofList]

theorem OneLine.append {first second : String} (hfirst : OneLine first)
    (hsecond : OneLine second) : OneLine (first ++ second) := by
  rw [OneLine, String.toList_append, List.mem_append, not_or]
  exact ⟨hfirst, hsecond⟩

theorem unlines_cons (line : String) (rest : List String) :
    (unlines (line :: rest)).toList = line.toList ++ '\n' :: (unlines rest).toList := by
  simp [unlines]

/-- Lines that hold no line feed are read back as they were written. -/
theorem lines_unlines {written : List String}
    (hwritten : ∀ line ∈ written, OneLine line) :
    lines (unlines written) = written.map String.toList ++ [[]] := by
  induction written with
  | nil => rfl
  | cons line rest ih =>
      have hline := hwritten line List.mem_cons_self
      have hrest := ih fun other hother =>
        hwritten other (List.mem_cons_of_mem line hother)
      rw [lines] at hrest ⊢
      rw [unlines_cons, split_append_separator hline, hrest]
      rfl

end TypedContainers.Text
