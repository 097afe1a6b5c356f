import Mathlib.Data.List.Nodup
import TypedContainers.Command.Options
import TypedContainers.Proofs.Naming

/-!
# Options however they are written

An option may be written by its name or by its letter, and its value behind an equals
sign or in the next argument.  The value in the next argument is settled late, so that
what a state has been given is what it holds once the option that waits is settled.
Every way of writing gives a state one more option, and so options are read as they were
chosen, in the order in which they were written.
-/

namespace TypedContainers.Command

/-! ## Ways of writing -/

/-- An option that is made use of: a value under a name, or a flag that is set. -/
inductive Choice
  | value (name : String) (letter? : Option Char) (text : String)
  | flag (name : String) (letter? : Option Char)
deriving Repr, DecidableEq

namespace Choice

/-- The option of a choice. -/
def spec : Choice → OptionSpec
  | value name letter? _ => ⟨name, letter?, .value⟩
  | flag name letter? => ⟨name, letter?, .flag⟩

/-- What is read if the choice is made. -/
def given : Choice → Given
  | value name _ text => ⟨name, text⟩
  | flag name _ => ⟨name, ""⟩

/-- Whether a choice can be made: a value may not be empty. -/
def Possible : Choice → Prop
  | value _ _ text => text ≠ ""
  | flag _ _ => True

/-- A text that begins with a dash is taken for an option where one may stand. -/
def BeginsWithDash (text : String) : Prop :=
  text.toList.head? = some '-'

/-- The ways of writing a choice as arguments. -/
inductive Spells : Choice → List String → Prop
  | attached {name : String} {letter? : Option Char} {text : String} :
      Spells (.value name letter? text) ["--" ++ name ++ "=" ++ text]
  | behindName {name : String} {letter? : Option Char} {text : String}
      (hdash : ¬BeginsWithDash text) :
      Spells (.value name letter? text) ["--" ++ name, text]
  | behindLetter {name : String} {letter : Char} {text : String}
      (hdash : ¬BeginsWithDash text) :
      Spells (.value name (some letter) text) ["-" ++ String.singleton letter, text]
  | byName {name : String} {letter? : Option Char} :
      Spells (.flag name letter?) ["--" ++ name]
  | byLetter {name : String} {letter : Char} :
      Spells (.flag name (some letter)) ["-" ++ String.singleton letter]

/-- Choices can always be written, whatever their values begin with. -/
theorem exists_blocks (choices : List Choice) :
    ∃ blocks, List.Forall₂ Spells choices blocks := by
  induction choices with
  | nil => exact ⟨[], .nil⟩
  | cons choice choices ih =>
      obtain ⟨blocks, hblocks⟩ := ih
      cases choice with
      | value name letter? text => exact ⟨_ :: blocks, .cons .attached hblocks⟩
      | flag name letter? => exact ⟨_ :: blocks, .cons .byName hblocks⟩

end Choice

/-! ## Tables of options -/

/-- A table whose options are told apart by their names and by their letters, none of which
can be taken for something else. -/
structure Unambiguous (specs : List OptionSpec) : Prop where
  names : (specs.map (·.name)).Nodup
  letters : (specs.filterMap (·.letter?)).Nodup
  plain : ∀ spec ∈ specs, spec.name ≠ "" ∧ '=' ∉ spec.name.toList
  noDash : ∀ spec ∈ specs, spec.letter? ≠ some '-'

variable {specs : List OptionSpec} {spec : OptionSpec} {letter : Char}

theorem Unambiguous.find?_name (hspecs : Unambiguous specs) (hspec : spec ∈ specs) :
    specs.find? (fun other => other.name.toList = spec.name.toList) = some spec := by
  simp only [String.toList_inj]
  exact Naming.find?_eq_some_of_nodup hspecs.names hspec

theorem find?_letter (hdistinct : (specs.filterMap (·.letter?)).Nodup) (hspec : spec ∈ specs)
    (hletter : spec.letter? = some letter) :
    specs.find? (fun other => other.letter? = some letter) = some spec := by
  induction specs with
  | nil => exact absurd hspec List.not_mem_nil
  | cons first rest ih =>
      by_cases hfirst : first.letter? = some letter
      · rw [List.find?_cons_of_pos (by simpa using hfirst)]
        rcases List.mem_cons.mp hspec with rfl | hrest
        · rfl
        · rw [List.filterMap_cons_some hfirst, List.nodup_cons] at hdistinct
          exact absurd (List.mem_filterMap.mpr ⟨spec, hrest, hletter⟩) hdistinct.1
      · have hrest : spec ∈ rest := by
          rcases List.mem_cons.mp hspec with rfl | hrest
          · exact absurd hletter hfirst
          · exact hrest
        have hsublist : (rest.filterMap (·.letter?)).Sublist
            ((first :: rest).filterMap (·.letter?)) :=
          (List.sublist_cons_self first rest).filterMap _
        rw [List.find?_cons_of_neg (by simpa using hfirst)]
        exact ih (hdistinct.sublist hsublist) hrest

/-! ## What a state was given -/

namespace OptionState

variable {state : OptionState} {given : List Given} {name text : String}

/-- A state was given some options if it holds them once the one that waits is settled,
and more may follow. -/
structure Holds (state : OptionState) (given : List Given) : Prop where
  resolve : state.resolve = .ok ⟨given, none, false⟩
  notEnded : state.ended = false

theorem holds_settled (given : List Given) : Holds ⟨given, none, false⟩ given :=
  ⟨rfl, rfl⟩

theorem settle_of_not_mem {option : Given}
    (hnew : option.name ∉ state.settled.map (·.name)) :
    state.settle option = .ok { state with settled := state.settled ++ [option] } := by
  rw [settle, if_neg]
  simpa only [List.any_eq_true, decide_eq_true_eq, List.mem_map] using hnew

theorem settleValue_of_not_mem {option : Given}
    (hnew : option.name ∉ state.settled.map (·.name)) (hvalue : option.value ≠ "") :
    state.settleValue option = .ok { state with settled := state.settled ++ [option] } := by
  rw [settleValue, settle_of_not_mem hnew]
  exact if_neg hvalue

/-- An option whose value stands in the argument just read is as good as settled. -/
theorem holds_waiting (hnew : name ∉ given.map (·.name)) (htext : text ≠ "") :
    Holds ⟨given, some (name, some text), false⟩ (given ++ [⟨name, text⟩]) :=
  ⟨settleValue_of_not_mem hnew htext, rfl⟩

section Holds

variable (hholds : state.Holds given)
include hholds

theorem Holds.take_value (hkind : spec.kind = .value) :
    state.take spec = .ok ⟨given, some (spec.name, none), false⟩ := by
  rw [take, hholds.resolve, hkind]
  rfl

theorem Holds.take_flag (hkind : spec.kind = .flag)
    (hnew : spec.name ∉ given.map (·.name)) :
    state.take spec = .ok ⟨given ++ [⟨spec.name, ""⟩], none, false⟩ := by
  rw [take, hholds.resolve, hkind]
  exact settle_of_not_mem hnew

theorem Holds.takeAttached (hnew : spec.name ∉ given.map (·.name)) (htext : text ≠ "") :
    state.takeAttached spec text = .ok ⟨given ++ [⟨spec.name, text⟩], none, false⟩ := by
  rw [OptionState.takeAttached, hholds.resolve]
  exact settleValue_of_not_mem hnew htext

end Holds

/-! ## Single arguments -/

/-- A long option, the two dashes aside. -/
theorem step_long (hended : state.ended = false) {chars : List Char} (hchars : chars ≠ [])
    {argument : String} (hargument : argument.toList = '-' :: '-' :: chars) :
    step specs state argument = state.takeLong specs chars := by
  obtain ⟨c, rest, rfl⟩ := List.exists_cons_of_ne_nil hchars
  rw [step, hended, hargument]
  rfl

theorem step_word (specs : List OptionSpec) (hdash : ¬Choice.BeginsWithDash text) :
    step specs ⟨given, some (name, none), false⟩ text =
      .ok ⟨given, some (name, some text), false⟩ := by
  rw [Choice.BeginsWithDash] at hdash
  rw [step, if_neg Bool.false_ne_true]
  split
  case h_4 => rfl
  -- Every other shape of an argument begins with a dash.
  all_goals simp_all

section Steps

variable (hspecs : Unambiguous specs) (hspec : spec ∈ specs) (hended : state.ended = false)
include hspecs hspec

theorem takeWhile_name (rest : List Char) :
    (spec.name.toList ++ rest).takeWhile (· ≠ '=') =
      spec.name.toList ++ rest.takeWhile (· ≠ '=') := by
  apply List.takeWhile_append_of_pos
  intro c hc
  simpa using ne_of_mem_of_not_mem hc (hspecs.plain spec hspec).2

theorem takeLong_name (state : OptionState) :
    state.takeLong specs spec.name.toList = state.take spec := by
  have hname := takeWhile_name hspecs hspec []
  simp only [List.append_nil, List.takeWhile_nil] at hname
  simp only [takeLong, hname, hspecs.find?_name hspec, List.drop_length]

theorem takeLong_attached (hkind : spec.kind = .value) (text : String)
    (state : OptionState) :
    state.takeLong specs (spec.name.toList ++ '=' :: text.toList) =
      state.takeAttached spec text := by
  have hname := takeWhile_name hspecs hspec ('=' :: text.toList)
  rw [List.takeWhile_cons_of_neg (by simp), List.append_nil] at hname
  simp only [takeLong, hname, hspecs.find?_name hspec, List.drop_left, hkind, if_true,
    String.ofList_toList]

include hended

theorem step_name : step specs state ("--" ++ spec.name) = state.take spec := by
  have hne : spec.name.toList ≠ [] := by simpa using (hspecs.plain spec hspec).1
  rw [step_long hended hne String.toList_append, takeLong_name hspecs hspec]

theorem step_attached (hkind : spec.kind = .value) (text : String) :
    step specs state ("--" ++ spec.name ++ "=" ++ text) = state.takeAttached spec text := by
  have hargument : ("--" ++ spec.name ++ "=" ++ text).toList =
      '-' :: '-' :: (spec.name.toList ++ '=' :: text.toList) := by
    simp
  rw [step_long hended (by simp) hargument, takeLong_attached hspecs hspec hkind]

theorem step_letter (hletter : spec.letter? = some letter) :
    step specs state ("-" ++ String.singleton letter) = state.take spec := by
  have hargument : ("-" ++ String.singleton letter).toList = ['-', letter] := by
    simp
  have hdash : letter ≠ '-' := by
    rintro rfl
    exact hspecs.noDash spec hspec hletter
  have hletters : takeLetters specs [letter] state = state.take spec := by
    simp only [takeLetters, find?_letter hspecs.letters hspec hletter, List.isEmpty_nil,
      Bool.not_true, Bool.and_false, Bool.false_eq_true, if_false]
    cases state.take spec <;> rfl
  rw [← hletters, step, hended, hargument]
  split <;> simp_all

end Steps

/-! ## All arguments -/

theorem foldlM_cons_of_step {middle : OptionState} {argument : String} {rest : List String}
    (hstep : step specs state argument = .ok middle) :
    (argument :: rest).foldlM (step specs) state = rest.foldlM (step specs) middle := by
  rw [List.foldlM_cons, hstep]
  rfl

/-- The value of the option that waits may stand in the next argument. -/
theorem exists_foldlM_word (specs : List OptionSpec) (hdash : ¬Choice.BeginsWithDash text)
    (hnew : name ∉ given.map (·.name)) (htext : text ≠ "") :
    ∃ after, [text].foldlM (step specs) ⟨given, some (name, none), false⟩ = .ok after ∧
      after.Holds (given ++ [⟨name, text⟩]) :=
  ⟨_, foldlM_cons_of_step (step_word specs hdash), holds_waiting hnew htext⟩

/-- However a choice is written, it gives a state one more option. -/
theorem Holds.foldlM_spells {choice : Choice} {block : List String}
    (hholds : state.Holds given) (hspecs : Unambiguous specs) (hspec : choice.spec ∈ specs)
    (hnew : choice.given.name ∉ given.map (·.name)) (hpossible : choice.Possible)
    (hspells : choice.Spells block) :
    ∃ after, block.foldlM (step specs) state = .ok after ∧
      after.Holds (given ++ [choice.given]) := by
  have hended := hholds.notEnded
  cases hspells with
  | attached =>
      have hstep := (step_attached hspecs hspec hended rfl _).trans
        (hholds.takeAttached hnew hpossible)
      exact ⟨_, foldlM_cons_of_step hstep, holds_settled _⟩
  | behindName hdash =>
      have hstep := (step_name hspecs hspec hended).trans (hholds.take_value rfl)
      obtain ⟨after, hword, hafter⟩ := exists_foldlM_word specs hdash hnew hpossible
      exact ⟨after, (foldlM_cons_of_step hstep).trans hword, hafter⟩
  | behindLetter hdash =>
      have hstep := (step_letter hspecs hspec hended rfl).trans (hholds.take_value rfl)
      obtain ⟨after, hword, hafter⟩ := exists_foldlM_word specs hdash hnew hpossible
      exact ⟨after, (foldlM_cons_of_step hstep).trans hword, hafter⟩
  | byName =>
      have hstep := (step_name hspecs hspec hended).trans (hholds.take_flag rfl hnew)
      exact ⟨_, foldlM_cons_of_step hstep, holds_settled _⟩
  | byLetter =>
      have hstep := (step_letter hspecs hspec hended rfl).trans (hholds.take_flag rfl hnew)
      exact ⟨_, foldlM_cons_of_step hstep, holds_settled _⟩

/-- Choices with names of their own, written one after the other, are all given. -/
theorem Holds.foldlM_flatten {choices : List Choice} {blocks : List (List String)}
    (hholds : state.Holds given) (hspecs : Unambiguous specs)
    (hspec : ∀ choice ∈ choices, choice.spec ∈ specs)
    (hnew : Naming.New (·.name) given (choices.map Choice.given))
    (hpossible : ∀ choice ∈ choices, choice.Possible)
    (hspells : List.Forall₂ Choice.Spells choices blocks) :
    ∃ after, blocks.flatten.foldlM (step specs) state = .ok after ∧
      after.Holds (given ++ choices.map Choice.given) := by
  induction hspells generalizing state given with
  | nil => exact ⟨state, rfl, by simpa using hholds⟩
  | @cons choice block choices blocks hblock _ ih =>
      rw [List.forall_mem_cons] at hspec hpossible
      rw [List.map_cons, Naming.new_cons_iff] at hnew
      obtain ⟨middle, hfirst, hmiddle⟩ :=
        hholds.foldlM_spells hspecs hspec.1 hnew.1 hpossible.1 hblock
      obtain ⟨after, hrest, hafter⟩ := ih hmiddle hspec.2 hnew.2 hpossible.2
      refine ⟨after, ?_, ?_⟩
      · rw [List.flatten_cons, List.foldlM_append, hfirst]
        exact hrest
      · simpa using hafter

end OptionState

/-- Choices are read as they were made, in the order in which they are written. -/
theorem readOptions_of_spells {choices : List Choice} {blocks : List (List String)}
    (hspecs : Unambiguous specs) (hspec : ∀ choice ∈ choices, choice.spec ∈ specs)
    (hdistinct : ((choices.map Choice.given).map (·.name)).Nodup)
    (hpossible : ∀ choice ∈ choices, choice.Possible)
    (hspells : List.Forall₂ Choice.Spells choices blocks) :
    readOptions specs blocks.flatten = .ok (choices.map Choice.given) := by
  have hnew := Naming.new_nil_left.mpr hdistinct
  obtain ⟨after, hfold, hholds⟩ := (OptionState.holds_settled []).foldlM_flatten hspecs hspec
    hnew hpossible hspells
  rw [readOptions, OptionState.start, hfold]
  show after.resolve >>= _ = _
  rw [hholds.resolve]
  rfl

end TypedContainers.Command
