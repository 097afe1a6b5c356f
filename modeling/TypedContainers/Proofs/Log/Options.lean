import TypedContainers.Log.Options
import TypedContainers.Proofs.Text.Pieces

/-!
# Additional directives

The filter is set up piece by piece from what the environment asks for.  A piece that is a
directive is added, one that is not is warned about, and a blank one is passed over, so that
what is no directive leaves no trace in the filter.
-/

namespace TypedContainers.Log

variable {piece : List Char} {pieces kept : List (List Char)}

/-! ## One piece -/

/-- The directive that a piece is, blanks around it aside.  A blank piece is none. -/
def directive? (piece : List Char) : Option Directive :=
  let item := Text.trim Text.isSpace piece
  if item = [] then none else Directive.ofText? item

/-- The warning about a piece that is neither blank nor a directive. -/
def warning? (piece : List Char) : Option Warning :=
  let item := Text.trim Text.isSpace piece
  if item = [] ∨ (Directive.ofText? item).isSome = true then none
  else some ⟨String.ofList item⟩

theorem take_of_directive? (setup : Setup) {directive : Directive}
    (hpiece : directive? piece = some directive) :
    warning? piece = none ∧
      setup.take piece = { setup with filter := setup.filter.add directive } := by
  rw [directive?] at hpiece
  by_cases hitem : Text.trim Text.isSpace piece = []
  · simp [hitem] at hpiece
  · rw [if_neg hitem] at hpiece
    simp [warning?, Setup.take, hitem, hpiece]

theorem take_of_warning? (setup : Setup) {warning : Warning}
    (hpiece : warning? piece = some warning) :
    directive? piece = none ∧
      setup.take piece = { setup with warnings := setup.warnings ++ [warning] } := by
  rw [warning?] at hpiece
  by_cases hitem : Text.trim Text.isSpace piece = []
  · simp [hitem] at hpiece
  · cases hdirective : Directive.ofText? (Text.trim Text.isSpace piece) with
    | some directive => simp [hdirective] at hpiece
    | none =>
        simp [hitem, hdirective] at hpiece
        simp [directive?, Setup.take, hitem, hdirective, hpiece]

theorem take_of_neither (setup : Setup) (hdirective : directive? piece = none)
    (hwarning : warning? piece = none) : setup.take piece = setup := by
  by_cases hitem : Text.trim Text.isSpace piece = []
  · simp [Setup.take, hitem]
  · simp_all [directive?, warning?]

/-! ## All pieces -/

/-- The pieces that are directives are added in their order, each other one that is not blank
is warned about once, and nothing else happens. -/
theorem foldl_take (setup : Setup) (pieces : List (List Char)) :
    pieces.foldl Setup.take setup =
      ⟨(pieces.filterMap directive?).foldl Filter.add setup.filter,
        setup.warnings ++ pieces.filterMap warning?⟩ := by
  induction pieces generalizing setup with
  | nil => simp
  | cons piece rest ih =>
      rw [List.foldl_cons, ih]
      cases hdirective : directive? piece with
      | some directive =>
          obtain ⟨hwarning, htake⟩ := take_of_directive? setup hdirective
          simp [hdirective, hwarning, htake]
      | none =>
          cases hwarning : warning? piece with
          | some warning =>
              simp [hdirective, hwarning, (take_of_warning? setup hwarning).2]
          | none => simp [hdirective, hwarning, take_of_neither setup hdirective hwarning]

/-! ## Deleted pieces -/

/-- Some pieces and those that are kept of them, where none that is deleted is a
directive. -/
inductive Prunes : List (List Char) → List (List Char) → Prop
  | nil : Prunes [] []
  | keep {pieces kept : List (List Char)} (piece : List Char) (hrest : Prunes pieces kept) :
      Prunes (piece :: pieces) (piece :: kept)
  | delete {piece : List Char} {pieces kept : List (List Char)}
      (hpiece : directive? piece = none) (hrest : Prunes pieces kept) :
      Prunes (piece :: pieces) kept

theorem Prunes.filterMap_directive? (hprunes : Prunes pieces kept) :
    kept.filterMap directive? = pieces.filterMap directive? := by
  induction hprunes with
  | nil => rfl
  | keep piece _ ih => rw [List.filterMap_cons, ih, List.filterMap_cons]
  | delete hpiece _ ih => rw [List.filterMap_cons_none hpiece, ih]

theorem Prunes.sublist (hprunes : Prunes pieces kept) : kept.Sublist pieces := by
  induction hprunes with
  | nil => exact List.Sublist.refl []
  | keep piece _ ih => exact ih.cons_cons piece
  | delete _ _ ih => exact ih.cons _

namespace Options

variable {options : Options} {env : String → Option String}

theorem setUp_eq (options : Options) (env : String → Option String) :
    options.setUp env =
      ⟨(options.pieces.filterMap directive?).foldl Filter.add (options.baseFilter env),
        options.pieces.filterMap warning?⟩ := by
  rw [setUp, foldl_take, List.nil_append]

/-- The pieces that are left of a text make the same filter when they are joined again.
Without any piece the text is empty, and its one piece is blank. -/
theorem filter_of_prunes {text : String} (htext : options.targetFilter? = some text)
    (hprunes : Prunes (Text.split ',' text.toList) kept) :
    ({ options with targetFilter? := some (String.ofList (Text.join ',' kept)) }).filter env =
      options.filter env := by
  have hdirectives : (Text.split ',' (Text.join ',' kept)).filterMap directive? =
      kept.filterMap directive? := by
    by_cases hkept : kept = []
    · subst hkept
      rfl
    · rw [Text.split_join hkept]
      intro piece hpiece
      exact Text.not_mem_of_mem_split (hprunes.sublist.subset hpiece)
  rw [filter, filter, setUp_eq, setUp_eq]
  simp only [pieces, htext, String.toList_ofList, hdirectives, hprunes.filterMap_directive?]
  rfl

/-! ## The filter that is set up -/

/-- The filter that directives are added to: that of the environment if it gives one that
can be read, or else that of the level alone. -/
inductive BaseFilter (options : Options) (env : String → Option String) : Filter → Prop
  | environment {text : String} {base : Filter} (htext : env "RUST_LOG" = some text)
      (hbase : Filter.ofText? text = some base) : BaseFilter options env base
  | level (hnone : ∀ text, env "RUST_LOG" = some text → Filter.ofText? text = none) :
      BaseFilter options env (.ofDirectives [⟨none, none, none, ⟨some options.level⟩⟩])

theorem baseFilter_of_env {text : String} {base : Filter}
    (htext : env "RUST_LOG" = some text) (hbase : Filter.ofText? text = some base) :
    options.baseFilter env = base := by
  simp [baseFilter, filterVariable, htext, hbase]

theorem baseFilter_spec (options : Options) (env : String → Option String) :
    BaseFilter options env (options.baseFilter env) := by
  cases hfilter : env "RUST_LOG" >>= Filter.ofText? with
  | some base =>
      obtain ⟨text, htext, hbase⟩ := Option.bind_eq_some_iff.mp hfilter
      rw [baseFilter_of_env htext hbase]
      exact .environment htext hbase
  | none =>
      have hlevel : options.baseFilter env =
          .ofDirectives [⟨none, none, none, ⟨some options.level⟩⟩] := by
        simp only [baseFilter, filterVariable, hfilter]
        rfl
      rw [hlevel]
      refine .level fun text htext => ?_
      simpa [htext] using hfilter

/-- How the filter is set up.  It begins with that of the environment, or else that of the
level.  Of the pieces between the commas those that are directives are added to it from left
to right, and of each other one that is not blank one line warns, in order.  Pieces that are
no directives can be left out anywhere without a change, and so can the level be changed if
the environment gives a filter. -/
theorem filter_of_pieces (options : Options) (env : String → Option String) :
    let pieces := (options.targetFilter?.map fun text => Text.split ',' text.toList).getD []
    (∃ base, BaseFilter options env base ∧
      options.filter env = (pieces.filterMap directive?).foldl Filter.add base) ∧
    options.warnings = (options.setUp env).warnings ∧
    options.warnings.map Warning.message =
      (pieces.filterMap warning?).map (fun warning =>
        "Warning: Invalid log filter directive: " ++ warning.directive) ∧
    (∀ text kept, options.targetFilter? = some text →
      Prunes (Text.split ',' text.toList) kept →
        ({ options with
          targetFilter? := some (String.ofList (Text.join ',' kept)) }).filter env =
            options.filter env) ∧
    ∀ text base, env "RUST_LOG" = some text → Filter.ofText? text = some base →
      ∀ levelName, ({ options with levelName := levelName }).filter env =
        options.filter env := by
  intro pieces
  have hpieces : options.pieces = pieces := by
    rw [Options.pieces]
    cases htext : options.targetFilter? <;> simp [pieces, htext]
  have hwarnings : ∀ env, (options.setUp env).warnings = pieces.filterMap warning? := by
    intro env
    rw [setUp_eq, hpieces]
  refine ⟨⟨options.baseFilter env, baseFilter_spec options env, ?_⟩, ?_, ?_, ?_, ?_⟩
  · rw [filter, setUp_eq, hpieces]
  · rw [warnings, hwarnings, hwarnings]
  · rw [warnings, hwarnings]
    rfl
  · intro text kept htext hprunes
    exact filter_of_prunes htext hprunes
  · intro text base htext hbase levelName
    rw [filter, filter, setUp_eq, setUp_eq, baseFilter_of_env htext hbase,
      baseFilter_of_env htext hbase]
    rfl

/-- Blank and malformed pieces between directives, one of which replaces that of the
environment. -/
theorem filter_of_mixed_pieces :
    let options : Options := ⟨"info", .compact, some "_a=debug, ,[[bad, _b=warn ,[", false⟩
    let env := fun name => if name = "RUST_LOG" then some "_a=error" else none
    options.filter env = ⟨[⟨some "_b", [], ⟨some .warn⟩⟩, ⟨some "_a", [], ⟨some .debug⟩⟩], []⟩ ∧
      options.warnings.map Warning.message =
        ["Warning: Invalid log filter directive: [[bad",
          "Warning: Invalid log filter directive: ["] ∧
      ({ options with targetFilter? := some "_a=debug, _b=warn " }).filter env =
        options.filter env ∧
      ({ options with levelName := "trace" }).filter env = options.filter env := by
  intro options env
  obtain ⟨_, _, hwarnings, hdelete, hlevel⟩ := filter_of_pieces options env
  have hprunes : Prunes (Text.split ',' "_a=debug, ,[[bad, _b=warn ,[".toList)
      ["_a=debug".toList, " _b=warn ".toList] :=
    .keep _ (.delete (by decide) (.delete (by decide) (.keep _ (.delete (by decide) .nil))))
  have hbase : Filter.ofText? "_a=error" = some ⟨[⟨some "_a", [], ⟨some .error⟩⟩], []⟩ := by
    decide
  have hjoin : String.ofList (Text.join ',' ["_a=debug".toList, " _b=warn ".toList]) =
      "_a=debug, _b=warn " := by decide
  have hkept := hdelete _ _ rfl hprunes
  rw [hjoin] at hkept
  refine ⟨by decide, ?_, hkept, hlevel _ _ rfl hbase "trace"⟩
  rw [hwarnings]
  decide

end Options

end TypedContainers.Log
