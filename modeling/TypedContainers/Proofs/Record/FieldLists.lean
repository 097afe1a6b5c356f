import TypedContainers.Proofs.Record.Lines
import TypedContainers.Proofs.Record.Reading

/-!
# Lists of fields in the text of a record

Both request builders hold the fields as a list of literals.  Each list is found
behind the signature of its builder, because no line before has that form: such a
line opens a function, and everything that comes from a configuration is quoted or
stands in a line of another form.
-/

namespace TypedContainers.Reading

open Source

/-! ## Lines that open a function -/

/-- Whether a line has the form of the two signatures: a function of the type, with
a body. -/
def IsSignature (line : String) : Prop :=
  "    pub fn ".toList <+: line.toList ∧ line.toList.getLast? = some '{'

theorem isSignature_instancesSignature : IsSignature instancesSignature := by
  rw [IsSignature, instancesSignature, String.toList_ofList, String.toList_ofList]
  decide

theorem isSignature_filterSignature : IsSignature filterSignature := by
  rw [IsSignature, filterSignature, String.toList_ofList, String.toList_ofList]
  decide

theorem not_isSignature_ofList {chars : List Char}
    (hchars : ¬(['p', 'u', 'b', ' ', 'f', 'n', ' '] <+: chars.drop 4 ∧
      chars.getLast? = some '{')) : ¬IsSignature (String.ofList chars) := by
  rw [IsSignature, String.toList_ofList, String.toList_ofList]
  rintro ⟨⟨rest, hstart⟩, hlast⟩
  exact hchars ⟨⟨rest, by rw [← hstart]; rfl⟩, hlast⟩

theorem not_isSignature_append_ofList (first : String) {chars : List Char}
    (hchars : chars ≠ []) (hlast : chars.getLast? ≠ some '{') :
    ¬IsSignature (first ++ String.ofList chars) := by
  rintro ⟨_, hbrace⟩
  rw [getLast?_append_ofList first hchars] at hbrace
  exact hlast hbrace

theorem not_isSignature_ofList_append {chars : List Char} (last : String)
    (hchars : chars ≠ []) (hhead : chars.head? ≠ some ' ') :
    ¬IsSignature (String.ofList chars ++ last) := by
  rintro ⟨⟨rest, hstart⟩, _⟩
  have hspace : (String.ofList chars ++ last).toList.head? = some ' ' := by
    rw [← hstart, String.toList_ofList]
    rfl
  rw [head?_ofList_append last hchars] at hspace
  exact hhead hspace

theorem not_isSignature_preambleLines (model : RecordModel) :
    ∀ line ∈ preambleLines model, ¬IsSignature line := by
  intro line hline
  simp only [preambleLines, List.mem_cons, List.not_mem_nil, or_false] at hline
  rcases hline with rfl | rfl | rfl | rfl
  · exact not_isSignature_append_ofList _ (by decide) (by decide)
  · exact not_isSignature_ofList (by decide)
  · exact not_isSignature_ofList (by decide)
  · exact not_isSignature_ofList (by decide)

theorem not_isSignature_memberLines (member : Member) :
    ∀ line ∈ memberLines member, ¬IsSignature line := by
  intro line hline
  simp only [memberLines, List.mem_append, List.mem_cons, List.not_mem_nil,
    or_false] at hline
  rcases hline with hline | rfl | rfl
  · split at hline
    · rw [List.mem_singleton] at hline
      exact hline ▸ not_isSignature_ofList (by decide)
    · exact absurd hline List.not_mem_nil
  · exact not_isSignature_append_ofList _ (by decide) (by decide)
  · exact not_isSignature_append_ofList _ (by decide) (by decide)

theorem not_isSignature_structLines (model : RecordModel) :
    ∀ line ∈ structLines model, ¬IsSignature line := by
  intro line hline
  simp only [structLines, List.mem_append, List.mem_cons, List.mem_flatMap,
    List.not_mem_nil, or_false] at hline
  rcases hline with ((rfl | rfl | rfl) | ⟨member, _, hline⟩) | rfl
  · exact not_isSignature_ofList (by decide)
  · exact not_isSignature_ofList (by decide)
  · rw [String.append_assoc]
    exact not_isSignature_ofList_append _ (by decide) (by decide)
  · exact not_isSignature_memberLines member line hline
  · exact not_isSignature_ofList (by decide)

theorem not_isSignature_keyLines (model : RecordModel) :
    ∀ line ∈ keyLines model, ¬IsSignature line := by
  intro line hline
  simp only [keyLines, List.mem_cons, List.not_mem_nil, or_false] at hline
  rcases hline with rfl | rfl | rfl | rfl
  · rw [String.append_assoc]
    exact not_isSignature_ofList_append _ (by decide) (by decide)
  · exact not_isSignature_ofList (by decide)
  · exact not_isSignature_append_ofList _ (by decide) (by decide)
  · exact not_isSignature_ofList (by decide)

theorem not_isSignature_itemLines (indent : String) (texts : List String) :
    ∀ line ∈ itemLines indent (texts.map Literal.quote), ¬IsSignature line := by
  induction texts with
  | nil => simp [itemLines]
  | cons text rest ih =>
      have hlast : ¬IsSignature (indent ++ Literal.quote text) := by
        apply not_isSignature_append_ofList
        · exact List.cons_ne_nil _ _
        · rw [Literal.quoteChars, List.getLast?_cons, List.getLast?_append]
          simp
      cases rest with
      | nil => simpa [itemLines] using hlast
      | cons next others =>
          intro line hline
          rw [List.map_cons, itemLines] at hline
          · rcases List.mem_cons.mp hline with rfl | hline
            · exact not_isSignature_append_ofList _ (by decide) (by decide)
            · exact ih line hline
          · simp

/-- The lines before the request builders. -/
def beforeBuilders (model : RecordModel) : List String :=
  preambleLines model ++ structLines model ++ [""] ++ keyLines model

theorem not_isSignature_beforeBuilders (model : RecordModel) :
    ∀ line ∈ beforeBuilders model, ¬IsSignature line := by
  intro line hline
  simp only [beforeBuilders, List.mem_append, List.mem_singleton] at hline
  rcases hline with ((hline | hline) | rfl) | hline
  · exact not_isSignature_preambleLines model line hline
  · exact not_isSignature_structLines model line hline
  · exact not_isSignature_ofList (by decide)
  · exact not_isSignature_keyLines model line hline

/-! ## The lists of fields -/

theorem opensFields_ofList {chars : List Char} {opens : Bool}
    (hchars : decide (unindent chars = ['"', 'f', 'i', 'e', 'l', 'd', 's', '"', ':', ' ', '[']) =
      opens) : opensFields (String.ofList chars).toList = opens := by
  rw [opensFields, String.toList_ofList, String.toList_ofList]
  exact hchars

theorem closesList_ofList {chars : List Char} {closes : Bool}
    (hchars : decide ((unindent chars).head? = some ']') = closes) :
    closesList (String.ofList chars).toList = closes := by
  rw [closesList, String.toList_ofList]
  exact hchars

theorem closesList_itemLines {indent : String} (hindent : ∀ c ∈ indent.toList, c = ' ')
    (texts : List String) :
    ∀ line ∈ (itemLines indent (texts.map Literal.quote)).map String.toList,
      closesList line = false := by
  have hitem : ∀ text : String, ∀ ending : Line,
      closesList (indent.toList ++ ((Literal.quote text).toList ++ ending)) = false := by
    intro text ending
    rw [closesList, unindent_append hindent]
    · simp [Literal.toList_quote]
    · simp [Literal.toList_quote]
  induction texts with
  | nil => simp [itemLines]
  | cons text rest ih =>
      have hlast := hitem text []
      rw [List.append_nil] at hlast
      cases rest with
      | nil => simpa [itemLines] using hlast
      | cons next others =>
          intro line hline
          rw [List.map_cons, itemLines, List.map_cons] at hline
          · rcases List.mem_cons.mp hline with rfl | hline
            · simpa using hitem text [',']
            · exact ih line hline
          · simp

/-- The list of fields of a function is found behind its signature, which no line
before may repeat. -/
theorem fieldBlock_append {signature opening closing : String}
    {before between body : List String} (after : List String) (last : List Line)
    (hbefore : signature ∉ before)
    (hbetween : ∀ line ∈ signature :: between, opensFields line.toList = false)
    (hopening : opensFields opening.toList = true)
    (hbody : ∀ line ∈ body.map String.toList, closesList line = false)
    (hclosing : closesList closing.toList = true) :
    fieldBlock signature
      ((before ++ signature :: (between ++ opening :: (body ++ closing :: after))).map
        String.toList ++ last) = body.map String.toList := by
  have hfound : ∀ line ∈ before.map String.toList, (line == signature.toList) = false := by
    intro line hline
    obtain ⟨text, htext, rfl⟩ := List.mem_map.mp hline
    rw [beq_eq_false_iff_ne]
    intro heq
    exact hbefore (String.toList_inj.mp heq ▸ htext)
  have hopens : ∀ line ∈ (signature :: between).map String.toList,
      opensFields line = false := by
    intro line hline
    obtain ⟨text, htext, rfl⟩ := List.mem_map.mp hline
    exact hbetween text htext
  have hblock := block_append (after.map String.toList ++ last) hopens hopening hbody
    hclosing
  rw [fieldBlock, List.map_append, List.map_cons, List.append_assoc, List.cons_append,
    dropWhile_not_append hfound (beq_self_eq_true _)]
  simpa using hblock

theorem fieldBlock_instancesSignature (model : RecordModel) (last : List Line) :
    fieldBlock instancesSignature ((recordLines model).map String.toList ++ last) =
      (itemLines "                        "
        (model.documentFields.map Literal.quote)).map String.toList := by
  have hbefore : instancesSignature ∉ beforeBuilders model ++
      ["    /// Request body for the container's `instances` endpoint."] := by
    intro hline
    rcases List.mem_append.mp hline with hline | hline
    · exact not_isSignature_beforeBuilders model _ hline isSignature_instancesSignature
    · simp [instancesSignature] at hline
  have hbetween : ∀ line ∈ instancesSignature ::
      ["        serde_json::json!(\x7b", "            \"panes\": \x7b",
        "                \"card\": \x7b"], opensFields line.toList = false := by
    simp only [List.forall_mem_cons, List.not_mem_nil, false_imp_iff, implies_true, and_true]
    and_intros
    all_goals exact opensFields_ofList (by decide)
  have hopening : opensFields "                    \"fields\": [".toList = true :=
    opensFields_ofList (by decide)
  have hclosing : closesList "                    ]".toList = true :=
    closesList_ofList (by decide)
  have hbody := closesList_itemLines
    (by simp : ∀ c ∈ "                        ".toList, c = ' ') model.documentFields
  have hblock := fieldBlock_append
    (["                \x7d", "            \x7d", "        \x7d)", "    \x7d", ""] ++
      filterLines (model.documentFields.map Literal.quote) ++ ["\x7d"] ++
      model.enums.flatMap enumLines) last hbefore hbetween hopening hbody hclosing
  rw [← hblock]
  simp only [recordLines, implLines, instancesLines, beforeBuilders, instancesSignature,
    List.append_assoc, List.cons_append, List.nil_append]

theorem filterSignature_not_mem_instancesLines (texts : List String) :
    filterSignature ∉ instancesLines (texts.map Literal.quote) := by
  intro hline
  rw [instancesLines, List.mem_append, List.mem_append] at hline
  rcases hline with (hline | hline) | hline
  · simp [filterSignature] at hline
  · exact not_isSignature_itemLines _ texts _ hline isSignature_filterSignature
  · simp [filterSignature] at hline

theorem fieldBlock_filterSignature (model : RecordModel) (last : List Line) :
    fieldBlock filterSignature ((recordLines model).map String.toList ++ last) =
      (itemLines "                "
        (model.documentFields.map Literal.quote)).map String.toList := by
  have hbefore : filterSignature ∉ beforeBuilders model ++
      instancesLines (model.documentFields.map Literal.quote) ++
      ["", "    /// Request body for the container's `filter` endpoint.", "    ///",
        "    /// `restriction` and `limit` are sent as given."] := by
    intro hline
    rw [List.mem_append, List.mem_append] at hline
    rcases hline with (hline | hline) | hline
    · exact not_isSignature_beforeBuilders model _ hline isSignature_filterSignature
    · exact filterSignature_not_mem_instancesLines _ hline
    · simp [filterSignature] at hline
  have hbetween : ∀ line ∈ filterSignature ::
      ["        serde_json::json!(\x7b", "            \"restriction\": restriction,"],
      opensFields line.toList = false := by
    simp only [List.forall_mem_cons, List.not_mem_nil, false_imp_iff, implies_true, and_true]
    and_intros
    all_goals exact opensFields_ofList (by decide)
  have hopening : opensFields "            \"fields\": [".toList = true :=
    opensFields_ofList (by decide)
  have hclosing : closesList "            ],".toList = true :=
    closesList_ofList (by decide)
  have hbody := closesList_itemLines
    (by simp : ∀ c ∈ "                ".toList, c = ' ') model.documentFields
  have hblock := fieldBlock_append
    (["            \"limit\": limit", "        \x7d)", "    \x7d", "\x7d"] ++
      model.enums.flatMap enumLines) last hbefore hbetween hopening hbody hclosing
  rw [← hblock]
  simp only [recordLines, implLines, filterLines, beforeBuilders, filterSignature,
    List.append_assoc, List.cons_append, List.nil_append]

end TypedContainers.Reading
