import TypedContainers.Proofs.Text.Literal
import TypedContainers.Proofs.Text.Pieces
import TypedContainers.Record.Source

/-!
# Reading source text

A reader of generated source knows nothing of how it was written.  It works line
by line: it looks for a line that opens a block, takes the lines up to the one that
closes it, and looks for literals at the places where the language has them.
-/

namespace TypedContainers.Reading

/-- A line of a text. -/
abbrev Line := List Char

/-! ## Lines -/

theorem head?_ofList_append {chars : List Char} (last : String) (hchars : chars ≠ []) :
    (String.ofList chars ++ last).toList.head? = chars.head? := by
  rw [String.toList_append, String.toList_ofList, List.head?_append,
    Option.or_of_isSome (by simpa using hchars)]

theorem getLast?_append_ofList (first : String) {chars : List Char}
    (hchars : chars ≠ []) :
    (first ++ String.ofList chars).toList.getLast? = chars.getLast? := by
  rw [String.toList_append, String.toList_ofList, List.getLast?_append,
    Option.or_of_isSome (by simpa using hchars)]

theorem head?_ofList_ne {chars : List Char} {c : Char} (hhead : chars.head? ≠ some c) :
    (String.ofList chars).toList.head? ≠ some c := by
  rwa [String.toList_ofList]

theorem head?_ofList_append_ne {chars : List Char} {c : Char} (last : String)
    (hchars : chars ≠ []) (hhead : chars.head? ≠ some c) :
    (String.ofList chars ++ last).toList.head? ≠ some c := by
  rwa [head?_ofList_append last hchars]

theorem getLast?_ofList_ne {chars : List Char} {c : Char}
    (hlast : chars.getLast? ≠ some c) : (String.ofList chars).toList.getLast? ≠ some c := by
  rwa [String.toList_ofList]

theorem getLast?_append_ofList_ne {chars : List Char} {c : Char} (first : String)
    (hchars : chars ≠ []) (hlast : chars.getLast? ≠ some c) :
    (first ++ String.ofList chars).toList.getLast? ≠ some c := by
  rwa [getLast?_append_ofList first hchars]

/-- A line without the spaces before its first other character. -/
def unindent (line : Line) : Line :=
  line.dropWhile (· = ' ')

/-- What follows a start that a line has to have. -/
def after? : Line → Line → Option Line
  | [], line => some line
  | _ :: _, [] => none
  | c :: start, d :: line => if c = d then after? start line else none

/-- What precedes an end that a line has to have. -/
def before? (ending line : Line) : Option Line :=
  (after? ending.reverse line.reverse).map List.reverse

/-- What stands between a start and an end that a line has to have. -/
def between? (start ending : String) (line : Line) : Option Line :=
  (after? start.toList line).bind (before? ending.toList)

theorem after?_eq_some_iff {start line rest : Line} :
    after? start line = some rest ↔ line = start ++ rest := by
  induction start generalizing line with
  | nil => simp [after?, eq_comm]
  | cons c start ih =>
      cases line with
      | nil => simp [after?]
      | cons d line =>
          by_cases hc : c = d
          · simp [after?, hc, ih]
          · simp [after?, hc, Ne.symm hc]

theorem before?_eq_some_iff {ending line rest : Line} :
    before? ending line = some rest ↔ line = rest ++ ending := by
  simp only [before?, Option.map_eq_some_iff, after?_eq_some_iff]
  constructor
  · rintro ⟨reversed, hline, rfl⟩
    rw [← List.reverse_inj, hline]
    simp
  · rintro rfl
    exact ⟨rest.reverse, by simp, by simp⟩

theorem between?_eq_some_iff {start ending : String} {line rest : Line} :
    between? start ending line = some rest ↔
      line = start.toList ++ (rest ++ ending.toList) := by
  simp only [between?, Option.bind_eq_some_iff, after?_eq_some_iff, before?_eq_some_iff]
  constructor
  · rintro ⟨middle, hline, rfl⟩
    exact hline
  · rintro hline
    exact ⟨rest ++ ending.toList, hline, rfl⟩

/-- A line that ends in another character has nothing before that end. -/
theorem between?_eq_none_of_getLast? {start ending : String} {line : Line}
    (hending : ending.toList ≠ []) (hline : line.getLast? ≠ ending.toList.getLast?) :
    between? start ending line = none := by
  cases hbetween : between? start ending line with
  | none => rfl
  | some rest =>
      rw [between?_eq_some_iff] at hbetween
      exfalso
      apply hline
      rw [hbetween, ← List.append_assoc, List.getLast?_append,
        Option.or_of_isSome (by simpa using hending)]

theorem unindent_append {indent line : Line} (hindent : ∀ c ∈ indent, c = ' ')
    (hline : line.head? ≠ some ' ') : unindent (indent ++ line) = line := by
  rw [unindent, List.dropWhile_append_of_pos (by simpa using hindent)]
  cases line with
  | nil => rfl
  | cons c line =>
      have hc : c ≠ ' ' := by simpa using hline
      simp [hc]

/-- Taking away the indentation leaves the end of a line in place. -/
theorem getLast?_of_unindent {line : Line} {c : Char}
    (hlast : (unindent line).getLast? = some c) : line.getLast? = some c := by
  have hline : line.takeWhile (· = ' ') ++ unindent line = line :=
    List.takeWhile_append_dropWhile
  rw [← hline, List.getLast?_append, hlast]
  rfl

/-! ## Lists of items -/

/-- The items of a block: one to a line, with a comma after all but the last. -/
def items? : List Line → Option (List Line)
  | [] => some []
  | [line] => some [unindent line]
  | line :: rest => do
    let item ← before? [','] (unindent line)
    let items ← items? rest
    return item :: items

/-- Items written one to a line are read back. -/
theorem items?_itemLines {indent : String} {items : List String}
    (hindent : ∀ c ∈ indent.toList, c = ' ')
    (hitems : ∀ item ∈ items, ∃ c rest, item.toList = c :: rest ∧ c ≠ ' ') :
    items? ((Source.itemLines indent items).map String.toList) =
      some (items.map String.toList) := by
  have hunindent : ∀ item ∈ items, ∀ ending : Line,
      unindent (indent.toList ++ (item.toList ++ ending)) = item.toList ++ ending := by
    intro item hitem ending
    obtain ⟨c, rest, htext, hc⟩ := hitems item hitem
    apply unindent_append hindent
    simp [htext, hc]
  induction items with
  | nil => rfl
  | cons item rest ih =>
      have hitem := hunindent item List.mem_cons_self
      cases rest with
      | nil =>
          have hlast := hitem []
          simp only [List.append_nil] at hlast
          simp [Source.itemLines, items?, hlast]
      | cons next others =>
          have hrest := ih
            (fun other hother => hitems other (List.mem_cons_of_mem item hother))
            (fun other hother => hunindent other (List.mem_cons_of_mem item hother))
          have hcomma : before? [','] (unindent (indent ++ item ++ ",").toList) =
              some item.toList := by
            rw [before?_eq_some_iff]
            simpa using hitem [',']
          cases others with
          | nil =>
              simp only [Source.itemLines, List.map_cons, List.map_nil] at hrest ⊢
              rw [items?, hcomma, hrest]
              · rfl
              · simp
          | cons third more =>
              simp only [Source.itemLines, List.map_cons] at hrest ⊢
              rw [items?, hcomma, hrest]
              · rfl
              · simp

/-! ## Blocks -/

/-- The lines between the first one that opens a block and the next one that
closes it. -/
def block (opens closes : Line → Bool) (lines : List Line) : List Line :=
  ((lines.dropWhile fun line => !opens line).drop 1).takeWhile fun line => !closes line

theorem dropWhile_not_append {opens : Line → Bool} {before rest : List Line}
    {opening : Line} (hbefore : ∀ line ∈ before, opens line = false)
    (hopening : opens opening = true) :
    (before ++ opening :: rest).dropWhile (fun line => !opens line) =
      opening :: rest := by
  rw [List.dropWhile_append_of_pos (by simpa using hbefore)]
  simp [hopening]

theorem block_append {opens closes : Line → Bool} {before body : List Line}
    {opening closing : Line} (after : List Line) (hbefore : ∀ line ∈ before, opens line = false)
    (hopening : opens opening = true) (hbody : ∀ line ∈ body, closes line = false)
    (hclosing : closes closing = true) :
    block opens closes (before ++ opening :: (body ++ closing :: after)) = body := by
  rw [block, dropWhile_not_append hbefore hopening, List.drop_succ_cons, List.drop_zero,
    List.takeWhile_append_of_pos (by simpa using hbody)]
  simp [hclosing]

/-- The line of the function that builds a request for instances. -/
def instancesSignature : String :=
  "    pub fn instances_document() -> serde_json::Value \x7b"

/-- The line of the function that builds a request with a restriction. -/
def filterSignature : String :=
  "    pub fn filter_document(restriction: &str, limit: i32) -> serde_json::Value \x7b"

/-- Whether a line opens a list of fields. -/
def opensFields (line : Line) : Bool :=
  unindent line = "\"fields\": [".toList

/-- Whether a line closes a list. -/
def closesList (line : Line) : Bool :=
  (unindent line).head? = some ']'

/-- The lines of the list of fields in the function with a given signature. -/
def fieldBlock (signature : String) (lines : List Line) : List Line :=
  block opensFields closesList (lines.dropWhile fun line => !(line == signature.toList))

/-- Whether a line opens a record type. -/
def opensStruct (line : Line) : Bool :=
  (after? "pub struct ".toList line).isSome

/-- Whether a line closes a type. -/
def closesType (line : Line) : Bool :=
  line = ['}']

theorem closesType_eq_false {line : Line} (hline : line.head? ≠ some '}') :
    closesType line = false := by
  rw [closesType, decide_eq_false_iff_not]
  rintro rfl
  exact hline rfl

/-- What a line renames a declaration to, if it does that. -/
def renamed? (line : Line) : Option Line :=
  between? "#[serde(rename = " ")]" (unindent line)

/-- The attribute of a declaration renames it to its quoted wire name. -/
theorem renamed?_attribute (wire : String) :
    renamed? ("    #[serde(rename = " ++ Literal.quote wire ++ ")]").toList =
      some (Literal.quote wire).toList := by
  have hindent : unindent ("    #[serde(rename = " ++ Literal.quote wire ++ ")]").toList =
      "#[serde(rename = ".toList ++ ((Literal.quote wire).toList ++ ")]".toList) := by
    rw [String.append_assoc, String.toList_append, String.toList_append]
    rw [String.toList_ofList, String.toList_ofList]
    rfl
  rw [renamed?, hindent, between?_eq_some_iff]

theorem renamed?_eq_none {line : Line} (hline : line.getLast? ≠ some ']') :
    renamed? line = none := by
  apply between?_eq_none_of_getLast?
  · simp
  · intro hlast
    exact hline (getLast?_of_unindent hlast)

/-- What the members of the record type are renamed to, in order. -/
def memberRenames (lines : List Line) : List Line :=
  (block opensStruct closesType lines).filterMap renamed?

/-- What a line sets the constant for the key field to, if it does that. -/
def keyConstant? (line : Line) : Option Line :=
  between? "pub const KEY_FIELD: &'static str = " ";" (unindent line)

/-- What the constant for the key field is set to. -/
def keyField? (lines : List Line) : Option Line :=
  lines.findSome? keyConstant?

end TypedContainers.Reading
