import TypedContainers.Proofs.Text.Pieces
import TypedContainers.Proofs.Toml.Table

/-!
# Lines that are read back

A settings text of blank lines, comments and assignments of texts and truth values is read
as the table of its assignments, whatever the texts are made of, as long as nothing in them
has to be escaped.
-/

namespace TypedContainers.Toml

/-! ## Lines as they are written -/

/-- A character that stands between double quotes as it is: no quote, no backslash and no
control character but a tab. -/
def IsPlainChar (c : Char) : Prop :=
  c ≠ '"' ∧ c ≠ '\\' ∧ (c = '\t' ∨ 0x20 ≤ c.toNat ∧ c ≠ '\x7f')

instance : DecidablePred IsPlainChar :=
  fun _ => inferInstanceAs (Decidable (_ ∧ _))

/-- A text that stands between double quotes as it is. -/
def IsPlain (text : String) : Prop :=
  ∀ c ∈ text.toList, IsPlainChar c

theorem isControl_of_isPlainChar {c : Char} (hc : IsPlainChar c) : isControl c = false := by
  obtain ⟨_, _, rfl | ⟨hprintable, hdelete⟩⟩ := hc
  · rfl
  · simp [isControl, hdelete, Nat.not_lt.mpr hprintable]

theorem isPlain_of_all {text : String} (htext : text.toList.all (IsPlainChar ·) = true) :
    IsPlain text := by
  intro c hc
  simpa using List.all_eq_true.mp htext c hc

/-- A value that is written on the line of its name. -/
inductive LineValue
  | string (text : String)
  | bool (isSet : Bool)
deriving Repr, DecidableEq

namespace LineValue

/-- A value as it is written. -/
def text : LineValue → String
  | string text => "\"" ++ text ++ "\""
  | bool true => "true"
  | bool false => "false"

/-- The characters of a value. -/
def chars : LineValue → List Char
  | string text => '"' :: (text.toList ++ ['"'])
  | bool true => ['t', 'r', 'u', 'e']
  | bool false => ['f', 'a', 'l', 's', 'e']

theorem toList_text (value : LineValue) : value.text.toList = value.chars := by
  cases value with
  | string written => simp [text, chars]
  | bool isSet => cases isSet <;> rfl

/-- The value that is read. -/
def value : LineValue → Value
  | string text => .string text
  | bool isSet => .bool isSet

/-- Whether a value can be written without escapes. -/
def Writable : LineValue → Prop
  | string text => IsPlain text
  | bool _ => True

end LineValue

/-- A name that is written without quotes. -/
structure IsBareName (name : String) : Prop where
  nonempty : name ≠ ""
  keyChars : name.toList.all isKeyChar = true

/-- A line of a settings text. -/
inductive Line
  | blank
  | comment (text : String)
  | assignment (name : String) (value : LineValue)
deriving Repr, DecidableEq

namespace Line

/-- A line as it is written. -/
def text : Line → String
  | blank => ""
  | comment text => "#" ++ text
  | assignment name value => name ++ " = " ++ value.text

/-- The characters of a line. -/
def chars : Line → List Char
  | blank => []
  | comment text => '#' :: text.toList
  | assignment name value => name.toList ++ ' ' :: '=' :: ' ' :: value.chars

theorem toList_text (line : Line) : line.text.toList = line.chars := by
  cases line with
  | blank => rfl
  | comment text => exact String.toList_append
  | assignment name value => simp [text, chars, LineValue.toList_text]

/-- What a line sets. -/
def entry? : Line → Option (String × Value)
  | assignment name value => some (name, value.value)
  | _ => none

/-- Whether a line can be written: a comment has no control characters, tabs apart, and a
name needs no quotes. -/
def Writable : Line → Prop
  | blank => True
  | comment text => ∀ c ∈ text.toList, isControl c = false
  | assignment name value => IsBareName name ∧ value.Writable

theorem writable_comment {text : String} (htext : text.toList.all (!isControl ·) = true) :
    (comment text).Writable := by
  intro c hc
  simpa using List.all_eq_true.mp htext c hc

end Line

/-- What stands behind a line, and the text behind that: nothing at all, or a line break. -/
inductive Ends : List Char → List Char → Prop
  | last : Ends [] []
  | broken (rest : List Char) : Ends ('\n' :: rest) rest

variable {tail rest : List Char}

theorem Ends.length_le (hends : Ends tail rest) : rest.length ≤ tail.length := by
  cases hends with
  | last => exact Nat.le_refl _
  | broken => exact Nat.le_succ _

/-! ## Values -/

theorem readBasic_of_isPlain {text : List Char} (htext : ∀ c ∈ text, IsPlainChar c)
    (behind : List Char) : readBasic (text ++ '"' :: behind) = .ok (text, behind) := by
  induction text with
  | nil => rw [List.nil_append, readBasic, if_pos rfl]
  | cons c text ih =>
      rw [List.forall_mem_cons] at htext
      have hcontrol := isControl_of_isPlainChar htext.1
      obtain ⟨⟨hquote, hescape, _⟩, hrest⟩ := htext
      rw [List.cons_append, readBasic, if_neg hquote, if_neg hescape,
        if_neg (by simp [hcontrol]), ih hrest]
      rfl

theorem readString_of_ne {chars : List Char} (hne : ∀ behind, chars ≠ '"' :: '"' :: behind) :
    readString ('"' :: chars) = readBasic chars := by
  unfold readString
  split <;> simp_all

/-- A plain text is read up to its closing quote.  It is not taken for the start of a text
on several lines, because no third quote can follow the two around nothing. -/
theorem readString_of_isPlain {text : String} (htext : IsPlain text)
    (hends : Ends tail rest) :
    readString ('"' :: (text.toList ++ '"' :: tail)) = .ok (text.toList, tail) := by
  rw [readString_of_ne, readBasic_of_isPlain htext]
  intro behind heq
  rw [IsPlain] at htext
  cases hchars : text.toList with
  | nil =>
      rw [hchars] at heq
      cases hends <;> simp at heq
  | cons c chars =>
      rw [hchars] at heq htext
      exact (htext c List.mem_cons_self).1 (List.cons.inj heq).1

/-- What runs up to a character that is not taken is taken as a whole. -/
theorem takeWhile_append_eq_left {p : Char → Bool} {front behind : List Char}
    (hfront : ∀ c ∈ front, p c = true) (hbehind : behind.takeWhile p = []) :
    (front ++ behind).takeWhile p = front := by
  rw [List.takeWhile_append_of_pos hfront, hbehind, List.append_nil]

theorem isScalarChar_of_ends (hends : Ends tail rest) :
    tail.takeWhile isScalarChar = [] := by
  cases hends with
  | last => rfl
  | broken => rfl

/-- A word made of letters is read up to the end of its line. -/
theorem spanScalar_word {word : List Char} (hword : word.all isScalarChar = true)
    (hends : Ends tail rest) : spanScalar (word ++ tail) = (word, tail) := by
  have hspan :=
    takeWhile_append_eq_left (List.all_eq_true.mp hword) (isScalarChar_of_ends hends)
  simp only [spanScalar, hspan, List.drop_left]
  cases hends with
  | last => rfl
  | broken => rfl

theorem readScalar_bool (isSet : Bool) (hends : Ends tail rest) :
    readScalar ((LineValue.bool isSet).chars ++ tail) = .ok (.bool isSet, tail) := by
  have hspan : spanScalar ((LineValue.bool isSet).chars ++ tail) =
      ((LineValue.bool isSet).chars, tail) :=
    spanScalar_word (by cases isSet <;> decide) hends
  rw [readScalar, hspan]
  cases isSet <;> rfl

theorem readValue_of_writable {value : LineValue} (hvalue : value.Writable)
    (hends : Ends tail rest) (fuel depth : Nat) :
    readValue (fuel + 1) depth (value.chars ++ tail) = .ok (value.value, tail) := by
  cases value with
  | string text =>
      have hchars : (LineValue.string text).chars ++ tail =
          '"' :: (text.toList ++ '"' :: tail) := by simp [LineValue.chars]
      rw [hchars, readValue, readString_of_isPlain hvalue hends]
      simp [Except.map, LineValue.value]
  | bool isSet =>
      have hscalar := readScalar_bool isSet hends
      cases isSet with
      | true => exact hscalar
      | false => exact hscalar

/-! ## Keys -/

variable {name : String}

theorem ne_of_isKeyChar {c d : Char} (hc : isKeyChar c = true) (hd : isKeyChar d = false) :
    c ≠ d := by
  rintro rfl
  exact Bool.noConfusion (hc.symm.trans hd)

/-- The first character of a name without quotes. -/
theorem IsBareName.exists_cons (hname : IsBareName name) :
    ∃ c chars, name.toList = c :: chars ∧ isKeyChar c = true := by
  obtain ⟨c, chars, hchars⟩ :=
    List.exists_cons_of_ne_nil (mt String.toList_eq_nil_iff.mp hname.nonempty)
  exact ⟨c, chars, hchars, List.all_eq_true.mp hname.keyChars c (by simp [hchars])⟩

theorem readName_of_isBareName (hname : IsBareName name) (behind : List Char)
    (hbehind : behind.takeWhile isKeyChar = []) :
    readName (name.toList ++ behind) = .ok (name, behind) := by
  have hspan := takeWhile_append_eq_left (List.all_eq_true.mp hname.keyChars) hbehind
  obtain ⟨c, chars, hchars, hc⟩ := hname.exists_cons
  unfold readName
  split
  · rename_i heq
    rw [hchars, List.cons_append, List.cons.injEq] at heq
    exact absurd heq.1 (ne_of_isKeyChar hc (by decide))
  · rename_i heq
    rw [hchars, List.cons_append, List.cons.injEq] at heq
    exact absurd heq.1 (ne_of_isKeyChar hc (by decide))
  · rw [hspan]
    split
    · rename_i heq
      simp [heq] at hchars
    · simp

theorem skipBlanks_of_isKeyChar {c : Char} (hc : isKeyChar c = true) (behind : List Char) :
    skipBlanks (c :: behind) = c :: behind := by
  have hspace := ne_of_isKeyChar hc (d := ' ') (by decide)
  have htab := ne_of_isKeyChar hc (d := '\t') (by decide)
  exact List.dropWhile_cons_of_neg (by simp [isBlank, hspace, htab])

theorem readKey_of_isBareName (hname : IsBareName name) (fuel : Nat) (behind : List Char) :
    readKey (fuel + 1) (name.toList ++ ' ' :: '=' :: behind) =
      .ok ([], name, '=' :: behind) := by
  have hread := readName_of_isBareName hname (' ' :: '=' :: behind) rfl
  obtain ⟨c, chars, hchars, hc⟩ := hname.exists_cons
  have hskip : skipBlanks (name.toList ++ ' ' :: '=' :: behind) =
      name.toList ++ ' ' :: '=' :: behind := by
    rw [hchars]
    exact skipBlanks_of_isKeyChar hc _
  rw [readKey, readNames, hskip, hread]
  rfl

/-! ## Lines -/

theorem endLine_of_ends (hends : Ends tail rest) : endLine tail = .ok rest := by
  cases hends with
  | last => rfl
  | broken => rfl

/-- A comment goes to the end of its line. -/
theorem skipComment_of_ends {text : List Char} (htext : ∀ c ∈ text, isControl c = false)
    (hends : Ends tail rest) : skipComment ('#' :: (text ++ tail)) = .ok tail := by
  have hbreak : ∀ c ∈ text, decide (c ≠ '\n') = true := by
    intro c hc
    have hcontrol := htext c hc
    rw [decide_eq_true_eq]
    rintro rfl
    exact absurd hcontrol (by decide)
  have htail : tail.takeWhile (· ≠ '\n') = [] := by
    cases hends <;> simp
  have hspan := takeWhile_append_eq_left hbreak htail
  have hreturn : text.getLast? ≠ some '\r' := by
    intro hlast
    exact absurd (htext _ (List.mem_of_getLast? hlast)) (by decide)
  have hclean : text.find? isControl = none :=
    List.find?_eq_none.mpr fun c hc => by simp [htext c hc]
  simp only [skipComment, hspan, List.drop_left]
  rw [if_neg (by simp [hreturn]), hclean]

theorem skipSpace_nil (fuel : Nat) : skipSpace fuel [] = .ok [] := by
  cases fuel <;> rfl

/-- Blank lines and comments are skipped. -/
theorem skipSpace_of_silent {line : Line} (hline : line.Writable) (hsilent : line.entry? = none)
    (hends : Ends tail rest) (fuel : Nat) :
    skipSpace (fuel + 1) (line.chars ++ tail) = skipSpace fuel rest := by
  have hcomment : skipComment (skipBlanks (line.chars ++ tail)) = .ok tail := by
    cases line with
    | blank => cases hends <;> rfl
    | comment text => exact skipComment_of_ends hline hends
    | assignment name value => simp [Line.entry?] at hsilent
  rw [skipSpace, hcomment]
  cases hends with
  | last => exact (skipSpace_nil fuel).symm
  | broken => rfl

theorem skipComment_of_ne {c : Char} (hc : c ≠ '#') (behind : List Char) :
    skipComment (c :: behind) = .ok (c :: behind) := by
  unfold skipComment
  split
  · rename_i heq
    exact absurd (List.cons.inj heq).1 hc
  · rfl

/-- What begins with a name is not skipped. -/
theorem skipSpace_of_isKeyChar {c : Char} (hc : isKeyChar c = true) (behind : List Char)
    (fuel : Nat) : skipSpace fuel (c :: behind) = .ok (c :: behind) := by
  cases fuel with
  | zero => rfl
  | succ fuel =>
      have hcomment := skipComment_of_ne (ne_of_isKeyChar hc (d := '#') (by decide)) behind
      rw [skipSpace, skipBlanks_of_isKeyChar hc, hcomment]
      dsimp only [bind, Except.bind]
      split
      · rename_i heq
        exact absurd (List.cons.inj heq).1 (ne_of_isKeyChar hc (by decide))
      · rename_i heq
        exact absurd (List.cons.inj heq).1 (ne_of_isKeyChar hc (by decide))
      · rfl

theorem skipBlanks_value (value : LineValue) (behind : List Char) :
    skipBlanks (' ' :: (value.chars ++ behind)) = value.chars ++ behind := by
  cases value with
  | string text => rfl
  | bool isSet => cases isSet <;> rfl

/-- An assignment gives its value to its name. -/
theorem readLine_of_writable {value : LineValue} {reader next : Reader}
    (hline : (Line.assignment name value).Writable) (hends : Ends tail rest)
    (hassign : reader.assign [] name value.value = .ok next) :
    reader.readLine ((Line.assignment name value).chars ++ tail) = .ok (next, rest) := by
  obtain ⟨hname, hvalue⟩ := hline
  have hchars : (Line.assignment name value).chars ++ tail =
      name.toList ++ ' ' :: '=' :: ' ' :: (value.chars ++ tail) := by
    simp [Line.chars]
  obtain ⟨c, chars, hcons, hc⟩ := hname.exists_cons
  have hbracket : c ≠ '[' := ne_of_isKeyChar hc (by decide)
  rw [hchars]
  unfold Reader.readLine
  split
  · simp_all
  · simp_all
  · simp only [readKey_of_isBareName hname]
    show (readValue _ maxDepth (skipBlanks (' ' :: (value.chars ++ tail)))).bind _ = _
    rw [skipBlanks_value, readValue_of_writable hvalue hends]
    show (reader.assign [] name value.value).bind _ = _
    rw [hassign]
    show (endLine tail).bind _ = _
    rw [endLine_of_ends hends]
    rfl

/-! ## Texts -/

namespace Entries

theorem get?_of_not_mem {entries : Entries} (hnew : name ∉ entries.names) :
    entries.get? name = none := by
  rw [get?, List.lookup_eq_none_iff]
  intro entry hentry
  have hne : name ≠ entry.1 := fun heq => hnew (heq ▸ List.mem_map_of_mem hentry)
  simpa using hne

end Entries

namespace Reader

/-- The state in which values were given to names and no table was opened. -/
def ofEntries (entries : List (String × Value)) : Reader :=
  ⟨entries.map fun (name, value) => (name, .value value), []⟩

theorem names_ofEntries (entries : List (String × Value)) :
    (ofEntries entries).root.names = entries.map Prod.fst := by
  simp [ofEntries, Entries.names, Function.comp_def]

theorem assign_ofEntries {entries : List (String × Value)} (value : Value)
    (hnew : name ∉ entries.map Prod.fst) :
    (ofEntries entries).assign [] name value = .ok (ofEntries (entries ++ [(name, value)])) := by
  rw [← names_ofEntries] at hnew
  have hdefine : Entries.define name value (ofEntries entries).root =
      .ok (ofEntries (entries ++ [(name, value)])).root := by
    rw [Entries.define, Entries.get?_of_not_mem hnew, Entries.set_of_not_mem _ hnew]
    simp [ofEntries]
  show (Entries.define name value (ofEntries entries).root).bind _ = _
  rw [hdefine]
  rfl

/-- What is done behind the space in front of a line. -/
def behindSpace (fuel : Nat) (reader : Reader) : List Char → Except ReadError Reader
  | [] => .ok reader
  | input => (reader.readLine input).bind fun (reader, rest) => readLines fuel reader rest

theorem readLines_succ (fuel : Nat) (reader : Reader) (input : List Char) :
    readLines (fuel + 1) reader input =
      (skipSpace (input.length + 1) input).bind (behindSpace fuel reader) := by
  rw [readLines]
  cases skipSpace (input.length + 1) input with
  | error e => rfl
  | ok behind => cases behind <;> rfl

theorem behindSpace_of_readLine {reader next : Reader} {input rest : List Char}
    (hne : input ≠ []) (hline : reader.readLine input = .ok (next, rest)) (fuel : Nat) :
    behindSpace fuel reader input = readLines fuel next rest := by
  obtain ⟨c, chars, rfl⟩ := List.exists_cons_of_ne_nil hne
  show (reader.readLine (c :: chars)).bind _ = _
  rw [hline]
  rfl

end Reader

/-- Lines with line breaks between them. -/
def charsOf (lines : List Line) : List Char :=
  Text.join '\n' (lines.map Line.chars)

theorem exists_ends (line : Line) (lines : List Line) :
    ∃ tail, charsOf (line :: lines) = line.chars ++ tail ∧ Ends tail (charsOf lines) := by
  cases lines with
  | nil => exact ⟨[], by simp [charsOf, Text.join], .last⟩
  | cons next lines => exact ⟨'\n' :: charsOf (next :: lines), rfl, .broken _⟩

theorem length_le_charsOf (lines : List Line) : lines.length ≤ (charsOf lines).length + 1 := by
  induction lines with
  | nil => exact Nat.zero_le _
  | cons line lines ih =>
      cases lines with
      | nil => simp
      | cons next lines =>
          have hlines : charsOf (line :: next :: lines) =
              line.chars ++ '\n' :: charsOf (next :: lines) := rfl
          simp only [hlines, List.length_append, List.length_cons] at ih ⊢
          omega

/-- Every assignment takes some of the text. -/
theorem length_entries_le_charsOf (lines : List Line) :
    (lines.filterMap Line.entry?).length ≤ (charsOf lines).length := by
  induction lines with
  | nil => exact Nat.zero_le _
  | cons line lines ih =>
      obtain ⟨tail, htext, hends⟩ := exists_ends line lines
      have htail := Nat.le_trans ih hends.length_le
      rw [htext, List.length_append]
      cases line with
      | blank => exact Nat.le_add_left_of_le htail
      | comment text => exact Nat.le_add_left_of_le htail
      | assignment name value =>
          have hentries : (Line.assignment name value :: lines).filterMap Line.entry? =
              (name, value.value) :: lines.filterMap Line.entry? := rfl
          rw [hentries, List.length_cons, Line.chars, List.length_append, List.length_cons]
          omega

/-- An assignment adds its entry behind those before it. -/
theorem behindSpace_assignment {value : LineValue} {entries : List (String × Value)}
    (hline : (Line.assignment name value).Writable) (hends : Ends tail rest)
    (hnew : name ∉ entries.map Prod.fst) (skips fuel : Nat) :
    (skipSpace skips ((Line.assignment name value).chars ++ tail)).bind
        (Reader.behindSpace fuel (.ofEntries entries)) =
      Reader.readLines fuel (.ofEntries (entries ++ [(name, value.value)])) rest := by
  have hread := readLine_of_writable hline hends (Reader.assign_ofEntries value.value hnew)
  obtain ⟨c, chars, hchars, hc⟩ := hline.1.exists_cons
  have hskip : skipSpace skips ((Line.assignment name value).chars ++ tail) =
      .ok ((Line.assignment name value).chars ++ tail) := by
    rw [Line.chars, hchars]
    exact skipSpace_of_isKeyChar hc _ skips
  rw [hskip]
  exact Reader.behindSpace_of_readLine (by simp [Line.chars]) hread fuel

/-- The lines are read one after the other, and each assignment adds its entry. -/
theorem readLines_charsOf {lines : List Line} {entries : List (String × Value)}
    (hlines : ∀ line ∈ lines, line.Writable)
    (hdistinct : ((entries ++ lines.filterMap Line.entry?).map Prod.fst).Nodup)
    {skips fuel : Nat} (hskips : lines.length ≤ skips)
    (hfuel : (lines.filterMap Line.entry?).length ≤ fuel) :
    (skipSpace skips (charsOf lines)).bind (Reader.behindSpace fuel (.ofEntries entries)) =
      .ok (.ofEntries (entries ++ lines.filterMap Line.entry?)) := by
  induction lines generalizing entries skips fuel with
  | nil =>
      rw [charsOf, List.map_nil, Text.join, skipSpace_nil]
      simp [Except.bind, Reader.behindSpace]
  | cons line lines ih =>
      rw [List.forall_mem_cons] at hlines
      rw [List.length_cons] at hskips
      obtain ⟨tail, htext, hends⟩ := exists_ends line lines
      rw [htext]
      cases hentry : line.entry? with
      | none =>
          obtain ⟨skips, rfl⟩ : ∃ n, skips = n + 1 := ⟨skips - 1, by omega⟩
          rw [List.filterMap_cons_none hentry] at hdistinct hfuel ⊢
          rw [skipSpace_of_silent hlines.1 hentry hends]
          exact ih hlines.2 hdistinct (Nat.le_of_succ_le_succ hskips) hfuel
      | some entry =>
          rw [List.filterMap_cons_some hentry] at hdistinct hfuel ⊢
          rw [List.length_cons] at hfuel
          obtain ⟨fuel, rfl⟩ : ∃ n, fuel = n + 1 := ⟨fuel - 1, by omega⟩
          cases line with
          | blank => simp [Line.entry?] at hentry
          | comment text => simp [Line.entry?] at hentry
          | assignment name value =>
              obtain rfl := Option.some.inj hentry
              have hnew : name ∉ entries.map Prod.fst := by
                rw [List.map_append, List.nodup_append] at hdistinct
                intro hmem
                exact hdistinct.2.2 name hmem name (by simp) rfl
              rw [List.append_cons] at hdistinct
              have hrest := ih hlines.2 hdistinct (length_le_charsOf lines)
                (Nat.le_of_succ_le_succ hfuel)
              rw [behindSpace_assignment hlines.1 hends hnew, Reader.readLines_succ, hrest,
                ← List.append_cons]

/-- No line begins with a byte order mark. -/
theorem head?_charsOf_ne {lines : List Line} (hlines : ∀ line ∈ lines, line.Writable) :
    (charsOf lines).head? ≠ some '\ufeff' := by
  cases lines with
  | nil => simp [charsOf, Text.join]
  | cons line lines =>
      obtain ⟨tail, htext, hends⟩ := exists_ends line lines
      rw [htext]
      cases line with
      | blank =>
          generalize charsOf lines = rest at hends
          cases hends <;> simp [Line.chars]
      | comment text => simp [Line.chars]
      | assignment name value =>
          obtain ⟨hname, _⟩ := hlines _ List.mem_cons_self
          obtain ⟨c, chars, hchars, hc⟩ := hname.exists_cons
          have hmark : c ≠ '\ufeff' := ne_of_isKeyChar hc (by decide)
          simpa [Line.chars, hchars] using hmark

theorem entriesToValues_ofEntries (entries : List (String × Value)) :
    Node.entriesToValues (Reader.ofEntries entries).root = entries := by
  induction entries with
  | nil => simp [Reader.ofEntries, Node.entriesToValues]
  | cons entry rest ih =>
      obtain ⟨name, value⟩ := entry
      have hcons : (Reader.ofEntries ((name, value) :: rest)).root =
          (name, .value value) :: (Reader.ofEntries rest).root := rfl
      rw [hcons, Node.entriesToValues, ih, Node.toValue]

theorem toList_joinLines (lines : List Line) :
    (Text.joinLines (lines.map Line.text)).toList = charsOf lines := by
  have hchars : String.toList ∘ Line.text = Line.chars := funext Line.toList_text
  rw [Text.toList_joinLines, List.map_map, hchars, charsOf]

/-- Lines with names of their own are read as the table of their entries, in order. -/
theorem read_joinLines {lines : List Line} (hlines : ∀ line ∈ lines, line.Writable)
    (hdistinct : ((lines.filterMap Line.entry?).map Prod.fst).Nodup) :
    read (Text.joinLines (lines.map Line.text)) = .ok (lines.filterMap Line.entry?) := by
  have hread := @readLines_charsOf lines [] hlines hdistinct _ _ (length_le_charsOf lines)
    (length_entries_le_charsOf lines)
  rw [← Reader.readLines_succ, List.nil_append] at hread
  rw [read, toList_joinLines]
  split
  · rename_i hmark
    exact absurd (congrArg List.head? hmark) (head?_charsOf_ne hlines)
  · show (Reader.readLines _ (.ofEntries []) (charsOf lines)).bind _ = _
    rw [hread]
    exact congrArg Except.ok (entriesToValues_ofEntries _)

end TypedContainers.Toml
